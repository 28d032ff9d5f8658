import TelconetSentinel.Library.AllowedFailures
import TelconetSentinel.MeasurementLog
import TelconetSentinel.PacketLoss

namespace TelconetSentinel

open AllowedFailures BacktrackingPatterns FallibleLists KeyedLists Measurement PythonText

def Exn.IsValueError (e : Exn) : Prop := e.kind = .valueError

theorem failsOnly_valueError {α : Type} (message : String) :
    FailsOnly Exn.IsValueError (.error (.valueError message) : Result α) :=
  (failsOnly_error_iff _).mpr rfl

def ReturnsOrRejects {α : Type} (result : Result α) : Prop :=
  (∃ evidence, result = .ok evidence) ∨ ∃ message, result = .error (.valueError message)

theorem returnsOrRejects_iff {α : Type} (result : Result α) :
    ReturnsOrRejects result ↔ FailsOnly Exn.IsValueError result := by
  constructor
  · rintro (⟨evidence, rfl⟩ | ⟨message, rfl⟩)
    · exact failsOnly_ok evidence
    · exact failsOnly_valueError message
  · intro h
    cases result with
    | ok evidence => exact .inl ⟨evidence, rfl⟩
    | error e =>
      have hkind := h e rfl
      cases e with
      | valueError message => exact .inr ⟨message, rfl⟩
      | _ => cases hkind

section Lines

open LogScan

def newestFirst (log : String) : List (List Char) := (splitlines log.toList).reverse

def lastFields (start : String) (newest : List (List Char)) : Option LineFields :=
  newest.findSome? fun line => if startsWith line start then (lineFields line).toOption else none

def logField (start name log : String) : Option String :=
  (lastFields start (newestFirst log)).bind fun fields => fields.get name

def blockName (line : List Char) : Option String := (lineFields line).toOption.bind fun fields =>
    fields.get "name"

def inBlock (name : String) : List (List Char) → Bool
  | [] => false
  | line :: earlier =>
    if startsWith line "STATE_BEGIN " then blockName line == some name
    else !startsWith line "STATE_END " && inBlock name earlier

def isMarker (line : List Char) : Bool :=
  ["TELCONET_MEASUREMENT ", "ENV ", "STATE_BEGIN ", "STATE_END ", "EVENT "].any (startsWith line)

/-- Since the state began last, a line of its block tells a metric. -/
def tellsMetric (name : String) : List (List Char) → Bool
  | [] => false
  | line :: earlier =>
    !(startsWith line "STATE_BEGIN " && blockName line == some name) &&
      (tellsMetric name earlier ||
        (!isMarker line && (routeMetric.search line).isSome && inBlock name earlier))

theorem lastFields_cons_of_start {start : String} {line : List Char} (hline : startsWith line start = true)
    {fields : LineFields} (hfields : lineFields line = .ok fields) (newest : List (List Char)) :
    lastFields start (line :: newest) = some fields := by
  rw [lastFields, List.findSome?_cons, if_pos hline, hfields]
  rfl

theorem lastFields_cons_of_not_start {start : String} {line : List Char}
    (hline : startsWith line start = false) (newest : List (List Char)) :
    lastFields start (line :: newest) = lastFields start newest := by
  rw [lastFields, List.findSome?_cons, if_neg (Bool.eq_false_iff.mp hline)]
  rfl

theorem startsWith_other {line : List Char} {start other : String} (hline : startsWith line start = true)
    (hstart : ¬ start.toList <+: other.toList) (hother : ¬ other.toList <+: start.toList) :
    startsWith line other = false := by
  rw [Bool.eq_false_iff]
  intro h
  rcases List.prefix_or_prefix_of_prefix (List.isPrefixOf_iff_prefix.mp hline)
    (List.isPrefixOf_iff_prefix.mp h) with hprefix | hprefix
  · exact hstart hprefix
  · exact hother hprefix

end Lines

section Failures

variable {scan next : LogScan} {line : List Char} {name : String}

theorem toInteger_fails (text : List Char) : FailsOnly Exn.IsValueError (toInteger text) := by
  unfold toInteger
  split
  · exact failsOnly_ok _
  · exact failsOnly_valueError _

theorem lineFields_fails (line : List Char) : FailsOnly Exn.IsValueError (lineFields line) := by
  unfold lineFields
  split
  · exact failsOnly_valueError _
  · exact failsOnly_ok _

theorem pingReply_fails (lineIndex : ℕ) (found : Success) :
    FailsOnly Exn.IsValueError (PingReply.read lineIndex found) := by
  refine (toInteger_fails _).bind fun sequence _ => (toInteger_fails _).bind fun ttl _ => ?_
  refine FailsOnly.bind ?_ fun timestamp _ => failsOnly_ok _
  exact (toInteger_fails _).bind fun seconds _ => (toInteger_fails _).bind fun nanoseconds _ => failsOnly_ok _

theorem markEvent_fails (scan : LogScan) (lineIndex : ℕ) (fields : LineFields) :
    FailsOnly Exn.IsValueError (scan.markEvent lineIndex fields) := by
  unfold LogScan.markEvent
  split
  · split_ifs
    · exact failsOnly_ok scan
    · exact (toInteger_fails _).bind fun epochNs _ => failsOnly_ok _
  · exact failsOnly_ok scan

theorem observeReply_fails (line : List Char) (lineIndex : ℕ) (scan : LogScan) :
    FailsOnly Exn.IsValueError (scan.observeReply line lineIndex) := by
  unfold LogScan.observeReply
  split
  · exact (pingReply_fails lineIndex _).bind fun reply _ => failsOnly_ok _
  · exact failsOnly_ok scan

theorem observeSummary_fails (line : List Char) (scan : LogScan) :
    FailsOnly Exn.IsValueError (scan.observeSummary line) := by
  unfold LogScan.observeSummary
  split
  · refine (toInteger_fails _).bind fun sent _ => (toInteger_fails _).bind fun received _ => ?_
    split
    · exact failsOnly_ok _
    · exact failsOnly_valueError _
  · exact failsOnly_ok scan

theorem updateState_fails (h : name ∈ scan.states.keys) (update : StateBlock → StateBlock) :
    FailsOnly Exn.IsValueError (scan.updateState name update) := by
  obtain ⟨block, hblock⟩ := Option.isSome_iff_exists.mp ((Dict.mem_keys_iff name).mp h)
  rw [LogScan.updateState, hblock]
  exact failsOnly_ok _

theorem updateState_keys {update : StateBlock → StateBlock} (h : scan.updateState name update = .ok next) :
    next.states.keys = scan.states.keys := by
  obtain ⟨block, hblock, rfl⟩ := updateState_ok h
  have hknown : name ∈ scan.states.keys := (Dict.mem_keys_iff name).mpr (Option.isSome_of_eq_some hblock)
  exact Dict.keys_assign_present hknown

theorem observeMetric_fails (h : name ∈ scan.states.keys) (line : List Char) :
    FailsOnly Exn.IsValueError (scan.observeMetric name line) := by
  unfold LogScan.observeMetric
  split
  · exact (toInteger_fails _).bind fun metric _ => updateState_fails h _
  · exact failsOnly_ok scan

theorem observeMetric_keys (h : scan.observeMetric name line = .ok next) :
    next.states.keys = scan.states.keys := by
  unfold LogScan.observeMetric at h
  split at h
  · obtain ⟨metric, -, h⟩ := (bind_ok_iff _ _ _).mp h
    exact updateState_keys h
  · obtain rfl := Except.ok.inj h
    rfl

theorem observeHop_fails (h : name ∈ scan.states.keys) (line : List Char) :
    FailsOnly Exn.IsValueError (scan.observeHop name line) := by
  unfold LogScan.observeHop
  split
  · exact updateState_fails h _
  · exact failsOnly_ok scan

theorem observeHop_keys (h : scan.observeHop name line = .ok next) : next.states.keys = scan.states.keys := by
  unfold LogScan.observeHop at h
  split at h
  · exact updateState_keys h
  · obtain rfl := Except.ok.inj h
    rfl

def LogScan.ActiveKnown (scan : LogScan) : Prop := ∀ name, scan.activeState = some name →
    name ∈ scan.states.keys

theorem LogScan.activeKnown_of_none (h : scan.activeState = none) : scan.ActiveKnown := by
  intro name hname
  rw [h] at hname
  cases hname

theorem observeState_fails (hknown : scan.ActiveKnown) (line : List Char) :
    FailsOnly Exn.IsValueError (scan.observeState line) := by
  unfold LogScan.observeState
  split
  · rename_i name hname
    refine (observeMetric_fails (hknown name hname) line).bind fun measured hmeasured => ?_
    have hkeys : name ∈ measured.states.keys := (observeMetric_keys hmeasured).symm ▸ hknown name hname
    exact observeHop_fails hkeys line
  · exact failsOnly_ok scan

theorem observeState_keys (h : scan.observeState line = .ok next) : next.states.keys = scan.states.keys := by
  unfold LogScan.observeState at h
  split at h
  · obtain ⟨measured, hmeasured, h⟩ := (bind_ok_iff _ _ _).mp h
    exact (observeHop_keys h).trans (observeMetric_keys hmeasured)
  · obtain rfl := Except.ok.inj h
    rfl

theorem LogScan.ActiveKnown.observeState (hknown : scan.ActiveKnown) (h : scan.observeState line = .ok next) :
    next.ActiveKnown := by
  intro name hname
  rw [observeState_keys h]
  obtain ⟨states, rfl⟩ := observeState_frame h
  exact hknown name hname

theorem beginState_activeKnown (scan : LogScan) (name : Option String) :
    (scan.beginState name).ActiveKnown := by
  intro active hactive
  unfold LogScan.beginState at hactive ⊢
  split at hactive
  · rename_i name
    split_ifs at hactive with hempty
    rw [if_neg hempty]
    obtain rfl := Option.some.inj hactive
    exact (Dict.mem_keys_iff name).mpr (Option.isSome_of_eq_some (Dict.get_assign_self (name, _)))
  · cases hactive

theorem observed_activeKnown (hknown : scan.ActiveKnown) {lineIndex : ℕ} {replied summed : LogScan}
    (hreplied : scan.observeReply line lineIndex = .ok replied)
    (hsummed : replied.observeSummary line = .ok summed) :
    summed.ActiveKnown := by
  obtain rfl := observeReply_frame hreplied
  obtain ⟨summary, rfl⟩ := observeSummary_frame hsummed
  exact hknown

end Failures

section Blocks

open LogScan

variable {scan next : LogScan} {newest : List (List Char)} {line : List Char} {name : String}

theorem inBlock_begin (hbegin : startsWith line "STATE_BEGIN " = true) (newest : List (List Char)) :
    inBlock name (line :: newest) = (blockName line == some name) := by
  rw [inBlock, if_pos hbegin]

theorem inBlock_end (hbegin : startsWith line "STATE_BEGIN " = false)
    (hend : startsWith line "STATE_END " = true) (newest : List (List Char)) :
    inBlock name (line :: newest) = false := by
  rw [inBlock, hbegin, hend]
  rfl

theorem inBlock_other (hbegin : startsWith line "STATE_BEGIN " = false)
    (hend : startsWith line "STATE_END " = false) (newest : List (List Char)) :
    inBlock name (line :: newest) = inBlock name newest := by
  rw [inBlock, hbegin, hend]
  rfl

theorem tellsMetric_marker (hmarker : isMarker line = true) (newest : List (List Char)) :
    tellsMetric name (line :: newest) =
      (!(startsWith line "STATE_BEGIN " && blockName line == some name) && tellsMetric name newest) := by
  rw [tellsMetric, hmarker, Bool.not_true, Bool.false_and, Bool.false_and, Bool.or_false]

theorem tellsMetric_other (hbegin : startsWith line "STATE_BEGIN " = false) (hmarker : isMarker line = true)
    (newest : List (List Char)) : tellsMetric name (line :: newest) = tellsMetric name newest := by
  rw [tellsMetric_marker hmarker, hbegin, Bool.false_and, Bool.not_false, Bool.true_and]

theorem isMarker_of_startsWith {start : String} (hline : startsWith line start = true)
    (hstart : start ∈ ["TELCONET_MEASUREMENT ", "ENV ", "STATE_BEGIN ", "STATE_END ", "EVENT "]) :
    isMarker line = true :=
  List.any_eq_true.mpr ⟨start, hstart, hline⟩

theorem startsWith_of_not_marker (hmarker : isMarker line = false) {start : String}
    (hstart : start ∈ ["TELCONET_MEASUREMENT ", "ENV ", "STATE_BEGIN ", "STATE_END ", "EVENT "]) :
    startsWith line start = false := by
  rw [Bool.eq_false_iff]
  exact List.any_eq_false.mp hmarker start hstart

/-- `"ospf_metric" in states[name]` -/
def LogScan.metricKnown (scan : LogScan) (name : String) : Bool :=
  ((scan.states.get name).bind fun block => block.2.ospfMetric).isSome

theorem updateState_metricKnown {update : StateBlock → StateBlock}
    (h : scan.updateState name update = .ok next) (other : String) : next.metricKnown other =
      if other = name then ((scan.states.get name).bind fun block => (update block.2).ospfMetric).isSome
      else scan.metricKnown other := by
  obtain ⟨block, hblock, rfl⟩ := updateState_ok h
  by_cases hother : other = name
  · have hself : (scan.states.assign (name, update block.2)).get name = some (name, update block.2) :=
      Dict.get_assign_self _
    rw [if_pos hother, hother, metricKnown, hself, hblock]
    rfl
  · have hsame : (scan.states.assign (name, update block.2)).get other = scan.states.get other :=
      Dict.get_assign_ne hother
    rw [if_neg hother, metricKnown, metricKnown, hsame]

theorem observeMetric_metricKnown (h : scan.observeMetric name line = .ok next) (other : String) :
    next.metricKnown other = (scan.metricKnown other ||
      (decide (other = name) && (routeMetric.search line).isSome)) := by
  unfold LogScan.observeMetric at h
  split at h
  · rename_i found hfound
    obtain ⟨metric, -, h⟩ := (bind_ok_iff _ _ _).mp h
    obtain ⟨block, hblock, -⟩ := updateState_ok h
    rw [updateState_metricKnown h, hfound, hblock]
    by_cases hother : other = name
    · simp [hother]
    · simp [hother]
  · rename_i hnone
    obtain rfl := Except.ok.inj h
    rw [hnone, Option.isSome_none, Bool.and_false, Bool.or_false]

theorem observeHop_metricKnown (h : scan.observeHop name line = .ok next) (other : String) :
    next.metricKnown other = scan.metricKnown other := by
  unfold LogScan.observeHop at h
  split at h
  · rw [updateState_metricKnown h]
    split_ifs with hother
    · rw [hother]
      rfl
    · rfl
  · obtain rfl := Except.ok.inj h
    rfl

theorem observeState_metricKnown (h : scan.observeState line = .ok next) (other : String) :
    next.metricKnown other = (scan.metricKnown other ||
      (decide (scan.activeState = some other) && (routeMetric.search line).isSome)) := by
  unfold LogScan.observeState at h
  split at h
  · rename_i name hname
    obtain ⟨measured, hmeasured, h⟩ := (bind_ok_iff _ _ _).mp h
    rw [observeHop_metricKnown h, observeMetric_metricKnown hmeasured, hname]
    simp only [Option.some.injEq, eq_comm]
  · rename_i hnone
    obtain rfl := Except.ok.inj h
    simp [hnone]

/-- What a scan knows of the blocks is what the lines tell, read from the last one back. -/
structure BlocksRead (scan : LogScan) (newest : List (List Char)) : Prop where
  activeKnown : scan.ActiveKnown
  active_iff : ∀ name, name ≠ "" → (scan.activeState = some name ↔ inBlock name newest = true)
  metric_eq : ∀ name, name ≠ "" → scan.metricKnown name = tellsMetric name newest

theorem blocksRead_nil : BlocksRead {} [] where
  activeKnown := activeKnown_of_none rfl
  active_iff := fun name _ => by simp [inBlock]
  metric_eq := fun name _ => rfl

theorem BlocksRead.marker (hread : BlocksRead scan newest) {start : String}
    (hline : startsWith line start = true) (hstart : start ∈ ["TELCONET_MEASUREMENT ", "ENV ", "EVENT "])
    (hactive : next.activeState = scan.activeState) (hstates : next.states = scan.states) :
    BlocksRead next (line :: newest) := by
  have hapart : ∀ start ∈ ["TELCONET_MEASUREMENT ", "ENV ", "EVENT "],
      ∀ other ∈ ["STATE_BEGIN ", "STATE_END "],
      ¬ start.toList <+: other.toList ∧ ¬ other.toList <+: start.toList := by decide
  have hother : ∀ other ∈ ["STATE_BEGIN ", "STATE_END "], startsWith line other = false := fun other hmem =>
    startsWith_other hline (hapart start hstart other hmem).1 (hapart start hstart other hmem).2
  have hbegin : startsWith line "STATE_BEGIN " = false := hother _ (by simp)
  have hend : startsWith line "STATE_END " = false := hother _ (by simp)
  have hmarker : isMarker line = true := isMarker_of_startsWith hline (by
    simp only [List.mem_cons, List.not_mem_nil, or_false] at hstart ⊢
    tauto)
  refine ⟨?_, fun name hname => ?_, fun name hname => ?_⟩
  · intro name hname
    rw [hstates]
    exact hread.activeKnown name (hactive ▸ hname)
  · rw [hactive, inBlock_other hbegin hend, hread.active_iff name hname]
  · rw [tellsMetric_other hbegin hmarker, ← hread.metric_eq name hname, metricKnown, metricKnown, hstates]

theorem BlocksRead.stop (hread : BlocksRead scan newest) (hbegin : startsWith line "STATE_BEGIN " = false)
    (hend : startsWith line "STATE_END " = true) (hmarker : isMarker line = true) :
    BlocksRead { scan with activeState := none } (line :: newest) where
  activeKnown := activeKnown_of_none rfl
  active_iff name _ := by simp [inBlock_end hbegin hend]
  metric_eq name hname := by
    rw [tellsMetric_other hbegin hmarker, ← hread.metric_eq name hname]
    rfl

theorem beginState_active_iff (scan : LogScan) (given : Option String) (hname : name ≠ "") :
    (scan.beginState given).activeState = some name ↔ given = some name := by
  unfold LogScan.beginState
  split
  · rename_i other
    by_cases hempty : other = ""
    · rw [if_pos hempty, hempty]
      simp [Ne.symm hname]
    · rw [if_neg hempty]
  · simp

theorem beginState_metricKnown (scan : LogScan) (given : Option String) (hname : name ≠ "") :
    (scan.beginState given).metricKnown name = (!(given == some name) && scan.metricKnown name) := by
  unfold LogScan.beginState
  split
  · rename_i other
    by_cases hempty : other = ""
    · have hother : (some other == some name) = false := by simp [hempty, Ne.symm hname]
      rw [if_pos hempty, hother]
      rfl
    · rw [if_neg hempty]
      by_cases hother : other = name
      · have hself : (scan.states.assign (other, {})).get name = some (name, {}) :=
          hother ▸ Dict.get_assign_self _
        rw [metricKnown, hself, hother]
        simp
      · have hsame : (scan.states.assign (other, {})).get name = scan.states.get name :=
          Dict.get_assign_ne (Ne.symm hother)
        rw [metricKnown, hsame, metricKnown]
        simp [hother]
  · rfl

theorem BlocksRead.begin (hread : BlocksRead scan newest) (hbegin : startsWith line "STATE_BEGIN " = true)
    (hmarker : isMarker line = true) {fields : LineFields} (hfields : lineFields line = .ok fields) :
    BlocksRead (scan.beginState (fields.get "name")) (line :: newest) := by
  have hblock : blockName line = fields.get "name" := by
    rw [blockName, hfields]
    rfl
  refine ⟨beginState_activeKnown scan _, fun name hname => ?_, fun name hname => ?_⟩
  · rw [inBlock_begin hbegin, hblock, beginState_active_iff scan _ hname, beq_iff_eq]
  · rw [tellsMetric_marker hmarker, hbegin, hblock, beginState_metricKnown scan _ hname,
      hread.metric_eq name hname, Bool.true_and]

theorem BlocksRead.observe (hread : BlocksRead scan newest) (hmarker : isMarker line = false) {lineIndex : ℕ}
    {replied summed : LogScan} (hreplied : scan.observeReply line lineIndex = .ok replied)
    (hsummed : replied.observeSummary line = .ok summed) (h : summed.observeState line = .ok next) :
    BlocksRead next (line :: newest) := by
  have hbegin : startsWith line "STATE_BEGIN " = false := startsWith_of_not_marker hmarker (by simp)
  have hend : startsWith line "STATE_END " = false := startsWith_of_not_marker hmarker (by simp)
  obtain rfl := observeReply_frame hreplied
  obtain ⟨summary, rfl⟩ := observeSummary_frame hsummed
  refine ⟨(observed_activeKnown hread.activeKnown hreplied hsummed).observeState h, fun name hname => ?_,
    fun name hname => ?_⟩
  · rw [inBlock_other hbegin hend, ← hread.active_iff name hname]
    obtain ⟨states, rfl⟩ := observeState_frame h
    rfl
  · have hactive : decide (scan.activeState = some name) = inBlock name newest := by
      rw [Bool.eq_iff_iff, decide_eq_true_iff, hread.active_iff name hname]
    rw [observeState_metricKnown h, tellsMetric, hbegin, hmarker, Bool.false_and, Bool.not_false,
      Bool.true_and, Bool.true_and, ← hread.metric_eq name hname, ← hactive,
      Bool.and_comm (routeMetric.search line).isSome]
    rfl

end Blocks

section Scans

open LogScan

variable {newest : List (List Char)} {log : String}

theorem newestFirst_eq (log : String) :
    ((splitlines log.toList).zipIdx.reverse ++ []).map Prod.fst = newestFirst log := by
  rw [List.append_nil, List.map_reverse, List.zipIdx_map_fst, newestFirst]

structure LogScan.HasRead (scan : LogScan) (newest : List (List Char)) : Prop where
  activeKnown : scan.ActiveKnown
  header : scan.header = lastFields "TELCONET_DETECTION_MEASUREMENT " newest

theorem LogScan.step_fails {scan : LogScan} (hknown : scan.ActiveKnown) (entry : List Char × ℕ) :
    FailsOnly Exn.IsValueError (scan.step entry) := by
  obtain ⟨line, lineIndex⟩ := entry
  unfold LogScan.step
  dsimp only
  split_ifs
  · exact (lineFields_fails line).bind fun fields _ => failsOnly_ok _
  · exact (lineFields_fails line).bind fun fields _ => failsOnly_ok _
  · exact failsOnly_ok _
  · exact (lineFields_fails line).bind fun fields _ => markEvent_fails scan lineIndex fields
  · obtain ⟨up, hframe⟩ := observeBfdPeer_frame line scan
    have hobserved : (scan.observeBfdPeer line).ActiveKnown := hframe ▸ hknown
    refine (observeReply_fails line lineIndex _).bind fun replied hreplied => ?_
    refine (observeSummary_fails line replied).bind fun summed hsummed => ?_
    exact observeState_fails (observed_activeKnown hobserved hreplied hsummed) line

theorem LogScan.step_read {scan next : LogScan} {entry : List Char × ℕ} (hread : scan.HasRead newest)
    (h : scan.step entry = .ok next) : next.HasRead (entry.1 :: newest) := by
  obtain ⟨line, lineIndex⟩ := entry
  unfold LogScan.step at h
  dsimp only at h ⊢
  by_cases hheader : startsWith line "TELCONET_DETECTION_MEASUREMENT " = true
  · rw [if_pos hheader] at h
    obtain ⟨fields, hfields, h⟩ := (bind_ok_iff _ _ _).mp h
    obtain rfl := Except.ok.inj h
    exact ⟨hread.activeKnown, (lastFields_cons_of_start hheader hfields newest).symm⟩
  rw [if_neg hheader] at h
  have hlast := hread.header.trans (lastFields_cons_of_not_start (Bool.eq_false_iff.mpr hheader) newest).symm
  split_ifs at h with hbegin hend hevent
  · obtain ⟨fields, -, h⟩ := (bind_ok_iff _ _ _).mp h
    obtain rfl := Except.ok.inj h
    obtain ⟨active, states, hframe⟩ := beginState_frame scan (fields.get "name")
    exact ⟨beginState_activeKnown scan _, hframe ▸ hlast⟩
  · obtain rfl := Except.ok.inj h
    exact ⟨activeKnown_of_none rfl, hlast⟩
  · obtain ⟨fields, -, h⟩ := (bind_ok_iff _ _ _).mp h
    obtain ⟨events, rfl⟩ := markEvent_frame h
    exact ⟨hread.activeKnown, hlast⟩
  · obtain ⟨replied, hreplied, h⟩ := (bind_ok_iff _ _ _).mp h
    obtain ⟨summed, hsummed, h⟩ := (bind_ok_iff _ _ _).mp h
    obtain ⟨up, hframe⟩ := observeBfdPeer_frame line scan
    have hobserved : (scan.observeBfdPeer line).ActiveKnown := hframe ▸ hread.activeKnown
    refine ⟨(observed_activeKnown hobserved hreplied hsummed).observeState h, ?_⟩
    obtain ⟨states, rfl⟩ := observeState_frame h
    obtain ⟨summary, rfl⟩ := observeSummary_frame hsummed
    rw [observeReply_frame hreplied, hframe]
    exact hlast

theorem LogScan.hasRead_nil : LogScan.HasRead {} [] where
  activeKnown := activeKnown_of_none rfl
  header := rfl

theorem scanLog_fails (log : String) : FailsOnly Exn.IsValueError (scanLog log) := by
  refine FailsOnly.foldlM (I := fun scan => ∃ newest, scan.HasRead newest) ?_ ?_ _ ⟨[], hasRead_nil⟩
  · rintro scan entry ⟨newest, hread⟩
    exact step_fails hread.activeKnown entry
  · rintro scan entry next ⟨newest, hread⟩ h
    exact ⟨_, step_read hread h⟩

theorem scanLog_read {scan : LogScan} (h : scanLog log = .ok scan) : scan.HasRead (newestFirst log) := by
  rw [← newestFirst_eq]
  refine foldlM_history (I := fun scan seen => LogScan.HasRead scan (seen.map Prod.fst)) ?_ [] hasRead_nil h
  intro scan seen entry next hread hstep
  exact step_read hread hstep

namespace MeasurementScan

structure HasRead (scan : MeasurementScan) (newest : List (List Char)) : Prop where
  blocks : BlocksRead scan.toLogScan newest
  header : scan.header = lastFields "TELCONET_MEASUREMENT " newest
  environment : scan.environment = lastFields "ENV " newest

theorem step_fails {scan : MeasurementScan} (hknown : scan.ActiveKnown) (entry : List Char × ℕ) :
    FailsOnly Exn.IsValueError (scan.step entry) := by
  obtain ⟨line, lineIndex⟩ := entry
  unfold MeasurementScan.step
  dsimp only
  split_ifs
  · exact (lineFields_fails line).bind fun fields _ => failsOnly_ok _
  · exact (lineFields_fails line).bind fun fields _ => failsOnly_ok _
  · exact (lineFields_fails line).bind fun fields _ => failsOnly_ok _
  · exact failsOnly_ok _
  · refine (lineFields_fails line).bind fun fields _ => ?_
    exact (markEvent_fails _ lineIndex fields).bind fun next _ => failsOnly_ok _
  · refine (observeReply_fails line lineIndex _).bind fun replied hreplied => ?_
    refine (observeSummary_fails line replied).bind fun summed hsummed => ?_
    refine FailsOnly.bind ?_ fun next _ => failsOnly_ok _
    exact observeState_fails (observed_activeKnown hknown hreplied hsummed) line

theorem HasRead.of_blocks {scan next : MeasurementScan} {line : List Char} (hread : scan.HasRead newest)
    (hblocks : BlocksRead next.toLogScan (line :: newest)) (hheader : next.header = scan.header)
    (henvironment : next.environment = scan.environment)
    (hline : startsWith line "TELCONET_MEASUREMENT " = false) (hline' : startsWith line "ENV " = false) :
    next.HasRead (line :: newest) where
  blocks := hblocks
  header := by rw [hheader, hread.header, lastFields_cons_of_not_start hline]
  environment := by rw [henvironment, hread.environment, lastFields_cons_of_not_start hline']

theorem step_read {scan next : MeasurementScan} {entry : List Char × ℕ} (hread : scan.HasRead newest)
    (h : scan.step entry = .ok next) : next.HasRead (entry.1 :: newest) := by
  obtain ⟨line, lineIndex⟩ := entry
  unfold MeasurementScan.step at h
  dsimp only at h ⊢
  split_ifs at h with hheader henvironment hbegin hend hevent
  · obtain ⟨fields, hfields, h⟩ := (bind_ok_iff _ _ _).mp h
    obtain rfl := Except.ok.inj h
    have hother : startsWith line "ENV " = false := startsWith_other hheader (by decide) (by decide)
    refine ⟨hread.blocks.marker hheader (by simp) rfl rfl,
      (lastFields_cons_of_start hheader hfields newest).symm, ?_⟩
    exact hread.environment.trans (lastFields_cons_of_not_start hother newest).symm
  · obtain ⟨fields, hfields, h⟩ := (bind_ok_iff _ _ _).mp h
    obtain rfl := Except.ok.inj h
    refine ⟨hread.blocks.marker henvironment (by simp) rfl rfl, ?_,
      (lastFields_cons_of_start henvironment hfields newest).symm⟩
    exact hread.header.trans (lastFields_cons_of_not_start (Bool.eq_false_iff.mpr hheader) newest).symm
  all_goals
    replace hheader := Bool.eq_false_iff.mpr hheader
    replace henvironment := Bool.eq_false_iff.mpr henvironment
  · obtain ⟨fields, hfields, h⟩ := (bind_ok_iff _ _ _).mp h
    obtain rfl := Except.ok.inj h
    obtain ⟨active, states, hframe⟩ := beginState_frame scan.toLogScan (fields.get "name")
    refine hread.of_blocks ?_ (hframe ▸ rfl) rfl hheader henvironment
    exact hread.blocks.begin hbegin (isMarker_of_startsWith hbegin (by simp)) hfields
  · obtain rfl := Except.ok.inj h
    refine hread.of_blocks ?_ rfl rfl hheader henvironment
    exact hread.blocks.stop (Bool.eq_false_iff.mpr hbegin) hend (isMarker_of_startsWith hend (by simp))
  · obtain ⟨fields, -, h⟩ := (bind_ok_iff _ _ _).mp h
    obtain ⟨marked, hmarked, h⟩ := (bind_ok_iff _ _ _).mp h
    obtain rfl := Except.ok.inj h
    obtain ⟨events, rfl⟩ := markEvent_frame hmarked
    refine hread.of_blocks ?_ rfl rfl hheader henvironment
    exact hread.blocks.marker hevent (by simp) rfl rfl
  · obtain ⟨replied, hreplied, h⟩ := (bind_ok_iff _ _ _).mp h
    obtain ⟨summed, hsummed, h⟩ := (bind_ok_iff _ _ _).mp h
    obtain ⟨observed, hobserved, h⟩ := (bind_ok_iff _ _ _).mp h
    obtain rfl := Except.ok.inj h
    have hmarker : isMarker line = false := by
      simp [isMarker, hheader, henvironment, hbegin, hend, hevent]
    refine hread.of_blocks (hread.blocks.observe hmarker hreplied hsummed hobserved) ?_ rfl hheader
      henvironment
    obtain ⟨states, rfl⟩ := observeState_frame hobserved
    obtain ⟨summary, rfl⟩ := observeSummary_frame hsummed
    rw [observeReply_frame hreplied]

theorem hasRead_nil : HasRead {} [] where
  blocks := blocksRead_nil
  header := rfl
  environment := rfl

end MeasurementScan

theorem scanMeasurement_fails (log : String) : FailsOnly Exn.IsValueError (scanMeasurement log) := by
  refine FailsOnly.foldlM (I := fun scan => ∃ newest, MeasurementScan.HasRead scan newest) ?_ ?_ _
    ⟨[], MeasurementScan.hasRead_nil⟩
  · rintro scan entry ⟨newest, hread⟩
    exact MeasurementScan.step_fails hread.blocks.activeKnown entry
  · rintro scan entry next ⟨newest, hread⟩ h
    exact ⟨_, MeasurementScan.step_read hread h⟩

theorem scanMeasurement_read {scan : MeasurementScan} (h : scanMeasurement log = .ok scan) :
    scan.HasRead (newestFirst log) := by
  rw [← newestFirst_eq]
  refine foldlM_history (I := fun scan seen => MeasurementScan.HasRead scan (seen.map Prod.fst)) ?_ []
    MeasurementScan.hasRead_nil h
  intro scan seen entry next hread hstep
  exact MeasurementScan.step_read hread hstep

end Scans

theorem require_bind_iff {α : Type} (fields : LineFields) (name : String) (f : String → Result α) :
    FailsOnly Exn.IsValueError (fields.require name >>= f) ↔
      ∃ value, fields.get name = some value ∧ FailsOnly Exn.IsValueError (f value) := by
  refine failsOnly_required_bind_iff (e := .keyError name) (fun h => nomatch h) ?_ ?_ f
  · intro value h
    rw [LineFields.require, h]
  · intro h
    rw [LineFields.require, h]

theorem toInteger_bind_iff {α : Type} (text : List Char) (f : ℤ → Result α) :
    FailsOnly Exn.IsValueError (toInteger text >>= f) ↔
      ∀ n, integer text = some n → FailsOnly Exn.IsValueError (f n) := by
  rw [failsOnly_bind_iff_of_left (toInteger_fails text)]
  have hok : ∀ n, toInteger text = .ok n ↔ integer text = some n := by
    intro n
    unfold toInteger
    split <;> simp [*]
  simp only [hok]

section Detection

/-- The parser reaches the fields: it reads the lines, finds the parts and sees the path change. -/
def DetectionObserved (log : String) : Prop :=
  ∃ scan complete last changedReply, scanLog log = .ok scan ∧ scan.complete = .ok complete ∧
    complete.transition = .ok (last, changedReply) ∧ 0 ≤ changedReply.timestampNs - complete.start.epochNs ∧
    0 ≤ complete.lostUntilFailover last changedReply

def detectionField (name log : String) : Option String := logField "TELCONET_DETECTION_MEASUREMENT " name log

/-- A detection time that is no number is rejected before the later fields are read. -/
def DetectionFieldsPresent (log : String) : Prop :=
  DetectionObserved log →
    (detectionField "profile" log).isSome ∧ (detectionField "detector" log).isSome ∧
      ∃ configured, detectionField "configured_detection_ms" log = some configured ∧
        ((integer configured.toList).isSome →
          (detectionField "capture_started_at" log).isSome ∧
          (detectionField "configuration_sha256" log).isSome)

theorem LogScan.complete_fails (scan : LogScan) : FailsOnly Exn.IsValueError scan.complete := by
  unfold LogScan.complete
  split
  · exact failsOnly_ok _
  · exact failsOnly_valueError _

theorem LogScan.complete_header {scan : LogScan} {complete : CompleteLog} (h : scan.complete = .ok complete) :
    scan.header = some complete.header := by
  unfold LogScan.complete at h
  split at h
  · rename_i log hparts
    obtain rfl := Except.ok.inj h
    simp only [parts, Option.bind_eq_bind, Option.bind_eq_some_iff] at hparts
    obtain ⟨header, hheader, _, -, _, -, _, -, _, -, _, -, hparts⟩ := hparts
    split_ifs at hparts
    obtain rfl := Option.some.inj hparts
    exact hheader
  · cases h

theorem CompleteLog.transition_fails (log : CompleteLog) : FailsOnly Exn.IsValueError log.transition := by
  unfold CompleteLog.transition
  split
  · exact failsOnly_valueError _
  · exact failsOnly_valueError _
  · split
    · exact failsOnly_valueError _
    · exact failsOnly_ok _

theorem CompleteLog.report_fails_iff (log : CompleteLog) (last changedReply : PingReply) :
    FailsOnly Exn.IsValueError (log.report last changedReply) ↔
      (0 ≤ changedReply.timestampNs - log.start.epochNs → 0 ≤ log.lostUntilFailover last changedReply →
        (log.header.get "profile").isSome ∧ (log.header.get "detector").isSome ∧
          ∃ configured, log.header.get "configured_detection_ms" = some configured ∧
            ((integer configured.toList).isSome →
              (log.header.get "capture_started_at").isSome ∧
              (log.header.get "configuration_sha256").isSome)) := by
  unfold report
  split_ifs with hdelta hlost
  · exact iff_of_true (failsOnly_valueError _) fun h => absurd hdelta (not_lt.mpr h)
  · exact iff_of_true (failsOnly_valueError _) fun _ h => absurd hlost (not_lt.mpr h)
  · simp only [not_lt.mp hdelta, not_lt.mp hlost, true_imp_iff, require_bind_iff, toInteger_bind_iff,
      failsOnly_pure, and_true, exists_and_right, Option.isSome_iff_exists, forall_exists_index]

theorem detectionField_eq {log name : String} {scan : LogScan} {complete : CompleteLog}
    (hscan : scanLog log = .ok scan) (hcomplete : scan.complete = .ok complete) :
    detectionField name log = complete.header.get name := by
  rw [detectionField, logField, ← (scanLog_read hscan).header, LogScan.complete_header hcomplete]
  rfl

theorem parseDetectionLog_fails_iff (log : String) :
    FailsOnly Exn.IsValueError (parseDetectionLog log) ↔ DetectionFieldsPresent log := by
  unfold parseDetectionLog
  rw [failsOnly_bind_iff_of_left (scanLog_fails log)]
  constructor
  · rintro h ⟨scan, complete, last, changedReply, hscan, hcomplete, htransition, hdelta, hlost⟩
    have hreport := h scan hscan
    rw [failsOnly_bind_iff_of_left scan.complete_fails] at hreport
    have hreport := hreport complete hcomplete
    rw [failsOnly_bind_iff_of_left complete.transition_fails] at hreport
    have hreport := hreport (last, changedReply) htransition
    simp only [detectionField_eq hscan hcomplete]
    exact (CompleteLog.report_fails_iff complete last changedReply).mp hreport hdelta hlost
  · intro h scan hscan
    refine scan.complete_fails.bind fun complete hcomplete => complete.transition_fails.bind ?_
    rintro ⟨last, changedReply⟩ htransition
    refine (CompleteLog.report_fails_iff complete last changedReply).mpr fun hdelta hlost => ?_
    have hfields := h ⟨scan, complete, last, changedReply, hscan, hcomplete, htransition, hdelta, hlost⟩
    simpa only [detectionField_eq hscan hcomplete] using hfields

end Detection

section Measured

def MeasurementComplete (log : String) (complete : MeasuredLog) : Prop :=
  ∃ scan, scanMeasurement log = .ok scan ∧ scan.complete = .ok complete

def measurementField (name log : String) : Option String := logField "TELCONET_MEASUREMENT " name log

def environmentField (name log : String) : Option String := logField "ENV " name log

def FailoverWritable (complete : MeasuredLog) (transition : PathTransition complete) : Prop :=
  ∀ n ∈ [complete.down.epochNs, transition.baselineTtl, transition.changed.sequence,
    transition.changed.timestampNs], n.natAbs < 10 ^ maxStrDigits

/-- The interval is read before the path change, and the other fields after it. -/
def MeasurementFieldsPresent (log : String) : Prop :=
  ∀ complete, MeasurementComplete log complete →
    ∃ interval, measurementField "ping_interval_ms" log = some interval ∧
      ((integer interval.toList).isSome → ∀ transition, complete.transition = .ok transition →
        (measurementField "capture_started_at" log).isSome ∧
          (∀ name ∈ ["containerlab", "docker_engine", "frr", "host"], (environmentField name log).isSome) ∧
          (FailoverWritable complete transition → tellsMetric "recovery" (newestFirst log) = true))

theorem MeasurementScan.complete_fails (scan : MeasurementScan) :
    FailsOnly Exn.IsValueError scan.complete := by
  unfold MeasurementScan.complete
  split
  · exact failsOnly_ok _
  · exact failsOnly_valueError _

theorem MeasurementScan.complete_parts {scan : MeasurementScan} {complete : MeasuredLog}
    (h : scan.complete = .ok complete) : scan.header = some complete.header ∧
      scan.environment = some complete.environment ∧
      ∃ recovery, scan.states.get "recovery" = some recovery ∧ complete.recovery = recovery.2 := by
  unfold MeasurementScan.complete at h
  split at h
  · rename_i log hparts
    obtain rfl := Except.ok.inj h
    simp only [parts, Option.bind_eq_bind, Option.bind_eq_some_iff] at hparts
    obtain ⟨header, hheader, environment, henvironment, _, -, _, -, recovery, hrecovery, _, -, _, -, _, -,
      hparts⟩ :=
      hparts
    split_ifs at hparts
    obtain rfl := Option.some.inj hparts
    exact ⟨hheader, henvironment, recovery, hrecovery, rfl⟩
  · cases h

theorem MeasuredLog.transition_fails (log : MeasuredLog) : FailsOnly Exn.IsValueError log.transition := by
  unfold MeasuredLog.transition
  split
  · exact failsOnly_valueError _
  · exact failsOnly_valueError _
  · exact failsOnly_valueError _
  · split
    · split_ifs
      · exact failsOnly_valueError _
      · exact failsOnly_ok _
    · exact failsOnly_valueError _

theorem integerText_fails (n : ℤ) : FailsOnly Exn.IsValueError (integerText n) := by
  unfold integerText
  split_ifs
  · exact failsOnly_valueError _
  · exact failsOnly_ok _

theorem exists_integerText_iff (n : ℤ) : (∃ text, integerText n = .ok text) ↔
    n.natAbs < 10 ^ maxStrDigits := by
  unfold integerText
  split_ifs with h
  · exact iff_of_false (fun ⟨text, htext⟩ => nomatch htext) (not_lt.mpr h)
  · exact iff_of_true ⟨_, rfl⟩ (not_le.mp h)

theorem samplingEvidence_fails (marker change : String) (epochNs baselineTtl : ℤ) (reply : PingReply) :
    FailsOnly Exn.IsValueError (samplingEvidence marker change epochNs baselineTtl reply) := by
  refine (integerText_fails _).bind fun epoch _ => (integerText_fails _).bind fun ttl _ => ?_
  exact (integerText_fails _).bind fun sequence _ => (integerText_fails _).bind fun timestamp _ =>
    failsOnly_ok _

theorem exists_samplingEvidence_iff (marker change : String) (epochNs baselineTtl : ℤ) (reply : PingReply) :
    (∃ text, samplingEvidence marker change epochNs baselineTtl reply = .ok text) ↔
      ∀ n ∈ [epochNs, baselineTtl, reply.sequence, reply.timestampNs], n.natAbs < 10 ^ maxStrDigits := by
  simp only [← exists_integerText_iff, List.forall_mem_cons, List.not_mem_nil, false_imp_iff, implies_true,
    and_true]
  constructor
  · rintro ⟨text, h⟩
    obtain ⟨epoch, hepoch, h⟩ := (bind_ok_iff _ _ _).mp h
    obtain ⟨ttl, httl, h⟩ := (bind_ok_iff _ _ _).mp h
    obtain ⟨sequence, hsequence, h⟩ := (bind_ok_iff _ _ _).mp h
    obtain ⟨timestamp, htimestamp, -⟩ := (bind_ok_iff _ _ _).mp h
    exact ⟨⟨epoch, hepoch⟩, ⟨ttl, httl⟩, ⟨sequence, hsequence⟩, timestamp, htimestamp⟩
  · rintro ⟨⟨epoch, hepoch⟩, ⟨ttl, httl⟩, ⟨sequence, hsequence⟩, timestamp, htimestamp⟩
    rw [samplingEvidence, hepoch, ok_bind, httl, ok_bind, hsequence, ok_bind, htimestamp, ok_bind]
    exact ⟨_, rfl⟩

theorem requireMetric_bind_iff {α : Type} (block : StateBlock) (f : ℤ → Result α) :
    FailsOnly Exn.IsValueError (block.requireMetric >>= f) ↔
      ∃ metric, block.ospfMetric = some metric ∧ FailsOnly Exn.IsValueError (f metric) := by
  refine failsOnly_required_bind_iff (e := .keyError "ospf_metric") (fun h => nomatch h) ?_ ?_ f
  · intro metric h
    rw [StateBlock.requireMetric, h]
  · intro h
    rw [StateBlock.requireMetric, h]

theorem MeasuredLog.report_fails_iff (log : MeasuredLog) (intervalMs : ℤ) (transition : PathTransition log) :
    FailsOnly Exn.IsValueError (log.report intervalMs transition) ↔
      (log.header.get "capture_started_at").isSome ∧
        (∀ name ∈ ["containerlab", "docker_engine", "frr", "host"], (log.environment.get name).isSome) ∧
        (FailoverWritable log transition → log.recovery.ospfMetric.isSome) := by
  have hwritten : ∀ (marker change : String) (epochNs : ℤ) (reply : PingReply) {α : Type}
      (f : String → Result α), FailsOnly Exn.IsValueError
        (samplingEvidence marker change epochNs transition.baselineTtl reply >>= f) ↔
        ∀ text, samplingEvidence marker change epochNs transition.baselineTtl reply = .ok text →
          FailsOnly Exn.IsValueError (f text) :=
    fun marker change epochNs reply α f => failsOnly_bind_iff_of_left (samplingEvidence_fails _ _ _ _ _) f
  have hhash := Option.isSome_iff_exists.mp log.hash_known
  unfold report FailoverWritable
  rw [← exists_samplingEvidence_iff "link-down" "changed from"]
  simp only [require_bind_iff, requireMetric_bind_iff, hwritten, failsOnly_pure, implies_true, and_true,
    exists_and_right, hhash, true_and, Option.isSome_iff_exists, forall_exists_index, List.forall_mem_cons,
    List.not_mem_nil, false_imp_iff, and_assoc]

theorem MeasurementComplete.fields {log : String} {complete : MeasuredLog}
    (h : MeasurementComplete log complete) :
    (∀ name, measurementField name log = complete.header.get name) ∧
      (∀ name, environmentField name log = complete.environment.get name) ∧
      complete.recovery.ospfMetric.isSome = tellsMetric "recovery" (newestFirst log) := by
  obtain ⟨scan, hscan, hcomplete⟩ := h
  obtain ⟨hheader, henvironment, recovery, hrecovery, hblock⟩ := MeasurementScan.complete_parts hcomplete
  have hread := scanMeasurement_read hscan
  refine ⟨fun name => ?_, fun name => ?_, ?_⟩
  · rw [measurementField, logField, ← hread.header, hheader]
    rfl
  · rw [environmentField, logField, ← hread.environment, henvironment]
    rfl
  · rw [← hread.blocks.metric_eq "recovery" (by decide), LogScan.metricKnown, hrecovery, hblock]
    rfl

theorem parseMeasurementLog_fails_iff (log : String) :
    FailsOnly Exn.IsValueError (parseMeasurementLog log) ↔ MeasurementFieldsPresent log := by
  unfold parseMeasurementLog
  rw [failsOnly_bind_iff_of_left (scanMeasurement_fails log)]
  constructor
  · rintro h complete ⟨scan, hscan, hcomplete⟩
    obtain ⟨hheader, henvironment, hmetric⟩ := MeasurementComplete.fields ⟨scan, hscan, hcomplete⟩
    have hlog := h scan hscan
    rw [failsOnly_bind_iff_of_left scan.complete_fails] at hlog
    obtain ⟨interval, hinterval, hnumber⟩ := (require_bind_iff _ _ _).mp (hlog complete hcomplete)
    refine ⟨interval, (hheader _).trans hinterval, fun hinteger transition htransition => ?_⟩
    obtain ⟨intervalMs, hms⟩ := Option.isSome_iff_exists.mp hinteger
    have hreport := (toInteger_bind_iff _ _).mp hnumber intervalMs hms
    rw [failsOnly_bind_iff_of_left complete.transition_fails] at hreport
    have hfields := (complete.report_fails_iff intervalMs transition).mp (hreport transition htransition)
    simpa only [hheader, henvironment, hmetric] using hfields
  · intro h scan hscan
    refine scan.complete_fails.bind fun complete hcomplete => ?_
    obtain ⟨hheader, henvironment, hmetric⟩ := MeasurementComplete.fields ⟨scan, hscan, hcomplete⟩
    obtain ⟨interval, hinterval, hfields⟩ := h complete ⟨scan, hscan, hcomplete⟩
    refine (require_bind_iff _ _ _).mpr ⟨interval, (hheader _).symm.trans hinterval, ?_⟩
    refine (toInteger_bind_iff _ _).mpr fun intervalMs hms => ?_
    refine complete.transition_fails.bind fun transition htransition => ?_
    refine (complete.report_fails_iff intervalMs transition).mpr ?_
    simpa only [hheader, henvironment, hmetric] using hfields (Option.isSome_of_eq_some hms) transition
      htransition

end Measured

theorem logs_rejected_with_value_error_iff (log : String) :
    (ReturnsOrRejects (parseMeasurementLog log) ↔ MeasurementFieldsPresent log) ∧
      (ReturnsOrRejects (parseDetectionLog log) ↔ DetectionFieldsPresent log) :=
  ⟨(returnsOrRejects_iff _).trans (parseMeasurementLog_fails_iff log),
    (returnsOrRejects_iff _).trans (parseDetectionLog_fails_iff log)⟩

def measuredSample (header : String) : String := logOfLines [
  ["TELCONET_MEASUREMENT ", header],
  ["ENV containerlab=1 docker_engine=1 frr=1 host=a ", "configuration_sha256=abc"],
  ["STATE_BEGIN name=", "baseline"],
  ["STATE_BEGIN name=", "failover"],
  ["STATE_BEGIN name=", "recovery"],
  ["Known via \"ospf\" metric 30,"],
  ["STATE_END name=", "recovery"],
  replyLine "100.0" "1" "61",
  ["EVENT type=", "link_down", " epoch_ns=", "100100000000"],
  replyLine "101.0" "2" "60",
  ["EVENT type=", "link_up", " epoch_ns=", "102000000000"],
  replyLine "103.0" "3" "61",
  ["3 packets transmitted, 3 received, 0% packet loss"]]

example : (parseMeasurementLog (measuredSample "ping_interval_ms=100 capture_started_at=13:00")).map
    (fun evidence => (evidence.failover.pathChangeUpperBoundMs, evidence.recovery.pathReturnUpperBoundMs)) =
    .ok (900, 1000) := by
  rw [parseMeasurementLog, scanMeasurement, measuredSample, logOfLines, String.toList_ofList]
  decide +kernel

def undatedLog : String := measuredSample "ping_interval_ms=100"

def repeatedHeaderLog : String := sampleLog "ospf_only"
  [replyLine "100.2" "2" "61", replyLine "104.0" "5" "60",
    ["TELCONET_DETECTION_MEASUREMENT ", "profile=ospf_only"]]

theorem error_of_map {α β : Type} {f : α → β} {result : Result α} {e : Exn} (h : result.map f = .error e) :
    result = .error e := by
  cases result with
  | ok a => cases h
  | error other => exact congrArg Except.error (Except.error.inj h)

theorem undatedLog_read : (parseMeasurementLog undatedLog).map (fun _ => ()) =
    .error (.keyError "capture_started_at") := by
  rw [parseMeasurementLog, scanMeasurement, undatedLog, measuredSample, logOfLines, String.toList_ofList]
  decide +kernel

theorem repeatedHeaderLog_read : (parseDetectionLog repeatedHeaderLog).map (fun _ => ()) =
    .error (.keyError "detector") := by
  rw [parseDetectionLog, scanLog, repeatedHeaderLog, sampleLog, logOfLines, String.toList_ofList]
  decide +kernel

theorem keyError_not_rejected {α : Type} {result : Result α} {name : String}
    (h : result = .error (.keyError name)) :
    ¬ ReturnsOrRejects result := by
  rintro (⟨evidence, hok⟩ | ⟨message, herror⟩)
  · cases h.symm.trans hok
  · cases h.symm.trans herror

theorem absent_header_field_is_key_error :
    parseMeasurementLog undatedLog = .error (.keyError "capture_started_at") ∧
      parseDetectionLog repeatedHeaderLog = .error (.keyError "detector") ∧
      ¬ ReturnsOrRejects (parseMeasurementLog undatedLog) ∧
      ¬ ReturnsOrRejects (parseDetectionLog repeatedHeaderLog) := by
  have hundated := error_of_map undatedLog_read
  have hrepeated := error_of_map repeatedHeaderLog_read
  exact ⟨hundated, hrepeated, keyError_not_rejected hundated, keyError_not_rejected hrepeated⟩

end TelconetSentinel
