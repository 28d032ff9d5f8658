import TelconetSentinel.TelemetryCollector

namespace TelconetSentinel

open DelimitedText DocumentValues FallibleLists

theorem InterfaceTelemetry.init_state {name : String} {state : TelemetryState}
    {rxBytes txBytes rxDrops txDrops : ℕ} {item : InterfaceTelemetry}
    (h : InterfaceTelemetry.init name state rxBytes txBytes rxDrops txDrops = .ok item) :
    (item.name, item.state) = (name, state) := by
  unfold InterfaceTelemetry.init at h
  split_ifs at h
  obtain rfl := Except.ok.inj h
  rfl

theorem OspfNeighborTelemetry.init_state {neighbor interface : String} {state : TelemetryState}
    {item : OspfNeighborTelemetry} (h : OspfNeighborTelemetry.init neighbor interface state = .ok item) :
    (item.interface, item.state) = (interface, state) := by
  unfold OspfNeighborTelemetry.init at h
  split_ifs at h
  obtain rfl := Except.ok.inj h
  rfl

theorem BfdPeerTelemetry.init_state {peer interface : String} {configured : Bool} {state : TelemetryState}
    {item : BfdPeerTelemetry} (h : BfdPeerTelemetry.init peer interface configured state = .ok item) :
    (item.interface, item.state) = (interface, state) := by
  unfold BfdPeerTelemetry.init at h
  split_ifs at h
  obtain rfl := Except.ok.inj h
  rfl

namespace TelemetryCollector

/-- How a reply names its rows, and where a row keeps its state. -/
structure StateTable where
  IsRow : String → Value → Prop
  stateValue : Value → Value
  LacksState : Value → Prop
  upValue : String
  null_of_lacksState : ∀ row, LacksState row → stateValue row = .null
  upValue_mem : upValue ∈ ["up", "full"]

def interfaceTable (document : Value) : StateTable where
  IsRow name row := ((document.items.map mapping).reverse.find? fun entry =>
    (entry.getD "ifname" .null).hasText name) =
    some row
  stateValue row := row.getD "operstate" .null
  LacksState row := row.getD "operstate" .null = .null
  upValue := "up"
  null_of_lacksState _ h := h
  upValue_mem := List.mem_cons_self

def ospfRows (document : Value) : List Value :=
  (mapping ((mapping document).getD "neighbors" .null)).entries.flatMap fun entry =>
    (sequence entry.2).map mapping

def ospfInterface (row : Value) : Option String :=
  match (row.getD "ifaceName" .null).text with
  | none => none
  | some rawInterface => if rawInterface = "" then none else
    some (String.ofList (before ':' rawInterface.toList))

def ospfTable (document : Value) : StateTable where
  IsRow name row := row ∈ ospfRows document ∧ ospfInterface row = some name
  stateValue row := row.getD "converged" (row.getD "nbrState" .null)
  LacksState row := row.getD "converged" .null = .null ∧ row.getD "nbrState" .null = .null
  upValue := "full"
  null_of_lacksState := by
    rintro row ⟨hconverged, hstate⟩
    rw [hstate]
    exact hconverged
  upValue_mem := List.mem_cons_of_mem _ List.mem_cons_self

def bfdInterface (row : Value) : Option String :=
  match (row.getD "interface" .null).text with
  | none => none
  | some interface => if has row "peer" || has row "status" then some interface else none

def bfdTable (document : Value) : StateTable where
  IsRow name row := row ∈ walkMappings document ∧ bfdInterface row = some name
  stateValue row := row.getD "status" .null
  LacksState row := row.getD "status" .null = .null
  upValue := "up"
  null_of_lacksState _ h := h
  upValue_mem := List.mem_cons_self

section

variable (normalized : Value → Collected String)

namespace StateTable

/-- A row without a state is reported as unknown, and up is reported only for a row that says so. -/
def Truthful (table : StateTable) (reports : List (String × TelemetryState)) : Prop :=
  ∀ report ∈ reports,
    (∀ row, table.IsRow report.1 row → table.LacksState row → report.2 = .unknown) ∧
    (report.2 = .up → ∃ row text, table.IsRow report.1 row ∧ normalized (table.stateValue row) = .ok text ∧
      table.upValue.toList <+: text.toList)

def StatesPresent (table : StateTable) (names : List String) : Prop :=
  ∀ name ∈ names, ∀ row, table.IsRow name row → ¬ table.LacksState row

structure Observed (table : StateTable) (names : List String) (reports : List (String × TelemetryState)) :
    Prop where
  names_eq : reports.map Prod.fst = names
  state_eq : ∀ report ∈ reports, ∀ row, table.IsRow report.1 row →
    state normalized (table.stateValue row) table.upValue = .ok report.2
  row_of_up : ∀ report ∈ reports, report.2 = .up → ∃ row, table.IsRow report.1 row

end StateTable

variable {normalized}

theorem state_null {upValue : String} (hnull : normalized .null = .ok "none")
    (hup : upValue ∈ ["up", "full"]) :
    state normalized .null upValue = .ok .down := by
  simp only [List.mem_cons, List.not_mem_nil, or_false] at hup
  obtain rfl | rfl := hup <;> (simp only [state, hnull]; decide)

theorem state_up {value : Value} {upValue : String} (h : state normalized value upValue = .ok .up) :
    ∃ text, normalized value = .ok text ∧ upValue.toList <+: text.toList := by
  obtain ⟨text, htext, h⟩ := (bind_ok_iff _ _ _).mp h
  refine ⟨text, htext, ?_⟩
  have hstate := Except.ok.inj h
  split_ifs at hstate with hprefix
  exact List.isPrefixOf_iff_prefix.mp hprefix

/-- The text of a missing value is not empty, so that the row counts as down. -/
theorem StateTable.Observed.truthful_iff {table : StateTable} {names : List String}
    {reports : List (String × TelemetryState)} (hnull : normalized .null = .ok "none")
    (h : table.Observed normalized names reports) : table.Truthful normalized reports ↔
      table.StatesPresent names := by
  constructor
  · intro htruthful name hname row hrow hlacks
    rw [← h.names_eq] at hname
    obtain ⟨report, hreport, rfl⟩ := List.mem_map.mp hname
    have hdown := h.state_eq report hreport row hrow
    rw [table.null_of_lacksState row hlacks, state_null hnull table.upValue_mem,
      (htruthful report hreport).1 row hrow hlacks] at hdown
    cases hdown
  · intro hpresent report hreport
    have hname : report.1 ∈ names := h.names_eq ▸ List.mem_map_of_mem hreport
    refine ⟨fun row hrow hlacks => absurd hlacks (hpresent report.1 hname row hrow), fun hup => ?_⟩
    obtain ⟨row, hrow⟩ := h.row_of_up report hreport hup
    have hstate := h.state_eq report hreport row hrow
    rw [hup] at hstate
    obtain ⟨text, htext, hprefix⟩ := state_up hstate
    exact ⟨row, text, hrow, htext, hprefix⟩

theorem StateTable.observed_of_forall₂ {table : StateTable} {names : List String}
    {reports : List (String × TelemetryState)} (h : List.Forall₂ (fun name report => report.1 = name ∧
      (∀ row, table.IsRow name row → state normalized (table.stateValue row) table.upValue = .ok report.2) ∧
      (report.2 = .up → ∃ row, table.IsRow name row)) names reports) :
      table.Observed normalized names reports := by
  induction h with
  | nil => exact ⟨rfl, by simp, by simp⟩
  | cons hreport _ ih =>
    obtain ⟨rfl, hstate, hup⟩ := hreport
    refine ⟨congrArg (List.cons _) ih.names_eq, ?_, ?_⟩
    · rintro report (_ | ⟨_, hmem⟩)
      · exact hstate
      · exact ih.state_eq report hmem
    · rintro report (_ | ⟨_, hmem⟩)
      · exact hup
      · exact ih.row_of_up report hmem

theorem observeInterface_reports {document : Value} {name : String} {item : InterfaceTelemetry}
    (h : observeInterface normalized document.items name = .ok item) : item.name = name ∧
      (∀ row, (interfaceTable document).IsRow name row →
        state normalized ((interfaceTable document).stateValue row) (interfaceTable document).upValue =
          .ok item.state) ∧
      (item.state = .up → ∃ row, (interfaceTable document).IsRow name row) := by
  unfold observeInterface at h
  cases hfind : (document.items.map mapping).reverse.find? fun entry =>
    (entry.getD "ifname" .null).hasText name with
  | none =>
    rw [hfind] at h
    obtain ⟨hname, hstate⟩ := Prod.mk.inj (InterfaceTelemetry.init_state h)
    refine ⟨hname, fun row hrow => ?_, fun hup => ?_⟩
    · cases hfind.symm.trans hrow
    · rw [hstate] at hup
      cases hup
  | some entry =>
    rw [hfind] at h
    obtain ⟨st, hst, h⟩ := (bind_ok_iff _ _ _).mp h
    obtain ⟨hname, rfl⟩ := Prod.mk.inj (InterfaceTelemetry.init_state h)
    refine ⟨hname, fun row hrow => ?_, fun _ => ⟨entry, hfind⟩⟩
    obtain rfl := Option.some.inj (hfind.symm.trans hrow)
    exact hst

theorem parseInterfaceTelemetry_observed {jsonLoads : String → Collected Value} {output : String}
    {expected : List String} {items : List InterfaceTelemetry}
    (h : parseInterfaceTelemetry jsonLoads normalized output expected = .ok items) :
    ∃ document, loadJson jsonLoads output = .ok document ∧
      (interfaceTable document).Observed normalized expected (items.map fun item =>
        (item.name, item.state)) := by
  obtain ⟨document, hload, h⟩ := (bind_ok_iff _ _ _).mp h
  refine ⟨document, hload, StateTable.observed_of_forall₂ ?_⟩
  cases document with
  | list values =>
    rw [List.forall₂_map_right_iff]
    refine ((mapM_ok_iff _ _ _).mp h).imp fun name item hitem => ?_
    have hobserved : observeInterface normalized (Value.list values).items name = .ok item := hitem
    exact observeInterface_reports hobserved
  | _ => cases h

def recordRow (normalized : Value → Collected String) (interfaceOf : Value → Option String)
    (stateValue : Value → Value) (upValue : String) (expectedPeers : List BoundTelemetryPeer)
    (states : List (String × TelemetryState)) (row : Value) :
    Collected (List (String × TelemetryState)) :=
  match interfaceOf row with
  | none => .ok states
  | some interface => recordState expectedPeers states interface (state normalized (stateValue row) upValue)

theorem ospfEntry_eq (document : Value) (expectedPeers : List BoundTelemetryPeer) :
    ospfEntry normalized expectedPeers =
      recordRow normalized ospfInterface (ospfTable document).stateValue (ospfTable document).upValue
        expectedPeers := by
  funext states row
  unfold ospfEntry recordRow ospfInterface
  cases (row.getD "ifaceName" .null).text with
  | none => rfl
  | some rawInterface =>
    simp only
    split_ifs <;> rfl

theorem bfdEntry_eq (document : Value) (expectedPeers : List BoundTelemetryPeer) :
    bfdEntry normalized expectedPeers =
      recordRow normalized bfdInterface (bfdTable document).stateValue (bfdTable document).upValue
        expectedPeers := by
  funext states row
  unfold bfdEntry recordRow bfdInterface
  cases (row.getD "interface" .null).text with
  | none => rfl
  | some interface =>
    simp only
    split_ifs <;> rfl

theorem recordState_ok {expectedPeers : List BoundTelemetryPeer}
    {states states' : List (String × TelemetryState)} {interface : String} {st : Collected TelemetryState}
    (h : recordState expectedPeers states interface st = .ok states') :
    ∃ s, st = .ok s ∧ stateOf states interface = none ∧ states' = states ++ [(interface, s)] := by
  unfold recordState at h
  split_ifs at h with hunexpected hduplicate
  cases st with
  | error e => cases h
  | ok s => exact ⟨s, rfl, by simpa using hduplicate, (Except.ok.inj h).symm⟩

theorem stateOf_append {states : List (String × TelemetryState)} {interface : String}
    (hnew : stateOf states interface = none) (s : TelemetryState) (name : String) (r : TelemetryState) :
    stateOf (states ++ [(interface, s)]) name = some r ↔
      stateOf states name = some r ∨ interface = name ∧ s = r := by
  unfold stateOf at hnew ⊢
  rw [List.find?_append]
  cases hfind : states.find? fun entry => entry.1 = name with
  | none => simp
  | some entry =>
    have hne : interface ≠ name := by
      rintro rfl
      rw [hfind] at hnew
      cases hnew
    simp [hne]

section

variable {interfaceOf : Value → Option String} {stateValue : Value → Value} {upValue : String}
variable {expectedPeers : List BoundTelemetryPeer}

theorem stateOf_recordRow {states states' : List (String × TelemetryState)} {row : Value}
    (h : recordRow normalized interfaceOf stateValue upValue expectedPeers states row = .ok states')
    (name : String) (r : TelemetryState) : stateOf states' name = some r ↔
      stateOf states name = some r ∨ interfaceOf row = some name ∧ state normalized (stateValue row) upValue =
        .ok r := by
  unfold recordRow at h
  cases hinterface : interfaceOf row with
  | none =>
    rw [hinterface] at h
    obtain rfl := Except.ok.inj h
    simp
  | some interface =>
    rw [hinterface] at h
    obtain ⟨s, hs, hnew, rfl⟩ := recordState_ok h
    rw [stateOf_append hnew, hs, Option.some.injEq, Except.ok.injEq]

theorem state_of_recordRow {states states' : List (String × TelemetryState)} {row : Value} {name : String}
    (h : recordRow normalized interfaceOf stateValue upValue expectedPeers states row = .ok states')
    (hrow : interfaceOf row = some name) : ∃ s, state normalized (stateValue row) upValue = .ok s := by
  unfold recordRow at h
  rw [hrow] at h
  obtain ⟨s, hs, -, -⟩ := recordState_ok h
  exact ⟨s, hs⟩

theorem stateOf_rows {rows : List Value} {states states' : List (String × TelemetryState)}
    (h : rows.foldlM (recordRow normalized interfaceOf stateValue upValue expectedPeers) states = .ok states')
    (name : String) (r : TelemetryState) : stateOf states' name = some r ↔ stateOf states name = some r ∨
      ∃ row ∈ rows, interfaceOf row = some name ∧ state normalized (stateValue row) upValue = .ok r := by
  induction rows generalizing states with
  | nil =>
    obtain rfl := Except.ok.inj h
    simp
  | cons row rows ih =>
    rw [List.foldlM_cons] at h
    obtain ⟨next, hnext, h⟩ := (bind_ok_iff _ _ _).mp h
    rw [ih h, stateOf_recordRow hnext, or_assoc]
    simp only [List.mem_cons, exists_eq_or_imp]

theorem state_of_rows {rows : List Value} {states states' : List (String × TelemetryState)}
    (h : rows.foldlM (recordRow normalized interfaceOf stateValue upValue expectedPeers) states =
      .ok states') :
    ∀ row ∈ rows, ∀ name, interfaceOf row = some name → ∃ s, state normalized (stateValue row) upValue =
      .ok s := by
  induction rows generalizing states with
  | nil => simp
  | cons row rows ih =>
    rw [List.foldlM_cons] at h
    obtain ⟨next, hnext, h⟩ := (bind_ok_iff _ _ _).mp h
    rintro row' (_ | ⟨_, hmem⟩) name hname
    · exact state_of_recordRow hnext hname
    · exact ih h row' hmem name hname

theorem reported_of_rows {rows : List Value} {states : List (String × TelemetryState)}
    {default : TelemetryState}
    (h : rows.foldlM (recordRow normalized interfaceOf stateValue upValue expectedPeers) [] = .ok states)
    (hdefault : default ≠ .up) (name : String) :
    (∀ row, row ∈ rows ∧ interfaceOf row = some name →
      state normalized (stateValue row) upValue = .ok ((stateOf states name).getD default)) ∧
    ((stateOf states name).getD default = .up → ∃ row, row ∈ rows ∧ interfaceOf row = some name) := by
  constructor
  · rintro row ⟨hrow, hname⟩
    obtain ⟨s, hs⟩ := state_of_rows h row hrow name hname
    have hrecorded : stateOf states name = some s := (stateOf_rows h name s).mpr (.inr ⟨row, hrow, hname, hs⟩)
    rw [hs, hrecorded, Option.getD_some]
  · intro hup
    cases hrecorded : stateOf states name with
    | none =>
      rw [hrecorded] at hup
      exact absurd hup hdefault
    | some s =>
      obtain hnil | ⟨row, hrow, hname, -⟩ := (stateOf_rows h name s).mp hrecorded
      · cases hnil
      · exact ⟨row, hrow, hname⟩

end

theorem parseOspfNeighbors_observed {jsonLoads : String → Collected Value} {output : String}
    {expectedPeers : List BoundTelemetryPeer} {items : List OspfNeighborTelemetry}
    (h : parseOspfNeighbors jsonLoads normalized output expectedPeers = .ok items) :
    ∃ document, loadJson jsonLoads output = .ok document ∧ (ospfTable document).Observed normalized
      (expectedPeers.map BoundTelemetryPeer.interface)
        (items.map fun item => (item.interface, item.state)) := by
  obtain ⟨document, hload, h⟩ := (bind_ok_iff _ _ _).mp h
  obtain ⟨states, hstates, h⟩ := (bind_ok_iff _ _ _).mp h
  rw [ospfEntry_eq document] at hstates
  refine ⟨document, hload, StateTable.observed_of_forall₂ ?_⟩
  rw [List.forall₂_map_left_iff, List.forall₂_map_right_iff]
  refine ((mapM_ok_iff _ _ _).mp h).imp fun expected item hitem => ?_
  obtain ⟨hname, hstate⟩ := Prod.mk.inj (OspfNeighborTelemetry.init_state hitem)
  rw [hstate]
  exact ⟨hname, reported_of_rows hstates (by decide) expected.interface⟩

theorem parseBfdPeers_observed {jsonLoads : String → Collected Value} {walkLimit : Value → Option ℕ}
    {output : String} {expectedPeers : List BoundTelemetryPeer} {items : List BfdPeerTelemetry}
    (h : parseBfdPeers jsonLoads normalized walkLimit output expectedPeers = .ok items) :
    ∃ document, loadJson jsonLoads output = .ok document ∧ (bfdTable document).Observed normalized
      (expectedPeers.map BoundTelemetryPeer.interface)
        (items.map fun item => (item.interface, item.state)) := by
  obtain ⟨document, hload, h⟩ := (bind_ok_iff _ _ _).mp h
  split at h
  · obtain ⟨_, -, h⟩ := (bind_ok_iff _ _ _).mp h
    cases h
  obtain ⟨states, hstates, h⟩ := (bind_ok_iff _ _ _).mp h
  rw [bfdEntry_eq document] at hstates
  refine ⟨document, hload, StateTable.observed_of_forall₂ ?_⟩
  rw [List.forall₂_map_left_iff, List.forall₂_map_right_iff]
  refine ((mapM_ok_iff _ _ _).mp h).imp fun expected item hitem => ?_
  obtain ⟨hname, hstate⟩ := Prod.mk.inj (BfdPeerTelemetry.init_state hitem)
  rw [hstate]
  exact ⟨hname, reported_of_rows hstates (by decide) expected.interface⟩

end

end TelemetryCollector

open TelemetryCollector

theorem absent_state_unknown_iff (jsonLoads : String → Collected Value)
    (normalized : Value → Collected String) (walkLimit : Value → Option ℕ)
    (hnull : normalized .null = .ok "none") :
    (∀ output expected items, parseInterfaceTelemetry jsonLoads normalized output expected = .ok items →
      ∃ document, loadJson jsonLoads output = .ok document ∧
        ((interfaceTable document).Truthful normalized (items.map fun item => (item.name, item.state)) ↔
          (interfaceTable document).StatesPresent expected)) ∧
    (∀ output expected items, parseOspfNeighbors jsonLoads normalized output expected = .ok items →
      ∃ document, loadJson jsonLoads output = .ok document ∧
        ((ospfTable document).Truthful normalized (items.map fun item => (item.interface, item.state)) ↔
          (ospfTable document).StatesPresent (expected.map BoundTelemetryPeer.interface))) ∧
    (∀ output expected items, parseBfdPeers jsonLoads normalized walkLimit output expected = .ok items →
      ∃ document, loadJson jsonLoads output = .ok document ∧
        ((bfdTable document).Truthful normalized (items.map fun item => (item.interface, item.state)) ↔
          (bfdTable document).StatesPresent (expected.map BoundTelemetryPeer.interface))) := by
  refine ⟨fun output expected items h => ?_, fun output expected items h => ?_, fun output expected items h =>
    ?_⟩
  · obtain ⟨document, hload, hobserved⟩ := parseInterfaceTelemetry_observed h
    exact ⟨document, hload, hobserved.truthful_iff hnull⟩
  · obtain ⟨document, hload, hobserved⟩ := parseOspfNeighbors_observed h
    exact ⟨document, hload, hobserved.truthful_iff hnull⟩
  · obtain ⟨document, hload, hobserved⟩ := parseBfdPeers_observed h
    exact ⟨document, hload, hobserved.truthful_iff hnull⟩

def interfaceReplies (output : String) : Collected Value :=
  if output = "[\x7b\"ifname\": \"eth1\", \"operstate\": \"UP\"\x7d]" then
    .ok (.list [.dict [(.str "ifname", .str "eth1"), (.str "operstate", .str "UP")]])
  else if output = "[\x7b\"ifname\": \"eth1\"\x7d]" then .ok (.list [.dict [(.str "ifname", .str "eth1")]])
  else .error .jsonDecodeError

def normalizedWord : Value → Collected String
  | .null => .ok "none"
  | .str word => .ok (String.ofList (word.toList.map Char.toLower))
  | _ => .error .other

theorem absent_state_unknown_present : ∃ items,
    parseInterfaceTelemetry interfaceReplies normalizedWord
      "[\x7b\"ifname\": \"eth1\", \"operstate\": \"UP\"\x7d]"
      ["eth1"] = .ok items ∧ items.map InterfaceTelemetry.state = [.up] ∧
    ∃ document, (interfaceTable document).Truthful normalizedWord (items.map fun item =>
      (item.name, item.state)) := by
  obtain ⟨items, hitems, hstates⟩ := exists_ok (f := List.map InterfaceTelemetry.state) (b := [.up])
    (x := parseInterfaceTelemetry interfaceReplies normalizedWord
      "[\x7b\"ifname\": \"eth1\", \"operstate\": \"UP\"\x7d]" ["eth1"]) (by decide +kernel)
  obtain ⟨document, hload, hiff⟩ :=
    (absent_state_unknown_iff interfaceReplies normalizedWord (fun _ => none) rfl).1 _ _ items hitems
  refine ⟨items, hitems, hstates, document, hiff.mpr ?_⟩
  have hdocument : loadJson interfaceReplies "[\x7b\"ifname\": \"eth1\", \"operstate\": \"UP\"\x7d]" =
    .ok (.list [.dict [(.str "ifname", .str "eth1"), (.str "operstate", .str "UP")]]) := by rfl
  obtain rfl := Except.ok.inj (hdocument.symm.trans hload)
  intro name hname row hrow hlacks
  obtain rfl := List.mem_singleton.mp hname
  obtain rfl := Option.some.inj hrow
  cases hlacks

theorem missing_operstate_is_down : ∃ items row,
    parseInterfaceTelemetry interfaceReplies normalizedWord "[\x7b\"ifname\": \"eth1\"\x7d]" ["eth1"] =
      .ok items ∧
    loadJson interfaceReplies "[\x7b\"ifname\": \"eth1\"\x7d]" = .ok (.list [row]) ∧
    (interfaceTable (.list [row])).IsRow "eth1" row ∧ row.get "operstate" = none ∧
    items.map (fun item => (item.name, item.state)) = [("eth1", .down)] := by
  obtain ⟨items, hitems, hstates⟩ := exists_ok (f := List.map fun item => (item.name, item.state))
    (b := [("eth1", TelemetryState.down)])
    (x := parseInterfaceTelemetry interfaceReplies normalizedWord "[\x7b\"ifname\": \"eth1\"\x7d]" ["eth1"])
    (by decide +kernel)
  exact ⟨items, .dict [(.str "ifname", .str "eth1")], hitems, rfl, rfl, rfl, hstates⟩

end TelconetSentinel
