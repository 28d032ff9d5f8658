import TelconetSentinel.BfdComparison
import TelconetSentinel.ExperimentMetrics
import TelconetSentinel.Library.NumberTexts

namespace TelconetSentinel

open BinaryFloats DocumentValues FallibleLists GeneralFormat NumberTexts

namespace DocumentValues

/-- `x / n` for a positive constant, which takes no float out of range. -/
def Float64.dividedBy (n : ℕ) : Float64 → Float64
  | .finite x => .finite (double (x / n))
  | x => x

def Value.IsFinite : Value → Prop
  | .float x => ∃ q, x = .finite q
  | _ => True

instance : DecidablePred Value.IsFinite
  | .float (.finite q) => isTrue ⟨q, rfl⟩
  | .float (.infinity _) => isFalse nofun
  | .float .nan => isFalse nofun
  | .null | .bool _ | .int _ | .str _ | .list _ | .dict _ | .other _ => isTrue trivial

end DocumentValues

def loadExperimentEvidence : Value → Result Value
  | .dict entries => do
    validateExperimentEvidence (.dict entries)
    return .dict entries
  | _ => .error (.valueError "experiment evidence must be a JSON object")

def loadRepeatedExperimentEvidence : Value → Result Value
  | .dict entries => do
    validateRepeatedExperimentEvidence (.dict entries)
    return .dict entries
  | _ => .error (.valueError "repeated experiment evidence must be a JSON object")

inductive Written
  | float (x : Float64)
  | integer (n : ℤ)
  deriving DecidableEq

namespace Written

def text : Written → String
  | float x => general x
  | integer n => toString n

def number : Written → Option ℚ
  | float x => generalNumber x
  | integer n => some n

theorem readNumber_text (written : Written) : readNumber written.text.toList = written.number := by
  cases written with
  | float x => exact readNumber_general x
  | integer n => exact readNumber_integer n

end Written

structure MetricSample where
  name : String
  labels : List (String × String)
  written : Written
  deriving DecidableEq

namespace MetricSample

def line (sample : MetricSample) : String :=
  sample.name ++ "\x7b" ++ String.intercalate "," (sample.labels.map fun label => label.1 ++ "=\"" ++
    label.2 ++ "\"") ++ "\x7d " ++ sample.written.text

/-- The text of the value is that of a number that is not negative, and a ratio is at most one. -/
def InRange (sample : MetricSample) : Prop :=
  ∃ q, readNumber sample.written.text.toList = some q ∧ 0 ≤ q ∧
    (sample.name = "telconet_capture_packet_loss_ratio" → q ≤ 1)

theorem inRange_iff (sample : MetricSample) : sample.InRange ↔ ∃ q, sample.written.number = some q ∧ 0 ≤ q ∧
    (sample.name = "telconet_capture_packet_loss_ratio" → q ≤ 1) := by
  rw [InRange, Written.readNumber_text]

end MetricSample

section Rendering

def itemOf (mapping : Value) (key : String) : Result Value :=
  match mapping.get key with
  | some value => .ok value
  | none => .error (.keyError key)

def assertMapping : Option Value → Result Value
  | some (.dict entries) => .ok (.dict entries)
  | _ => .error .assertionError

def assertList : Value → Result (List Value)
  | .list items => .ok items
  | _ => .error .assertionError

/-- `float(value)` of a measured number. -/
def floatOf : Value → Result Float64
  | .int n => (floatOfInteger n).map .finite
  | .float x => .ok x
  | _ => .error (.valueError "not a number")

/-- `int(value)` of a count. -/
def integerOf : Value → Result ℤ
  | .bool b => .ok (if b then 1 else 0)
  | .int n => .ok n
  | .float (.finite x) => .ok (if x < 0 then ⌈x⌉ else ⌊x⌋)
  | .float (.infinity _) => .error (.overflowError "cannot convert float infinity to integer")
  | _ => .error (.valueError "cannot convert to integer")

def headerLines : List String := [
  "# HELP telconet_detection_seconds Observed failure detection upper bound.",
  "# TYPE telconet_detection_seconds gauge",
  "# HELP telconet_failover_lost_packets Packets lost before failover became observable.",
  "# TYPE telconet_failover_lost_packets gauge",
  "# HELP telconet_capture_packet_loss_ratio Packet loss ratio for the full capture.",
  "# TYPE telconet_capture_packet_loss_ratio gauge"]

def repeatedHeaderLines : List String := [
  "# HELP telconet_detection_summary_seconds Detection upper-bound summary across repeated trials.",
  "# TYPE telconet_detection_summary_seconds gauge",
  "# HELP telconet_trial_detection_seconds Detection upper bound for one repeated trial.",
  "# TYPE telconet_trial_detection_seconds gauge"]

def profileMetrics (profile : String) (detection : Float64) (lostPackets : ℤ) (captureLoss : Float64) :
    List MetricSample := [
  ⟨"telconet_detection_seconds", [("profile", profile)], .float (detection.dividedBy 1000)⟩,
  ⟨"telconet_failover_lost_packets", [("profile", profile)], .integer lostPackets⟩,
  ⟨"telconet_capture_packet_loss_ratio", [("profile", profile)], .float (captureLoss.dividedBy 100)⟩]

def profileSamples (profiles : Value) (profile : String) : Result (List MetricSample) := do
  let values ← assertMapping (profiles.get profile)
  let detection ← floatOf (← itemOf values "observed_detection_upper_bound_ms")
  let lostPackets ← integerOf (← itemOf values "packets_lost_until_failover")
  let captureLoss ← floatOf (← itemOf values "capture_packet_loss_percent")
  return profileMetrics profile detection lostPackets captureLoss

def experimentSamples (evidence : Value) : Result (List MetricSample) := do
  let profiles ← assertMapping (some (← itemOf evidence "profiles"))
  return (← profileNames.mapM (profileSamples profiles)).flatten

def statNames : List String := ["p50", "p95", "max"]

def summarySample (profile : String) (summary : Value) (stat : String) : Result MetricSample := do
  let detection ← floatOf (← itemOf summary stat)
  return ⟨"telconet_detection_summary_seconds", [("profile", profile), ("stat", stat)],
    .float (detection.dividedBy 1000)⟩

def twoDigits (n : ℤ) : String := if 0 ≤ n ∧ n < 10 then "0" ++ toString n else toString n

def trialSample (profile : String) (entry : Value) : Result MetricSample := do
  let trial ← assertMapping (some entry)
  let number ← integerOf (← itemOf trial "trial")
  let detection ← floatOf (← itemOf trial "detection_ms")
  return ⟨"telconet_trial_detection_seconds", [("profile", profile), ("trial", twoDigits number)],
    .float (detection.dividedBy 1000)⟩

def repeatedProfileSamples (profiles : Value) (profile : String) : Result (List MetricSample) := do
  let values ← assertMapping (some (← itemOf profiles profile))
  let summary ← assertMapping (some (← itemOf values "detection_ms"))
  let summarySamples ← statNames.mapM (summarySample profile summary)
  let trials ← assertList (← itemOf values "trials")
  let trialSamples ← trials.mapM (trialSample profile)
  return summarySamples ++ trialSamples

def repeatedSamples (evidence : Value) : Result (List MetricSample) := do
  let profiles ← assertMapping (some (← itemOf evidence "profiles"))
  return (← profileNames.mapM (repeatedProfileSamples profiles)).flatten

def metricsText (samples : List MetricSample) (repeated : Option (List MetricSample)) : String :=
  String.intercalate "\n" (headerLines ++ samples.map MetricSample.line ++
    (match repeated with
      | some repeated => repeatedHeaderLines ++ repeated.map MetricSample.line
      | none => [])) ++ "\n"

def renderExperimentMetrics (evidence : Value) (repeatedEvidence : Option Value := none) : Result String := do
  validateExperimentEvidence evidence
  match repeatedEvidence with
  | none => return metricsText (← experimentSamples evidence) none
  | some repeated =>
    validateRepeatedExperimentEvidence repeated
    let samples ← experimentSamples evidence
    return metricsText samples (some (← repeatedSamples repeated))

end Rendering

section Reading

def profileValues (profiles : Value) (profile : String) : List Value :=
  requiredNames.map fun name => (profiles.getD profile .null).getD name .null

def measuredValues (evidence : Value) : List Value :=
  profileNames.flatMap (profileValues (evidence.getD "profiles" .null))

def repeatedProfileValues (profiles : Value) (profile : String) : List Value :=
  let values := profiles.getD profile .null
  statNames.map (fun stat => (values.getD "detection_ms" .null).getD stat .null) ++
    (values.getD "trials" .null).items.map fun trial => trial.getD "detection_ms" .null

def repeatedValues (evidence : Value) : List Value :=
  profileNames.flatMap (repeatedProfileValues (evidence.getD "profiles" .null))

end Reading

section InRange

def Exports (value : Value) (sample : MetricSample) : Prop := sample.InRange ↔ value.IsFinite

theorem measured_of_check {name : String} {value : Value} (h : checkNonNegative name value = .ok ()) :
    ∃ x, floatOf value = .ok x ∧ x.isNegative = false ∧ (value.IsFinite ↔ ∃ q, x = .finite q) := by
  cases value with
  | int n =>
    obtain ⟨hn, hlimit⟩ := (checkNonNegative_int_iff name n).mp h
    have hfloat : floatOfInteger n = .ok (double n) := if_neg (not_le.mpr ((abs_of_nonneg hn).symm ▸ hlimit))
    refine ⟨.finite (double n), by rw [floatOf, hfloat]; rfl, ?_, iff_of_true trivial ⟨_, rfl⟩⟩
    exact decide_eq_false (double_nonneg (Int.cast_nonneg hn)).not_gt
  | float x =>
    obtain ⟨hx, -⟩ := (check_ok_iff _ _ _ _).mp h
    exact ⟨x, rfl, Bool.eq_false_iff.mpr hx, Iff.rfl⟩
  | _ => cases h

theorem itemOf_of_check {name key : String} {values : Value}
    (h : checkNonNegative name (values.getD key .null) = .ok ()) :
    itemOf values key = .ok (values.getD key .null) := by
  unfold itemOf Value.getD at *
  cases hget : values.get key with
  | none =>
    rw [hget] at h
    cases h
  | some value => rfl

theorem exports_quotient {value : Value} {x : Float64} {name : String} {labels : List (String × String)}
    {n : ℕ} (hn : 0 < n) (hx : x.isNegative = false) (hfinite : value.IsFinite ↔ ∃ q, x = .finite q)
    (hratio : name = "telconet_capture_packet_loss_ratio" → x.exceeds n = false) :
    Exports value ⟨name, labels, .float (x.dividedBy n)⟩ := by
  rw [Exports, MetricSample.inRange_iff, hfinite]
  cases x with
  | finite q =>
    refine iff_of_true ?_ ⟨q, rfl⟩
    have hq : 0 ≤ q := not_lt.mp (of_decide_eq_false hx)
    have hquotient : 0 ≤ q / n := div_nonneg hq (Nat.cast_nonneg n)
    obtain ⟨written, hnumber, hnonneg, hone⟩ := generalNumber_of_nonneg (double_nonneg hquotient)
    refine ⟨written, hnumber, hnonneg, fun hname => hone ?_⟩
    have hle : q ≤ n := not_lt.mp (of_decide_eq_false (hratio hname))
    have hunit : double 1 = 1 := by simpa using (representable_natCast (n := 1) (by norm_num)).double_eq
    rw [← hunit]
    exact double_mono hquotient ((div_le_one (Nat.cast_pos.mpr hn)).mpr hle)
  | infinity negative =>
    refine iff_of_false ?_ nofun
    rintro ⟨q, hnumber, -⟩
    cases hnumber
  | nan =>
    refine iff_of_false ?_ nofun
    rintro ⟨q, hnumber, -⟩
    cases hnumber

theorem requireMapping_ok {message : String} {value : Option Value} {mapping : Value}
    (h : requireMapping message value = .ok mapping) : value = some mapping ∧
      assertMapping value = .ok mapping := by
  unfold requireMapping at h
  split at h
  · obtain rfl := Except.ok.inj h
    exact ⟨rfl, rfl⟩
  · cases h

theorem exceeds_of_checkCaptureLoss {profile name : String} {value : Value} {x : Float64}
    (hcheck : checkNonNegative name value = .ok ()) (h : checkCaptureLoss profile value = .ok ())
    (hx : floatOf value = .ok x) : x.exceeds (100 : ℕ) = false := by
  cases value with
  | int n =>
    obtain ⟨hle, -⟩ := (check_ok_iff _ _ _ _).mp h
    obtain ⟨hn, -⟩ := (checkNonNegative_int_iff name n).mp hcheck
    cases hfloat : floatOfInteger n with
    | error e =>
      rw [floatOf, hfloat] at hx
      cases hx
    | ok y =>
      rw [floatOf, hfloat] at hx
      obtain rfl := Except.ok.inj hx
      obtain ⟨-, hy⟩ := (check_ok_iff _ _ _ _).mp hfloat
      have hhundred := (representable_natCast (n := 100) (by norm_num)).double_eq
      have hcast : (n : ℚ) ≤ (100 : ℕ) := by exact_mod_cast not_lt.mp hle
      have hmono := double_mono (Int.cast_nonneg hn) hcast
      rw [hhundred, Except.ok.inj hy] at hmono
      exact decide_eq_false hmono.not_gt
  | float y =>
    obtain ⟨hy, -⟩ := (check_ok_iff _ _ _ _).mp h
    obtain rfl := Except.ok.inj hx
    exact Bool.eq_false_iff.mpr hy
  | _ => cases hx

theorem profileSamples_exports {profiles : Value} {profile : String}
    (h : validateProfile profiles profile = .ok ()) :
    ∃ samples, profileSamples profiles profile = .ok samples ∧
      List.Forall₂ Exports (profileValues profiles profile) samples := by
  obtain ⟨values, hvalues, h⟩ := (bind_ok_iff _ _ _).mp h
  obtain ⟨hchecks, h⟩ := (then_ok_iff _ _ _).mp h
  obtain ⟨hlost, hloss⟩ := (then_ok_iff _ _ _).mp h
  obtain ⟨hget, hassert⟩ := requireMapping_ok hvalues
  rw [forM_ok_iff, requiredNames, List.forall_mem_cons, List.forall_mem_cons,
    List.forall_mem_singleton] at hchecks
  obtain ⟨hdetectionCheck, hlostCheck, hlossCheck⟩ := hchecks
  obtain ⟨detection, hdetection, hdetectionSign, hdetectionFinite⟩ := measured_of_check hdetectionCheck
  obtain ⟨loss, hlossFloat, hlossSign, hlossFinite⟩ := measured_of_check hlossCheck
  have hlostValue : ∃ n : ℤ, values.getD "packets_lost_until_failover" .null = .int n ∧ 0 ≤ n := by
    cases hvalue : values.getD "packets_lost_until_failover" .null with
    | int n =>
      rw [hvalue] at hlostCheck
      exact ⟨n, rfl, ((checkNonNegative_int_iff _ n).mp hlostCheck).1⟩
    | _ =>
      rw [hvalue] at hlost
      cases hlost
  obtain ⟨lostPackets, hlostInt, hlostNonneg⟩ := hlostValue
  refine ⟨profileMetrics profile detection lostPackets loss, ?_, ?_⟩
  · rw [profileSamples, hassert, ok_bind, itemOf_of_check hdetectionCheck, ok_bind, hdetection, ok_bind,
      itemOf_of_check hlostCheck, ok_bind, hlostInt, integerOf, ok_bind, itemOf_of_check hlossCheck, ok_bind,
      hlossFloat, ok_bind]
    rfl
  · have hprofile : profiles.getD profile .null = values := by rw [Value.getD, hget, Option.getD_some]
    rw [profileValues, hprofile, requiredNames]
    have hcount : Exports (values.getD "packets_lost_until_failover" .null)
        ⟨"telconet_failover_lost_packets", [("profile", profile)], .integer lostPackets⟩ := by
      rw [hlostInt, Exports, MetricSample.inRange_iff]
      refine iff_of_true ⟨lostPackets, rfl, Int.cast_nonneg hlostNonneg, fun hname => ?_⟩ trivial
      simp at hname
    refine .cons ?_ (.cons hcount (.cons ?_ .nil))
    · exact exports_quotient (by norm_num) hdetectionSign hdetectionFinite fun hname =>
        absurd hname (by decide)
    · exact exports_quotient (by norm_num) hlossSign hlossFinite fun _ =>
        exceeds_of_checkCaptureLoss hlossCheck hloss hlossFloat

theorem experimentSamples_exports {evidence : Value} (h : validateExperimentEvidence evidence = .ok ()) :
    ∃ samples, experimentSamples evidence = .ok samples ∧
    List.Forall₂ Exports (measuredValues evidence) samples := by
  obtain ⟨profiles, hprofiles, h⟩ := (bind_ok_iff _ _ _).mp h
  obtain ⟨hget, hassert⟩ := requireMapping_ok hprofiles
  rw [forM_ok_iff] at h
  obtain ⟨samples, hsamples, hexports⟩ := exists_mapM_flatten fun profile hprofile =>
    profileSamples_exports (h profile hprofile)
  have hitem : itemOf evidence "profiles" = .ok profiles := by rw [itemOf, hget]
  have hvalue : evidence.getD "profiles" .null = profiles := by rw [Value.getD, hget, Option.getD_some]
  refine ⟨samples.flatten, ?_, ?_⟩
  · rw [experimentSamples, hitem, ok_bind, ← hget, hassert, ok_bind, hsamples]
    rfl
  · rw [measuredValues, hvalue]
    exact hexports

theorem summarySample_exports {profile name stat : String} {summary : Value}
    (h : checkNonNegative name (summary.getD stat .null) = .ok ()) :
    ∃ sample, summarySample profile summary stat = .ok sample ∧ Exports (summary.getD stat .null) sample := by
  obtain ⟨detection, hdetection, hsign, hfinite⟩ := measured_of_check h
  refine ⟨⟨"telconet_detection_summary_seconds", [("profile", profile), ("stat", stat)],
    .float (detection.dividedBy 1000)⟩, ?_, ?_⟩
  · rw [summarySample, itemOf_of_check h, ok_bind, hdetection, ok_bind]
    rfl
  · exact exports_quotient (by norm_num) hsign hfinite fun hname => absurd hname (by decide)

theorem integerOf_number {value : Value} {n : ℕ} (h : value.number = some (n : ℚ)) :
    integerOf value = .ok n := by
  cases value with
  | bool b =>
    cases b with
    | false =>
      have hn : (0 : ℚ) = n := Option.some.inj h
      rw [integerOf, (by exact_mod_cast hn.symm : n = 0)]
      rfl
    | true =>
      have hn : (1 : ℚ) = n := Option.some.inj h
      rw [integerOf, (by exact_mod_cast hn.symm : n = 1)]
      rfl
  | int m =>
    have hn : (m : ℚ) = n := Option.some.inj h
    rw [integerOf, (by exact_mod_cast hn : m = n)]
  | float x =>
    cases x with
    | finite x =>
      obtain rfl : x = n := Option.some.inj h
      rw [integerOf, if_neg (Nat.cast_nonneg n).not_gt, Int.floor_natCast]
    | _ => cases h
  | _ => cases h

theorem itemOf_of_number {trial : Value} {key : String} {q : ℚ} (h : (trial.getD key .null).number = some q) :
    itemOf trial key = .ok (trial.getD key .null) := by
  unfold itemOf Value.getD at *
  cases hget : trial.get key with
  | none =>
    rw [hget] at h
    cases h
  | some value => rfl

theorem trialSample_exports {profile : String} {entry : Value × ℕ}
    (h : validateTrial profile entry = .ok ()) :
    ∃ sample, trialSample profile entry.1 = .ok sample ∧
    Exports (entry.1.getD "detection_ms" .null) sample := by
  obtain ⟨trial, htrial, h⟩ := (bind_ok_iff _ _ _).mp h
  obtain ⟨hget, hassert⟩ := requireMapping_ok htrial
  obtain ⟨hnumber, hcheck⟩ := (check_ok_iff _ _ _ _).mp h
  have hnumber' := (Value.pyEq_int_iff _ _).mp (not_not.mp hnumber)
  rw [Int.cast_natCast] at hnumber'
  obtain ⟨detection, hdetection, hsign, hfinite⟩ := measured_of_check hcheck
  rw [Option.some.inj hget]
  refine ⟨⟨"telconet_trial_detection_seconds", [("profile", profile), ("trial", twoDigits entry.2)],
    .float (detection.dividedBy 1000)⟩, ?_, ?_⟩
  · rw [Option.some.inj hget] at hassert
    rw [trialSample, hassert, ok_bind, itemOf_of_number hnumber', ok_bind, integerOf_number hnumber', ok_bind,
      itemOf_of_check hcheck, ok_bind, hdetection, ok_bind]
    rfl
  · exact exports_quotient (by norm_num) hsign hfinite fun hname => absurd hname (by decide)

theorem repeatedProfileSamples_exports {profiles : Value} {trialCount : ℤ} {profile : String}
    (h : validateRepeatedProfile profiles trialCount profile = .ok ()) :
    ∃ samples, repeatedProfileSamples profiles profile = .ok samples ∧
      List.Forall₂ Exports (repeatedProfileValues profiles profile) samples := by
  obtain ⟨values, hvalues, h⟩ := (bind_ok_iff _ _ _).mp h
  obtain ⟨summary, hsummary, h⟩ := (bind_ok_iff _ _ _).mp h
  obtain ⟨hstats, h⟩ := (then_ok_iff _ _ _).mp h
  obtain ⟨trials, htrials, h⟩ := (bind_ok_iff _ _ _).mp h
  obtain ⟨hvaluesGet, hvaluesAssert⟩ := requireMapping_ok hvalues
  obtain ⟨hsummaryGet, hsummaryAssert⟩ := requireMapping_ok hsummary
  have htrialsGet : values.get "trials" = some (.list trials) := by
    unfold requireTrials at htrials
    split at htrials
    · next items hitems =>
      obtain ⟨-, hsame⟩ := (check_ok_iff _ _ _ _).mp htrials
      rw [hitems, Except.ok.inj hsame]
    · cases htrials
  rw [forM_ok_iff] at hstats h
  have htrial : ∀ trial ∈ trials, ∃ sample, trialSample profile trial = .ok sample ∧
      Exports (trial.getD "detection_ms" .null) sample := by
    intro trial hmem
    obtain ⟨i, hi, rfl⟩ := List.mem_iff_getElem.mp hmem
    have hentry : (trials[i], 1 + i) ∈ trials.zipIdx 1 := by
      rw [List.mk_mem_zipIdx_iff_le_and_getElem?_sub]
      simp [hi]
    exact trialSample_exports (h _ hentry)
  obtain ⟨summarySamples, hsummarySamples, hsummaryExports⟩ :=
    exists_mapM_forall₂ (f := summarySample profile summary) (g := fun stat => summary.getD stat .null)
      (R := Exports) fun stat hstat => summarySample_exports (hstats stat hstat)
  obtain ⟨trialSamples, htrialSamples, htrialExports⟩ :=
    exists_mapM_forall₂ (f := trialSample profile) (g := fun trial => trial.getD "detection_ms" .null)
      (R := Exports) htrial
  refine ⟨summarySamples ++ trialSamples, ?_, ?_⟩
  · have hvaluesItem : itemOf profiles profile = .ok values := by rw [itemOf, hvaluesGet]
    have hsummaryItem : itemOf values "detection_ms" = .ok summary := by rw [itemOf, hsummaryGet]
    have htrialsItem : itemOf values "trials" = .ok (.list trials) := by rw [itemOf, htrialsGet]
    rw [hvaluesGet] at hvaluesAssert
    rw [hsummaryGet] at hsummaryAssert
    rw [repeatedProfileSamples, hvaluesItem, ok_bind, hvaluesAssert, ok_bind, hsummaryItem, ok_bind,
      hsummaryAssert, ok_bind, statNames, hsummarySamples, ok_bind, htrialsItem, ok_bind, assertList, ok_bind,
      htrialSamples]
    rfl
  · have hvaluesD : profiles.getD profile .null = values := by rw [Value.getD, hvaluesGet, Option.getD_some]
    have hsummaryD : values.getD "detection_ms" .null = summary := by
      rw [Value.getD, hsummaryGet, Option.getD_some]
    have htrialsD : values.getD "trials" .null = .list trials := by
      rw [Value.getD, htrialsGet, Option.getD_some]
    simp only [repeatedProfileValues, hvaluesD, hsummaryD, htrialsD]
    exact List.rel_append hsummaryExports htrialExports

theorem repeatedSamples_exports {evidence : Value}
    (h : validateRepeatedExperimentEvidence evidence = .ok ()) :
    ∃ samples, repeatedSamples evidence = .ok samples ∧
    List.Forall₂ Exports (repeatedValues evidence) samples := by
  obtain ⟨trialCount, -, h⟩ := (bind_ok_iff _ _ _).mp h
  obtain ⟨profiles, hprofiles, h⟩ := (bind_ok_iff _ _ _).mp h
  obtain ⟨hget, hassert⟩ := requireMapping_ok hprofiles
  rw [forM_ok_iff] at h
  obtain ⟨samples, hsamples, hexports⟩ :=
    exists_mapM_flatten fun profile hprofile => repeatedProfileSamples_exports (h profile hprofile)
  have hitem : itemOf evidence "profiles" = .ok profiles := by rw [itemOf, hget]
  have hvalue : evidence.getD "profiles" .null = profiles := by rw [Value.getD, hget, Option.getD_some]
  refine ⟨samples.flatten, ?_, ?_⟩
  · rw [repeatedSamples, hitem, ok_bind, ← hget, hassert, ok_bind, hsamples]
    rfl
  · rw [repeatedValues, hvalue]
    exact hexports

end InRange

/-- Accepted evidence is always rendered; a sample is out of range where NaN or an infinity was measured. -/
theorem exported_metrics_in_range_iff {file repeatedFile evidence repeated : Value}
    (h : loadExperimentEvidence file = .ok evidence)
    (hrepeated : loadRepeatedExperimentEvidence repeatedFile = .ok repeated) :
    ∃ samples repeatedTrials, renderExperimentMetrics evidence = .ok (metricsText samples none) ∧
      renderExperimentMetrics evidence (some repeated) = .ok (metricsText samples (some repeatedTrials)) ∧
      ((∀ sample ∈ samples, sample.InRange) ↔ ∀ value ∈ measuredValues evidence, value.IsFinite) ∧
      ((∀ sample ∈ repeatedTrials, sample.InRange) ↔ ∀ value ∈ repeatedValues repeated, value.IsFinite) := by
  have hvalid : validateExperimentEvidence evidence = .ok () := by
    unfold loadExperimentEvidence at h
    split at h
    · obtain ⟨hvalid, hsame⟩ := (then_ok_iff _ _ _).mp h
      rwa [← Except.ok.inj hsame]
    · cases h
  have hrepeatedValid : validateRepeatedExperimentEvidence repeated = .ok () := by
    unfold loadRepeatedExperimentEvidence at hrepeated
    split at hrepeated
    · obtain ⟨hvalid, hsame⟩ := (then_ok_iff _ _ _).mp hrepeated
      rwa [← Except.ok.inj hsame]
    · cases hrepeated
  obtain ⟨samples, hsamples, hexports⟩ := experimentSamples_exports hvalid
  obtain ⟨trials, htrials, htrialExports⟩ := repeatedSamples_exports hrepeatedValid
  refine ⟨samples, trials, ?_, ?_, forall_iff_of_forall₂ hexports, forall_iff_of_forall₂ htrialExports⟩
  · rw [renderExperimentMetrics, hvalid, ok_bind]
    simp only [hsamples, ok_bind]
    rfl
  · rw [renderExperimentMetrics, hvalid, ok_bind]
    simp only [hrepeatedValid, hsamples, htrials, ok_bind]
    rfl

def evidenceWith (detectionMs : Value) : Value :=
  let profile := object [("observed_detection_upper_bound_ms", detectionMs),
    ("packets_lost_until_failover", .int 2), ("capture_packet_loss_percent", .float (.finite 50))]
  object [("profiles", object [("ospf_only", profile), ("bfd_100x3", profile)])]

def repeatedEvidenceWith (detectionMs : Value) : Value :=
  let profile := object [("detection_ms",
    object [("p50", detectionMs), ("p95", detectionMs), ("max", detectionMs)]),
    ("trials", .list ((List.range 20).map fun n =>
    object [("trial", .int (n + 1)), ("detection_ms", detectionMs)]))]
  object [("trial_count_per_profile", .int 20),
    ("profiles", object [("ospf_only", profile), ("bfd_100x3", profile)])]

theorem loadExperimentEvidence_ok {evidence : Value} (hobject : evidence = .dict evidence.entries)
    (h : validateExperimentEvidence evidence = .ok ()) : loadExperimentEvidence evidence = .ok evidence := by
  rw [hobject] at h ⊢
  rw [loadExperimentEvidence, h]
  rfl

theorem loadRepeatedExperimentEvidence_ok {evidence : Value} (hobject : evidence = .dict evidence.entries)
    (h : validateRepeatedExperimentEvidence evidence = .ok ()) :
    loadRepeatedExperimentEvidence evidence = .ok evidence := by
  rw [hobject] at h ⊢
  rw [loadRepeatedExperimentEvidence, h]
  rfl

theorem exported_metrics_in_range_measured : ∃ samples trials,
    renderExperimentMetrics (evidenceWith (.int 3900)) (some (repeatedEvidenceWith (.float (.finite 300)))) =
      .ok (metricsText samples (some trials)) ∧
      (∀ sample ∈ samples, sample.InRange) ∧ ∀ sample ∈ trials, sample.InRange := by
  have hload : loadExperimentEvidence (evidenceWith (.int 3900)) = .ok (evidenceWith (.int 3900)) :=
    loadExperimentEvidence_ok rfl (by decide +kernel)
  have hrepeated : loadRepeatedExperimentEvidence (repeatedEvidenceWith (.float (.finite 300))) =
      .ok (repeatedEvidenceWith (.float (.finite 300))) :=
        loadRepeatedExperimentEvidence_ok rfl (by decide +kernel)
  obtain ⟨samples, trials, -, hrender, hrange, htrials⟩ := exported_metrics_in_range_iff hload hrepeated
  exact ⟨samples, trials, hrender, hrange.mpr (by decide +kernel), htrials.mpr (by decide +kernel)⟩

/-- `json.loads` reads `NaN`, which no comparison rejects. -/
theorem nan_is_exported : loadExperimentEvidence (evidenceWith (.float .nan)) =
    .ok (evidenceWith (.float .nan)) ∧
    ∃ samples sample, renderExperimentMetrics (evidenceWith (.float .nan)) = .ok (metricsText samples none) ∧
      sample ∈ samples ∧ sample.line = "telconet_detection_seconds\x7bprofile=\"ospf_only\"\x7d nan" ∧
        ¬ sample.InRange := by
  have hvalid : validateExperimentEvidence (evidenceWith (.float .nan)) = .ok () := by decide +kernel
  let samples := profileMetrics "ospf_only" .nan 2 (.finite 50) ++
    profileMetrics "bfd_100x3" .nan 2 (.finite 50)
  have hsamples : experimentSamples (evidenceWith (.float .nan)) = .ok samples := by decide +kernel
  refine ⟨loadExperimentEvidence_ok rfl hvalid, samples,
    ⟨"telconet_detection_seconds", [("profile", "ospf_only")], .float .nan⟩, ?_, List.mem_cons_self, by
    decide +kernel, ?_⟩
  · rw [renderExperimentMetrics, hvalid, ok_bind, hsamples]
    rfl
  · rw [MetricSample.inRange_iff]
    rintro ⟨q, hnumber, -⟩
    cases hnumber

end TelconetSentinel
