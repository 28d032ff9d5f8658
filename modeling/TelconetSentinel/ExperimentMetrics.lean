import TelconetSentinel.PythonNumbers

namespace TelconetSentinel

open BinaryFloats DocumentValues FallibleLists

namespace DocumentValues.Float64

def isNegative : Float64 → Bool
  | finite x => x < 0
  | infinity negative => negative
  | nan => false

/-- `x > bound`, which a NaN never is. -/
def exceeds (bound : ℚ) : Float64 → Bool
  | finite x => bound < x
  | infinity negative => !negative
  | nan => false

end DocumentValues.Float64

def profileNames : List String := ["ospf_only", "bfd_100x3"]

def requireMapping (message : String) : Option Value → Result Value
  | some (.dict entries) => .ok (.dict entries)
  | _ => .error (.valueError message)

def checkNonNegative (name : String) : Value → Result Unit
  | .int n => do
    if (← floatOfInteger n) < 0 then .error (.valueError s!"{name} must be non-negative") else .ok ()
  | .float x => if x.isNegative then .error (.valueError s!"{name} must be non-negative") else .ok ()
  | _ => .error (.valueError s!"{name} must be numeric")

section Comparison

def requiredNames : List String :=
  ["observed_detection_upper_bound_ms", "packets_lost_until_failover", "capture_packet_loss_percent"]

def checkLostPackets (profile : String) : Value → Result Unit
  | .int _ => .ok ()
  | _ => .error (.valueError s!"{profile}.packets_lost_until_failover must be an integer")

def checkCaptureLoss (profile : String) : Value → Result Unit
  | .int n =>
    if 100 < n then .error (.valueError s!"{profile}.capture_packet_loss_percent must not exceed 100") else
      .ok ()
  | .float x =>
    if x.exceeds 100 then .error
      (.valueError s!"{profile}.capture_packet_loss_percent must not exceed 100") else .ok ()
  | _ => .error .assertionError

def validateProfile (profiles : Value) (profile : String) : Result Unit := do
  let values ← requireMapping s!"experiment evidence requires profile: {profile}" (profiles.get profile)
  requiredNames.forM fun name => checkNonNegative s!"{profile}.{name}" (values.getD name .null)
  checkLostPackets profile (values.getD "packets_lost_until_failover" .null)
  checkCaptureLoss profile (values.getD "capture_packet_loss_percent" .null)

def validateExperimentEvidence (evidence : Value) : Result Unit := do
  let profiles ← requireMapping "experiment evidence profiles must be a mapping" (evidence.get "profiles")
  profileNames.forM (validateProfile profiles)

end Comparison

section Repeated

def checkTrialCount : Option Value → Result ℤ
  | some (.int trialCount) =>
    if trialCount < 20 then .error (.valueError "repeated evidence requires at least 20 trials per profile")
    else if 30 < trialCount then
      .error (.valueError "repeated evidence supports at most 30 trials per profile")
    else .ok trialCount
  | _ => .error (.valueError "repeated trial count must be an integer")

def requireTrials (profile : String) (trialCount : ℤ) : Option Value → Result (List Value)
  | some (.list trials) =>
    if (trials.length : ℤ) ≠ trialCount then
      .error (.valueError s!"{profile}.trials must contain {trialCount} trials")
    else .ok trials
  | _ => .error (.valueError s!"{profile}.trials must contain {trialCount} trials")

def validateTrial (profile : String) (entry : Value × ℕ) : Result Unit := do
  let trial ← requireMapping s!"{profile}.trials entries must be mappings" (some entry.1)
  if ¬ (trial.getD "trial" .null).pyEq (.int entry.2) then
    .error (.valueError s!"{profile}.trials must be sequential")
  else checkNonNegative s!"{profile}.trials detection_ms" (trial.getD "detection_ms" .null)

def validateRepeatedProfile (profiles : Value) (trialCount : ℤ) (profile : String) : Result Unit := do
  let values ← requireMapping s!"repeated experiment requires profile: {profile}" (profiles.get profile)
  let summary ← requireMapping s!"{profile}.detection_ms must be a mapping" (values.get "detection_ms")
  ["p50", "p95", "max"].forM fun stat =>
    checkNonNegative s!"{profile}.detection_ms.{stat}" (summary.getD stat .null)
  let trials ← requireTrials profile trialCount (values.get "trials")
  (trials.zipIdx 1).forM (validateTrial profile)

def validateRepeatedExperimentEvidence (evidence : Value) : Result Unit := do
  let trialCount ← checkTrialCount (evidence.get "trial_count_per_profile")
  let profiles ← requireMapping "repeated experiment profiles must be a mapping" (evidence.get "profiles")
  profileNames.forM (validateRepeatedProfile profiles trialCount)

end Repeated

theorem double_int_neg_iff (n : ℤ) : double n < 0 ↔ n < 0 := by
  rcases lt_or_ge n 0 with hneg | hnonneg
  · have hone : (1 : ℚ) ≤ -n := by exact_mod_cast Int.le_neg_of_le_neg (Int.le_sub_one_of_lt hneg)
    have hmagnitude := double_mono zero_le_one hone
    rw [double_of_nonneg (zero_le_one.trans hone)] at hmagnitude
    have hunit : double 1 = 1 := by simpa using (representable_natCast (n := 1) (by norm_num)).double_eq
    have hcast : (n : ℚ) < 0 := by exact_mod_cast hneg
    refine iff_of_true ?_ hneg
    rw [double, if_pos hcast]
    linarith only [hmagnitude, hunit]
  · exact iff_of_false (double_nonneg (Int.cast_nonneg hnonneg)).not_gt hnonneg.not_gt

theorem checkNonNegative_int_iff (name : String) (n : ℤ) :
    checkNonNegative name (.int n) = .ok () ↔ 0 ≤ n ∧ n < floatLimit := by
  unfold checkNonNegative
  rw [bind_ok_iff]
  simp only [floatOfInteger, check_ok_iff, not_le, Except.ok.injEq, and_true]
  constructor
  · rintro ⟨x, ⟨hlimit, rfl⟩, hx⟩
    have hn : 0 ≤ n := not_lt.mp ((double_int_neg_iff n).not.mp hx)
    exact ⟨hn, abs_of_nonneg hn ▸ hlimit⟩
  · rintro ⟨hn, hlimit⟩
    exact ⟨double n, ⟨(abs_of_nonneg hn).symm ▸ hlimit, rfl⟩, (double_int_neg_iff n).not.mpr hn.not_gt⟩

theorem isNegative_ofExtended (x : WithTop ℚ) : (Float64.ofExtended x).isNegative = true ↔ x < 0 := by
  cases x with
  | top => exact iff_of_false nofun not_top_lt
  | coe q =>
    rw [Float64.ofExtended_coe, Float64.isNegative, decide_eq_true_eq]
    exact WithTop.coe_lt_coe.symm

theorem exceeds_ofExtended (bound : ℚ) (x : WithTop ℚ) : (Float64.ofExtended x).exceeds bound = true ↔
    bound < x := by
  cases x with
  | top => exact iff_of_true rfl (WithTop.coe_lt_top bound)
  | coe q =>
    rw [Float64.ofExtended_coe, Float64.exceeds, decide_eq_true_eq]
    exact WithTop.coe_lt_coe.symm

theorem checkNonNegative_float_iff (name : String) (x : WithTop ℚ) :
    checkNonNegative name (.float (.ofExtended x)) = .ok () ↔ 0 ≤ x := by
  simp only [checkNonNegative, check_ok_iff, isNegative_ofExtended, not_lt, and_true]

theorem checkNonNegative_value_iff (name : String) {number : Number} (hnonneg : 0 ≤ number.extended) :
    checkNonNegative name number.value = .ok () ↔ number.Fits := by
  cases number with
  | int n =>
    have hn : 0 ≤ n := Int.cast_nonneg_iff.mp (WithTop.coe_nonneg.mp hnonneg)
    rw [Number.value, checkNonNegative_int_iff, Number.Fits, abs_of_nonneg hn]
    exact and_iff_right hn
  | float x =>
    rw [Number.value, checkNonNegative_float_iff]
    exact iff_of_true hnonneg trivial

theorem checkCaptureLoss_float_iff (profile : String) (x : WithTop ℚ) :
    checkCaptureLoss profile (.float (.ofExtended x)) = .ok () ↔ x ≤ (100 : ℚ) := by
  simp only [checkCaptureLoss, check_ok_iff, exceeds_ofExtended, not_lt, and_true]

theorem validateProfile_iff {profiles : Value} {profile : String} {entries : List (Value × Value)}
    {detection lost : ℤ} {loss : WithTop ℚ} (hvalues : profiles.get profile = some (.dict entries))
    (hdetection : (Value.dict entries).getD "observed_detection_upper_bound_ms" .null = .int detection)
    (hlost : (Value.dict entries).getD "packets_lost_until_failover" .null = .int lost)
    (hloss : (Value.dict entries).getD "capture_packet_loss_percent" .null = .float (.ofExtended loss)) :
    validateProfile profiles profile = .ok () ↔
      (0 ≤ detection ∧ detection < floatLimit) ∧ (0 ≤ lost ∧ lost < floatLimit) ∧ 0 ≤ loss ∧
      loss ≤ (100 : ℚ) := by
  unfold validateProfile
  rw [hvalues, requireMapping, ok_bind, hlost, hloss, then_ok_iff, then_ok_iff, forM_ok_iff,
    checkCaptureLoss_float_iff]
  simp only [requiredNames, List.forall_mem_cons, hdetection, hlost, hloss, checkNonNegative_int_iff,
    checkNonNegative_float_iff]
  simp [checkLostPackets, and_assoc]

end TelconetSentinel
