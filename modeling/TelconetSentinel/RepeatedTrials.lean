import TelconetSentinel.BfdComparison

namespace TelconetSentinel

open BinaryFloats DocumentValues FallibleLists OrderStatistics

structure Summary where
  min : Number
  p50 : Number
  p95 : Number
  max : Number
  mean : Number
  deriving DecidableEq

def nearestRank (values : List Number) (percentile : ℚ) : Result Number :=
  let ordered := sortedNumbers values
  let rank := ⌈double (double percentile * ordered.length)⌉
  atIndex ordered (rank - 1)

def summary (values : List Number) : Result Summary := do
  let least ← minimum values
  let p50 ← median values
  let p95 ← nearestRank values (95 / 100)
  let greatest ← maximum values
  let average ← mean values
  return ⟨least, p50, p95, greatest, average.rounded⟩

def Summary.document (figures : Summary) : Value := object [
  ("min", figures.min.value),
  ("p50", figures.p50.value),
  ("p95", figures.p95.value),
  ("max", figures.max.value),
  ("mean", figures.mean.value)]

structure Trial where
  trial : ℕ
  source : String
  detectionMs : ℤ
  lostPackets : ℤ
  captureLossPercent : WithTop ℚ
  deriving DecidableEq

def Trial.document (trial : Trial) : Value := object [
  ("trial", .int trial.trial),
  ("source", .str trial.source),
  ("detection_ms", .int trial.detectionMs),
  ("lost_packets", .int trial.lostPackets),
  ("capture_loss_percent", .float (.ofExtended trial.captureLossPercent))]

abbrev NamedLog := String × String

structure ProfileSummary where
  configurationSha256 : Option String
  detectionMs : Summary
  lostPackets : Summary
  captureLossPercent : Summary
  trials : List Trial
  deriving DecidableEq

def configurationDocument (configurationSha256 : Option String) : Value :=
  match configurationSha256 with
  | some sha256 => .str sha256
  | none => .null

def ProfileSummary.document (profile : ProfileSummary) : Value := object [
  ("configuration_sha256", configurationDocument profile.configurationSha256),
  ("detection_ms", profile.detectionMs.document),
  ("lost_packets", profile.lostPackets.document),
  ("capture_loss_percent", profile.captureLossPercent.document),
  ("trials", .list (profile.trials.map Trial.document))]

def checkTrial (profile : String) (configurationSha256 : Option String) (parsed : DetectionResult) :
    Result Unit :=
  if parsed.profile ≠ profile then .error (.valueError s!"expected {profile} log, got {parsed.profile}")
  else if profile = "bfd_100x3" ∧ parsed.bfdPeerUp = false then
    .error (.valueError "BFD repeated trial requires an observed up BFD peer")
  else if profile = "ospf_only" ∧ parsed.bfdPeerUp = true then
    .error (.valueError "OSPF-only repeated trial must not have an up BFD peer")
  else if configurationSha256.any (· ≠ parsed.configurationSha256) then
    .error (.valueError "repeated trials must use one base configuration")
  else .ok ()

def trialOf (number : ℕ) (source : String) (parsed : DetectionResult) : Trial where
  trial := number
  source := source
  detectionMs := parsed.observedDetectionUpperBoundMs
  lostPackets := parsed.packetsLostUntilFailover
  captureLossPercent := parsed.capturePacketLossPercent

def addTrial (profile : String) (collected : Option String × List Trial) (entry : NamedLog × ℕ) :
    Result (Option String × List Trial) := do
  let parsed ← parseDetectionLog entry.1.2
  checkTrial profile collected.1 parsed
  return (some parsed.configurationSha256, collected.2 ++ [trialOf entry.2 entry.1.1 parsed])

def profileSummary (profile : String) (logs : List NamedLog) : Result ProfileSummary := do
  let (configurationSha256, trials) ← (logs.zipIdx 1).foldlM (addTrial profile) (none, [])
  let detectionMs ← summary (trials.map fun item => .int item.detectionMs)
  let lostPackets ← summary (trials.map fun item => .int item.lostPackets)
  let captureLossPercent ← summary (trials.map fun item => .float item.captureLossPercent)
  return ⟨configurationSha256, detectionMs, lostPackets, captureLossPercent, trials⟩

def floatReductionPercent (before after : Float64) : Result Float64 := do
  let quotient ← floatDivision (before.sub after) before
  return quotient.percent.roundTwo

def repeatedDocument (trialCount : ℕ) (ospf bfd : ProfileSummary) (p50Reduction p95Reduction : Float64) :
    Value := object [
  ("scenario", .str "remote_access_uplink_blackhole_repeated"),
  ("source", .str "containerlab_repeated_observation"),
  ("measured", .bool true),
  ("trial_count_per_profile", .int trialCount),
  ("environment", object [("configuration_sha256", configurationDocument ospf.configurationSha256)]),
  ("profiles", object [("ospf_only", ospf.document), ("bfd_100x3", bfd.document)]),
  ("improvement", object [
    ("p50_detection_reduction_percent", .float p50Reduction),
    ("p95_detection_reduction_percent", .float p95Reduction)]),
  ("limitations", .list [
    .str "Trials run sequentially in one local containerlab deployment.",
    .str "The 100 ms probe interval makes detection values upper bounds.",
    .str "Results are controlled local observations, not production-network SLOs."])]

def checkLengths (ospfLogs bfdLogs : List NamedLog) : Result Unit :=
  if ospfLogs.length ≠ bfdLogs.length then
    .error (.valueError "repeated profiles must contain the same number of trials")
  else if ospfLogs.length < 20 then
    .error (.valueError "repeated evidence requires at least 20 trials per profile")
  else if 30 < ospfLogs.length then
    .error (.valueError "repeated evidence supports at most 30 trials per profile")
  else .ok ()

def checkConfigurations (ospf bfd : ProfileSummary) : Result Unit :=
  if ospf.configurationSha256 ≠ bfd.configurationSha256 then
    .error (.valueError "both repeated profiles must use one base configuration")
  else .ok ()

def compareProfiles (trialCount : ℕ) (ospf bfd : ProfileSummary) : Result Value := do
  let ospfP50 ← ospf.detectionMs.p50.toFloat
  let ospfP95 ← ospf.detectionMs.p95.toFloat
  let bfdP50 ← bfd.detectionMs.p50.toFloat
  let bfdP95 ← bfd.detectionMs.p95.toFloat
  let p50Reduction ← floatReductionPercent ospfP50 bfdP50
  let p95Reduction ← floatReductionPercent ospfP95 bfdP95
  return repeatedDocument trialCount ospf bfd p50Reduction p95Reduction

def buildRepeatedEvidence (ospfLogs bfdLogs : List NamedLog) : Result Value := do
  checkLengths ospfLogs bfdLogs
  let ospf ← profileSummary "ospf_only" ospfLogs
  let bfd ← profileSummary "bfd_100x3" bfdLogs
  checkConfigurations ospf bfd
  compareProfiles ospfLogs.length ospf bfd

section Statistics

variable {values : List Number}

theorem rank_eq : ∀ n ∈ List.range' 20 11, ⌈double (double (95 / 100) * n)⌉ = n - 1 := by decide +kernel

/-- Of 20 to 30 values the last but one is the 95th percentile. -/
theorem nearestRank_eq (hleast : 20 ≤ values.length) (hmost : values.length ≤ 30)
    (hk : values.length - 2 < (sortedNumbers values).length) :
    nearestRank values (95 / 100) = .ok (sortedNumbers values)[values.length - 2] := by
  have hrank := rank_eq values.length (List.mem_range'_1.mpr ⟨hleast, by omega⟩)
  have hindex : (values.length : ℤ) - 1 - 1 = (values.length - 2 : ℕ) := by omega
  unfold nearestRank
  dsimp only
  rw [sortedNumbers_length, hrank, hindex]
  exact atIndex_get hk

theorem foldl_choice_mem {f : Number → Number → Number} (hf : ∀ x y, f x y = x ∨ f x y = y) (x : Number)
    (xs : List Number) : xs.foldl f x ∈ x :: xs := by
  induction xs generalizing x with
  | nil => exact List.mem_cons_self
  | cons y xs ih =>
    rw [List.foldl_cons]
    rcases List.mem_cons.mp (ih (f x y)) with heq | hmem
    · rw [heq]
      rcases hf x y with hx | hy
      · rw [hx]
        exact List.mem_cons_self
      · rw [hy]
        exact List.mem_cons_of_mem _ List.mem_cons_self
    · exact List.mem_cons_of_mem _ (List.mem_cons_of_mem _ hmem)

theorem maximum_mem (hne : values ≠ []) : ∃ number ∈ values, maximum values = .ok number := by
  cases values with
  | nil => exact absurd rfl hne
  | cons x xs =>
    refine ⟨_, foldl_choice_mem (fun x y => ?_) x xs, rfl⟩
    split_ifs
    · exact Or.inr rfl
    · exact Or.inl rfl

theorem minimum_ok (hne : values ≠ []) : ∃ number, minimum values = .ok number := by
  cases values with
  | nil => exact absurd rfl hne
  | cons x xs => exact ⟨_, rfl⟩

theorem summary_fields {figures : Summary} (h : summary values = .ok figures) :
    median values = .ok figures.p50 ∧ nearestRank values (95 / 100) = .ok figures.p95 ∧
      maximum values = .ok figures.max ∧ ∃ average, mean values = .ok average := by
  obtain ⟨least, -, h⟩ := (bind_ok_iff _ _ _).mp h
  obtain ⟨p50, hp50, h⟩ := (bind_ok_iff _ _ _).mp h
  obtain ⟨p95, hp95, h⟩ := (bind_ok_iff _ _ _).mp h
  obtain ⟨greatest, hgreatest, h⟩ := (bind_ok_iff _ _ _).mp h
  obtain ⟨average, haverage, h⟩ := (bind_ok_iff _ _ _).mp h
  obtain rfl := Except.ok.inj h
  exact ⟨hp50, hp95, hgreatest, average, haverage⟩

/-- Of 20 to 30 values only the median and the mean can be out of range. -/
theorem exists_summary_iff (hleast : 20 ≤ values.length) (hmost : values.length ≤ 30) :
    (∃ figures, summary values = .ok figures) ↔
      (∃ number, median values = .ok number) ∧ ∃ number, mean values = .ok number := by
  constructor
  · rintro ⟨figures, h⟩
    obtain ⟨hp50, -, -, haverage⟩ := summary_fields h
    exact ⟨⟨_, hp50⟩, haverage⟩
  · rintro ⟨⟨p50, hp50⟩, average, haverage⟩
    have hne : values ≠ [] := List.ne_nil_of_length_pos (by omega)
    have hk : values.length - 2 < (sortedNumbers values).length := by
      rw [sortedNumbers_length]
      omega
    obtain ⟨least, hminimum⟩ := minimum_ok hne
    obtain ⟨greatest, -, hmaximum⟩ := maximum_mem hne
    refine ⟨⟨least, p50, (sortedNumbers values)[values.length - 2], greatest, average.rounded⟩, ?_⟩
    rw [summary, hminimum, ok_bind, hp50, ok_bind, nearestRank_eq hleast hmost hk, ok_bind, hmaximum, ok_bind,
      haverage, ok_bind]
    rfl

theorem exists_summary_floats {xs : List (WithTop ℚ)} (hleast : 20 ≤ xs.length) (hmost : xs.length ≤ 30) :
    ∃ figures, summary (xs.map .float) = .ok figures := by
  rw [exists_summary_iff (by simpa using hleast) (by simpa using hmost)]
  exact ⟨median_float_ok (by omega), mean_float_ok (by omega)⟩

theorem exists_summary_ints_iff {xs : List ℤ} (hleast : 20 ≤ xs.length) (hmost : xs.length ≤ 30) :
    (∃ figures, summary (xs.map .int) = .ok figures) ↔ MedianFits xs ∧ MeanFits xs := by
  rw [exists_summary_iff (by simpa using hleast) (by simpa using hmost), median_ok_iff (by omega),
    mean_ok_iff (by omega)]

theorem summary_spec {xs : List ℤ} {figures : Summary} (hleast : 20 ≤ xs.length) (hmost : xs.length ≤ 30)
    (h : ∀ x ∈ xs, 0 ≤ x ∧ x < floatLimit) (hsummary : summary (xs.map .int) = .ok figures) :
    (∀ number ∈ [figures.p50, figures.p95, figures.max], number.Fits ∧ 0 ≤ number.extended) ∧
      (figures.p50.extended = 0 ↔ xs.length / 2 < xs.count 0) ∧
      (figures.p95.extended = 0 ↔ xs.length - 2 < xs.count 0) := by
  obtain ⟨hp50, hp95, hmax, -⟩ := summary_fields hsummary
  have hmember : ∀ x ∈ xs, (Number.int x).Fits ∧ 0 ≤ (Number.int x).extended := by
    intro x hx
    obtain ⟨hnonneg, hlimit⟩ := h x hx
    rw [Number.Fits, abs_of_nonneg hnonneg]
    exact ⟨hlimit, WithTop.coe_nonneg.mpr (Int.cast_nonneg hnonneg)⟩
  obtain ⟨p50, hmedian, hfits, hnonneg, hzero⟩ := median_spec (by omega) h
  obtain rfl := Except.ok.inj (hmedian.symm.trans hp50)
  have hne : xs.map Number.int ≠ [] := by simpa using List.ne_nil_of_length_pos (by omega : 0 < xs.length)
  obtain ⟨greatest, hgreatest, hmaximum⟩ := maximum_mem hne
  obtain rfl := Except.ok.inj (hmaximum.symm.trans hmax)
  obtain ⟨x, hx, hxmax⟩ := List.mem_map.mp hgreatest
  have hk : xs.length - 2 < (ordered xs).length := by
    rw [ordered_length]
    omega
  have hrank : figures.p95 = .int (ordered xs)[xs.length - 2] := by
    have hnumbers : 20 ≤ (xs.map Number.int).length := by simpa using hleast
    have hlast := nearestRank_eq hnumbers (by simpa using hmost) (by
      rw [sortedNumbers_length, List.length_map]
      omega)
    rw [← Except.ok.inj (hlast.symm.trans hp95)]
    simp [sortedNumbers_int]
  refine ⟨?_, hzero, ?_⟩
  · rw [List.forall_mem_cons, List.forall_mem_cons, List.forall_mem_singleton, hrank, ← hxmax]
    exact ⟨⟨hfits, hnonneg⟩, hmember _ (mem_ordered_get hk), hmember x hx⟩
  · rw [hrank, ← ordered_get_eq_least_iff (fun x hx => (h x hx).1) hk, Number.extended, WithTop.coe_eq_zero,
      Int.cast_eq_zero]

end Statistics

section Trials

variable {profile sha256 : String} {logs : List NamedLog} {results : List DetectionResult}

def Parsed (log : NamedLog) (parsed : DetectionResult) : Prop := parseDetectionLog log.2 = .ok parsed

def trialsOf (start : ℕ) (logs : List NamedLog) (results : List DetectionResult) : List Trial :=
  List.zipWith (fun entry parsed => trialOf entry.2 entry.1.1 parsed) (logs.zipIdx start) results

theorem checkTrial_ok_iff (configurationSha256 : Option String) (parsed : DetectionResult) :
    checkTrial profile configurationSha256 parsed = .ok () ↔ parsed.profile = profile ∧
      ¬ (profile = "bfd_100x3" ∧ parsed.bfdPeerUp = false) ∧
      ¬ (profile = "ospf_only" ∧ parsed.bfdPeerUp = true) ∧
        ¬ configurationSha256.any (· ≠ parsed.configurationSha256) = true := by
  simp only [checkTrial, check_ok_iff, not_not, and_true]

theorem addTrial_ok {configurationSha256 : Option String} {log : NamedLog} {parsed : DetectionResult}
    (hlog : Parsed log parsed) (hcheck : checkTrial profile (some sha256) parsed = .ok ())
    (hconfiguration : configurationSha256 = none ∨ configurationSha256 = some sha256) (number : ℕ)
    (trials : List Trial) :
    addTrial profile (configurationSha256, trials) (log, number) =
      .ok (some sha256, trials ++ [trialOf number log.1 parsed]) := by
  obtain ⟨hprofile, hbfd, hospf, hsame⟩ := (checkTrial_ok_iff _ _).mp hcheck
  have hsha : sha256 = parsed.configurationSha256 := by simpa using hsame
  have hcheck' : checkTrial profile configurationSha256 parsed = .ok () := by
    rcases hconfiguration with rfl | rfl
    · exact (checkTrial_ok_iff _ _).mpr ⟨hprofile, hbfd, hospf, by simp⟩
    · exact hcheck
  rw [addTrial, (hlog : parseDetectionLog log.2 = _), ok_bind, hcheck', ok_bind, ← hsha]
  rfl

theorem foldlM_addTrial (h : List.Forall₂ Parsed logs results)
    (hchecks : ∀ parsed ∈ results, checkTrial profile (some sha256) parsed = .ok ()) (start : ℕ)
    (trials : List Trial) :
    (logs.zipIdx start).foldlM (addTrial profile) (some sha256, trials) =
      .ok (some sha256, trials ++ trialsOf start logs results) := by
  induction h generalizing start trials with
  | nil => rw [trialsOf, List.zipWith_nil_right, List.append_nil]; rfl
  | @cons log parsed logs results hlog _ ih =>
    obtain ⟨hcheck, hrest⟩ := List.forall_mem_cons.mp hchecks
    rw [List.zipIdx_cons, List.foldlM_cons, addTrial_ok hlog hcheck (Or.inr rfl), ok_bind, ih hrest,
      List.append_assoc]
    rfl

theorem trialsOf_map {α : Type*} {f : Trial → α} {g : DetectionResult → α}
    (hfg : ∀ number source parsed, f (trialOf number source parsed) = g parsed)
    (h : List.Forall₂ Parsed logs results) (start : ℕ) :
    (trialsOf start logs results).map f = results.map g := by
  induction h generalizing start with
  | nil => rfl
  | cons _ _ ih =>
    rw [List.map_cons, ← ih (start + 1), ← hfg]
    rfl

theorem profileSummary_eq (h : List.Forall₂ Parsed logs results) (hne : results ≠ [])
    (hchecks : ∀ parsed ∈ results, checkTrial profile (some sha256) parsed = .ok ()) :
    profileSummary profile logs = (do
      let detectionMs ← summary ((results.map DetectionResult.observedDetectionUpperBoundMs).map .int)
      let lostPackets ← summary ((results.map DetectionResult.packetsLostUntilFailover).map .int)
      let captureLossPercent ← summary ((results.map DetectionResult.capturePacketLossPercent).map .float)
      return ⟨some sha256, detectionMs, lostPackets, captureLossPercent, trialsOf 1 logs results⟩) := by
  have htrials : (logs.zipIdx 1).foldlM (addTrial profile)
      (none, []) = .ok (some sha256, trialsOf 1 logs results) := by
    cases h with
    | nil => exact absurd rfl hne
    | cons hlog hlogs =>
      obtain ⟨hcheck, hrest⟩ := List.forall_mem_cons.mp hchecks
      rw [List.zipIdx_cons, List.foldlM_cons, addTrial_ok hlog hcheck (Or.inl rfl), ok_bind,
        foldlM_addTrial hlogs hrest]
      rfl
  have hdetection := trialsOf_map (f := fun item => Number.int item.detectionMs)
    (g := fun parsed => .int parsed.observedDetectionUpperBoundMs) (fun _ _ _ => rfl) h 1
  have hlost := trialsOf_map (f := fun item => Number.int item.lostPackets)
    (g := fun parsed => .int parsed.packetsLostUntilFailover) (fun _ _ _ => rfl) h 1
  have hloss := trialsOf_map (f := fun item => Number.float item.captureLossPercent)
    (g := fun parsed => .float parsed.capturePacketLossPercent) (fun _ _ _ => rfl) h 1
  simp only [profileSummary, htrials, ok_bind, hdetection, hlost, hloss, List.map_map]
  rfl

end Trials

theorem floatReductionPercent_ok_iff (before after : Float64) :
    (∃ x, floatReductionPercent before after = .ok x) ↔ before ≠ .finite 0 := by
  constructor
  · rintro ⟨x, h⟩ rfl
    obtain ⟨quotient, h, -⟩ := (bind_ok_iff _ _ _).mp h
    simp [floatDivision] at h
  · intro hne
    exact ⟨_, (bind_ok_iff _ _ _).mpr ⟨_, if_neg hne, rfl⟩⟩

theorem compareProfiles_document {trialCount : ℕ} {ospf bfd : ProfileSummary} {document : Value}
    (h : compareProfiles trialCount ospf bfd = .ok document) :
    ∃ p50Reduction p95Reduction,
    document = repeatedDocument trialCount ospf bfd p50Reduction p95Reduction := by
  obtain ⟨ospfP50, -, h⟩ := (bind_ok_iff _ _ _).mp h
  obtain ⟨ospfP95, -, h⟩ := (bind_ok_iff _ _ _).mp h
  obtain ⟨bfdP50, -, h⟩ := (bind_ok_iff _ _ _).mp h
  obtain ⟨bfdP95, -, h⟩ := (bind_ok_iff _ _ _).mp h
  obtain ⟨p50Reduction, -, h⟩ := (bind_ok_iff _ _ _).mp h
  obtain ⟨p95Reduction, -, h⟩ := (bind_ok_iff _ _ _).mp h
  exact ⟨p50Reduction, p95Reduction, (Except.ok.inj h).symm⟩

/-- Where the percentiles have floats, the profiles can be compared unless one of OSPF's is zero. -/
theorem exists_compareProfiles_iff {ospf bfd : ProfileSummary} (trialCount : ℕ)
    (hospf : ∀ number ∈ [ospf.detectionMs.p50, ospf.detectionMs.p95], number.Fits ∧ 0 ≤ number.extended)
    (hbfd : ∀ number ∈ [bfd.detectionMs.p50, bfd.detectionMs.p95], number.Fits ∧ 0 ≤ number.extended) :
    (∃ document, compareProfiles trialCount ospf bfd = .ok document) ↔
      ospf.detectionMs.p50.extended ≠ 0 ∧ ospf.detectionMs.p95.extended ≠ 0 := by
  rw [List.forall_mem_cons, List.forall_mem_singleton] at hospf hbfd
  obtain ⟨ospfP50, hospfP50, hzeroP50⟩ := toFloat_ok hospf.1.1 hospf.1.2
  obtain ⟨ospfP95, hospfP95, hzeroP95⟩ := toFloat_ok hospf.2.1 hospf.2.2
  obtain ⟨bfdP50, hbfdP50, -⟩ := toFloat_ok hbfd.1.1 hbfd.1.2
  obtain ⟨bfdP95, hbfdP95, -⟩ := toFloat_ok hbfd.2.1 hbfd.2.2
  rw [ne_eq, ne_eq, ← hzeroP50, ← hzeroP95, ← ne_eq, ← ne_eq, ← floatReductionPercent_ok_iff _ bfdP50,
    ← floatReductionPercent_ok_iff _ bfdP95, compareProfiles, hospfP50, ok_bind, hospfP95, ok_bind, hbfdP50,
    ok_bind, hbfdP95, ok_bind]
  constructor
  · rintro ⟨document, h⟩
    obtain ⟨p50Reduction, hp50, h⟩ := (bind_ok_iff _ _ _).mp h
    obtain ⟨p95Reduction, hp95, -⟩ := (bind_ok_iff _ _ _).mp h
    exact ⟨⟨_, hp50⟩, _, hp95⟩
  · rintro ⟨⟨p50Reduction, hp50⟩, p95Reduction, hp95⟩
    rw [hp50, ok_bind, hp95, ok_bind]
    exact ⟨_, rfl⟩

end TelconetSentinel
