import TelconetSentinel.ExperimentMetrics
import TelconetSentinel.PacketLoss
import TelconetSentinel.RepeatedTrials

namespace TelconetSentinel

open BinaryFloats DocumentValues FallibleLists OrderStatistics

section Comparison

variable {ospf bfd : DetectionResult}

def DetectionResult.Exportable (result : DetectionResult) : Prop :=
  result.observedDetectionUpperBoundMs < floatLimit ∧ result.packetsLostUntilFailover < floatLimit ∧
    result.capturePacketLossPercent ≤ (100 : ℚ)

theorem validateProfile_document_iff {profiles : Value} {profile : String} {result : DetectionResult}
    (hget : profiles.get profile = some result.document) :
    validateProfile profiles profile = .ok () ↔ result.Exportable := by
  rw [validateProfile_iff hget rfl rfl rfl, DetectionResult.Exportable, and_iff_right result.detection_nonneg,
    and_iff_right result.lost_nonneg, and_iff_right result.loss_isDouble.nonneg]

theorem validate_comparison_iff (ospf bfd : DetectionResult) (detectionReduction lostReduction : Float64) :
    validateExperimentEvidence (comparisonDocument ospf bfd detectionReduction lostReduction) = .ok () ↔
      ospf.Exportable ∧ bfd.Exportable := by
  let profiles := object [("ospf_only", ospf.document), ("bfd_100x3", bfd.document)]
  have hospf : profiles.get "ospf_only" = some ospf.document := rfl
  have hbfd : profiles.get "bfd_100x3" = some bfd.document := rfl
  have hvalidate : validateExperimentEvidence (comparisonDocument ospf bfd detectionReduction lostReduction) =
      profileNames.forM (validateProfile profiles) := rfl
  rw [hvalidate, forM_ok_iff, profileNames, List.forall_mem_cons, List.forall_mem_singleton]
  exact and_congr (validateProfile_document_iff hospf) (validateProfile_document_iff hbfd)

theorem comparison_feeds_metrics_iff {ospfLog bfdLog : String} (hospf : parseDetectionLog ospfLog = .ok ospf)
    (hbfd : parseDetectionLog bfdLog = .ok bfd) (hchecks : checkComparable ospf bfd = .ok ()) :
    (∃ document, buildComparison ospfLog bfdLog = .ok document ∧
      validateExperimentEvidence document = .ok ()) ↔
      ospf.observedDetectionUpperBoundMs ≠ 0 ∧ ospf.Exportable ∧ bfd.Exportable := by
  have hbuild : buildComparison ospfLog bfdLog = (do
      let detectionReduction ← reductionPercent ospf.observedDetectionUpperBoundMs
        bfd.observedDetectionUpperBoundMs
      let lostReduction ← lostReductionPercent ospf.packetsLostUntilFailover bfd.packetsLostUntilFailover
      return comparisonDocument ospf bfd detectionReduction lostReduction) := by
    rw [buildComparison, hospf, ok_bind, hbfd, ok_bind, hchecks, ok_bind]
  rw [hbuild]
  constructor
  · rintro ⟨document, h, hvalid⟩
    obtain ⟨detectionReduction, hdetection, h⟩ := (bind_ok_iff _ _ _).mp h
    obtain ⟨lostReduction, -, h⟩ := (bind_ok_iff _ _ _).mp h
    obtain rfl := Except.ok.inj h
    obtain ⟨hospfFits, hbfdFits⟩ := (validate_comparison_iff _ _ _ _).mp hvalid
    refine ⟨?_, hospfFits, hbfdFits⟩
    exact (reductionPercent_ok_iff ⟨ospf.detection_nonneg, hospfFits.1⟩ ⟨bfd.detection_nonneg, hbfdFits.1⟩).mp
      ⟨_, hdetection⟩
  · rintro ⟨hne, hospfFits, hbfdFits⟩
    obtain ⟨detectionReduction, hdetection⟩ :=
      (reductionPercent_ok_iff ⟨ospf.detection_nonneg, hospfFits.1⟩ ⟨bfd.detection_nonneg, hbfdFits.1⟩).mpr
        hne
    obtain ⟨lostReduction, hlost⟩ :=
      lostReductionPercent_ok ⟨ospf.lost_nonneg, hospfFits.2.1⟩ ⟨bfd.lost_nonneg, hbfdFits.2.1⟩
    refine ⟨comparisonDocument ospf bfd detectionReduction lostReduction, ?_, ?_⟩
    · rw [hdetection, ok_bind, hlost]
      rfl
    · exact (validate_comparison_iff _ _ _ _).mpr ⟨hospfFits, hbfdFits⟩

end Comparison

section Repeated

variable {profile sha256 : String} {logs : List NamedLog} {results : List DetectionResult}

def DetectionFits (results : List DetectionResult) : Prop :=
  ∀ parsed ∈ results, parsed.observedDetectionUpperBoundMs < floatLimit

def LostFits (results : List DetectionResult) : Prop :=
  MedianFits (results.map DetectionResult.packetsLostUntilFailover) ∧
    MeanFits (results.map DetectionResult.packetsLostUntilFailover)

theorem validateTrial_document_iff (profile : String) (trial : Trial) :
    validateTrial profile (trial.document, trial.trial) = .ok () ↔ 0 ≤ trial.detectionMs ∧
    trial.detectionMs < floatLimit := by
  have hnumber : (trial.document.getD "trial" .null).pyEq (.int trial.trial) = true :=
    (Value.pyEq_int_iff _ _).mpr rfl
  have hvalidate : validateTrial profile (trial.document, trial.trial) =
      checkNonNegative s!"{profile}.trials detection_ms" (.int trial.detectionMs) := by
    rw [validateTrial, Trial.document, object, requireMapping, ok_bind]
    exact if_neg (not_not.mpr hnumber)
  rw [hvalidate, checkNonNegative_int_iff]

theorem validateTrials_iff (profile : String) (h : List.Forall₂ Parsed logs results) (start : ℕ) :
    (((trialsOf start logs results).map Trial.document).zipIdx start).forM (validateTrial profile) = .ok () ↔
      DetectionFits results := by
  rw [forM_ok_iff, DetectionFits]
  induction h generalizing start with
  | nil => simp [trialsOf]
  | @cons log parsed logs results _ _ ih =>
    have hfirst := validateTrial_document_iff profile (trialOf start log.1 parsed)
    have hcons : (trialsOf start (log :: logs) (parsed :: results)).map Trial.document =
        (trialOf start log.1 parsed).document :: (trialsOf (start + 1) logs results).map Trial.document := rfl
    rw [hcons, List.zipIdx_cons, List.forall_mem_cons, List.forall_mem_cons, ih]
    exact and_congr_left fun _ => hfirst.trans (and_iff_right parsed.detection_nonneg)

theorem trialsOf_length (h : List.Forall₂ Parsed logs results) (start : ℕ) :
    (trialsOf start logs results).length = results.length := by
  rw [trialsOf, List.length_zipWith, List.length_zipIdx, h.length_eq, min_self]

theorem detection_in_range (hfits : DetectionFits results) :
    ∀ x ∈ results.map DetectionResult.observedDetectionUpperBoundMs, 0 ≤ x ∧ x < floatLimit := by
  rw [List.forall_mem_map]
  exact fun parsed hparsed => ⟨parsed.detection_nonneg, hfits parsed hparsed⟩

/-- The consumer's checks of a profile come down to the detection times of its trials. -/
theorem validateRepeatedProfile_iff {profiles : Value} {figures : ProfileSummary}
    (hget : profiles.get profile = some figures.document) (h : List.Forall₂ Parsed logs results)
    (htrials : figures.trials = trialsOf 1 logs results) (hleast : 20 ≤ results.length)
    (hmost : results.length ≤ 30)
    (hsummary : summary ((results.map DetectionResult.observedDetectionUpperBoundMs).map .int) =
    .ok figures.detectionMs) :
    validateRepeatedProfile profiles results.length profile = .ok () ↔ DetectionFits results := by
  have hlength : ((figures.trials.map Trial.document).length : ℤ) = results.length := by
    rw [List.length_map, htrials, trialsOf_length h]
  have hvalidate : validateRepeatedProfile profiles results.length profile = (do
      ["p50", "p95", "max"].forM fun stat =>
        checkNonNegative s!"{profile}.detection_ms.{stat}" (figures.detectionMs.document.getD stat .null)
      let trials ← requireTrials profile results.length (some (.list (figures.trials.map Trial.document)))
      (trials.zipIdx 1).forM (validateTrial profile)) := by
    rw [validateRepeatedProfile, hget]
    rfl
  rw [hvalidate, then_ok_iff, requireTrials, if_neg (not_not.mpr hlength), ok_bind, htrials,
    validateTrials_iff profile h 1]
  refine and_iff_right_of_imp fun hfits => ?_
  obtain ⟨hrange, -, -⟩ := summary_spec (by simpa using hleast) (by simpa using hmost)
    (detection_in_range hfits) hsummary
  rw [forM_ok_iff, List.forall_mem_cons, List.forall_mem_cons, List.forall_mem_singleton]
  simp only [List.forall_mem_cons, List.not_mem_nil, false_imp_iff, imp_true_iff, and_true] at hrange
  obtain ⟨⟨hp50, hp50Nonneg⟩, ⟨hp95, hp95Nonneg⟩, hmax, hmaxNonneg⟩ := hrange
  exact ⟨(checkNonNegative_value_iff _ hp50Nonneg).mpr hp50,
    (checkNonNegative_value_iff _ hp95Nonneg).mpr hp95, (checkNonNegative_value_iff _ hmaxNonneg).mpr hmax⟩

theorem validate_repeated_iff {trialCount : ℕ} (hleast : 20 ≤ trialCount) (hmost : trialCount ≤ 30)
    (ospf bfd : ProfileSummary) (p50Reduction p95Reduction : Float64) :
    validateRepeatedExperimentEvidence (repeatedDocument trialCount ospf bfd p50Reduction p95Reduction) =
      .ok () ↔
      ∀ profile ∈ profileNames, validateRepeatedProfile
        (object [("ospf_only", ospf.document), ("bfd_100x3", bfd.document)]) trialCount profile = .ok () := by
  have hcount : checkTrialCount (some (.int trialCount)) = .ok trialCount := by
    rw [checkTrialCount, if_neg (by omega), if_neg (by omega)]
  have hvalidate : validateRepeatedExperimentEvidence
      (repeatedDocument trialCount ospf bfd p50Reduction p95Reduction) =
      (checkTrialCount (some (.int trialCount)) >>= fun count => profileNames.forM (validateRepeatedProfile
        (object [("ospf_only", ospf.document), ("bfd_100x3", bfd.document)]) count)) := rfl
  rw [hvalidate, hcount, ok_bind, forM_ok_iff]

structure RepeatedLogs (ospfLogs bfdLogs : List NamedLog) (ospf bfd : List DetectionResult) : Prop where
  ospfParsed : List.Forall₂ Parsed ospfLogs ospf
  bfdParsed : List.Forall₂ Parsed bfdLogs bfd
  lengths : checkLengths ospfLogs bfdLogs = .ok ()
  oneConfiguration : ∃ sha256, (∀ parsed ∈ ospf, checkTrial "ospf_only" (some sha256) parsed = .ok ()) ∧
    ∀ parsed ∈ bfd, checkTrial "bfd_100x3" (some sha256) parsed = .ok ()

theorem RepeatedLogs.length {ospfLogs bfdLogs : List NamedLog} {ospf bfd : List DetectionResult}
    (h : RepeatedLogs ospfLogs bfdLogs ospf bfd) :
    ospfLogs.length = ospf.length ∧ bfd.length = ospf.length ∧ 20 ≤ ospf.length ∧ ospf.length ≤ 30 := by
  have hlengths := h.lengths
  simp only [checkLengths, check_ok_iff, not_not, not_lt, and_true] at hlengths
  have hospf := h.ospfParsed.length_eq
  have hbfd := h.bfdParsed.length_eq
  omega

theorem meanFits_of_range {xs : List ℤ} (hpos : 0 < xs.length) (h : ∀ x ∈ xs, 0 ≤ x ∧ x < floatLimit) :
    MeanFits xs := by
  have hsum : xs.sum ≤ xs.length • (floatLimit - 1) :=
    List.sum_le_card_nsmul xs _ fun x hx => Int.le_sub_one_of_lt (h x hx).2
  have hlength : (0 : ℤ) < xs.length := by exact_mod_cast hpos
  refine Or.inr ?_
  rw [abs_of_nonneg (List.sum_nonneg fun x hx => (h x hx).1)]
  rw [nsmul_eq_mul] at hsum
  linarith only [hsum, hlength, mul_sub_one (xs.length : ℤ) floatLimit, mul_comm (xs.length : ℤ) floatLimit]

theorem fits_of_range {xs : List ℤ} (hpos : 0 < xs.length) (h : ∀ x ∈ xs, 0 ≤ x ∧ x < floatLimit) :
    MedianFits xs ∧ MeanFits xs := by
  obtain ⟨number, hmedian, -⟩ := median_spec hpos h
  exact ⟨(median_ok_iff hpos).mp ⟨number, hmedian⟩, meanFits_of_range hpos h⟩

theorem lostFits_of_range (hpos : 0 < results.length)
    (h : ∀ parsed ∈ results, parsed.packetsLostUntilFailover < floatLimit) : LostFits results := by
  refine fits_of_range (by simpa using hpos) ?_
  rw [List.forall_mem_map]
  exact fun parsed hparsed => ⟨parsed.lost_nonneg, h parsed hparsed⟩

theorem exists_profileSummary (h : List.Forall₂ Parsed logs results) (hleast : 20 ≤ results.length)
    (hmost : results.length ≤ 30)
    (hchecks : ∀ parsed ∈ results, checkTrial profile (some sha256) parsed = .ok ())
    (hdetection : DetectionFits results) (hlost : LostFits results) :
    ∃ figures, profileSummary profile logs = .ok figures := by
  have hpos : 0 < (results.map DetectionResult.observedDetectionUpperBoundMs).length := by
    rw [List.length_map]
    omega
  obtain ⟨detectionMs, hdetectionMs⟩ :=
    (exists_summary_ints_iff (by simpa using hleast) (by simpa using hmost)).mpr
      (fits_of_range hpos (detection_in_range hdetection))
  obtain ⟨lostPackets, hlostPackets⟩ :=
    (exists_summary_ints_iff (by simpa using hleast) (by simpa using hmost)).mpr hlost
  have hlosses : 20 ≤ (results.map DetectionResult.capturePacketLossPercent).length := by simpa using hleast
  obtain ⟨captureLossPercent, hcapture⟩ := exists_summary_floats hlosses (by simpa using hmost)
  rw [profileSummary_eq h (List.ne_nil_of_length_pos (by omega)) hchecks, hdetectionMs, ok_bind, hlostPackets,
    ok_bind, hcapture, ok_bind]
  exact ⟨_, rfl⟩

theorem profileSummary_ok {figures : ProfileSummary} (h : List.Forall₂ Parsed logs results)
    (hleast : 20 ≤ results.length) (hmost : results.length ≤ 30)
    (hchecks : ∀ parsed ∈ results, checkTrial profile (some sha256) parsed = .ok ())
    (hfigures : profileSummary profile logs = .ok figures) :
    summary ((results.map DetectionResult.observedDetectionUpperBoundMs).map .int) = .ok figures.detectionMs ∧
      LostFits results ∧ figures.trials = trialsOf 1 logs results ∧
      figures.configurationSha256 = some sha256 := by
  rw [profileSummary_eq h (List.ne_nil_of_length_pos (by omega)) hchecks] at hfigures
  obtain ⟨detectionMs, hdetectionMs, hfigures⟩ := (bind_ok_iff _ _ _).mp hfigures
  obtain ⟨lostPackets, hlostPackets, hfigures⟩ := (bind_ok_iff _ _ _).mp hfigures
  obtain ⟨captureLossPercent, -, hfigures⟩ := (bind_ok_iff _ _ _).mp hfigures
  obtain rfl := Except.ok.inj hfigures
  have hlost := (exists_summary_ints_iff (by simpa using hleast) (by simpa using hmost)).mp ⟨_, hlostPackets⟩
  exact ⟨hdetectionMs, hlost, rfl, rfl⟩

theorem percentiles_ne_zero_iff {figures : Summary} (hleast : 20 ≤ results.length)
    (hmost : results.length ≤ 30) (hfits : DetectionFits results)
    (hsummary : summary ((results.map DetectionResult.observedDetectionUpperBoundMs).map .int) =
      .ok figures) :
    figures.p50.extended ≠ 0 ∧ figures.p95.extended ≠ 0 ↔
      2 * results.countP (fun parsed => parsed.observedDetectionUpperBoundMs = 0) ≤ results.length := by
  have hcount : (results.map DetectionResult.observedDetectionUpperBoundMs).count 0 =
      results.countP fun parsed => parsed.observedDetectionUpperBoundMs = 0 := by
    rw [List.count, List.countP_map]
    rfl
  obtain ⟨-, hp50, hp95⟩ :=
    summary_spec (by simpa using hleast) (by simpa using hmost) (detection_in_range hfits) hsummary
  rw [hcount, List.length_map] at hp50 hp95
  rw [ne_eq, ne_eq, hp50, hp95]
  omega

section

variable {ospfLogs bfdLogs : List NamedLog} {ospf bfd : List DetectionResult}
  {ospfFigures bfdFigures : ProfileSummary}

theorem buildRepeatedEvidence_ok_iff (h : RepeatedLogs ospfLogs bfdLogs ospf bfd) (document : Value) :
    buildRepeatedEvidence ospfLogs bfdLogs = .ok document ↔ ∃ ospfFigures bfdFigures,
      profileSummary "ospf_only" ospfLogs = .ok ospfFigures ∧
      profileSummary "bfd_100x3" bfdLogs = .ok bfdFigures ∧
        compareProfiles ospf.length ospfFigures bfdFigures = .ok document := by
  obtain ⟨hcount, hsame, hleast, hmost⟩ := h.length
  obtain ⟨sha256, hospfChecks, hbfdChecks⟩ := h.oneConfiguration
  rw [buildRepeatedEvidence, h.lengths, ok_bind, bind_ok_iff, hcount]
  refine exists_congr fun ospfFigures => ?_
  rw [bind_ok_iff, ← exists_and_left]
  refine exists_congr fun bfdFigures => and_congr_right fun hospf => and_congr_right fun hbfd => ?_
  obtain ⟨-, -, -, hospfSha⟩ := profileSummary_ok h.ospfParsed hleast hmost hospfChecks hospf
  obtain ⟨-, -, -, hbfdSha⟩ := profileSummary_ok h.bfdParsed (hsame ▸ hleast) (hsame ▸ hmost) hbfdChecks hbfd
  have hconfiguration : checkConfigurations ospfFigures bfdFigures = .ok () :=
    if_neg (not_not.mpr (hospfSha.trans hbfdSha.symm))
  rw [hconfiguration, ok_bind]

theorem validate_figures_iff (h : RepeatedLogs ospfLogs bfdLogs ospf bfd)
    (hospf : profileSummary "ospf_only" ospfLogs = .ok ospfFigures)
    (hbfd : profileSummary "bfd_100x3" bfdLogs = .ok bfdFigures) (p50Reduction p95Reduction : Float64) :
    validateRepeatedExperimentEvidence
        (repeatedDocument ospf.length ospfFigures bfdFigures p50Reduction p95Reduction) = .ok () ↔
      DetectionFits ospf ∧ DetectionFits bfd := by
  obtain ⟨hcount, hsame, hleast, hmost⟩ := h.length
  obtain ⟨sha256, hospfChecks, hbfdChecks⟩ := h.oneConfiguration
  obtain ⟨hospfSummary, -, hospfTrials, -⟩ := profileSummary_ok h.ospfParsed hleast hmost hospfChecks hospf
  obtain ⟨hbfdSummary, -, hbfdTrials, -⟩ :=
    profileSummary_ok h.bfdParsed (hsame ▸ hleast) (hsame ▸ hmost) hbfdChecks hbfd
  have hospfGet : (object [("ospf_only", ospfFigures.document), ("bfd_100x3", bfdFigures.document)]).get
      "ospf_only" =
      some ospfFigures.document := rfl
  have hbfdGet : (object [("ospf_only", ospfFigures.document), ("bfd_100x3", bfdFigures.document)]).get
      "bfd_100x3" =
      some bfdFigures.document := rfl
  have hospfValid := validateRepeatedProfile_iff hospfGet h.ospfParsed hospfTrials hleast hmost hospfSummary
  have hbfdValid := validateRepeatedProfile_iff hbfdGet h.bfdParsed hbfdTrials (hsame ▸ hleast)
    (hsame ▸ hmost) hbfdSummary
  rw [validate_repeated_iff hleast hmost, profileNames, List.forall_mem_cons, List.forall_mem_singleton,
    hospfValid, ← hsame, hbfdValid]

theorem figures_fit (hleast : 20 ≤ results.length) (hmost : results.length ≤ 30)
    (hfits : DetectionFits results) {figures : Summary}
    (hsummary : summary ((results.map DetectionResult.observedDetectionUpperBoundMs).map .int) =
      .ok figures) :
    ∀ number ∈ [figures.p50, figures.p95], number.Fits ∧ 0 ≤ number.extended := by
  obtain ⟨hrange, -, -⟩ := summary_spec (by simpa using hleast) (by simpa using hmost)
    (detection_in_range hfits) hsummary
  rw [List.forall_mem_cons, List.forall_mem_singleton]
  exact ⟨hrange figures.p50 (by simp), hrange figures.p95 (by simp)⟩

theorem exists_compare_figures_iff (h : RepeatedLogs ospfLogs bfdLogs ospf bfd)
    (hospf : profileSummary "ospf_only" ospfLogs = .ok ospfFigures)
    (hbfd : profileSummary "bfd_100x3" bfdLogs = .ok bfdFigures) (hospfFits : DetectionFits ospf)
    (hbfdFits : DetectionFits bfd) :
    (∃ document, compareProfiles ospf.length ospfFigures bfdFigures = .ok document) ↔
      2 * ospf.countP (fun parsed => parsed.observedDetectionUpperBoundMs = 0) ≤ ospf.length := by
  obtain ⟨hcount, hsame, hleast, hmost⟩ := h.length
  obtain ⟨sha256, hospfChecks, hbfdChecks⟩ := h.oneConfiguration
  obtain ⟨hospfSummary, -⟩ := profileSummary_ok h.ospfParsed hleast hmost hospfChecks hospf
  obtain ⟨hbfdSummary, -⟩ := profileSummary_ok h.bfdParsed (hsame ▸ hleast) (hsame ▸ hmost) hbfdChecks hbfd
  rw [exists_compareProfiles_iff _ (figures_fit hleast hmost hospfFits hospfSummary)
    (figures_fit (hsame ▸ hleast) (hsame ▸ hmost) hbfdFits hbfdSummary)]
  exact percentiles_ne_zero_iff hleast hmost hospfFits hospfSummary

theorem repeated_feeds_metrics_iff (h : RepeatedLogs ospfLogs bfdLogs ospf bfd) :
    (∃ document, buildRepeatedEvidence ospfLogs bfdLogs = .ok document ∧
        validateRepeatedExperimentEvidence document = .ok ()) ↔
      2 * ospf.countP (fun parsed => parsed.observedDetectionUpperBoundMs = 0) ≤ ospf.length ∧
        (DetectionFits ospf ∧ LostFits ospf) ∧ DetectionFits bfd ∧ LostFits bfd := by
  obtain ⟨hcount, hsame, hleast, hmost⟩ := h.length
  obtain ⟨sha256, hospfChecks, hbfdChecks⟩ := h.oneConfiguration
  constructor
  · rintro ⟨document, hbuild, hvalid⟩
    obtain ⟨ospfFigures, bfdFigures, hospf, hbfd, hcompare⟩ :=
      (buildRepeatedEvidence_ok_iff h document).mp hbuild
    obtain ⟨p50Reduction, p95Reduction, rfl⟩ := compareProfiles_document hcompare
    obtain ⟨hospfFits, hbfdFits⟩ := (validate_figures_iff h hospf hbfd _ _).mp hvalid
    obtain ⟨-, hospfLost, -⟩ := profileSummary_ok h.ospfParsed hleast hmost hospfChecks hospf
    obtain ⟨-, hbfdLost, -⟩ := profileSummary_ok h.bfdParsed (hsame ▸ hleast) (hsame ▸ hmost) hbfdChecks hbfd
    have hzero := (exists_compare_figures_iff h hospf hbfd hospfFits hbfdFits).mp ⟨_, hcompare⟩
    exact ⟨hzero, ⟨hospfFits, hospfLost⟩, hbfdFits, hbfdLost⟩
  · rintro ⟨hzero, ⟨hospfFits, hospfLost⟩, hbfdFits, hbfdLost⟩
    obtain ⟨ospfFigures, hospf⟩ :=
      exists_profileSummary h.ospfParsed hleast hmost hospfChecks hospfFits hospfLost
    obtain ⟨bfdFigures, hbfd⟩ :=
      exists_profileSummary h.bfdParsed (hsame ▸ hleast) (hsame ▸ hmost) hbfdChecks hbfdFits hbfdLost
    obtain ⟨document, hcompare⟩ := (exists_compare_figures_iff h hospf hbfd hospfFits hbfdFits).mpr hzero
    refine ⟨document, (buildRepeatedEvidence_ok_iff h document).mpr ⟨_, _, hospf, hbfd, hcompare⟩, ?_⟩
    obtain ⟨p50Reduction, p95Reduction, rfl⟩ := compareProfiles_document hcompare
    exact (validate_figures_iff h hospf hbfd _ _).mpr ⟨hospfFits, hbfdFits⟩

end

end Repeated

/-- Whether the producers return and the consumers accept depends on the figures that were read from the
logs. -/
theorem evidence_feeds_consumers_iff (ospfLog bfdLog : String) (ospf bfd : DetectionResult)
    (ospfLogs bfdLogs : List NamedLog) (ospfResults bfdResults : List DetectionResult) :
    (parseDetectionLog ospfLog = .ok ospf → parseDetectionLog bfdLog = .ok bfd →
      checkComparable ospf bfd = .ok () →
      ((∃ document, buildComparison ospfLog bfdLog = .ok document ∧
        validateExperimentEvidence document = .ok ()) ↔
        ospf.observedDetectionUpperBoundMs ≠ 0 ∧ ospf.Exportable ∧ bfd.Exportable)) ∧
    (RepeatedLogs ospfLogs bfdLogs ospfResults bfdResults →
      ((∃ document, buildRepeatedEvidence ospfLogs bfdLogs = .ok document ∧
          validateRepeatedExperimentEvidence document = .ok ()) ↔
        2 * ospfResults.countP (fun parsed => parsed.observedDetectionUpperBoundMs = 0) ≤ ospfResults.length ∧
          (DetectionFits ospfResults ∧ LostFits ospfResults) ∧ DetectionFits bfdResults ∧
          LostFits bfdResults)) :=
  ⟨fun hospf hbfd hchecks => comparison_feeds_metrics_iff hospf hbfd hchecks,
    fun h => repeated_feeds_metrics_iff h⟩

def bfdLog : String := sampleLog "bfd_100x3" [["1234 10.0.1.0 10.0.1.1 up -"], replyLine "100.4" "2" "60"]

/-- A log whose first reply on the other path came with the fault itself. -/
def instantLog : String := sampleLog "ospf_only" [replyLine "100.1" "2" "60"]

def readFigures (log : String) : Option ((String × String × Bool) × ℤ × ℤ × WithTop ℚ) :=
  (parseDetectionLog log).toOption.map fun parsed =>
    ((parsed.profile, parsed.configurationSha256, parsed.bfdPeerUp), parsed.observedDetectionUpperBoundMs,
      parsed.packetsLostUntilFailover, parsed.capturePacketLossPercent)

theorem orderedLog_figures :
    readFigures orderedLog = some (("ospf_only", "abc", false), 3900, 2, ((50 : ℚ) : WithTop ℚ)) := by
  rw [readFigures, parseDetectionLog, scanLog, orderedLog, sampleLog, logOfLines, String.toList_ofList]
  decide +kernel

theorem bfdLog_figures : readFigures bfdLog = some (("bfd_100x3", "abc", true), 300, 0,
    ((50 : ℚ) : WithTop ℚ)) := by
  rw [readFigures, parseDetectionLog, scanLog, bfdLog, sampleLog, logOfLines, String.toList_ofList]
  decide +kernel

theorem instantLog_figures :
    readFigures instantLog = some (("ospf_only", "abc", false), 0, 0, ((50 : ℚ) : WithTop ℚ)) := by
  rw [readFigures, parseDetectionLog, scanLog, instantLog, sampleLog, logOfLines, String.toList_ofList]
  decide +kernel

theorem readFigures_some {log profile sha256 : String} {up : Bool} {detection lost : ℤ} {loss : WithTop ℚ}
    (h : readFigures log = some ((profile, sha256, up), detection, lost, loss)) :
    ∃ parsed, parseDetectionLog log = .ok parsed ∧
    (parsed.profile = profile ∧ parsed.configurationSha256 = sha256 ∧
      parsed.bfdPeerUp = up) ∧ parsed.observedDetectionUpperBoundMs = detection ∧
        parsed.packetsLostUntilFailover = lost ∧ parsed.capturePacketLossPercent = loss := by
  obtain ⟨parsed, hparsed, hfigures⟩ := exists_ok h
  simp only [Prod.mk.injEq] at hfigures
  exact ⟨parsed, hparsed, hfigures⟩

theorem floatLimit_large : 10000 < floatLimit := by decide +kernel

theorem exportable_of_figures {parsed : DetectionResult} {detection lost : ℤ}
    (hdetection : parsed.observedDetectionUpperBoundMs = detection)
    (hlost : parsed.packetsLostUntilFailover = lost) (hloss : parsed.capturePacketLossPercent = (50 : ℚ))
    (hsmall : detection < 10000 ∧ lost < 10000) : parsed.Exportable := by
  rw [DetectionResult.Exportable, hdetection, hlost, hloss]
  exact ⟨hsmall.1.trans floatLimit_large, hsmall.2.trans floatLimit_large,
    WithTop.coe_le_coe.mpr (by norm_num)⟩

theorem parsed_copies {logs : List NamedLog} {parsed : DetectionResult}
    (h : ∀ log ∈ logs, Parsed log parsed) :
    List.Forall₂ Parsed logs (List.replicate logs.length parsed) := by
  induction logs with
  | nil => exact .nil
  | cons log logs ih =>
    obtain ⟨hlog, hlogs⟩ := List.forall_mem_cons.mp h
    exact .cons hlog (ih hlogs)

theorem RepeatedLogs.of_copies {ospfLogs bfdLogs : List NamedLog} {ospf bfd : DetectionResult}
    {sha256 : String} (hospf : ∀ log ∈ ospfLogs, Parsed log ospf) (hbfd : ∀ log ∈ bfdLogs, Parsed log bfd)
    (hlengths : checkLengths ospfLogs bfdLogs = .ok ())
    (hospfFigures : ospf.profile = "ospf_only" ∧ ospf.configurationSha256 = sha256 ∧ ospf.bfdPeerUp = false)
    (hbfdFigures : bfd.profile = "bfd_100x3" ∧ bfd.configurationSha256 = sha256 ∧ bfd.bfdPeerUp = true) :
    RepeatedLogs ospfLogs bfdLogs (List.replicate ospfLogs.length ospf)
      (List.replicate bfdLogs.length bfd) where
  ospfParsed := parsed_copies hospf
  bfdParsed := parsed_copies hbfd
  lengths := hlengths
  oneConfiguration := by
    refine ⟨sha256, fun parsed hparsed => ?_, fun parsed hparsed => ?_⟩
    · obtain rfl := List.eq_of_mem_replicate hparsed
      obtain ⟨hprofile, hsha, hdown⟩ := hospfFigures
      simp [checkTrial, hprofile, hsha, hdown]
    · obtain rfl := List.eq_of_mem_replicate hparsed
      obtain ⟨hprofile, hsha, hup⟩ := hbfdFigures
      simp [checkTrial, hprofile, hsha, hup]

theorem evidence_feeds_consumers_ordered :
    (∃ document, buildComparison orderedLog bfdLog = .ok document ∧
      validateExperimentEvidence document = .ok ()) ∧
      ∃ document, buildRepeatedEvidence (List.replicate 20 ("ospf_only/trial.log", orderedLog))
          (List.replicate 20 ("bfd_100x3/trial.log", bfdLog)) = .ok document ∧
        validateRepeatedExperimentEvidence document = .ok () := by
  obtain ⟨ospf, hospf, ⟨hprofile, hsha, hdown⟩, hdetection, hlost, hloss⟩ :=
    readFigures_some orderedLog_figures
  obtain ⟨bfd, hbfd, ⟨hbfdProfile, hbfdSha, hup⟩, hbfdDetection, hbfdLost, hbfdLoss⟩ :=
    readFigures_some bfdLog_figures
  have hospfExportable := exportable_of_figures hdetection hlost hloss (by decide)
  have hbfdExportable := exportable_of_figures hbfdDetection hbfdLost hbfdLoss (by decide)
  have hcomparable : checkComparable ospf bfd = .ok () :=
    (checkComparable_ok_iff ospf bfd).mpr ⟨hprofile, hbfdProfile, hsha.trans hbfdSha.symm, hdown, hup⟩
  have hfeeds := evidence_feeds_consumers_iff orderedLog bfdLog ospf bfd
    (List.replicate 20 ("ospf_only/trial.log", orderedLog))
    (List.replicate 20 ("bfd_100x3/trial.log", bfdLog)) (List.replicate 20 ospf) (List.replicate 20 bfd)
  refine ⟨(hfeeds.1 hospf hbfd hcomparable).mpr ?_, (hfeeds.2 ?_).mpr ?_⟩
  · exact ⟨by rw [hdetection]; decide, hospfExportable, hbfdExportable⟩
  · have hospfParsed : ∀ log ∈ List.replicate 20 ("ospf_only/trial.log", orderedLog), Parsed log ospf :=
      fun log hlog => List.eq_of_mem_replicate hlog ▸ hospf
    have hbfdParsed : ∀ log ∈ List.replicate 20 ("bfd_100x3/trial.log", bfdLog), Parsed log bfd :=
      fun log hlog => List.eq_of_mem_replicate hlog ▸ hbfd
    exact RepeatedLogs.of_copies hospfParsed hbfdParsed (by simp [checkLengths]) ⟨hprofile, hsha, hdown⟩
      ⟨hbfdProfile, hbfdSha, hup⟩
  · have hospfAll : ∀ parsed ∈ List.replicate 20 ospf, parsed.Exportable := fun parsed hparsed =>
      List.eq_of_mem_replicate hparsed ▸ hospfExportable
    have hbfdAll : ∀ parsed ∈ List.replicate 20 bfd, parsed.Exportable := fun parsed hparsed =>
      List.eq_of_mem_replicate hparsed ▸ hbfdExportable
    refine ⟨?_, ⟨fun parsed h => (hospfAll parsed h).1, lostFits_of_range (by simp) fun parsed h =>
      (hospfAll parsed h).2.1⟩, fun parsed h => (hbfdAll parsed h).1,
      lostFits_of_range (by simp) fun parsed h => (hbfdAll parsed h).2.1⟩
    rw [List.countP_replicate, if_neg (by simp [hdetection])]
    exact Nat.zero_le _

/-- A failover that is observed with the fault leaves nothing to divide by. -/
theorem instant_failover_divides_by_zero : ∃ ospf bfd, parseDetectionLog instantLog = .ok ospf ∧
    parseDetectionLog bfdLog = .ok bfd ∧ checkComparable ospf bfd = .ok () ∧
      buildComparison instantLog bfdLog = .error (.zeroDivisionError "division by zero") := by
  obtain ⟨ospf, hospf, ⟨hprofile, hsha, hdown⟩, hdetection, -⟩ := readFigures_some instantLog_figures
  obtain ⟨bfd, hbfd, ⟨hbfdProfile, hbfdSha, hup⟩, -⟩ := readFigures_some bfdLog_figures
  have hcomparable : checkComparable ospf bfd = .ok () :=
    (checkComparable_ok_iff ospf bfd).mpr ⟨hprofile, hbfdProfile, hsha.trans hbfdSha.symm, hdown, hup⟩
  refine ⟨ospf, bfd, hospf, hbfd, hcomparable, ?_⟩
  rw [buildComparison, hospf, ok_bind, hbfd, ok_bind, hcomparable, ok_bind, hdetection]
  rfl

end TelconetSentinel
