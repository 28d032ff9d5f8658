import TelconetSentinel.DetectionLog
import TelconetSentinel.PythonNumbers

namespace TelconetSentinel

open BinaryFloats DocumentValues FallibleLists

def object (entries : List (String × Value)) : Value :=
  .dict (entries.map fun entry => (.str entry.1, entry.2))

def StateBlock.document (state : StateBlock) : Value :=
  object (("path", .list (state.path.map .str)) ::
    (state.ospfMetric.map fun metric => ("ospf_metric", .int metric)).toList)

namespace DetectionResult

def document (result : DetectionResult) : Value := object [
  ("profile", .str result.profile),
  ("detector", .str result.detector),
  ("configured_detection_ms", .int result.configuredDetectionMs),
  ("capture_started_at", .str result.captureStartedAt),
  ("configuration_sha256", .str result.configurationSha256),
  ("bfd_peer_up", .bool result.bfdPeerUp),
  ("observed_detection_upper_bound_ms", .int result.observedDetectionUpperBoundMs),
  ("packets_lost_until_failover", .int result.packetsLostUntilFailover),
  ("capture_packet_loss_percent", .float (.ofExtended result.capturePacketLossPercent)),
  ("packets_transmitted", .int result.packetsTransmitted),
  ("packets_received", .int result.packetsReceived),
  ("baseline", result.baseline.document),
  ("failover", result.failover.document),
  ("fault", object [
    ("mode", .str "remote_packet_blackhole"),
    ("event_epoch_ns", .int result.fault.eventEpochNs),
    ("first_changed_sequence", .int result.fault.firstChangedSequence),
    ("first_changed_reply_epoch_ns", .int result.fault.firstChangedReplyEpochNs)])]

end DetectionResult

def reductionPercent (before after : ℤ) : Result Float64 := do
  let quotient ← trueDivision (before - after) before
  return (Float64.finite quotient).percent.roundTwo

def lostReductionPercent (before after : ℤ) : Result Float64 :=
  if before ≠ 0 then reductionPercent before after else .ok (.finite 0)

def checkComparable (ospf bfd : DetectionResult) : Result Unit :=
  if ospf.profile ≠ "ospf_only" ∨ bfd.profile ≠ "bfd_100x3" then
    .error (.valueError "comparison requires ospf_only and bfd_100x3 profiles")
  else if ospf.configurationSha256 ≠ bfd.configurationSha256 then
    .error (.valueError "comparison logs must use the same base configuration")
  else if ospf.bfdPeerUp = true then .error (.valueError "ospf_only profile must not have an up BFD peer")
  else if ¬ bfd.bfdPeerUp = true then
    .error (.valueError "bfd_100x3 profile requires an observed up BFD peer")
  else .ok ()

def comparisonDocument (ospf bfd : DetectionResult) (detectionReduction lostReduction : Float64) :
    Value := object [
  ("scenario", .str "remote_access_uplink_blackhole"),
  ("source", .str "containerlab_observation"),
  ("measured", .bool true),
  ("profiles", object [("ospf_only", ospf.document), ("bfd_100x3", bfd.document)]),
  ("improvement", object [
    ("detection_time_reduction_percent", .float detectionReduction),
    ("lost_packets_until_failover_reduction_percent", .float lostReduction)]),
  ("limitations", .list [
    .str "The fault is emulated with tc netem in local Linux namespaces.",
    .str "Event markers precede tc commands, so observed bounds include command overhead.",
    .str "Results are a controlled comparison and are not production-network SLOs."])]

def buildComparison (ospfLog bfdLog : String) : Result Value := do
  let ospf ← parseDetectionLog ospfLog
  let bfd ← parseDetectionLog bfdLog
  checkComparable ospf bfd
  let detectionReduction ← reductionPercent ospf.observedDetectionUpperBoundMs
    bfd.observedDetectionUpperBoundMs
  let lostReduction ← lostReductionPercent ospf.packetsLostUntilFailover bfd.packetsLostUntilFailover
  return comparisonDocument ospf bfd detectionReduction lostReduction

theorem checkComparable_ok_iff (ospf bfd : DetectionResult) : checkComparable ospf bfd = .ok () ↔
    ospf.profile = "ospf_only" ∧ bfd.profile = "bfd_100x3" ∧
    ospf.configurationSha256 = bfd.configurationSha256 ∧
      ospf.bfdPeerUp = false ∧ bfd.bfdPeerUp = true := by
  simp only [checkComparable, check_ok_iff, not_or, not_not, Bool.not_eq_true, Bool.not_eq_false, and_true,
    and_assoc]

/-- Of numbers that have floats only a zero before leaves no percentage. -/
theorem reductionPercent_ok_iff {before after : ℤ} (hbefore : 0 ≤ before ∧ before < floatLimit)
    (hafter : 0 ≤ after ∧ after < floatLimit) : (∃ x, reductionPercent before after = .ok x) ↔
      before ≠ 0 := by
  constructor
  · rintro ⟨x, h⟩ rfl
    obtain ⟨quotient, h, -⟩ := (bind_ok_iff _ _ _).mp h
    simp [trueDivision] at h
  · intro hne
    have hpos : 0 < before := hbefore.1.lt_of_ne' hne
    have hle : floatLimit ≤ floatLimit * before :=
      le_mul_of_one_le_right (hbefore.1.trans hbefore.2.le) (Int.add_one_le_of_lt hpos)
    have hdifference : |before - after| < floatLimit := by
      rw [abs_lt]
      omega
    obtain ⟨quotient, hquotient⟩ := (exists_trueDivision_iff hne).mpr
      ((abs_div_lt_limit_iff (a := before - after) hpos).mpr (hdifference.trans_le hle))
    exact ⟨_, (bind_ok_iff _ _ _).mpr ⟨quotient, hquotient, rfl⟩⟩

theorem lostReductionPercent_ok {before after : ℤ} (hbefore : 0 ≤ before ∧ before < floatLimit)
    (hafter : 0 ≤ after ∧ after < floatLimit) : ∃ x, lostReductionPercent before after = .ok x := by
  unfold lostReductionPercent
  split_ifs with hne
  · exact (reductionPercent_ok_iff hbefore hafter).mpr hne
  · exact ⟨_, rfl⟩

end TelconetSentinel
