import TelconetSentinel.DetectionLog

namespace TelconetSentinel

open FallibleLists KeyedLists PythonText

structure FailoverWindow where
  replies : List PingReply
  lastSequence : ℤ
  changedSequence : ℤ
  deriving DecidableEq, Repr

namespace FailoverWindow

noncomputable def missing (window : FailoverWindow) : Finset ℤ :=
  (Finset.Ioc window.lastSequence window.changedSequence).filter fun sequence =>
    sequence ∉ window.replies.map PingReply.sequence

def received (window : FailoverWindow) : List ℤ :=
  (window.replies.map PingReply.sequence).filter (· ≤ window.changedSequence)

/-- No reply comes twice, and none belongs to a request from before the fault. -/
def InOrder (window : FailoverWindow) : Prop :=
  window.received.Nodup ∧ ∀ sequence ∈ window.received, window.lastSequence < sequence

instance (window : FailoverWindow) : Decidable window.InOrder := inferInstanceAs (Decidable (_ ∧ _))

theorem missing_eq (window : FailoverWindow) :
    window.missing = Finset.Ioc window.lastSequence window.changedSequence \
      window.received.toFinset.filter (window.lastSequence < ·) := by
  ext sequence
  simp only [missing, received, Finset.mem_filter, Finset.mem_Ioc, Finset.mem_sdiff, List.mem_toFinset,
    List.mem_filter, decide_eq_true_eq]
  tauto

theorem card_missing (window : FailoverWindow) :
    (window.missing.card : ℤ) = (window.changedSequence - window.lastSequence).toNat -
      (window.received.toFinset.filter (window.lastSequence < ·)).card := by
  have hsub : window.received.toFinset.filter (window.lastSequence < ·) ⊆
      Finset.Ioc window.lastSequence window.changedSequence := by
    intro sequence h
    simp only [received, Finset.mem_filter, List.mem_toFinset, List.mem_filter, decide_eq_true_eq] at h
    exact Finset.mem_Ioc.mpr ⟨h.2, h.1.2⟩
  rw [missing_eq, Finset.card_sdiff_of_subset hsub, Nat.cast_sub (Finset.card_le_card hsub), Int.card_Ioc]

/-- Subtracting the number of replies counts the missing sequence numbers exactly when the replies are in
order. -/
theorem subtraction_exact_iff (window : FailoverWindow)
    (hnonneg : 0 ≤ window.changedSequence - window.lastSequence - window.received.length) :
    window.changedSequence - window.lastSequence - window.received.length = window.missing.card ↔
    window.InOrder := by
  have hiff := card_filter_toFinset_eq_length_iff window.received (window.lastSequence < ·)
  have hcard := window.card_missing
  rw [InOrder, ← hiff]
  omega

end FailoverWindow

def failoverWindow (log : String) : Result FailoverWindow := do
  let complete ← (← scanLog log).complete
  let (last, changedReply) ← complete.transition
  let replies := (splitlines log.toList).zipIdx.filterMap replyOf
  return {
    replies := replies.filter fun reply =>
      complete.start.lineIndex < reply.lineIndex ∧ reply.lineIndex < complete.stop.lineIndex
    lastSequence := last.sequence
    changedSequence := changedReply.sequence }

theorem packets_lost_exact_iff {log : String} {result : DetectionResult}
    (h : parseDetectionLog log = .ok result) :
    ∃ window, failoverWindow log = .ok window ∧
      (result.packetsLostUntilFailover = window.missing.card ↔ window.InOrder) := by
  obtain ⟨scan, complete, last, changedReply, hscan, hcomplete, htransition, hreport⟩ :=
    parseDetectionLog_ok h
  let window : FailoverWindow := ⟨complete.repliesDuring, last.sequence, changedReply.sequence⟩
  have hwindow : failoverWindow log = .ok window := by
    rw [failoverWindow, hscan, ok_bind, hcomplete, ok_bind, htransition, ok_bind, ← scanLog_replies hscan,
      ← LogScan.complete_replies hcomplete]
    rfl
  refine ⟨window, hwindow, ?_⟩
  have hreceived : complete.receivedUntilFailover changedReply = window.received.length := by
    rw [CompleteLog.receivedUntilFailover, FailoverWindow.received, List.filter_map, List.length_map,
      List.countP_eq_length_filter]
    rfl
  have hlost : result.packetsLostUntilFailover =
      window.changedSequence - window.lastSequence - window.received.length := by
    rw [CompleteLog.report_ok hreport, CompleteLog.lostUntilFailover, hreceived]
  rw [hlost]
  exact window.subtraction_exact_iff (hlost ▸ result.lost_nonneg)

def logOfLines (lines : List (List String)) : String :=
  String.ofList (lines.flatMap fun pieces => pieces.flatMap String.toList ++ ['\n'])

def replyLine (seconds sequence ttl : String) : List String :=
  ["[", seconds, "] icmp_seq=", sequence, " ttl=", ttl, " time=0 ms"]

def sampleLog (profile : String) (during : List (List String)) : String := logOfLines ([
  ["TELCONET_DETECTION_MEASUREMENT ", "profile=", profile, " detector=timer configured_detection_ms=4000 ",
    "capture_started_at=13:00 configuration_sha256=abc"],
  ["STATE_BEGIN name=", "baseline"],
  ["STATE_BEGIN name=", "failover"],
  replyLine "100.0" "1" "61",
  ["EVENT type=blackhole_", "start", " epoch_ns=", "100100000000"]] ++ during ++ [
  ["EVENT type=blackhole_", "end", " epoch_ns=", "105000000000"],
  ["6 packets transmitted, 3 received, 50% packet loss"]])

def orderedLog : String := sampleLog "ospf_only" [replyLine "100.2" "2" "61", replyLine "104.0" "5" "60"]

def duplicateLog : String := sampleLog "ospf_only"
  [replyLine "100.2" "2" "61", replyLine "100.3" "2" "61", replyLine "104.0" "5" "60"]

theorem orderedLog_read :
    (parseDetectionLog orderedLog).toOption.map DetectionResult.packetsLostUntilFailover = some 2 ∧
      failoverWindow orderedLog = .ok ⟨[⟨5, 2, 61, 100200000000⟩, ⟨6, 5, 60, 104000000000⟩], 1, 5⟩ := by
  rw [parseDetectionLog, failoverWindow, scanLog, orderedLog, sampleLog, logOfLines, String.toList_ofList]
  decide +kernel

theorem packets_lost_exact_ordered : ∃ result window, parseDetectionLog orderedLog = .ok result ∧
    failoverWindow orderedLog = .ok window ∧ window.InOrder ∧
    result.packetsLostUntilFailover = window.missing.card := by
  obtain ⟨hlost, hread⟩ := orderedLog_read
  obtain ⟨result, hresult, -⟩ := exists_ok hlost
  obtain ⟨window, hwindow, hexact⟩ := packets_lost_exact_iff hresult
  have horder : window.InOrder := by
    obtain rfl := Except.ok.inj (hread.symm.trans hwindow)
    decide
  exact ⟨result, window, hresult, hwindow, horder, hexact.mpr horder⟩

theorem duplicateLog_read :
    (parseDetectionLog duplicateLog).toOption.map DetectionResult.packetsLostUntilFailover = some 1 ∧
      failoverWindow duplicateLog =
        .ok ⟨[⟨5, 2, 61, 100200000000⟩, ⟨6, 2, 61, 100300000000⟩, ⟨7, 5, 60, 104000000000⟩], 1, 5⟩ := by
  rw [parseDetectionLog, failoverWindow, scanLog, duplicateLog, sampleLog, logOfLines, String.toList_ofList]
  decide +kernel

/-- Of the sequence numbers 2 to 5 the log lacks 3 and 4, but its second reply to 2 hides one of them. -/
theorem duplicate_reply_hides_loss : ∃ result window, parseDetectionLog duplicateLog = .ok result ∧
    failoverWindow duplicateLog = .ok window ∧ result.packetsLostUntilFailover = 1 ∧
    window.missing.card = 2 := by
  obtain ⟨hlost, hread⟩ := duplicateLog_read
  obtain ⟨result, hresult, hone⟩ := exists_ok hlost
  refine ⟨result, _, hresult, hread, hone, ?_⟩
  decide

end TelconetSentinel
