import TelconetSentinel.PublishedState

namespace TelconetSentinel

open TopRetention KeyedLists

/-- One request from its arrival to its answer, with no other request in between. -/
def ingestTelemetrySnapshot (binding : TelemetryTopologyBinding) (serverNow : DateTime)
    (store : TelemetryStore) (snapshot : TelemetrySnapshot) : IngestPhase × TelemetryStore :=
  (fun c => ingestStep binding snapshot serverNow c.1 c.2)^[4] (.received, store)

inductive ReachableByIngest (binding : TelemetryTopologyBinding) : TelemetryStore → Prop
  | init (capacity : ℕ) (store : TelemetryStore) (h : TelemetryStore.init capacity = .ok store) :
    ReachableByIngest binding store
  | ingest (store : TelemetryStore) (snapshot : TelemetrySnapshot) (serverNow : DateTime)
    (h : ReachableByIngest binding store) :
    ReachableByIngest binding (ingestTelemetrySnapshot binding serverNow store snapshot).2

section Retries

variable {binding : TelemetryTopologyBinding} {serverNow : DateTime} {store : TelemetryStore}
variable {snapshot : TelemetrySnapshot}

def Validated (binding : TelemetryTopologyBinding) (store : TelemetryStore) : Prop :=
  ∀ s ∈ store.snapshots, validateTelemetrySnapshot s binding = .ok ()

structure RequestSound (binding : TelemetryTopologyBinding) (snapshot : TelemetrySnapshot)
    (c : IngestPhase × TelemetryStore) : Prop where
  store : Validated binding c.2
  phase : c.1 = .validated ∨ c.1 = .checked → validateTelemetrySnapshot snapshot binding = .ok ()

theorem requestSound_step (c : IngestPhase × TelemetryStore) (h : RequestSound binding snapshot c) :
    RequestSound binding snapshot (ingestStep binding snapshot serverNow c.1 c.2) := by
  obtain ⟨phase, store⟩ := c
  obtain ⟨hstore, hphase⟩ := h
  have hstep := ingestStep_stepped binding snapshot serverNow phase store
  dsimp only at hstore hphase ⊢
  generalize ingestStep binding snapshot serverNow phase store = next at hstep ⊢
  obtain ⟨phase', store'⟩ := next
  cases hstep with
  | valid _ hvalid => exact ⟨hstore, fun _ => ((validateTelemetryIngest_ok_iff _ _ _).mp hvalid).2⟩
  | newer => exact ⟨hstore, fun _ => hphase (Or.inl rfl)⟩
  | saved _ hnew _ =>
    refine ⟨fun s hs => ?_, fun _ => hphase (Or.inr rfl)⟩
    rcases (store.insert_isTop snapshot hnew).subset s hs with rfl | hs
    · exact hphase (Or.inr rfl)
    · exact hstore s hs
  | invalid | notNewer | differs | repeated | tooOld | retry | outside | finished =>
    exact ⟨hstore, by simp⟩

theorem ReachableByIngest.validated (h : ReachableByIngest binding store) : Validated binding store := by
  induction h with
  | init capacity store h =>
    unfold TelemetryStore.init at h
    split_ifs at h
    obtain rfl := Except.ok.inj h
    exact fun s hs => absurd hs List.not_mem_nil
  | ingest store snapshot serverNow _ ih =>
    have hstart : RequestSound binding snapshot (.received, store) := ⟨ih, by simp⟩
    exact (Function.Iterate.rec (RequestSound binding snapshot) hstart requestSound_step 4).store

theorem ingestStep_invalid {e : Exn} (h : validateTelemetryIngest snapshot binding serverNow = .error e) :
    ingestStep binding snapshot serverNow .received store = (.answered (answerError e), store) := by
  rw [ingestStep, h]
  rfl

theorem ingestStep_valid (h : validateTelemetryIngest snapshot binding serverNow = .ok ()) :
    ingestStep binding snapshot serverNow .received store = (.validated, store) := by
  rw [ingestStep, h]
  rfl

theorem ingest_eq : ingestTelemetrySnapshot binding serverNow store snapshot =
    (fun c => ingestStep binding snapshot serverNow c.1 c.2)^[3]
      (ingestStep binding snapshot serverNow .received store) :=
  Function.iterate_succ_apply _ 3 _

theorem answered_iterate (n : ℕ) (answer : IngestAnswer) :
    (fun c : IngestPhase × TelemetryStore => ingestStep binding snapshot serverNow c.1 c.2)^[n]
      (.answered answer, store) = (.answered answer, store) :=
  Function.iterate_fixed rfl n

theorem notNewer_of_retained (hs : snapshot ∈ store.snapshots)
    (hfp : snapshot.topologyFingerprint = binding.fingerprint)
    (hlatest : store.latest binding.fingerprint ≠ some snapshot) :
    NotNewer (store.latest binding.fingerprint) snapshot := by
  have hmem : snapshot ∈ TelemetryStore.matching binding.fingerprint store.snapshots :=
    mem_matching.mpr ⟨hs, hfp⟩
  cases h : store.latest binding.fingerprint with
  | none =>
    have hnil := List.argmax_eq_none.mp h
    rw [hnil] at hmem
    exact absurd hmem List.not_mem_nil
  | some current =>
    have hcurrent := mem_matching.mp (List.argmax_mem h)
    have hle : sortKey snapshot ≤ sortKey current := List.le_of_mem_argmax hmem h
    refine ⟨current, rfl, fun hid => hlatest ?_, ?_⟩
    · rw [h, key_inj store.ids_nodup hcurrent.1 hs hid]
    · exact (Prod.Lex.toLex_le_toLex.mp hle).elim le_of_lt fun heq => heq.1.le

theorem retry_of_latest (hs : snapshot ∈ store.snapshots)
    (hfp : snapshot.topologyFingerprint = binding.fingerprint)
    (hlatest : store.latest binding.fingerprint = some snapshot) :
    (fun c : IngestPhase × TelemetryStore => ingestStep binding snapshot serverNow c.1 c.2)^[3]
      (.validated, store) =
      (.answered (.retained snapshot), store) := by
  have hnewer : ¬ NotNewer (store.latest binding.fingerprint) snapshot := by
    rw [hlatest]
    rintro ⟨current, hcurrent, hne, -⟩
    exact hne (congrArg TelemetrySnapshot.snapshotId (Option.some.inj hcurrent).symm)
  have hsave : store.save snapshot = .ok (false, store) := by
    rcases store.save_cases snapshot with ⟨s, hm, hid, hne, -⟩ | ⟨-, hr⟩ | ⟨hnew, -⟩ | ⟨hnew, -⟩
    · exact absurd (key_inj store.ids_nodup hm hs hid) hne
    · exact hr
    · exact absurd (List.mem_map_of_mem hs) hnew
    · exact absurd (List.mem_map_of_mem hs) hnew
  have hretry : RetainedRetry (store.recent binding.fingerprint) snapshot :=
    ⟨snapshot, (mem_descending _ _ _).mpr (mem_matching.mpr ⟨hs, hfp⟩), rfl⟩
  have h1 : ingestStep binding snapshot serverNow .validated store = (.checked, store) := if_neg hnewer
  have h2 : ingestStep binding snapshot serverNow .checked store = (.refused, store) := by
    rw [ingestStep, hsave]
  have h3 : ingestStep binding snapshot serverNow .refused store = (.answered (.retained snapshot), store) :=
    if_pos hretry
  simp only [Function.iterate_succ_apply, Function.iterate_zero, id_eq, h1, h2, h3]

theorem retry_safe_iff_latest (binding : TelemetryTopologyBinding) (store : TelemetryStore)
    (hreach : ReachableByIngest binding store) (snapshot : TelemetrySnapshot)
    (hs : snapshot ∈ store.snapshots) (hfp : snapshot.topologyFingerprint = binding.fingerprint)
    (serverNow : DateTime) :
    ((∃ answer, (ingestTelemetrySnapshot binding serverNow store snapshot).1 = .answered answer ∧
      answer.status = 200) ∧ (ingestTelemetrySnapshot binding serverNow store snapshot).2 = store) ↔
    store.latest binding.fingerprint = some snapshot ∧ WithinSkew snapshot serverNow := by
  have hvalid := hreach.validated snapshot hs
  rw [ingest_eq]
  cases hv : validateTelemetryIngest snapshot binding serverNow with
  | error e =>
    rw [ingestStep_invalid hv, answered_iterate]
    constructor
    · rintro ⟨⟨answer, hanswer, hstatus⟩, -⟩
      obtain rfl := IngestPhase.answered.inj hanswer
      cases e <;> simp [answerError, IngestAnswer.status] at hstatus
    · rintro ⟨-, hskew⟩
      rw [(validateTelemetryIngest_ok_iff _ _ _).mpr ⟨hskew, hvalid⟩] at hv
      cases hv
  | ok _ =>
    have hskew := ((validateTelemetryIngest_ok_iff _ _ _).mp hv).1
    rw [ingestStep_valid hv]
    by_cases hlatest : store.latest binding.fingerprint = some snapshot
    · rw [retry_of_latest hs hfp hlatest]
      exact ⟨fun _ => ⟨hlatest, hskew⟩, fun _ => ⟨⟨_, rfl, rfl⟩, rfl⟩⟩
    · have hguard : ingestStep binding snapshot serverNow .validated store = (.answered (.conflict
          "telemetry snapshot is not newer than the current snapshot"), store) :=
        if_pos (notNewer_of_retained hs hfp hlatest)
      rw [Function.iterate_succ_apply, hguard, answered_iterate]
      constructor
      · rintro ⟨⟨answer, hanswer, hstatus⟩, -⟩
        obtain rfl := IngestPhase.answered.inj hanswer
        cases hstatus
      · rintro ⟨h, -⟩
        exact absurd h hlatest

end Retries

def emptyStore : TelemetryStore := ⟨3, [], by decide, by decide, by decide⟩

def afterFirst : TelemetryStore :=
  (ingestTelemetrySnapshot labBinding (TelemetrySnapshot.unanswered "s5" 5 s5_valid five_lt_sixty).observedAt
    emptyStore (.unanswered "s5" 5 s5_valid five_lt_sixty)).2

def afterSecond : TelemetryStore :=
  (ingestTelemetrySnapshot labBinding (TelemetrySnapshot.unanswered "s9" 9).observedAt afterFirst
    (.unanswered "s9" 9)).2

theorem afterFirst_reachable : ReachableByIngest labBinding afterFirst :=
  .ingest _ _ _ (.init 3 emptyStore rfl)

theorem retry_safe_iff_latest_first :
    (ingestTelemetrySnapshot labBinding (TelemetrySnapshot.unanswered "s5" 5).observedAt afterFirst
      (.unanswered "s5" 5)).2 = afterFirst :=
  ((retry_safe_iff_latest labBinding afterFirst afterFirst_reachable (.unanswered "s5" 5)
    (by decide +kernel) rfl (TelemetrySnapshot.unanswered "s5" 5).observedAt).mpr
      ⟨by decide +kernel, ((validateTelemetryIngest_ok_iff _ labBinding _).mp (by decide +kernel)).1⟩).2

theorem retry_after_newer_rejected : ReachableByIngest labBinding afterSecond ∧
    .unanswered "s5" 5 ∈ afterSecond.snapshots ∧
    ¬ ∃ answer, (ingestTelemetrySnapshot labBinding (TelemetrySnapshot.unanswered "s9" 9).observedAt
      afterSecond (.unanswered "s5" 5)).1 = .answered answer ∧ answer.status = 200 := by
  refine ⟨.ingest _ _ _ afterFirst_reachable, by decide +kernel, ?_⟩
  rintro ⟨answer, hanswer, hstatus⟩
  have hconflict : (ingestTelemetrySnapshot labBinding (TelemetrySnapshot.unanswered "s9" 9).observedAt
      afterSecond (.unanswered "s5" 5)).1 =
        .answered (.conflict "telemetry snapshot is not newer than the current snapshot") := by
    decide +kernel
  obtain rfl := IngestPhase.answered.inj (hconflict.symm.trans hanswer)
  cases hstatus

end TelconetSentinel
