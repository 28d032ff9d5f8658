import TelconetSentinel.TelemetryIngest

namespace TelconetSentinel

open TopRetention Interleaving

variable {ι : Type} [DecidableEq ι] (binding : TelemetryTopologyBinding) (submitted : ι → TelemetrySnapshot)
variable (clock : ι → DateTime) (initial : TelemetryStore)

def ingestRun (schedule : List ι) : Config ι IngestPhase TelemetryStore :=
  run (ingestAll binding submitted clock) (ingestStart initial) schedule

theorem ingestRun_concat (schedule : List ι) (i : ι) :
    ingestRun binding submitted clock initial (schedule ++ [i]) =
    advance (ingestAll binding submitted clock) (ingestRun binding submitted clock initial schedule) i :=
  run_concat _ schedule i

/-- The snapshots initially present, and those whose save returned true. -/
def acceptedSnapshots (locals : ι → IngestPhase) : Set TelemetrySnapshot :=
  {s | s ∈ initial.snapshots ∨ ∃ i, locals i = .answered (.created s)}

def publishedSnapshots (locals : ι → IngestPhase) : Set TelemetrySnapshot :=
  {s | s ∈ acceptedSnapshots initial locals ∧ s.topologyFingerprint = binding.fingerprint}

structure Coherent (c : Config ι IngestPhase TelemetryStore) : Prop where
  bound : ∀ i, c.locals i = .validated ∨ c.locals i = .checked →
    (submitted i).topologyFingerprint = binding.fingerprint
  capacity_eq : c.shared.capacity = initial.capacity
  isTop : IsTop sortKey initial.capacity (acceptedSnapshots initial c.locals) c.shared.snapshots
  present : (publishedSnapshots binding initial c.locals).Nonempty →
    ∃ s ∈ c.shared.snapshots, s.topologyFingerprint = binding.fingerprint

omit [DecidableEq ι] in
theorem coherent_start : Coherent binding submitted initial (ingestStart initial) where
  bound i h := by
    rcases h with h | h <;> cases h
  capacity_eq := rfl
  isTop := by
    have hset : acceptedSnapshots initial (fun _ : ι => .received) = {s | s ∈ initial.snapshots} := by
      ext s
      simp [acceptedSnapshots]
    unfold ingestStart
    rw [hset]
    exact isTop_self (nodup_sortKeys initial.ids_nodup) initial.within
  present := by
    rintro ⟨s, hs | ⟨i, hi⟩, hfp⟩
    · exact ⟨s, hs, hfp⟩
    · cases hi

variable {binding submitted initial} {locals : ι → IngestPhase} {store : TelemetryStore}

theorem acceptedSnapshots_update {i : ι} {phase : IngestPhase}
    (h : ∀ s, locals i = .answered (.created s) ↔ phase = .answered (.created s)) :
    acceptedSnapshots initial (Function.update locals i phase) = acceptedSnapshots initial locals := by
  ext s
  refine or_congr_right (exists_congr fun j => ?_)
  by_cases hj : j = i
  · rw [hj, Function.update_self, h]
  · rw [Function.update_of_ne hj]

theorem Coherent.quiet (hc : Coherent binding submitted initial ⟨locals, store⟩) {i : ι} {phase : IngestPhase}
    (h : ∀ s, locals i = .answered (.created s) ↔ phase = .answered (.created s))
    (hbound : phase = .validated ∨ phase = .checked →
      (submitted i).topologyFingerprint = binding.fingerprint) :
    Coherent binding submitted initial ⟨Function.update locals i phase, store⟩ where
  bound j hj := by
    by_cases hji : j = i
    · subst hji
      simp only [Function.update_self] at hj
      exact hbound hj
    · simp only [Function.update_of_ne hji] at hj
      exact hc.bound j hj
  capacity_eq := hc.capacity_eq
  isTop := by
    rw [acceptedSnapshots_update h]
    exact hc.isTop
  present hne := by
    unfold publishedSnapshots at hne
    rw [acceptedSnapshots_update h] at hne
    exact hc.present hne

theorem Coherent.saved (hc : Coherent binding submitted initial ⟨locals, store⟩) {i : ι}
    (hi : locals i = .checked)
    (hnew : (submitted i).snapshotId ∉ store.snapshots.map TelemetrySnapshot.snapshotId)
    (hold : ¬ store.TooOld (submitted i)) :
    Coherent binding submitted initial
      ⟨Function.update locals i (.answered (.created (submitted i))), store.insert (submitted i) hnew⟩ where
  bound j hj := by
    by_cases hji : j = i
    · subst hji
      simp only [Function.update_self, reduceCtorEq, or_self] at hj
    · simp only [Function.update_of_ne hji] at hj
      exact hc.bound j hj
  capacity_eq := hc.capacity_eq
  isTop := by
    have hset : acceptedSnapshots initial (Function.update locals i (.answered (.created (submitted i)))) =
        insert (submitted i) (acceptedSnapshots initial locals) := by
      ext s
      simp only [acceptedSnapshots, Set.mem_ofPred_eq, Set.mem_insert_iff]
      constructor
      · rintro (hs | ⟨j, hj⟩)
        · exact Or.inr (Or.inl hs)
        by_cases hji : j = i
        · rw [hji, Function.update_self] at hj
          exact Or.inl (IngestAnswer.created.inj (IngestPhase.answered.inj hj)).symm
        · rw [Function.update_of_ne hji] at hj
          exact Or.inr (Or.inr ⟨j, hj⟩)
      · rintro (rfl | hs | ⟨j, hj⟩)
        · exact Or.inr ⟨i, Function.update_self ..⟩
        · exact Or.inl hs
        · have hji : j ≠ i := by
            rintro rfl
            rw [hi] at hj
            cases hj
          exact Or.inr ⟨j, (Function.update_of_ne hji ..).trans hj⟩
    have htop := store.insert_isTop (submitted i) hnew
    rw [hset]
    rw [hc.capacity_eq] at htop
    exact hc.isTop.offer htop
  present _ := ⟨submitted i, TelemetryStore.mem_insert_self hold hnew, hc.bound i (Or.inr hi)⟩

theorem coherent_advance (clock : ι → DateTime) (c : Config ι IngestPhase TelemetryStore) (i : ι)
    (hc : Coherent binding submitted initial c) :
    Coherent binding submitted initial (advance (ingestAll binding submitted clock) c i) := by
  obtain ⟨locals, store⟩ := c
  have hstep := ingestStep_stepped binding (submitted i) (clock i) (locals i) store
  unfold advance ingestAll
  dsimp only
  generalize ingestStep binding (submitted i) (clock i) (locals i) store = next at hstep ⊢
  obtain ⟨phase', store'⟩ := next
  generalize hphase : locals i = phase at hstep
  cases hstep with
  | invalid _ e _ =>
    refine hc.quiet (fun s => ?_) (by simp)
    cases e <;> simp [hphase, answerError]
  | valid _ h =>
    have hfp := validateTelemetrySnapshot_fingerprint ((validateTelemetryIngest_ok_iff _ _ _).mp h).2
    exact hc.quiet (by simp [hphase]) fun _ => hfp
  | newer _ h => exact hc.quiet (by simp [hphase]) fun _ => hc.bound i (Or.inl hphase)
  | saved _ hnew hold => exact hc.saved hphase hnew hold
  | differs => exact hc.quiet (by simp [hphase, answerError, TelemetryStore.conflict]) (by simp)
  | notNewer | repeated | tooOld | retry | outside | finished => exact hc.quiet (by simp [hphase]) (by simp)

variable (binding submitted initial) in
theorem coherent_run (clock : ι → DateTime) (schedule : List ι) :
    Coherent binding submitted initial (ingestRun binding submitted clock initial schedule) :=
  invariant_run (coherent_advance clock) (coherent_start binding submitted initial) schedule

theorem mem_matching {s : TelemetrySnapshot} {snapshots : List TelemetrySnapshot} {fingerprint : String} :
    s ∈ TelemetryStore.matching fingerprint snapshots ↔ s ∈ snapshots ∧
    s.topologyFingerprint = fingerprint := by
  simp [TelemetryStore.matching, eq_comm]

section Latest

variable {c : Config ι IngestPhase TelemetryStore} (hc : Coherent binding submitted initial c)

include hc

omit [DecidableEq ι] in
theorem Coherent.published_of_held {s : TelemetrySnapshot} (hs : s ∈ c.shared.snapshots)
    (hfp : s.topologyFingerprint = binding.fingerprint) : s ∈ publishedSnapshots binding initial c.locals :=
  ⟨hc.isTop.subset s hs, hfp⟩

omit [DecidableEq ι] in
theorem Coherent.latest_some_iff (m : TelemetrySnapshot) :
    c.shared.latest binding.fingerprint = some m ↔ m ∈ publishedSnapshots binding initial c.locals ∧
      ∀ s ∈ publishedSnapshots binding initial c.locals, s ≠ m → sortKey s < sortKey m := by
  have hnd : ((TelemetryStore.matching binding.fingerprint c.shared.snapshots).map sortKey).Nodup :=
    (nodup_sortKeys c.shared.ids_nodup).sublist (List.filter_sublist.map _)
  unfold TelemetryStore.latest
  rw [argmax_eq_some_iff hnd]
  simp only [mem_matching]
  constructor
  · rintro ⟨⟨hm, hfp⟩, hmax⟩
    refine ⟨hc.published_of_held hm hfp, fun s hs hne => ?_⟩
    by_cases hheld : s ∈ c.shared.snapshots
    · exact hmax s ⟨hheld, hs.2⟩ hne
    · exact (hc.isTop.below s hs.1 hheld).2 m hm
  · rintro ⟨hm, hmax⟩
    have hheld : m ∈ c.shared.snapshots := by
      by_contra hnot
      obtain ⟨r, hr, hfp⟩ := hc.present ⟨m, hm⟩
      have hne : r ≠ m := fun heq => hnot (heq ▸ hr)
      exact absurd (hmax r (hc.published_of_held hr hfp) hne) ((hc.isTop.below m hm.1 hnot).2 r hr).asymm
    exact ⟨⟨hheld, hm.2⟩, fun s hs hne => hmax s (hc.published_of_held hs.1 hs.2) hne⟩

omit [DecidableEq ι] in
theorem Coherent.latest_none_iff :
    c.shared.latest binding.fingerprint = none ↔ publishedSnapshots binding initial c.locals = ∅ := by
  unfold TelemetryStore.latest
  rw [List.argmax_eq_none, List.eq_nil_iff_forall_not_mem, Set.eq_empty_iff_forall_notMem]
  constructor
  · intro hnone s hs
    obtain ⟨r, hr, hfp⟩ := hc.present ⟨s, hs⟩
    exact hnone r (mem_matching.mpr ⟨hr, hfp⟩)
  · intro hnone s hs
    obtain ⟨hheld, hfp⟩ := mem_matching.mp hs
    exact hnone s (hc.published_of_held hheld hfp)

end Latest

variable (binding submitted initial) in
theorem latest_is_published_maximum (schedule : List ι) :
    (∀ m, (ingestRun binding submitted clock initial schedule).shared.latest binding.fingerprint = some m ↔
      m ∈ publishedSnapshots binding initial (ingestRun binding submitted clock initial schedule).locals ∧
      ∀ s ∈ publishedSnapshots binding initial (ingestRun binding submitted clock initial schedule).locals,
        s ≠ m → sortKey s < sortKey m) ∧
    ((ingestRun binding submitted clock initial schedule).shared.latest binding.fingerprint = none ↔
      publishedSnapshots binding initial (ingestRun binding submitted clock initial schedule).locals =
        ∅) := by
  have hc := coherent_run binding submitted initial clock schedule
  exact ⟨hc.latest_some_iff, hc.latest_none_iff⟩

end TelconetSentinel
