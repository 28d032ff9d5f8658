import TelconetSentinel.PublishedState

namespace TelconetSentinel

open TopRetention Interleaving

def IngestPhase.Answered (phase : IngestPhase) : Prop := ∃ answer, phase = .answered answer

section Runs

variable {ι : Type} [DecidableEq ι] (binding : TelemetryTopologyBinding) (submitted : ι → TelemetrySnapshot)
variable (clock : ι → DateTime) (initial : TelemetryStore)

/-- The moment after `schedule` lies after the first step of request `i` and not after its answer. -/
def DuringRequest (i : ι) (schedule : List ι) : Prop :=
  (ingestRun binding submitted clock initial schedule).locals i ≠ .received ∧
    ∃ earlier j, schedule = earlier ++ [j] ∧
      ¬ ((ingestRun binding submitted clock initial earlier).locals i).Answered

def IdNotReused (c : Config ι IngestPhase TelemetryStore) (i : ι) : Prop :=
  c.locals i = .refused → ∀ candidate ∈ c.shared.recent binding.fingerprint,
    candidate.snapshotId = (submitted i).snapshotId → candidate = submitted i

instance (c : Config ι IngestPhase TelemetryStore) (i : ι) : Decidable (IdNotReused binding submitted c i) :=
  inferInstanceAs (Decidable (_ → ∀ candidate ∈ c.shared.recent binding.fingerprint, _ → _))

variable {binding submitted clock} {initial}

theorem success_step {c : Config ι IngestPhase TelemetryStore} {i : ι} (hopen : ¬ (c.locals i).Answered)
    (hid : IdNotReused binding submitted c i) {answer : IngestAnswer}
    (h : (advance (ingestAll binding submitted clock) c i).locals i = .answered answer)
    (hsuccess : answer.status = 201 ∨ answer.status = 200) :
    submitted i ∈ (advance (ingestAll binding submitted clock) c i).shared.snapshots := by
  obtain ⟨locals, store⟩ := c
  have hstep := ingestStep_stepped binding (submitted i) (clock i) (locals i) store
  rw [advance_locals_same] at h
  unfold advance
  unfold ingestAll at h ⊢
  unfold IdNotReused at hid
  dsimp only at h hopen hid ⊢
  generalize ingestStep binding (submitted i) (clock i) (locals i) store = next at hstep h ⊢
  obtain ⟨phase', store'⟩ := next
  dsimp only at h
  subst h
  generalize locals i = phase at hstep hopen hid
  cases hstep with
  | invalid _ e _ => cases e <;> simp [answerError, IngestAnswer.status] at hsuccess
  | saved _ hnew hold => exact TelemetryStore.mem_insert_self hold hnew
  | retry _ hretry =>
    obtain ⟨candidate, hmem, hsame⟩ := hretry
    rw [← hid rfl candidate hmem hsame]
    exact (mem_matching.mp ((mem_descending _ _ _).mp hmem)).1
  | differs => simp [answerError, TelemetryStore.conflict, IngestAnswer.status] at hsuccess
  | notNewer | outside => simp [IngestAnswer.status] at hsuccess
  | finished => exact absurd ⟨answer, rfl⟩ hopen

theorem answered_stays {schedule : List ι} {i : ι} {answer : IngestAnswer}
    (h : (ingestRun binding submitted clock initial schedule).locals i = .answered answer) (j : ι) :
    (ingestRun binding submitted clock initial (schedule ++ [j])).locals i = .answered answer := by
  rw [ingestRun_concat]
  by_cases hji : i = j
  · subst hji
    rw [advance_locals_same, h]
    rfl
  · rw [advance_locals_of_ne _ hji, h]

theorem store_unchanged {c : Config ι IngestPhase TelemetryStore} {i : ι}
    (h : ∀ s, (advance (ingestAll binding submitted clock) c i).locals i ≠ .answered (.created s)) :
    (advance (ingestAll binding submitted clock) c i).shared = c.shared := by
  obtain ⟨locals, store⟩ := c
  have hstep := ingestStep_stepped binding (submitted i) (clock i) (locals i) store
  simp only [advance_locals_same] at h
  unfold advance
  unfold ingestAll at h ⊢
  dsimp only at h ⊢
  generalize ingestStep binding (submitted i) (clock i) (locals i) store = next at hstep h ⊢
  obtain ⟨phase', store'⟩ := next
  generalize locals i = phase at hstep
  cases hstep with
  | saved => exact absurd rfl (h _)
  | invalid | valid | notNewer | newer | differs | repeated | tooOld | retry | outside | finished => rfl

theorem success_was_held (schedule : List ι)
    (hid : EachStep (ingestAll binding submitted clock) (IdNotReused binding submitted)
      (ingestStart initial) schedule)
    {i : ι} {answer : IngestAnswer}
    (h : (ingestRun binding submitted clock initial schedule).locals i = .answered answer)
    (hsuccess : answer.status = 201 ∨ answer.status = 200) :
    ∃ moment, moment <+: schedule ∧ DuringRequest binding submitted clock initial i moment ∧
      submitted i ∈ (ingestRun binding submitted clock initial moment).shared.snapshots := by
  induction schedule using List.reverseRecOn with
  | nil => cases h
  | append_singleton earlier j ih =>
    rw [eachStep_concat] at hid
    by_cases hopen : ((ingestRun binding submitted clock initial earlier).locals i).Answered
    · obtain ⟨answer', h'⟩ := hopen
      obtain rfl := IngestPhase.answered.inj ((answered_stays h' j).symm.trans h)
      obtain ⟨moment, hprefix, hrest⟩ := ih hid.1 h'
      exact ⟨moment, hprefix.trans (List.prefix_append _ _), hrest⟩
    · have hji : i = j := by
        by_contra hne
        refine hopen ⟨answer, ?_⟩
        rw [ingestRun_concat, advance_locals_of_ne _ hne] at h
        exact h
      subst hji
      refine ⟨earlier ++ [i], List.prefix_rfl, ⟨?_, earlier, i, rfl, hopen⟩, ?_⟩
      · rw [h]
        simp
      · rw [ingestRun_concat] at h ⊢
        exact success_step hopen hid.2 h hsuccess

theorem no_change_without_creation (schedule : List ι) {i : ι}
    (h : ∀ s, (ingestRun binding submitted clock initial schedule).locals i ≠ .answered (.created s)) :
    EachStep (ingestAll binding submitted clock)
      (fun c j => j = i → (advance (ingestAll binding submitted clock) c j).shared = c.shared)
        (ingestStart initial) schedule := by
  induction schedule using List.reverseRecOn with
  | nil => trivial
  | append_singleton earlier j ih =>
    refine (eachStep_concat _ _ _ _).mpr ⟨ih fun s hs => h s (answered_stays hs j), ?_⟩
    rintro rfl
    rw [ingestRun_concat] at h
    exact store_unchanged h

variable (binding submitted clock initial) in
theorem answers_truthful (schedule : List ι) (i : ι) (answer : IngestAnswer)
    (h : (ingestRun binding submitted clock initial schedule).locals i = .answered answer) :
    (EachStep (ingestAll binding submitted clock) (IdNotReused binding submitted)
      (ingestStart initial) schedule →
      answer.status = 201 ∨ answer.status = 200 → ∃ moment, moment <+: schedule ∧
        DuringRequest binding submitted clock initial i moment ∧
        submitted i ∈ (ingestRun binding submitted clock initial moment).shared.snapshots) ∧
    (answer.status = 409 → EachStep (ingestAll binding submitted clock)
      (fun c j => j = i → (advance (ingestAll binding submitted clock) c j).shared = c.shared)
        (ingestStart initial) schedule) := by
  refine ⟨fun hid => success_was_held schedule hid h,
    fun hconflict => no_change_without_creation schedule fun s hs => ?_⟩
  obtain rfl := IngestPhase.answered.inj (h.symm.trans hs)
  cases hconflict

end Runs

def oneSlot : TelemetryStore := ⟨1, [], by decide, List.nodup_nil, by decide⟩

def sameTwice : Fin 2 → TelemetrySnapshot := fun _ => .unanswered "x" 5 (by decide) five_lt_sixty

theorem answers_truthful_twice : ∃ moment, moment <+: [0, 0, 1, 0, 1, 1, 1] ∧
    DuringRequest labBinding sameTwice (fun _ => (sameTwice 0).observedAt) oneSlot 1 moment ∧
    sameTwice 1 ∈
      (ingestRun labBinding sameTwice (fun _ => (sameTwice 0).observedAt) oneSlot moment).shared.snapshots :=
  (answers_truthful labBinding sameTwice (fun _ => (sameTwice 0).observedAt) oneSlot [0, 0, 1, 0, 1, 1, 1] 1
    (.retained (sameTwice 1)) (by decide +kernel)).1 (by decide +kernel) (Or.inr rfl)

def reusedId : Fin 3 → TelemetrySnapshot :=
  ![.unanswered "x" 5 (by decide) five_lt_sixty, .unanswered "b" 10, .unanswered "x" 20]

theorem retry_of_another_payload :
    ∃ answer, (ingestRun labBinding reusedId (fun _ => (reusedId 2).observedAt) oneSlot
        [0, 0, 1, 1, 1, 2, 2, 0, 2, 0]).locals 0 = .answered answer ∧ answer.status = 200 ∧
      ¬ ∃ moment, moment <+: [0, 0, 1, 1, 1, 2, 2, 0, 2, 0] ∧
        DuringRequest labBinding reusedId (fun _ => (reusedId 2).observedAt) oneSlot 0 moment ∧ reusedId 0 ∈
          (ingestRun labBinding reusedId (fun _ => (reusedId 2).observedAt) oneSlot
            moment).shared.snapshots := by
  have hnever : ∀ moment ∈ [0, 0, 1, 1, 1, 2, 2, 0, 2, 0].inits, reusedId 0 ∉
      (ingestRun labBinding reusedId (fun _ => (reusedId 2).observedAt) oneSlot moment).shared.snapshots := by
    decide +kernel
  refine ⟨.retained (reusedId 0), by decide +kernel, rfl, ?_⟩
  rintro ⟨moment, hprefix, -, hheld⟩
  exact hnever moment ((List.mem_inits _ _).mpr hprefix) hheld

end TelconetSentinel
