import Mathlib.Logic.Function.Basic
import Mathlib.Tactic

namespace TelconetSentinel.Interleaving

variable {ι L σ : Type*} [DecidableEq ι]

structure Config (ι L σ : Type*) where
  locals : ι → L
  shared : σ

variable (step : ι → L → σ → L × σ)

def advance (c : Config ι L σ) (i : ι) : Config ι L σ :=
  ⟨Function.update c.locals i (step i (c.locals i) c.shared).1, (step i (c.locals i) c.shared).2⟩

def run (c : Config ι L σ) (schedule : List ι) : Config ι L σ := schedule.foldl (advance step) c

def EachStep (p : Config ι L σ → ι → Prop) : Config ι L σ → List ι → Prop
  | _, [] => True
  | c, i :: rest => p c i ∧ EachStep p (advance step c i) rest

instance decidableEachStep (p : Config ι L σ → ι → Prop) [∀ c i, Decidable (p c i)] :
    (c : Config ι L σ) → (schedule : List ι) → Decidable (EachStep step p c schedule)
  | _, [] => .isTrue trivial
  | c, i :: rest =>
    have := decidableEachStep p (advance step c i) rest
    inferInstanceAs (Decidable (p c i ∧ EachStep step p (advance step c i) rest))

variable {step}

@[simp] theorem advance_locals_same (c : Config ι L σ) (i : ι) :
    (advance step c i).locals i = (step i (c.locals i) c.shared).1 :=
  Function.update_self i _ _

theorem advance_locals_of_ne (c : Config ι L σ) {i j : ι} (h : j ≠ i) :
    (advance step c i).locals j = c.locals j :=
  Function.update_of_ne h _ _

theorem run_append (c : Config ι L σ) (schedule later : List ι) :
    run step c (schedule ++ later) = run step (run step c schedule) later :=
  List.foldl_append

theorem run_concat (c : Config ι L σ) (schedule : List ι) (i : ι) :
    run step c (schedule ++ [i]) = advance step (run step c schedule) i := by
  rw [run, List.foldl_append]
  rfl

theorem invariant_run {inv : Config ι L σ → Prop} (hstep : ∀ c i, inv c → inv (advance step c i))
    {c : Config ι L σ} (h : inv c) (schedule : List ι) : inv (run step c schedule) := by
  induction schedule generalizing c with
  | nil => exact h
  | cons i rest ih => exact ih (hstep c i h)

theorem untouched_run {i : ι} {schedule : List ι} (h : i ∉ schedule) (c : Config ι L σ) :
    (run step c schedule).locals i = c.locals i := by
  induction schedule generalizing c with
  | nil => rfl
  | cons j rest ih =>
    obtain ⟨hne, hrest⟩ := not_or.mp (mt List.mem_cons.mpr h)
    exact (ih hrest _).trans (advance_locals_of_ne c hne)

/-- A process that does not stay where it stands has a next step of its own, and stands there until then. -/
theorem next_own_step {i : ι} {c : Config ι L σ} {schedule : List ι}
    (h : (run step c schedule).locals i ≠ c.locals i) :
    ∃ earlier later, schedule = earlier ++ i :: later ∧ i ∉ earlier ∧
    (run step c earlier).locals i = c.locals i := by
  have hmem : i ∈ schedule := by
    by_contra hmem
    exact h (untouched_run hmem c)
  obtain ⟨earlier, later, rfl, hfirst⟩ := List.eq_append_cons_of_mem hmem
  exact ⟨earlier, later, rfl, hfirst, untouched_run hfirst c⟩

theorem fixed_run {i : ι} {l : L} (hfixed : ∀ s, (step i l s).1 = l) {c : Config ι L σ} (h : c.locals i = l)
    (schedule : List ι) : (run step c schedule).locals i = l := by
  have hkeeps : ∀ (c : Config ι L σ) (j : ι), c.locals i = l → (advance step c j).locals i = l := by
    intro c j hc
    by_cases hij : i = j
    · subst hij
      rw [advance_locals_same, hc, hfixed]
    · rw [advance_locals_of_ne _ hij, hc]
  exact invariant_run hkeeps h schedule

/-- Where a win spends what it needs, and nothing gives that back, at most one process wins. -/
theorem winner_unique (inv spent : Config ι L σ → Prop) (won : ι → L → Prop)
    (hinv : ∀ c i, inv c → inv (advance step c i))
    (hwin : ∀ c i, inv c → ¬ won i (c.locals i) → won i ((advance step c i).locals i) → ¬ spent c ∧
      spent (advance step c i))
    (hkeep : ∀ c i, inv c → spent c → spent (advance step c i)) {c : Config ι L σ} (h : inv c)
    (hstart : ∀ i, ¬ won i (c.locals i)) (schedule : List ι) {i j : ι}
    (hi : won i ((run step c schedule).locals i)) (hj : won j ((run step c schedule).locals j)) : i = j := by
  have hsteps : ∀ (c : Config ι L σ) (k : ι),
      (inv c ∧ (∀ i, won i (c.locals i) → spent c ∧ ∀ j, won j (c.locals j) → i = j)) →
      inv (advance step c k) ∧ ∀ i, won i ((advance step c k).locals i) →
        spent (advance step c k) ∧ ∀ j, won j ((advance step c k).locals j) → i = j := by
    rintro c k ⟨hc, hunique⟩
    have hold : ∀ i, i ≠ k → won i ((advance step c k).locals i) → won i (c.locals i) := by
      intro i hik hwon
      rwa [advance_locals_of_ne c hik] at hwon
    refine ⟨hinv c k hc, fun i hwon => ?_⟩
    by_cases hbefore : ∃ m, won m (c.locals m)
    · obtain ⟨m, hm⟩ := hbefore
      obtain ⟨hspent, honly⟩ := hunique m hm
      -- A second winner would have found it spent.
      have hlater : ∀ i, won i ((advance step c k).locals i) → m = i := by
        intro i hwon
        by_cases hik : i = k
        · subst hik
          by_contra hne
          exact (hwin c i hc (fun hown => hne (honly i hown)) hwon).1 hspent
        · exact honly i (hold i hik hwon)
      exact ⟨hkeep c k hc hspent, fun j hj => (hlater i hwon).symm.trans (hlater j hj)⟩
    · have hfirst : ∀ i, won i ((advance step c k).locals i) → i = k := by
        intro i hwon
        by_contra hik
        exact hbefore ⟨i, hold i hik hwon⟩
      obtain rfl := hfirst i hwon
      exact ⟨(hwin c i hc (fun hown => hbefore ⟨i, hown⟩) hwon).2, fun j hj => (hfirst j hj).symm⟩
  have hall := invariant_run hsteps ⟨h, fun i hwon => absurd hwon (hstart i)⟩ schedule
  exact (hall.2 i hi).2 j hj

theorem eachStep_concat (p : Config ι L σ → ι → Prop) (c : Config ι L σ) (schedule : List ι) (i : ι) :
    EachStep step p c (schedule ++ [i]) ↔ EachStep step p c schedule ∧ p (run step c schedule) i := by
  induction schedule generalizing c with
  | nil => exact ⟨fun h => ⟨trivial, h.1⟩, fun h => ⟨h.2, trivial⟩⟩
  | cons j rest ih =>
    rw [List.cons_append, EachStep, EachStep, ih, and_assoc]
    rfl

end TelconetSentinel.Interleaving
