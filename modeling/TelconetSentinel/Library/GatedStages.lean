import Mathlib.Tactic

namespace TelconetSentinel.GatedStages

variable {σ α : Type*}

/-- Stages that latch in order: each fires on the first sample at which it holds, once the stage before has
fired, and several may fire on one sample. -/
def cascade (holds : σ → α → Bool) : List σ → List α → List (σ × α)
  | [], _ => []
  | _ :: _, [] => []
  | stage :: stages, x :: xs =>
    if holds stage x then (stage, x) :: cascade holds stages (x :: xs) else cascade holds (stage :: stages) xs
  termination_by stages xs => stages.length + xs.length

theorem cascade_nil (holds : σ → α → Bool) (xs : List α) : cascade holds [] xs = [] := by
  rw [cascade]

theorem cascade_no_samples (holds : σ → α → Bool) (stages : List σ) : cascade holds stages [] = [] := by
  cases stages <;> rw [cascade]

theorem cascade_cons (holds : σ → α → Bool) (stage : σ) (stages : List σ) (x : α) (xs : List α) :
    cascade holds (stage :: stages) (x :: xs) =
      if holds stage x then (stage, x) :: cascade holds stages (x :: xs) else
        cascade holds (stage :: stages) xs := by
  rw [cascade]

theorem cascade_sample (holds : σ → α → Bool) (stages : List σ) (x : α) (xs : List α) :
    cascade holds stages (x :: xs) = (stages.takeWhile (holds · x)).map (·, x) ++
      cascade holds (stages.dropWhile (holds · x)) xs := by
  induction stages with
  | nil => simp [cascade_nil]
  | cons stage stages ih =>
    rw [cascade_cons]
    by_cases hholds : holds stage x
    · simp [hholds, ih]
    · simp [hholds]

structure FirstFrom (p : α → Prop) (xs : List α) (start i : ℕ) (x : α) : Prop where
  entry : xs[i]? = some x
  started : start ≤ i
  holds : p x
  earlier : ∀ j y, start ≤ j → j < i → xs[j]? = some y → ¬ p y

/-- The stages that fired, with their samples, are the first ones in order. Each fired on the first sample,
from the one of the stage before, at which it holds, and the first stage left holds at no sample from
there. -/
def Cascades (holds : σ → α → Prop) (xs : List α) : ℕ → List σ → List (σ × α) → Prop
  | _, [], fired => fired = []
  | start, stage :: _, [] => ∀ j y, start ≤ j → xs[j]? = some y → ¬ holds stage y
  | start, stage :: stages, (s, x) :: fired =>
    s = stage ∧ ∃ i, FirstFrom (holds stage) xs start i x ∧ Cascades holds xs i stages fired

variable {holds : σ → α → Prop} {xs : List α} {start : ℕ} {stages : List σ} {fired : List (σ × α)}

theorem FirstFrom.shift {p : α → Prop} {i : ℕ} {x : α} (h : FirstFrom p xs start i x) (y : α) :
    FirstFrom p (y :: xs) (start + 1) (i + 1) x := by
  refine ⟨h.entry, Nat.succ_le_succ h.started, h.holds, fun j z hj hlt hz => ?_⟩
  cases j with
  | zero => omega
  | succ j => exact h.earlier j z (by omega) (by omega) hz

theorem Cascades.shift (h : Cascades holds xs start stages fired) (y : α) :
    Cascades holds (y :: xs) (start + 1) stages fired := by
  induction stages generalizing start fired with
  | nil => exact h
  | cons stage stages ih =>
    cases fired with
    | nil =>
      intro j z hj hz
      cases j with
      | zero => omega
      | succ j => exact h j z (by omega) hz
    | cons entry fired =>
      obtain ⟨hstage, i, hfirst, hrest⟩ := h
      exact ⟨hstage, i + 1, hfirst.shift y, ih hrest⟩

theorem Cascades.skip {stage : σ} {y : α} (h : Cascades holds (y :: xs) 1 (stage :: stages) fired)
    (hy : ¬ holds stage y) : Cascades holds (y :: xs) 0 (stage :: stages) fired := by
  have hzero : ∀ z, (y :: xs)[0]? = some z → ¬ holds stage z := by
    intro z hz
    obtain rfl : y = z := by simpa using hz
    exact hy
  cases fired with
  | nil =>
    intro j z _ hz
    cases j with
    | zero => exact hzero z hz
    | succ j => exact h (j + 1) z (by omega) hz
  | cons entry fired =>
    obtain ⟨hstage, i, hfirst, hrest⟩ := h
    refine ⟨hstage, i, ⟨hfirst.entry, Nat.zero_le _, hfirst.holds, fun j z _ hlt hz => ?_⟩, hrest⟩
    cases j with
    | zero => exact hzero z hz
    | succ j => exact hfirst.earlier (j + 1) z (by omega) hlt hz

theorem Cascades.fire {stage : σ} {y : α} (h : Cascades holds (y :: xs) 0 stages fired) (hy : holds stage y) :
    Cascades holds (y :: xs) 0 (stage :: stages) ((stage, y) :: fired) :=
  ⟨rfl, 0, ⟨rfl, le_rfl, hy, fun _ _ _ hlt => absurd hlt (Nat.not_lt_zero _)⟩, h⟩

theorem cascade_cascades (holds : σ → α → Bool) (stages : List σ) (xs : List α) :
    Cascades (fun stage x => holds stage x = true) xs 0 stages (cascade holds stages xs) := by
  induction stages, xs using cascade.induct holds with
  | case1 xs =>
    rw [cascade_nil]
    rfl
  | case2 stage stages =>
    rw [cascade_no_samples]
    intro j y _ hy
    cases hy
  | case3 stage stages x xs hholds ih =>
    rw [cascade_cons, if_pos hholds]
    exact ih.fire hholds
  | case4 stage stages x xs hholds ih =>
    rw [cascade_cons, if_neg hholds]
    exact (ih.shift x).skip hholds

theorem Cascades.map_fst (h : Cascades holds xs start stages fired) :
    fired.map Prod.fst = stages.take fired.length := by
  induction fired generalizing start stages with
  | nil => rfl
  | cons entry fired ih =>
    cases stages with
    | nil => cases h
    | cons stage stages =>
      obtain ⟨hstage, i, -, hrest⟩ := h
      rw [List.map_cons, List.length_cons, List.take_succ_cons, hstage, ih hrest]

theorem Cascades.located (h : Cascades holds xs start stages fired) :
    ∀ entry ∈ fired, holds entry.1 entry.2 ∧ ∃ i, start ≤ i ∧ xs[i]? = some entry.2 := by
  induction fired generalizing start stages with
  | nil => exact fun _ hmem => absurd hmem List.not_mem_nil
  | cons entry fired ih =>
    cases stages with
    | nil => cases h
    | cons stage stages =>
      obtain ⟨hstage, i, hfirst, hrest⟩ := h
      intro e he
      rcases List.mem_cons.mp he with rfl | he
      · rw [hstage]
        exact ⟨hfirst.holds, i, hfirst.started, hfirst.entry⟩
      · obtain ⟨hholds, j, hj, hentry⟩ := ih hrest e he
        exact ⟨hholds, j, hfirst.started.trans hj, hentry⟩

theorem entry_le_entry {R : α → α → Prop} (hrefl : ∀ x, R x x) (hordered : xs.Pairwise R) {i j : ℕ} {x y : α}
    (hx : xs[i]? = some x) (hy : xs[j]? = some y) (hij : i ≤ j) : R x y := by
  obtain ⟨hi, rfl⟩ := List.getElem?_eq_some_iff.mp hx
  obtain ⟨hj, rfl⟩ := List.getElem?_eq_some_iff.mp hy
  rcases hij.eq_or_lt with rfl | hlt
  · exact hrefl _
  · exact List.pairwise_iff_getElem.mp hordered i j hi hj hlt

theorem Cascades.pairwise {R : α → α → Prop} (hrefl : ∀ x, R x x) (hordered : xs.Pairwise R)
    (h : Cascades holds xs start stages fired) : fired.Pairwise fun entry later => R entry.2 later.2 := by
  induction fired generalizing start stages with
  | nil => exact .nil
  | cons entry fired ih =>
    cases stages with
    | nil => cases h
    | cons stage stages =>
      obtain ⟨-, i, hfirst, hrest⟩ := h
      apply List.Pairwise.cons
      · intro later hmem
        obtain ⟨-, j, hj, hentry⟩ := hrest.located later hmem
        exact entry_le_entry hrefl hordered hfirst.entry hentry hj
      · exact ih hrest

end TelconetSentinel.GatedStages
