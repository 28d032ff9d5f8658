import Mathlib.Data.List.Sort
import Mathlib.Tactic

namespace TelconetSentinel.OrderStatistics

variable {α : Type*} [LinearOrder α] {xs : List α} {least : α}

def ordered (xs : List α) : List α := xs.insertionSort (· ≤ ·)

theorem ordered_perm (xs : List α) : (ordered xs).Perm xs := List.perm_insertionSort _ xs

theorem ordered_length (xs : List α) : (ordered xs).length = xs.length := (ordered_perm xs).length_eq

theorem ordered_pairwise (xs : List α) : (ordered xs).Pairwise (· ≤ ·) := List.pairwise_insertionSort _ xs

theorem mem_ordered_get {k : ℕ} (hk : k < (ordered xs).length) : (ordered xs)[k] ∈ xs :=
  (ordered_perm xs).mem_iff.mp (List.getElem_mem hk)

theorem ordered_get_le {i j : ℕ} (hij : i < j) (hj : j < (ordered xs).length) :
    (ordered xs)[i] ≤ (ordered xs)[j] :=
  List.pairwise_iff_getElem.mp (ordered_pairwise xs) i j (hij.trans hj) hj hij

theorem get_eq_least_iff (hxs : xs.Pairwise (· ≤ ·)) (hleast : ∀ x ∈ xs, least ≤ x) {k : ℕ}
    (hk : k < xs.length) :
    xs[k] = least ↔ k < xs.count least := by
  induction xs generalizing k with
  | nil => exact absurd hk (Nat.not_lt_zero k)
  | cons x xs ih =>
    obtain ⟨hx, hrest⟩ := List.pairwise_cons.mp hxs
    obtain ⟨hleastX, hleastRest⟩ := List.forall_mem_cons.mp hleast
    rcases hleastX.eq_or_lt with rfl | hlt
    · rw [List.count_cons_self]
      cases k with
      | zero => simp
      | succ k => simpa using ih hrest hleastRest (Nat.lt_of_succ_lt_succ hk)
    · have habsent : least ∉ x :: xs := by
        intro hmem
        rcases List.mem_cons.mp hmem with heq | hmem
        · exact hlt.ne heq
        · exact absurd (hx least hmem) (not_le.mpr hlt)
      rw [List.count_eq_zero_of_not_mem habsent]
      refine iff_of_false (fun h => habsent ?_) (Nat.not_lt_zero k)
      exact h ▸ List.getElem_mem hk

theorem ordered_get_eq_least_iff (hleast : ∀ x ∈ xs, least ≤ x) {k : ℕ} (hk : k < (ordered xs).length) :
    (ordered xs)[k] = least ↔ k < xs.count least := by
  rw [get_eq_least_iff (ordered_pairwise xs) (fun x hx => hleast x ((ordered_perm xs).mem_iff.mp hx)) hk,
    (ordered_perm xs).count_eq]

theorem ordered_get_mono {i j : ℕ} (hij : i ≤ j) (hj : j < (ordered xs).length) :
    (ordered xs)[i] ≤ (ordered xs)[j] := by
  rcases hij.eq_or_lt with rfl | hlt
  · exact le_rfl
  · exact ordered_get_le hlt hj

section Counts

variable {β : Type*} {p : β → Bool} {ys : List β} {k : ℕ}

theorem countP_split (p : β → Bool) (ys : List β) (k : ℕ) :
    ys.countP p = (ys.take k).countP p + (ys.drop k).countP p := by
  rw [← List.countP_append, List.take_append_drop]

theorem le_countP_of_take (hk : k ≤ ys.length) (h : ∀ y ∈ ys.take k, p y = true) : k ≤ ys.countP p := by
  have htake : (ys.take k).countP p = k := by
    rw [List.countP_eq_length.mpr h, List.length_take, min_eq_left hk]
  rw [countP_split p ys k, htake]
  omega

theorem countP_le_of_drop (h : ∀ y ∈ ys.drop k, ¬ p y = true) : ys.countP p ≤ k := by
  have hdrop : (ys.drop k).countP p = 0 := List.countP_eq_zero.mpr h
  have htake : (ys.take k).countP p ≤ (ys.take k).length := List.countP_le_length
  rw [List.length_take] at htake
  rw [countP_split p ys k]
  omega

/-- The value at place `k` has at least `k + 1` values up to it, and at most `k` values below it. -/
theorem countP_ordered (hk : k < (ordered xs).length) :
    k + 1 ≤ xs.countP (· ≤ (ordered xs)[k]) ∧ xs.countP (· < (ordered xs)[k]) ≤ k := by
  constructor
  · rw [← (ordered_perm xs).countP_eq]
    refine le_countP_of_take hk fun y hy => ?_
    obtain ⟨i, hi, rfl⟩ := List.mem_take_iff_getElem.mp hy
    exact decide_eq_true (ordered_get_mono (by omega) hk)
  · rw [← (ordered_perm xs).countP_eq]
    refine countP_le_of_drop fun y hy => ?_
    obtain ⟨i, hi, rfl⟩ := List.mem_drop_iff_getElem.mp hy
    simpa using ordered_get_mono (Nat.le_add_right k i) (Nat.add_comm i k ▸ hi)

end Counts

theorem foldl_best_le {β : Type*} (key : β → α) (y : β) (ys : List β) :
    ∀ z ∈ y :: ys, key (ys.foldl (fun best z => if key z < key best then z else best) y) ≤ key z := by
  induction ys generalizing y with
  | nil =>
    intro z hz
    rw [List.mem_singleton.mp hz]
    exact le_rfl
  | cons x ys ih =>
    have hbest := ih (if key x < key y then x else y)
    rw [List.forall_mem_cons] at hbest
    rw [List.foldl_cons, List.forall_mem_cons, List.forall_mem_cons]
    refine ⟨hbest.1.trans ?_, hbest.1.trans ?_, hbest.2⟩
    · split_ifs with hlt
      · exact hlt.le
      · exact le_rfl
    · split_ifs with hlt
      · exact le_rfl
      · exact not_lt.mp hlt

end TelconetSentinel.OrderStatistics
