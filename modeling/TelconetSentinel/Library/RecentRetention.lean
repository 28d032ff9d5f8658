import Mathlib.Data.List.DropRight
import Mathlib.Tactic

namespace TelconetSentinel.RecentRetention

variable {α β : Type*}

theorem length_rtake (xs : List α) (n : ℕ) : (xs.rtake n).length = min n xs.length := by
  rw [List.rtake, List.length_drop]
  omega

theorem rtake_sublist (xs : List α) (n : ℕ) : (xs.rtake n).Sublist xs := List.drop_sublist _ _

theorem map_rtake (f : α → β) (xs : List α) (n : ℕ) : (xs.rtake n).map f = (xs.map f).rtake n := by
  rw [List.rtake, List.rtake, List.map_drop, List.length_map]

theorem rtake_of_length_le {xs : List α} {n : ℕ} (h : xs.length ≤ n) : xs.rtake n = xs := by
  rw [List.rtake, Nat.sub_eq_zero_of_le h, List.drop_zero]

theorem rtake_cons {x : α} {xs : List α} {n : ℕ} (h : n ≤ xs.length) : (x :: xs).rtake n = xs.rtake n := by
  have hdrop : (x :: xs).length - n = xs.length - n + 1 := by
    rw [List.length_cons]
    omega
  rw [List.rtake, hdrop, List.drop_succ_cons, List.rtake]

theorem rtake_concat (xs : List α) (x : α) {n : ℕ} (h : 0 < n) : (xs ++ [x]).rtake n = xs.rtake (n - 1) ++
    [x] := by
  have hlen : (xs ++ [x]).length - n = xs.length - (n - 1) := by
    rw [List.length_append, List.length_singleton]
    omega
  rw [List.rtake, hlen, List.drop_append_of_le_length (Nat.sub_le _ _), List.rtake]

theorem mem_rtake_concat {xs : List α} {x y : α} {n : ℕ} (h : y ∈ (xs ++ [x]).rtake n) : y ∈ xs ∨ y = x := by
  rw [← List.mem_singleton, ← List.mem_append]
  exact (rtake_sublist _ _).subset h

theorem rtake_append (xs ys : List α) (n : ℕ) : (xs.rtake n ++ ys).rtake n = (xs ++ ys).rtake n := by
  by_cases hle : xs.length ≤ n
  · rw [rtake_of_length_le hle]
  · have hlen : (xs.rtake n ++ ys).length - n = ys.length := by
      rw [List.length_append, length_rtake]
      omega
    have hlen' : (xs ++ ys).length - n = (xs.length - n) + ys.length := by
      rw [List.length_append]
      omega
    rw [List.rtake, hlen, List.rtake, List.rtake, hlen', ← List.drop_drop,
      List.drop_append_of_le_length (Nat.sub_le _ _)]

theorem mem_rtake_iff {xs ys : List α} {x : α} (hnd : (xs ++ x :: ys).Nodup) (n : ℕ) :
    x ∈ (xs ++ x :: ys).rtake n ↔ ys.length < n := by
  have hsplit : xs ++ x :: ys = (xs ++ [x]) ++ ys := by simp
  constructor
  · intro hmem
    by_contra hge
    have hdrop : (xs ++ x :: ys).rtake n = ys.drop (ys.length - n) := by
      have hlen : ((xs ++ [x]) ++ ys).length - n = (xs ++ [x]).length + (ys.length - n) := by
        rw [List.length_append]
        omega
      rw [hsplit, List.rtake, hlen, List.drop_append]
      simp
    have hys : x ∈ ys := List.mem_of_mem_drop (hdrop ▸ hmem)
    exact (List.nodup_cons.mp (List.nodup_append.mp hnd).2.1).1 hys
  · intro hlt
    have hlen : (xs ++ x :: ys).length - n ≤ xs.length := by
      rw [List.length_append, List.length_cons]
      omega
    rw [List.rtake, List.drop_append_of_le_length hlen]
    exact List.mem_append_right _ List.mem_cons_self

end TelconetSentinel.RecentRetention
