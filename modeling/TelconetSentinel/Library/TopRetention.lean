import TelconetSentinel.Library.KeyedLists
import Mathlib.Data.List.MinMax

namespace TelconetSentinel.TopRetention

open KeyedLists

variable {α κ : Type*} [LinearOrder κ] (key : α → κ)

def descending (xs : List α) : List α := xs.insertionSort (fun x y => key y ≤ key x)

theorem descending_perm (xs : List α) : (descending key xs).Perm xs := List.perm_insertionSort _ xs

theorem mem_descending (xs : List α) (x : α) : x ∈ descending key xs ↔ x ∈ xs := List.mem_insertionSort _

/-- What is left of a pool when only the entries with the greatest keys are kept. -/
structure IsTop (capacity : ℕ) (pool : Set α) (kept : List α) : Prop where
  nodup : (kept.map key).Nodup
  length_le : kept.length ≤ capacity
  subset : ∀ x ∈ kept, x ∈ pool
  below : ∀ x ∈ pool, x ∉ kept → kept.length = capacity ∧ ∀ y ∈ kept, key x < key y

variable {key}

theorem descending_strict {xs : List α} (hnd : (xs.map key).Nodup) :
    (descending key xs).Pairwise (fun x y => key y < key x) := by
  have htrans : IsTrans α (fun x y => key y ≤ key x) := ⟨fun _ _ _ h h' => le_trans h' h⟩
  have htotal : Std.Total (fun x y : α => key y ≤ key x) := ⟨fun x y => le_total (key y) (key x)⟩
  have hle : (descending key xs).Pairwise (fun x y => key y ≤ key x) := List.pairwise_insertionSort _ xs
  have hne : (descending key xs).Pairwise (fun x y => key x ≠ key y) := by
    rw [← List.pairwise_map]
    exact ((descending_perm key xs).map key).nodup_iff.mpr hnd
  exact hle.imp₂ (fun _ _ h h' => lt_of_le_of_ne h h'.symm) hne

theorem eq_of_perm_descending {xs ys : List α} (hxs : xs.Pairwise (fun x y => key y < key x))
    (hys : ys.Pairwise (fun x y => key y < key x)) (h : xs.Perm ys) : xs = ys :=
  h.eq_of_pairwise (fun _ _ _ _ h h' => absurd h h'.asymm) hxs hys

theorem eq_of_perm_ascending {xs ys : List α} (hxs : xs.Pairwise (fun x y => key x < key y))
    (hys : ys.Pairwise (fun x y => key x < key y)) (h : xs.Perm ys) : xs = ys :=
  h.eq_of_pairwise (fun _ _ _ _ h h' => absurd h h'.asymm) hxs hys

theorem descending_eq_of_perm {xs ys : List α} (hnd : (xs.map key).Nodup) (h : xs.Perm ys) :
    descending key xs = descending key ys := by
  have hys := descending_strict ((h.map key).nodup_iff.mp hnd)
  apply eq_of_perm_descending (descending_strict hnd) hys
  exact (descending_perm key xs).trans (h.trans (descending_perm key ys).symm)

theorem descending_map {β ι : Type*} [LinearOrder ι] (f : α → β) (index : β → ι) (xs : List α)
    (h : ∀ x y, index (f x) ≤ index (f y) ↔ key x ≤ key y) :
    descending index (xs.map f) = (descending key xs).map f :=
  (List.map_insertionSort _ _ f xs fun x _ y _ => (h y x).symm).symm

theorem filter_descending (p : α → Bool) {xs : List α} (hnd : (xs.map key).Nodup) :
    (descending key xs).filter p = descending key (xs.filter p) := by
  have hnd' : ((xs.filter p).map key).Nodup := hnd.sublist (List.filter_sublist.map key)
  apply eq_of_perm_descending ((descending_strict hnd).sublist List.filter_sublist) (descending_strict hnd')
  exact ((descending_perm key xs).filter p).trans (descending_perm key _).symm

theorem take_isTop (capacity : ℕ) {xs : List α} (hnd : (xs.map key).Nodup) :
    IsTop key capacity {x | x ∈ xs} ((descending key xs).take capacity) where
  nodup := by
    have hperm := (descending_perm key xs).map key
    exact (hperm.nodup_iff.mpr hnd).sublist ((List.take_sublist _ _).map key)
  length_le := List.length_take_le _ _
  subset x hx := (mem_descending key xs x).mp (List.mem_of_mem_take hx)
  below x hx hnot := by
    have hsplit := descending_strict hnd
    rw [← List.take_append_drop capacity (descending key xs), List.pairwise_append] at hsplit
    have hx' : x ∈ (descending key xs).drop capacity := by
      have hmem := (mem_descending key xs x).mpr hx
      rw [← List.take_append_drop capacity (descending key xs), List.mem_append] at hmem
      exact hmem.resolve_left hnot
    refine ⟨?_, fun y hy => hsplit.2.2 y hy x hx'⟩
    have hlen := List.length_pos_of_mem hx'
    rw [List.length_drop] at hlen
    rw [List.length_take]
    omega

theorem isTop_self {capacity : ℕ} {xs : List α} (hnd : (xs.map key).Nodup) (hlen : xs.length ≤ capacity) :
    IsTop key capacity {x | x ∈ xs} xs :=
  ⟨hnd, hlen, fun _ hx => hx, fun _ hx hnot => absurd hx hnot⟩

theorem IsTop.insert_below {capacity : ℕ} {pool : Set α} {kept : List α} {x : α}
    (h : IsTop key capacity pool kept) (hfull : kept.length = capacity) (hlt : ∀ y ∈ kept, key x < key y) :
    IsTop key capacity (insert x pool) kept where
  nodup := h.nodup
  length_le := h.length_le
  subset y hy := Or.inr (h.subset y hy)
  below y hy hnot := by
    rcases hy with rfl | hy
    · exact ⟨hfull, hlt⟩
    · exact h.below y hy hnot

theorem exists_missing {xs ys : List α} (hnd : ys.Nodup) {x : α} (hx : x ∈ xs) (hnot : x ∉ ys)
    (hlen : xs.length ≤ ys.length) : ∃ y ∈ ys, y ∉ xs := by
  by_contra hall
  push Not at hall
  have hnd' : (x :: ys).Nodup := List.nodup_cons.mpr ⟨hnot, hnd⟩
  have hle := (List.subperm_of_subset hnd' (List.cons_subset.mpr ⟨hx, hall⟩)).length_le
  rw [List.length_cons] at hle
  omega

theorem IsTop.mem_of_mem {capacity : ℕ} {pool : Set α} {kept kept' : List α}
    (h : IsTop key capacity pool kept) (h' : IsTop key capacity pool kept') {x : α} (hx : x ∈ kept) :
    x ∈ kept' := by
  by_contra hnot
  obtain ⟨hfull, hlt⟩ := h'.below x (h.subset x hx) hnot
  obtain ⟨y, hy, hny⟩ := exists_missing (h'.nodup.of_map key) hx hnot (hfull ▸ h.length_le)
  exact absurd (hlt y hy) ((h.below y (h'.subset y hy) hny).2 x hx).asymm

theorem IsTop.unique {capacity : ℕ} {pool : Set α} {kept kept' : List α} (h : IsTop key capacity pool kept)
    (h' : IsTop key capacity pool kept') : kept.Perm kept' :=
  (List.perm_ext_iff_of_nodup (h.nodup.of_map key) (h'.nodup.of_map key)).mpr
    fun _ => ⟨h.mem_of_mem h', h'.mem_of_mem h⟩

theorem IsTop.lost {capacity : ℕ} {pool pool' : Set α} {kept kept' : List α}
    (h : IsTop key capacity pool kept) (h' : IsTop key capacity pool' kept') (hsub : pool ⊆ pool') {x : α}
    (hx : x ∈ pool) (hnot : x ∉ kept) :
    x ∉ kept' := by
  intro hx'
  obtain ⟨hfull, hlt⟩ := h.below x hx hnot
  obtain ⟨z, hz, hnz⟩ := exists_missing (h.nodup.of_map key) hx' hnot (hfull ▸ h'.length_le)
  exact absurd (hlt z hz) ((h'.below z (hsub (h.subset z hz)) hnz).2 x hx').asymm

/-- Offering one more entry to what is kept is offering it to the whole pool. -/
theorem IsTop.offer {capacity : ℕ} {pool : Set α} {kept kept' : List α} {x : α}
    (h : IsTop key capacity pool kept) (h' : IsTop key capacity (insert x {y | y ∈ kept}) kept') :
    IsTop key capacity (insert x pool) kept' where
  nodup := h'.nodup
  length_le := h'.length_le
  subset y hy := (h'.subset y hy).imp id (h.subset y)
  below y hy hnot := by
    rcases hy with rfl | hy
    · exact h'.below y (Or.inl rfl) hnot
    by_cases hk : y ∈ kept
    · exact h'.below y (Or.inr hk) hnot
    obtain ⟨hfull, hlt⟩ := h.below y hy hk
    by_cases hx : x ∈ kept'
    · by_cases hxk : x ∈ kept
      · have hmem : x ∈ {z | z ∈ kept} := hxk
        rw [Set.insert_eq_of_mem hmem] at h'
        have hsame := (isTop_self h.nodup h.length_le).unique h'
        exact ⟨hsame.length_eq ▸ hfull, fun z hz => hlt z (hsame.mem_iff.mpr hz)⟩
      -- One old entry made room for `x`.
      · obtain ⟨z, hz, hnz⟩ := exists_missing (h.nodup.of_map key) hx hxk (hfull ▸ h'.length_le)
        obtain ⟨hfull', hlt'⟩ := h'.below z (Or.inr hz) hnz
        exact ⟨hfull', fun w hw => (hlt z hz).trans (hlt' w hw)⟩
    · obtain ⟨hfull', -⟩ := h'.below x (Or.inl rfl) hx
      exact ⟨hfull', fun z hz => hlt z ((h'.subset z hz).resolve_left fun hzx => hx (hzx ▸ hz))⟩

theorem argmax_eq_some_iff {xs : List α} (hnd : (xs.map key).Nodup) (m : α) :
    xs.argmax key = some m ↔ m ∈ xs ∧ ∀ x ∈ xs, x ≠ m → key x < key m := by
  constructor
  · intro h
    have hm := List.argmax_mem h
    refine ⟨hm, fun x hx hne => lt_of_le_of_ne (List.le_of_mem_argmax hx h) fun hk => hne ?_⟩
    exact List.inj_on_of_nodup_map hnd hx hm hk
  · rintro ⟨hm, hlt⟩
    cases h : xs.argmax key with
    | none => exact absurd (List.argmax_eq_none.mp h) (List.ne_nil_of_mem hm)
    | some n =>
      by_contra hne
      have hnm : n ≠ m := fun hnm => hne (congrArg some hnm)
      exact absurd (hlt n (List.argmax_mem h) hnm) (not_lt.mpr (List.le_of_mem_argmax hm h))

theorem head?_descending {xs : List α} (hnd : (xs.map key).Nodup) :
    (descending key xs).head? = xs.argmax key := by
  cases h : descending key xs with
  | nil =>
    have hnil : xs = [] := by
      have hperm := descending_perm key xs
      rwa [h, List.nil_perm] at hperm
    rw [hnil]
    rfl
  | cons m rest =>
    symm
    have hsorted := descending_strict hnd
    rw [h, List.pairwise_cons] at hsorted
    refine (argmax_eq_some_iff hnd m).mpr ⟨(mem_descending key xs m).mp (h ▸ List.mem_cons_self),
      fun x hx hne => ?_⟩
    have hx' := (mem_descending key xs x).mpr hx
    rw [h] at hx'
    exact hsorted.1 x ((List.mem_cons.mp hx').resolve_left hne)

theorem le_argmin_iff {xs : List α} {m : α} (h : m ∈ xs.argmin key) (k : κ) :
    k ≤ key m ↔ ∀ x ∈ xs, k ≤ key x :=
  ⟨fun hk _ hx => hk.trans (List.le_of_mem_argmin hx h), fun hall => hall m (List.argmin_mem h)⟩

theorem descending_of_ascending {xs : List α} (h : xs.Pairwise (fun x y => key x < key y)) :
    descending key xs = xs.reverse := by
  have hnd : (xs.map key).Nodup := List.pairwise_map.mpr (h.imp fun hlt => hlt.ne)
  apply eq_of_perm_descending (descending_strict hnd) (List.pairwise_reverse.mpr h)
  exact (descending_perm key xs).trans xs.reverse_perm.symm

theorem filter_top_of_ascending {xs : List α} (h : xs.Pairwise (fun x y => key x < key y)) (n : ℕ) :
    (xs.filter fun x => key x ∈ ((descending key xs).take n).map key) = xs.drop (xs.length - n) := by
  have hnd : (xs.map key).Nodup := List.pairwise_map.mpr (h.imp fun hlt => hlt.ne)
  have hsub : ((descending key xs).take n).Subperm xs :=
    (List.take_sublist n _).subperm.trans (descending_perm key xs).subperm
  have htop : ((descending key xs).take n).Perm (xs.drop (xs.length - n)) := by
    rw [descending_of_ascending h, List.take_reverse]
    exact List.reverse_perm _
  apply eq_of_perm_ascending (h.sublist List.filter_sublist) (h.sublist (List.drop_sublist _ _))
  exact (filter_mem_keys_perm hnd hsub).trans htop

end TelconetSentinel.TopRetention
