import Mathlib.Data.List.Sort
import Mathlib.Tactic

namespace TelconetSentinel.KeyedLists

variable {α β κ : Type*} [DecidableEq κ] (key : α → κ)

def lookup (xs : List α) (k : κ) : Option α := xs.find? (fun x => key x = k)

theorem lookup_none_iff (xs : List α) (k : κ) : lookup key xs k = none ↔ k ∉ xs.map key := by
  simp [lookup, List.find?_eq_none]

theorem lookup_some {xs : List α} {k : κ} {x : α} (h : lookup key xs k = some x) : x ∈ xs ∧ key x = k := by
  have hk := List.find?_some h
  exact ⟨List.mem_of_find?_eq_some h, by simpa using hk⟩

variable {key}

omit [DecidableEq κ] in
theorem key_inj {xs : List α} (hnd : (xs.map key).Nodup) {x y : α} (hx : x ∈ xs) (hy : y ∈ xs)
    (h : key x = key y) : x = y :=
  List.inj_on_of_nodup_map hnd hx hy h

theorem lookup_some_iff {xs : List α} (hnd : (xs.map key).Nodup) (k : κ) (x : α) :
    lookup key xs k = some x ↔ x ∈ xs ∧ key x = k := by
  refine ⟨lookup_some key, ?_⟩
  rintro ⟨hx, rfl⟩
  cases h : lookup key xs (key x) with
  | none => exact absurd (List.mem_map_of_mem hx) ((lookup_none_iff key xs _).mp h)
  | some y =>
    obtain ⟨hy, hk⟩ := lookup_some key h
    rw [key_inj hnd hy hx hk]

theorem lookup_perm {xs ys : List α} (hnd : (xs.map key).Nodup) (h : xs.Perm ys) (k : κ) :
    lookup key xs k = lookup key ys k := by
  have hnd' : (ys.map key).Nodup := (h.map key).nodup_iff.mp hnd
  apply Option.ext
  intro x
  rw [lookup_some_iff hnd, lookup_some_iff hnd', h.mem_iff]

theorem lookup_map (f : β → α) (xs : List β) (k : κ) :
    lookup key (xs.map f) k = (lookup (fun x => key (f x)) xs k).map f := by
  unfold lookup
  rw [List.find?_map]
  rfl

theorem lookup_pairing {R : α → α → Prop} {xs ys : List α}
    (h : List.Forall₂ (fun x y => key y = key x ∧ R x y) xs ys) (k : κ) : Option.Rel R (lookup key xs k)
    (lookup key ys k) := by
  induction h with
  | nil => exact .none
  | @cons x y xs ys hxy _ ih =>
    rw [lookup, lookup]
    by_cases hk : key x = k
    · rw [List.find?_cons_of_pos (by simpa using hk), List.find?_cons_of_pos (by simpa using hxy.1.trans hk)]
      exact .some hxy.2
    · rw [List.find?_cons_of_neg (by simpa using hk), List.find?_cons_of_neg (by simpa [hxy.1] using hk)]
      exact ih

omit [DecidableEq κ] in
theorem eq_of_mem_flatMap {f : α → List β} {xs : List α} (h : (xs.flatMap f).Nodup) {x y : α} (hx : x ∈ xs)
    (hy : y ∈ xs) {b : β} (hb : b ∈ f x) (hb' : b ∈ f y) : x = y := by
  have hsymm : Std.Symm (Function.onFun List.Disjoint f) := ⟨fun _ _ h => List.Disjoint.symm h⟩
  by_contra hne
  exact (List.nodup_flatMap.mp h).2.forall hx hy hne hb hb'

theorem filter_mem_keys_perm {xs ys : List α} (hnd : (xs.map key).Nodup) (hsub : ys.Subperm xs) :
    (xs.filter fun x => key x ∈ ys.map key).Perm ys := by
  have hxs : xs.Nodup := List.Nodup.of_map key hnd
  obtain ⟨zs, hperm, hzs⟩ := hsub
  have hys : ys.Nodup := hperm.nodup_iff.mp (hxs.sublist hzs)
  refine (List.perm_ext_iff_of_nodup (hxs.filter _) hys).mpr fun x => ?_
  simp only [List.mem_filter, decide_eq_true_eq, List.mem_map]
  constructor
  · rintro ⟨hx, y, hy, hk⟩
    have hy' : y ∈ xs := hzs.subset (hperm.mem_iff.mpr hy)
    rwa [← key_inj hnd hy' hx hk]
  · intro hx
    exact ⟨hzs.subset (hperm.mem_iff.mpr hx), x, hx, rfl⟩

omit [DecidableEq κ] in
theorem eq_of_sorted_keys [LinearOrder κ] {xs ys : List α} (hx : (xs.map key).SortedLT)
    (hy : (ys.map key).SortedLT) (hmem : ∀ x, x ∈ xs ↔ x ∈ ys) : xs = ys := by
  have hpx := List.pairwise_map.mp (List.sortedLT_iff_pairwise.mp hx)
  have hpy := List.pairwise_map.mp (List.sortedLT_iff_pairwise.mp hy)
  have hperm : xs.Perm ys :=
    (List.perm_ext_iff_of_nodup (List.Nodup.of_map key hx.nodup) (List.Nodup.of_map key hy.nodup)).mpr hmem
  exact hperm.eq_of_pairwise (fun _ _ _ _ h h' => absurd h (lt_asymm h')) hpx hpy

omit [DecidableEq κ] in
theorem card_filter_toFinset_eq_length_iff [DecidableEq α] (xs : List α) (p : α → Prop) [DecidablePred p] :
    (xs.toFinset.filter p).card = xs.length ↔ xs.Nodup ∧ ∀ x ∈ xs, p x := by
  have hfilter := Finset.card_filter_le xs.toFinset p
  have hlength := xs.toFinset_card_le
  constructor
  · intro h
    have hnodup : xs.toFinset.card = xs.length := by omega
    have hall : xs.toFinset.filter p = xs.toFinset :=
      Finset.eq_of_subset_of_card_le (Finset.filter_subset _ _) (by omega)
    refine ⟨Multiset.toFinset_card_eq_card_iff_nodup.mp hnodup, fun x hx => ?_⟩
    exact Finset.filter_eq_self.mp hall x (List.mem_toFinset.mpr hx)
  · rintro ⟨hnodup, hall⟩
    rw [Finset.filter_true_of_mem fun x hx => hall x (List.mem_toFinset.mp hx),
      List.toFinset_card_of_nodup hnodup]

omit [DecidableEq κ] in
theorem eq_of_keys_eq {xs ys : List α} (hnd : (xs.map key).Nodup) (hkeys : xs.map key = ys.map key)
    (hsub : ∀ x ∈ xs, x ∈ ys) : xs = ys := by
  induction xs generalizing ys with
  | nil => simpa [eq_comm] using hkeys
  | cons x xs ih =>
    cases ys with
    | nil => cases hkeys
    | cons y ys =>
      obtain ⟨-, hrest⟩ := List.cons_eq_cons.mp hkeys
      rw [List.map_cons, List.nodup_cons] at hnd
      obtain rfl : x = y := by
        rcases List.mem_cons.mp (hsub x List.mem_cons_self) with heq | hmem
        · exact heq
        · refine absurd ?_ hnd.1
          rw [hrest]
          exact List.mem_map_of_mem hmem
      rw [ih hnd.2 hrest fun z hz => ?_]
      rcases List.mem_cons.mp (hsub z (List.mem_cons_of_mem _ hz)) with rfl | hmem
      · exact absurd (List.mem_map_of_mem hz) hnd.1
      · exact hmem

omit [DecidableEq κ] in
theorem map_eq_iff_map_eq {f : α → β} (h : ∀ x y, f x = f y ↔ key x = key y) (xs ys : List α) :
    xs.map f = ys.map f ↔ xs.map key = ys.map key := by
  induction xs generalizing ys with
  | nil => simp [eq_comm]
  | cons x xs ih =>
    cases ys with
    | nil => simp
    | cons y ys => simp [h, ih]

/-- A dictionary in insertion order whose values bear their keys. -/
structure Dict (key : α → κ) where
  values : List α
  keys_nodup : (values.map key).Nodup

namespace Dict

def empty (key : α → κ) : Dict key := ⟨[], List.nodup_nil⟩

variable (d : Dict key)

def keys : List κ := d.values.map key

def get (k : κ) : Option α := lookup key d.values k

theorem keys_replaced (x : α) : (d.values.map fun y => if key y = key x then x else y).map key = d.keys := by
  rw [List.map_map, keys]
  apply List.map_congr_left
  intro y _
  rw [Function.comp_apply]
  split_ifs with h
  · exact h.symm
  · rfl

/-- `d[key x] = x`. A key that is present keeps its place. -/
def assign (x : α) : Dict key :=
  if h : key x ∈ d.keys then
    ⟨d.values.map fun y => if key y = key x then x else y, (d.keys_replaced x).symm ▸ d.keys_nodup⟩
  else
    ⟨d.values ++ [x], by
      rw [List.map_append, List.map_singleton, ← List.concat_eq_append]
      exact d.keys_nodup.concat h⟩

def erase (k : κ) : Dict key :=
  ⟨d.values.filter (key · ≠ k), d.keys_nodup.sublist (List.filter_sublist.map _)⟩

variable {d}

theorem assign_new {x : α} (h : key x ∉ d.keys) : (d.assign x).values = d.values ++ [x] := by
  rw [assign, dif_neg h]

theorem assign_present {x : α} (h : key x ∈ d.keys) :
    (d.assign x).values = d.values.map fun y => if key y = key x then x else y := by
  rw [assign, dif_pos h]

theorem keys_assign_present {x : α} (h : key x ∈ d.keys) : (d.assign x).keys = d.keys := by
  rw [keys, assign_present h]
  exact d.keys_replaced x

theorem mem_assign_self (x : α) : x ∈ (d.assign x).values := by
  by_cases h : key x ∈ d.keys
  · obtain ⟨y, hy, hkey⟩ := List.mem_map.mp h
    rw [assign_present h]
    exact List.mem_map.mpr ⟨y, hy, if_pos hkey⟩
  · rw [assign_new h]
    exact List.mem_append_right _ List.mem_cons_self

theorem mem_of_mem_assign {x y : α} (hy : y ∈ (d.assign x).values) (hne : key y ≠ key x) : y ∈ d.values := by
  by_cases h : key x ∈ d.keys
  · rw [assign_present h] at hy
    obtain ⟨z, hz, rfl⟩ := List.mem_map.mp hy
    split_ifs at hne ⊢
    · exact absurd rfl hne
    · exact hz
  · rw [assign_new h] at hy
    rcases List.mem_append.mp hy with hy | hy
    · exact hy
    · exact absurd (congrArg key (List.mem_singleton.mp hy)) hne

theorem mem_assign_cases {x y : α} (hy : y ∈ (d.assign x).values) : y = x ∨ key y ≠ key x ∧ y ∈ d.values := by
  by_cases hkey : key y = key x
  · exact Or.inl (key_inj (d.assign x).keys_nodup hy (mem_assign_self x) hkey)
  · exact Or.inr ⟨hkey, mem_of_mem_assign hy hkey⟩

theorem mem_assign_of_ne {x y : α} (hy : y ∈ d.values) (hne : key y ≠ key x) : y ∈ (d.assign x).values := by
  by_cases h : key x ∈ d.keys
  · rw [assign_present h]
    exact List.mem_map.mpr ⟨y, hy, if_neg hne⟩
  · rw [assign_new h]
    exact List.mem_append_left _ hy

theorem get_some_iff (k : κ) (x : α) : d.get k = some x ↔ x ∈ d.values ∧ key x = k :=
  lookup_some_iff d.keys_nodup k x

theorem get_none_iff (k : κ) : d.get k = none ↔ k ∉ d.keys := lookup_none_iff key d.values k

theorem get_eq_of_mem_iff {d' : Dict key} {k : κ} (h : ∀ x, key x = k → (x ∈ d'.values ↔ x ∈ d.values)) :
    d'.get k = d.get k := by
  apply Option.ext
  intro x
  rw [get_some_iff, get_some_iff]
  exact ⟨fun hx => ⟨(h x hx.2).mp hx.1, hx.2⟩, fun hx => ⟨(h x hx.2).mpr hx.1, hx.2⟩⟩

theorem get_assign_self (x : α) : (d.assign x).get (key x) = some x :=
  (get_some_iff _ _).mpr ⟨mem_assign_self x, rfl⟩

theorem get_assign_ne {x : α} {k : κ} (hne : k ≠ key x) : (d.assign x).get k = d.get k := by
  apply get_eq_of_mem_iff
  intro y hy
  exact ⟨fun hmem => mem_of_mem_assign hmem (hy ▸ hne), fun hmem => mem_assign_of_ne hmem (hy ▸ hne)⟩

theorem keys_assign (x : α) : (d.assign x).keys = if key x ∈ d.keys then d.keys else d.keys ++ [key x] := by
  split_ifs with h
  · exact keys_assign_present h
  · rw [keys, assign_new h, List.map_append]
    rfl

theorem mem_erase (x : α) (k : κ) : x ∈ (d.erase k).values ↔ x ∈ d.values ∧ key x ≠ k := by
  change x ∈ d.values.filter (key · ≠ k) ↔ _
  simp

theorem get_erase_self (k : κ) : (d.erase k).get k = none := by
  rw [get_none_iff]
  intro hmem
  obtain ⟨x, hx, hk⟩ := List.mem_map.mp hmem
  exact ((mem_erase x k).mp hx).2 hk

theorem get_erase_ne {k k' : κ} (hne : k' ≠ k) : (d.erase k).get k' = d.get k' := by
  apply get_eq_of_mem_iff
  intro x hx
  rw [mem_erase]
  exact and_iff_left (hx ▸ hne)

theorem keys_erase (k : κ) : (d.erase k).keys = d.keys.filter (· ≠ k) := by
  change (d.values.filter (key · ≠ k)).map key = _
  rw [keys, List.filter_map]
  rfl

theorem mem_keys_iff (k : κ) : k ∈ d.keys ↔ (d.get k).isSome := by
  rw [← not_iff_not, ← get_none_iff, Option.not_isSome_iff_eq_none]

theorem foldl_assign_new {xs : List α} (h : (d.keys ++ xs.map key).Nodup) :
    (xs.foldl assign d).values = d.values ++ xs := by
  induction xs generalizing d with
  | nil => simp
  | cons x xs ih =>
    have hnew : key x ∉ d.keys :=
      fun hmem => (List.nodup_append'.mp h).2.2 hmem (List.mem_map_of_mem List.mem_cons_self)
    have hkeys : (d.assign x).keys = d.keys ++ [key x] := by rw [keys_assign, if_neg hnew]
    have hrest : ((d.assign x).keys ++ xs.map key).Nodup := by
      rw [hkeys, List.append_assoc]
      exact h
    rw [List.foldl_cons, ih hrest, assign_new hnew, List.append_assoc]
    rfl

theorem erase_head {x : α} {xs : List α} (h : d.values = x :: xs) : (d.erase (key x)).values = xs := by
  have hnd := d.keys_nodup
  rw [h, List.map_cons, List.nodup_cons] at hnd
  have hxs : xs.filter (key · ≠ key x) = xs := by
    refine List.filter_eq_self.mpr fun y hy => decide_eq_true fun hk => hnd.1 ?_
    exact hk ▸ List.mem_map_of_mem hy
  change d.values.filter (key · ≠ key x) = xs
  rw [h, List.filter_cons_of_neg (by simp), hxs]

end Dict

end TelconetSentinel.KeyedLists
