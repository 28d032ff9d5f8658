import Mathlib.Data.List.Sort
import Mathlib.Data.Prod.Lex
import Mathlib.Algebra.Order.BigOperators.Group.Finset
import TelconetSentinel.Library.BreadthFirst
import TelconetSentinel.Library.WeightedWalks

/-!
Label-setting search over nonnegative arcs with a priority queue from which outdated entries are
only dropped when they are popped.
-/

namespace TelconetSentinel.LazySearch

open Iteration WeightedWalks

variable {V W : Type*}

section Heap

variable {α : Type*} [LinearOrder α]

def heappush (x : α) (heap : List α) : List α := heap.orderedInsert (· ≤ ·) x

def heappop : List α → Option (α × List α)
  | [] => none
  | x :: rest => some (x, rest)

@[simp] theorem mem_heappush (x y : α) (heap : List α) : y ∈ heappush x heap ↔ y = x ∨ y ∈ heap :=
  List.mem_orderedInsert (· ≤ ·)

theorem length_heappush (x : α) (heap : List α) : (heappush x heap).length = heap.length + 1 :=
  List.orderedInsert_length (· ≤ ·) heap x

theorem heappush_sorted (x : α) (heap : List α) (h : heap.Pairwise (· < ·)) (hx : x ∉ heap) :
    (heappush x heap).Pairwise (· < ·) := by
  have hle : (heappush x heap).Pairwise (· ≤ ·) := (h.imp le_of_lt).orderedInsert x heap
  have hnd : (heappush x heap).Nodup :=
    (List.perm_orderedInsert (· ≤ ·) x heap).nodup_iff.mpr (List.nodup_cons.mpr ⟨hx, h.imp ne_of_lt⟩)
  exact (hle.and hnd).imp fun h => lt_of_le_of_ne h.1 h.2

end Heap

structure SearchState (V W : Type*) where
  distances : V → Option W
  pending : List (W ×ₗ V)

variable [LinearOrder V] [AddCommMonoid W] [LinearOrder W]

def initial [DecidableEq V] (s : V) : SearchState V W :=
  ⟨Function.update (fun _ => none) s (some 0), [toLex (0, s)]⟩

def relax [DecidableEq V] (distance : W) (st : SearchState V W) (arc : V × W) : SearchState V W :=
  if ∀ d ∈ st.distances arc.1, distance + arc.2 < d then
    ⟨Function.update st.distances arc.1 (some (distance + arc.2)),
      heappush (toLex (distance + arc.2, arc.1)) st.pending⟩
  else st

def body [DecidableEq V] (arcs : V → List (V × W)) (target : V → Prop) [DecidablePred target]
    (st : SearchState V W) : SearchState V W ⊕ Option W :=
  match heappop st.pending with
  | none => .inr none
  | some (entry, rest) =>
    let distance := (ofLex entry).1
    let current := (ofLex entry).2
    if st.distances current ≠ some distance then .inl ⟨st.distances, rest⟩
    else if target current then .inr (some distance)
    else .inl ((arcs current).foldl (relax distance) ⟨st.distances, rest⟩)

def Ordered (st : SearchState V W) : Prop :=
  st.pending.Pairwise (· < ·) ∧
    ∀ d v, toLex (d, v) ∈ st.pending → ∃ d', st.distances v = some d' ∧ d' ≤ d

structure Relaxed (distance : W) (arcs : List (V × W)) (st st' : SearchState V W) : Prop where
  label_le : ∀ v d, st.distances v = some d → ∃ d', st'.distances v = some d' ∧ d' ≤ d
  reached : ∀ a ∈ arcs, ∃ d', st'.distances a.1 = some d' ∧ d' ≤ distance + a.2
  fresh : ∀ v, st'.distances v = st.distances v ∨ ∃ w, (v, w) ∈ arcs ∧ st'.distances v = some (distance + w) ∧
    toLex (distance + w, v) ∈ st'.pending ∧ ∀ d ∈ st.distances v, distance + w < d
  kept : ∀ x ∈ st.pending, x ∈ st'.pending
  pushed : ∀ x ∈ st'.pending, x ∈ st.pending ∨
    ∃ a ∈ arcs, x = toLex (distance + a.2, a.1) ∧ ∀ d ∈ st.distances a.1, distance + a.2 < d
  length_le : st'.pending.length ≤ st.pending.length + arcs.length
  ordered : Ordered st → Ordered st'

theorem relaxed_nil (distance : W) (st : SearchState V W) : Relaxed distance [] st st where
  label_le _ d h := ⟨d, h, le_rfl⟩
  reached _ h := absurd h (List.not_mem_nil)
  fresh _ := Or.inl rfl
  kept _ h := h
  pushed _ h := Or.inl h
  length_le := le_rfl
  ordered h := h

theorem relaxed_one [DecidableEq V] (distance : W) (st : SearchState V W) (a : V × W) :
    Relaxed distance [a] st (relax distance st a) := by
  unfold relax
  split_ifs with hlt
  · refine ⟨?_, ?_, ?_, ?_, ?_, ?_, ?_⟩
    · intro v d hd
      by_cases hv : v = a.1
      · subst hv
        exact ⟨distance + a.2, by simp, (hlt d hd).le⟩
      · exact ⟨d, by simpa [hv] using hd, le_rfl⟩
    · intro b hb
      obtain rfl := List.mem_singleton.mp hb
      exact ⟨distance + b.2, by simp, le_rfl⟩
    · intro v
      by_cases hv : v = a.1
      · subst hv
        exact Or.inr ⟨a.2, by simp, by simp, by simp, hlt⟩
      · exact Or.inl (by simp [hv])
    · intro x hx
      exact (mem_heappush _ _ _).mpr (Or.inr hx)
    · intro x hx
      rcases (mem_heappush _ _ _).mp hx with rfl | hx
      · exact Or.inr ⟨a, by simp, rfl, hlt⟩
      · exact Or.inl hx
    · exact (length_heappush _ _).le
    · rintro ⟨hs, he⟩
      have hnew : toLex (distance + a.2, a.1) ∉ st.pending := by
        intro hmem
        obtain ⟨d, hd, hle⟩ := he _ _ hmem
        exact absurd (hlt d hd) (not_lt.mpr hle)
      refine ⟨heappush_sorted _ _ hs hnew, ?_⟩
      intro d v hmem
      rcases (mem_heappush _ _ _).mp hmem with heq | hmem
      · obtain ⟨rfl, rfl⟩ := Prod.mk.inj (toLex.injective heq)
        exact ⟨distance + a.2, by simp, le_rfl⟩
      · obtain ⟨d', hd', hle⟩ := he d v hmem
        by_cases hv : v = a.1
        · subst hv
          exact ⟨distance + a.2, by simp, (hlt d' hd').le.trans hle⟩
        · exact ⟨d', by simpa [hv] using hd', hle⟩
  · push Not at hlt
    obtain ⟨d, hd, hle⟩ := hlt
    refine ⟨fun v d h => ⟨d, h, le_rfl⟩, ?_, fun v => Or.inl rfl, fun x h => h, fun x h => Or.inl h,
      Nat.le_add_right _ _, fun h => h⟩
    intro b hb
    obtain rfl := List.mem_singleton.mp hb
    exact ⟨d, hd, hle⟩

theorem Relaxed.cons {distance : W} {a : V × W} {arcs : List (V × W)} {st mid st' : SearchState V W}
    (h1 : Relaxed distance [a] st mid) (h2 : Relaxed distance arcs mid st') :
    Relaxed distance (a :: arcs) st st' where
  label_le v d hd := by
    obtain ⟨d1, hd1, hle1⟩ := h1.label_le v d hd
    obtain ⟨d2, hd2, hle2⟩ := h2.label_le v d1 hd1
    exact ⟨d2, hd2, hle2.trans hle1⟩
  reached b hb := by
    rcases List.mem_cons.mp hb with rfl | hb
    · obtain ⟨d1, hd1, hle1⟩ := h1.reached b (by simp)
      obtain ⟨d2, hd2, hle2⟩ := h2.label_le b.1 d1 hd1
      exact ⟨d2, hd2, hle2.trans hle1⟩
    · exact h2.reached b hb
  fresh v := by
    rcases h2.fresh v with he2 | ⟨w, hw, hd, hp, hlt⟩
    · rcases h1.fresh v with he1 | ⟨w, hw, hd, hp, hlt⟩
      · exact Or.inl (he2.trans he1)
      · obtain rfl := List.mem_singleton.mp hw
        exact Or.inr ⟨w, by simp, he2.trans hd, h2.kept _ hp, hlt⟩
    · refine Or.inr ⟨w, List.mem_cons_of_mem _ hw, hd, hp, fun d hdv => ?_⟩
      obtain ⟨d1, hd1, hle1⟩ := h1.label_le v d hdv
      exact (hlt d1 hd1).trans_le hle1
  kept x hx := h2.kept x (h1.kept x hx)
  pushed x hx := by
    rcases h2.pushed x hx with hx | ⟨b, hb, rfl, hlt⟩
    · rcases h1.pushed x hx with hx | ⟨b, hb, hxb, hlt⟩
      · exact Or.inl hx
      · obtain rfl := List.mem_singleton.mp hb
        exact Or.inr ⟨b, by simp, hxb, hlt⟩
    · refine Or.inr ⟨b, List.mem_cons_of_mem _ hb, rfl, fun d hd => ?_⟩
      obtain ⟨d1, hd1, hle1⟩ := h1.label_le b.1 d hd
      exact (hlt d1 hd1).trans_le hle1
  length_le := by
    have hl1 := h1.length_le
    have hl2 := h2.length_le
    simp only [List.length_cons, List.length_nil] at *
    omega
  ordered h := h2.ordered (h1.ordered h)

theorem relaxed_foldl [DecidableEq V] (distance : W) (arcs : List (V × W)) (st : SearchState V W) :
    Relaxed distance arcs st (arcs.foldl (relax distance) st) := by
  induction arcs generalizing st with
  | nil => exact relaxed_nil distance st
  | cons a arcs ih => exact (relaxed_one distance st a).cons (ih (relax distance st a))

def Settled (st : SearchState V W) (v : V) (d : W) : Prop :=
  st.distances v = some d ∧ toLex (d, v) ∉ st.pending

/-- Between two rounds of the search. `closed` and `floor` speak of settled nodes only: a label that
is lowered puts its node back into the queue. -/
structure Invariant (arcs : V → List (V × W)) (target : V → Prop) (s : V) (st : SearchState V W) : Prop where
  ordered : Ordered st
  source : ∃ d, st.distances s = some d ∧ d ≤ 0
  route : ∀ v d, st.distances v = some d → Route arcs s v d
  closed : ∀ u d, Settled st u d → ∀ a ∈ arcs u, ∃ d', st.distances a.1 = some d' ∧ d' ≤ d + a.2
  floor : ∀ u d, Settled st u d → ∀ x ∈ st.pending, d ≤ (ofLex x).1
  open_target : ∀ u d, Settled st u d → ¬ target u

theorem invariant_initial [DecidableEq V] (arcs : V → List (V × W)) (target : V → Prop) (s : V) :
    Invariant arcs target s (initial s) := by
  have hlabel : ∀ v d, (initial s : SearchState V W).distances v = some d → v = s ∧ d = 0 := by
    intro v d hd
    by_cases hv : v = s
    · subst hv
      simp only [initial, Function.update_self, Option.some.injEq] at hd
      exact ⟨rfl, hd.symm⟩
    · simp [initial, hv] at hd
  have hnone : ∀ u d, ¬ Settled (initial s) u (d : W) := by
    rintro u d ⟨hd, hn⟩
    obtain ⟨rfl, rfl⟩ := hlabel u d hd
    exact hn (by simp [initial])
  refine ⟨⟨by simp [initial], ?_⟩, ⟨0, by simp [initial], le_rfl⟩, ?_,
    fun u d h => absurd h (hnone u d), fun u d h => absurd h (hnone u d), fun u d h => absurd h (hnone u d)⟩
  · intro d v hmem
    obtain ⟨rfl, rfl⟩ := Prod.mk.inj (toLex.injective (List.mem_singleton.mp hmem))
    exact ⟨0, by simp [initial], le_rfl⟩
  · intro v d hd
    obtain ⟨rfl, rfl⟩ := hlabel v d hd
    exact .start

section Search

variable {arcs : V → List (V × W)} {target : V → Prop} {s : V} {st : SearchState V W}

omit [LinearOrder V] in
theorem source_of_labels (h : ∃ d, st.distances s = some d ∧ d ≤ 0) {st' : SearchState V W}
    (hle : ∀ v d, st.distances v = some d → ∃ d', st'.distances v = some d' ∧ d' ≤ d) :
    ∃ d, st'.distances s = some d ∧ d ≤ 0 := by
  obtain ⟨d, hd, hd0⟩ := h
  obtain ⟨d', hd', hle'⟩ := hle s d hd
  exact ⟨d', hd', hle'.trans hd0⟩

theorem invariant_stale (h : Invariant arcs target s st) {d : W} {v : V} {rest : List (W ×ₗ V)}
    (hp : st.pending = toLex (d, v) :: rest) (hne : st.distances v ≠ some d) :
    (∀ u c, Settled ⟨st.distances, rest⟩ u c ↔ Settled st u c) ∧
      Invariant arcs target s ⟨st.distances, rest⟩ := by
  have hset : ∀ u c, Settled ⟨st.distances, rest⟩ u c ↔ Settled st u c := by
    intro u c
    simp only [Settled, hp, List.mem_cons, not_or]
    constructor
    · rintro ⟨hc, hn⟩
      refine ⟨hc, fun he => ?_, hn⟩
      obtain ⟨rfl, rfl⟩ := Prod.mk.inj (toLex.injective he)
      exact hne hc
    · rintro ⟨hc, -, hn⟩
      exact ⟨hc, hn⟩
  have hsub : ∀ x ∈ rest, x ∈ st.pending := fun x hx => by rw [hp]; exact List.mem_cons_of_mem _ hx
  have hsorted := h.ordered.1
  rw [hp] at hsorted
  refine ⟨hset, ⟨(List.pairwise_cons.mp hsorted).2, fun c u hc => h.ordered.2 c u (hsub _ hc)⟩, h.source,
    h.route, fun u c hc => h.closed u c ((hset u c).mp hc), fun u c hc x hx =>
    h.floor u c ((hset u c).mp hc) x (hsub x hx), fun u c hc => h.open_target u c ((hset u c).mp hc)⟩

variable [IsOrderedAddMonoid W]

/-- Every route is either completed to a settled label or still announced by a queue entry. -/
theorem frontier (h : Invariant arcs target s st) (hpos : ∀ u, ∀ a ∈ arcs u, 0 ≤ a.2) {t : V} {c : W}
    (hr : Route arcs s t c) : (∃ d, Settled st t d ∧ d ≤ c) ∨ ∃ x ∈ st.pending, (ofLex x).1 ≤ c := by
  have split : ∀ v d b, st.distances v = some d → d ≤ b →
      (∃ d, Settled st v d ∧ d ≤ b) ∨ ∃ x ∈ st.pending, (ofLex x).1 ≤ b := by
    intro v d b hd hle
    by_cases hm : toLex (d, v) ∈ st.pending
    · exact Or.inr ⟨_, hm, hle⟩
    · exact Or.inl ⟨d, ⟨hd, hm⟩, hle⟩
  induction hr with
  | start =>
    obtain ⟨d, hd, hle⟩ := h.source
    exact split s d 0 hd hle
  | @extend u v c w hu harc ih =>
    rcases ih with ⟨d, hd, hle⟩ | ⟨x, hx, hle⟩
    · obtain ⟨d', hd', hle'⟩ := h.closed u d hd _ harc
      exact split v d' (c + w) hd' (hle'.trans (add_le_add_left hle w))
    · exact Or.inr ⟨x, hx, hle.trans (le_add_of_nonneg_right (hpos u _ harc))⟩

theorem distance_of_pop (h : Invariant arcs target s st) (hpos : ∀ u, ∀ a ∈ arcs u, 0 ≤ a.2) {d : W} {v : V}
    {rest : List (W ×ₗ V)} (hp : st.pending = toLex (d, v) :: rest) (hd : st.distances v = some d)
    (ht : target v) : IsDistance {c | ∃ t ∈ {t | target t}, Route arcs s t c} (some d) := by
  refine ⟨⟨v, ht, h.route v d hd⟩, ?_⟩
  rintro c ⟨t, htt, hr⟩
  rcases frontier h hpos hr with ⟨d', hd', -⟩ | ⟨x, hx, hle⟩
  · exact absurd htt (h.open_target t d' hd')
  · have hsorted := h.ordered.1
    rw [hp] at hx hsorted
    rcases List.mem_cons.mp hx with rfl | hx
    · exact hle
    · have hlt := (List.pairwise_cons.mp hsorted).1 x hx
      exact (Prod.Lex.monotone_fst _ _ hlt.le).trans hle

theorem distance_of_empty (h : Invariant arcs target s st) (hpos : ∀ u, ∀ a ∈ arcs u, 0 ≤ a.2)
    (hp : st.pending = []) : IsDistance {c | ∃ t ∈ {t | target t}, Route arcs s t c} none := by
  apply Set.eq_empty_of_forall_notMem
  rintro c ⟨t, ht, hr⟩
  rcases frontier h hpos hr with ⟨d, hd, -⟩ | ⟨x, hx, -⟩
  · exact h.open_target t d hd ht
  · rw [hp] at hx
    exact List.not_mem_nil hx

theorem invariant_expand (h : Invariant arcs target s st) (hpos : ∀ u, ∀ a ∈ arcs u, 0 ≤ a.2) {d : W} {v : V}
    {rest : List (W ×ₗ V)} (hp : st.pending = toLex (d, v) :: rest) (hd : st.distances v = some d)
    (ht : ¬ target v) {st' : SearchState V W} (hr : Relaxed d (arcs v) ⟨st.distances, rest⟩ st') :
    (∀ u c, Settled st' u c ↔ Settled st u c ∨ (u = v ∧ c = d)) ∧ Invariant arcs target s st' := by
  have hsorted := h.ordered.1
  rw [hp] at hsorted
  obtain ⟨hhead, hrest⟩ := List.pairwise_cons.mp hsorted
  have hsub : ∀ x ∈ rest, x ∈ st.pending := fun x hx => by rw [hp]; exact List.mem_cons_of_mem _ hx
  have hmem : toLex (d, v) ∈ st.pending := by rw [hp]; exact List.mem_cons_self
  have hstale : toLex (d, v) ∉ rest := fun hx => lt_irrefl _ (hhead _ hx)
  -- a settled label is at most the popped distance, so relaxation cannot lower it
  have stays : ∀ u c, st.distances u = some c → c ≤ d → toLex (c, u) ∉ rest → Settled st' u c := by
    intro u c hc hle hn
    have noarc : ∀ a ∈ arcs v, ¬ (d + a.2 < c) := fun a ha =>
      not_lt.mpr (hle.trans (le_add_of_nonneg_right (hpos v a ha)))
    refine ⟨?_, fun hx => ?_⟩
    · rcases hr.fresh u with he | ⟨w, hw, -, -, hlt⟩
      · exact he.trans hc
      · exact absurd (hlt c hc) (noarc _ hw)
    · rcases hr.pushed _ hx with hx | ⟨a, ha, he, hlt⟩
      · exact hn hx
      · obtain ⟨rfl, rfl⟩ := Prod.mk.inj (toLex.injective he)
        exact noarc a ha (hlt _ hc)
  have hset : ∀ u c, Settled st' u c ↔ Settled st u c ∨ (u = v ∧ c = d) := by
    intro u c
    constructor
    · rintro ⟨hc, hn⟩
      rcases hr.fresh u with he | ⟨w, -, hdu, hpu, -⟩
      · have hcu : st.distances u = some c := he ▸ hc
        have hnr : toLex (c, u) ∉ rest := fun hx => hn (hr.kept _ hx)
        by_cases hvu : toLex (c, u) = toLex (d, v)
        · obtain ⟨rfl, rfl⟩ := Prod.mk.inj (toLex.injective hvu)
          exact Or.inr ⟨rfl, rfl⟩
        · refine Or.inl ⟨hcu, ?_⟩
          rw [hp]
          exact List.not_mem_cons_of_ne_of_not_mem hvu hnr
      · obtain rfl := Option.some.inj (hc.symm.trans hdu)
        exact absurd hpu hn
    · rintro (⟨hc, hn⟩ | ⟨rfl, rfl⟩)
      · exact stays u c hc (h.floor u c ⟨hc, hn⟩ _ hmem) (fun hx => hn (hsub _ hx))
      · exact stays u c hd le_rfl hstale
  have hord : Ordered st' := hr.ordered ⟨hrest, fun c u hc => h.ordered.2 c u (hsub _ hc)⟩
  refine ⟨hset, hord, source_of_labels h.source hr.label_le, ?_, ?_, ?_, ?_⟩
  · intro u c hc
    rcases hr.fresh u with he | ⟨w, hw, hdu, -, -⟩
    · exact h.route u c (he ▸ hc)
    · obtain rfl := Option.some.inj (hc.symm.trans hdu)
      exact (h.route v d hd).extend hw
  · intro u c hc a ha
    rcases (hset u c).mp hc with hc | ⟨rfl, rfl⟩
    · obtain ⟨d1, hd1, hle1⟩ := h.closed u c hc a ha
      obtain ⟨d2, hd2, hle2⟩ := hr.label_le a.1 d1 hd1
      exact ⟨d2, hd2, hle2.trans hle1⟩
    · exact hr.reached a ha
  · intro u c hc x hx
    have hcd : c ≤ d := by
      rcases (hset u c).mp hc with hc | ⟨-, rfl⟩
      · exact h.floor u c hc _ hmem
      · exact le_rfl
    refine hcd.trans ?_
    rcases hr.pushed x hx with hx | ⟨a, ha, rfl, -⟩
    · exact Prod.Lex.monotone_fst _ _ (hhead x hx).le
    · exact le_add_of_nonneg_right (hpos v a ha)
  · intro u c hc
    rcases (hset u c).mp hc with hc | ⟨rfl, -⟩
    · exact h.open_target u c hc
    · exact ht

/-- Outgoing arcs not yet followed: what the queue may still grow by. -/
noncomputable def unexplored (arcs : V → List (V × W)) (verts : Finset V) (st : SearchState V W) : ℕ :=
  open Classical in ∑ v ∈ verts with ∀ d, ¬ Settled st v d, (arcs v).length

omit [LinearOrder V] [AddCommMonoid W] [LinearOrder W] [IsOrderedAddMonoid W] in
theorem unexplored_congr (verts : Finset V) {st st' : SearchState V W}
    (hset : ∀ u c, Settled st' u c ↔ Settled st u c) :
    unexplored arcs verts st' = unexplored arcs verts st := by
  classical
  unfold unexplored
  congr 1
  exact Finset.filter_congr fun v _ => forall_congr' fun d => not_congr (hset v d)

omit [AddCommMonoid W] [LinearOrder W] [IsOrderedAddMonoid W] in
theorem unexplored_expand (arcs : V → List (V × W)) (verts : Finset V) {st st' : SearchState V W} {d : W}
    {v : V} (hv : v ∈ verts) (hopen : ∀ c, ¬ Settled st v c)
    (hset : ∀ u c, Settled st' u c ↔ Settled st u c ∨ (u = v ∧ c = d)) :
    unexplored arcs verts st' + (arcs v).length = unexplored arcs verts st := by
  classical
  unfold unexplored
  have hnow : Settled st' v d := (hset v d).mpr (Or.inr ⟨rfl, rfl⟩)
  have hmem : v ∉ {u ∈ verts | ∀ c, ¬ Settled st' u c} := fun h => (Finset.mem_filter.mp h).2 d hnow
  have hsplit : {u ∈ verts | ∀ c, ¬ Settled st u c} = insert v {u ∈ verts | ∀ c, ¬ Settled st' u c} := by
    ext u
    simp only [Finset.mem_filter, Finset.mem_insert, hset]
    by_cases hu : u = v
    · subst hu
      simp [hv, hopen]
    · simp [hu]
  rw [hsplit, Finset.sum_insert hmem, Nat.add_comm]

omit [LinearOrder V] [LinearOrder W] [IsOrderedAddMonoid W] in
theorem route_mem {verts : Finset V} (hs : s ∈ verts) (hclosed : ∀ u ∈ verts, ∀ a ∈ arcs u, a.1 ∈ verts)
    {t : V} {c : W} (h : Route arcs s t c) : t ∈ verts := by
  induction h with
  | start => exact hs
  | extend hu harc ih => exact hclosed _ ih _ harc

omit [IsOrderedAddMonoid W] in
theorem body_cases [DecidableEq V] (arcs : V → List (V × W)) (target : V → Prop) [DecidablePred target]
    (st : SearchState V W) :
    (st.pending = [] ∧ body arcs target st = .inr none) ∨
    ∃ d v rest, st.pending = toLex (d, v) :: rest ∧
      ((st.distances v ≠ some d ∧ body arcs target st = .inl ⟨st.distances, rest⟩) ∨
      (st.distances v = some d ∧ target v ∧ body arcs target st = .inr (some d)) ∨
      (st.distances v = some d ∧ ¬ target v ∧
        body arcs target st = .inl ((arcs v).foldl (relax d) ⟨st.distances, rest⟩))) := by
  cases hq : st.pending with
  | nil => exact Or.inl ⟨rfl, by simp [body, hq, heappop]⟩
  | cons x rest =>
    refine Or.inr ⟨(ofLex x).1, (ofLex x).2, rest, rfl, ?_⟩
    by_cases hd : st.distances (ofLex x).2 = some (ofLex x).1
    · by_cases ht : target (ofLex x).2
      · exact Or.inr (Or.inl ⟨hd, ht, by simp [body, hq, heappop, hd, ht]⟩)
      · exact Or.inr (Or.inr ⟨hd, ht, by simp [body, hq, heappop, hd, ht]⟩)
    · exact Or.inl ⟨hd, by simp [body, hq, heappop, hd]⟩

theorem search_correct [DecidableEq V] (arcs : V → List (V × W)) (target : V → Prop) [DecidablePred target]
    (s : V) (hpos : ∀ u, ∀ a ∈ arcs u, 0 ≤ a.2) (verts : Finset V) (hs : s ∈ verts)
    (hclosed : ∀ u ∈ verts, ∀ a ∈ arcs u, a.1 ∈ verts) (n : ℕ) (hn : 1 + ∑ v ∈ verts, (arcs v).length < n) :
    ∃ r, iterate (body arcs target) n (initial s) = some r ∧
      IsDistance {c | ∃ t ∈ {t | target t}, Route arcs s t c} r := by
  apply iterate_spec _ (Invariant arcs target s) (fun st => st.pending.length + unexplored arcs verts st)
  · intro st st' h hb
    rcases body_cases arcs target st with
      ⟨-, he⟩ | ⟨d, v, rest, hq, ⟨hd, he⟩ | ⟨-, -, he⟩ | ⟨hd, ht, he⟩⟩
    · rw [he] at hb; cases hb
    · obtain rfl := Sum.inl.inj (he.symm.trans hb)
      obtain ⟨hset, hinv⟩ := invariant_stale h hq hd
      refine ⟨hinv, ?_⟩
      rw [unexplored_congr verts hset, hq]
      simp
    · rw [he] at hb; cases hb
    · obtain rfl := Sum.inl.inj (he.symm.trans hb)
      have hr := relaxed_foldl d (arcs v) ⟨st.distances, rest⟩
      obtain ⟨hset, hinv⟩ := invariant_expand h hpos hq hd ht hr
      have hv : v ∈ verts := route_mem hs hclosed (h.route v d hd)
      have hopen : ∀ c, ¬ Settled st v c := by
        rintro c ⟨hc, hnm⟩
        obtain rfl := Option.some.inj (hc.symm.trans hd)
        exact hnm (by rw [hq]; exact List.mem_cons_self)
      have hlen := hr.length_le
      have hun := unexplored_expand arcs verts hv hopen hset
      refine ⟨hinv, ?_⟩
      simp only [hq, List.length_cons] at *
      omega
  · intro st r h hb
    rcases body_cases arcs target st with
      ⟨hq, he⟩ | ⟨d, v, rest, hq, ⟨-, he⟩ | ⟨hd, ht, he⟩ | ⟨-, -, he⟩⟩
    · obtain rfl := Sum.inr.inj (he.symm.trans hb)
      exact distance_of_empty h hpos hq
    · rw [he] at hb; cases hb
    · obtain rfl := Sum.inr.inj (he.symm.trans hb)
      exact distance_of_pop h hpos hq hd ht
    · rw [he] at hb; cases hb
  · exact invariant_initial arcs target s
  · refine lt_of_le_of_lt (Nat.add_le_add_left ?_ _) hn
    classical
    exact Finset.sum_le_sum_of_subset (Finset.filter_subset _ _)

end Search

end TelconetSentinel.LazySearch
