import Mathlib.Tactic
import Mathlib.Order.Bounds.Basic
import Mathlib.Algebra.Order.Monoid.Defs
import Mathlib.Algebra.BigOperators.Group.List.Basic
import Mathlib.Order.WithBot

/-!
Walks in an undirected network whose edges carry an identity and a weight, so that parallel edges are
told apart. A removal takes away a set of edges and a set of nodes.
-/

namespace TelconetSentinel.WeightedWalks

structure Network (V E W : Type*) where
  edges : Set E
  ends : E → V × V
  weight : E → W

structure Removal (V E : Type*) where
  edges : Set E
  nodes : Set V

variable {V E W : Type*}

namespace Removal

def none : Removal V E := ⟨∅, ∅⟩

instance : LE (Removal V E) := ⟨fun r s => r.edges ⊆ s.edges ∧ r.nodes ⊆ s.nodes⟩

theorem none_le (r : Removal V E) : Removal.none ≤ r := ⟨Set.empty_subset _, Set.empty_subset _⟩

end Removal

variable [DecidableEq V]

def Network.across (N : Network V E W) (e : E) (u : V) : Option V :=
  if (N.ends e).1 = u then some (N.ends e).2
  else if (N.ends e).2 = u then some (N.ends e).1
  else none

def Network.Incident (N : Network V E W) (v : V) (e : E) : Prop := (N.ends e).1 = v ∨ (N.ends e).2 = v

theorem incident_of_across {N : Network V E W} {e : E} {u v : V} (h : N.across e u = some v) (x : V) :
    N.Incident x e ↔ x = u ∨ x = v := by
  unfold Network.across at h
  split_ifs at h with h1 h2
  · obtain rfl := Option.some.inj h
    simp only [Network.Incident, h1, eq_comm]
  · obtain rfl := Option.some.inj h
    simp only [Network.Incident, h2, eq_comm, or_comm]

def IsWalk (N : Network V E W) : V → List (E × V) → Prop
  | _, [] => True
  | u, (e, v) :: hops => e ∈ N.edges ∧ N.across e u = some v ∧ IsWalk N v hops

def arrival : V → List (E × V) → V
  | u, [] => u
  | _, (_, v) :: hops => arrival v hops

omit [DecidableEq V] in
theorem arrival_append (u : V) (p q : List (E × V)) : arrival u (p ++ q) = arrival (arrival u p) q := by
  induction p generalizing u with
  | nil => rfl
  | cons h p ih => exact ih h.2

omit [DecidableEq V] in
theorem arrival_mem (u : V) (p : List (E × V)) : arrival u p ∈ u :: p.map Prod.snd := by
  induction p generalizing u with
  | nil => simp [arrival]
  | cons h p ih =>
    rw [List.map_cons]
    exact List.mem_cons_of_mem _ (ih h.2)

theorem isWalk_append (N : Network V E W) (u : V) (p q : List (E × V)) :
    IsWalk N u (p ++ q) ↔ IsWalk N u p ∧ IsWalk N (arrival u p) q := by
  induction p generalizing u with
  | nil => simp [IsWalk, arrival]
  | cons h p ih => simp only [List.cons_append, IsWalk, arrival, ih, and_assoc]

theorem edges_mem_of_isWalk {N : Network V E W} (p : List (E × V)) (u : V) (h : IsWalk N u p) :
    ∀ e ∈ p.map Prod.fst, e ∈ N.edges := by
  induction p generalizing u with
  | nil => simp
  | cons hop p ih =>
    simp only [List.map_cons, List.forall_mem_cons]
    exact ⟨h.1, ih hop.2 h.2.2⟩

structure Walk (N : Network V E W) (s t : V) where
  hops : List (E × V)
  isWalk : IsWalk N s hops
  arrives : arrival s hops = t

namespace Walk

variable {N : Network V E W} {s t : V}

def edges (w : Walk N s t) : List E := w.hops.map Prod.fst

def nodes (w : Walk N s t) : List V := s :: w.hops.map Prod.snd

def cost [AddMonoid W] (w : Walk N s t) : W := (w.edges.map N.weight).sum

def Avoids (w : Walk N s t) (r : Removal V E) : Prop :=
  (∀ e ∈ w.edges, e ∉ r.edges) ∧ ∀ v ∈ w.nodes, v ∉ r.nodes

def IsShortest [AddMonoid W] [LE W] (w : Walk N s t) (T : Set V) : Prop :=
  ∀ t' ∈ T, ∀ w' : Walk N s t', w.cost ≤ w'.cost

theorem Avoids.of_le {w : Walk N s t} {r r' : Removal V E} (h : w.Avoids r') (hr : r ≤ r') : w.Avoids r :=
  ⟨fun e he hx => h.1 e he (hr.1 hx), fun v hv hx => h.2 v hv (hr.2 hx)⟩

theorem avoids_none (w : Walk N s t) : w.Avoids Removal.none := by
  simp [Avoids, Removal.none]

theorem source_not_removed {w : Walk N s t} {r : Removal V E} (h : w.Avoids r) : s ∉ r.nodes :=
  h.2 s (by simp [nodes])

theorem target_not_removed {w : Walk N s t} {r : Removal V E} (h : w.Avoids r) : t ∉ r.nodes := by
  have ht := arrival_mem s w.hops
  rw [w.arrives] at ht
  exact h.2 t ht

end Walk

section Distance

variable [AddMonoid W] [PartialOrder W]

def costs (N : Network V E W) (r : Removal V E) (s : V) (T : Set V) : Set W :=
  {c | ∃ t ∈ T, ∃ w : Walk N s t, w.Avoids r ∧ w.cost = c}

/-- The least element of a set of costs, and `none` when there is no cost at all. -/
def IsDistance (S : Set W) : Option W → Prop
  | none => S = ∅
  | some d => IsLeast S d

def toTop : Option W → WithTop W
  | none => ⊤
  | some d => d

omit [AddMonoid W] in
theorem IsDistance.unique {S : Set W} {a b : Option W} (ha : IsDistance S a) (hb : IsDistance S b) :
    a = b := by
  cases a with
  | none =>
    cases b with
    | none => rfl
    | some d => exact absurd (ha ▸ hb.1) (Set.notMem_empty d)
  | some c =>
    cases b with
    | none => exact absurd (hb ▸ ha.1) (Set.notMem_empty c)
    | some d => exact congrArg some (IsLeast.unique ha hb)

omit [AddMonoid W] in
theorem IsDistance.mono {S S' : Set W} {a b : Option W} (hs : S' ⊆ S) (ha : IsDistance S a)
    (hb : IsDistance S' b) : toTop a ≤ toTop b := by
  cases b with
  | none => exact le_top
  | some d =>
    cases a with
    | none => exact absurd (ha ▸ hs hb.1) (Set.notMem_empty d)
    | some c => exact WithTop.coe_le_coe.mpr (ha.2 (hs hb.1))

omit [AddMonoid W] in
/-- The least cost is kept by a part of the costs exactly when nothing outside the part is cheaper. -/
theorem IsDistance.subset_iff {S S' : Set W} {a : Option W} (hs : S' ⊆ S) (ha : IsDistance S a) :
    IsDistance S' a ↔ ∀ c ∈ S, ∃ c' ∈ S', c' ≤ c := by
  cases a with
  | none =>
    have hempty : S = ∅ := ha
    subst hempty
    exact iff_of_true (Set.subset_empty_iff.mp hs) fun _ hc => absurd hc (Set.notMem_empty _)
  | some d =>
    constructor
    · intro h c hc
      exact ⟨d, h.1, ha.2 hc⟩
    · intro h
      obtain ⟨c, hc, hle⟩ := h d ha.1
      obtain rfl := le_antisymm hle (ha.2 (hs hc))
      exact ⟨hc, fun _ hc' => ha.2 (hs hc')⟩

omit [PartialOrder W] in
theorem costs_antitone (N : Network V E W) {r r' : Removal V E} (hr : r ≤ r') (s : V) (T : Set V) :
    costs N r' s T ⊆ costs N r s T := by
  rintro c ⟨t, ht, w, hw, hc⟩
  exact ⟨t, ht, w, hw.of_le hr, hc⟩

theorem isLeast_none_iff (N : Network V E W) (s t : V) (T : Set V) (ht : t ∈ T) (w : Walk N s t) :
    IsLeast (costs N Removal.none s T) w.cost ↔ w.IsShortest T := by
  constructor
  · intro h t' ht' w'
    exact h.2 ⟨t', ht', w', w'.avoids_none, rfl⟩
  · intro h
    refine ⟨⟨t, ht, w, w.avoids_none, rfl⟩, ?_⟩
    rintro c ⟨t', ht', w', -, rfl⟩
    exact h t' ht' w'

def CutOff (N : Network V E W) (r : Removal V E) (s : V) (T : Set V) : Prop :=
  ∀ t ∈ T, ∀ w : Walk N s t, ¬ w.Avoids r

def KeepsShortest (N : Network V E W) (r : Removal V E) (s : V) (T : Set V) : Prop :=
  ∃ t ∈ T, ∃ w : Walk N s t, w.IsShortest T ∧ w.Avoids r

def LosesShortest (N : Network V E W) (r : Removal V E) (s : V) (T : Set V) : Prop :=
  ∀ t ∈ T, ∀ w : Walk N s t, w.IsShortest T → ¬ w.Avoids r

theorem not_keepsShortest (N : Network V E W) (r : Removal V E) (s : V) (T : Set V) :
    ¬ KeepsShortest N r s T ↔ LosesShortest N r s T := by
  simp only [KeepsShortest, LosesShortest, not_exists, not_and]

theorem distance_none_iff {N : Network V E W} {r : Removal V E} {s : V} {T : Set V} {a : Option W}
    (ha : IsDistance (costs N r s T) a) : a = none ↔ CutOff N r s T := by
  constructor
  · rintro rfl t ht w hw
    exact Set.notMem_empty w.cost (ha ▸ ⟨t, ht, w, hw, rfl⟩)
  · intro hc
    cases a with
    | none => rfl
    | some d =>
      obtain ⟨t, ht, w, hw, -⟩ := ha.1
      exact absurd hw (hc t ht w)

theorem distance_kept_iff {N : Network V E W} {r : Removal V E} {s : V} {T : Set V} {a : Option W} {d : W}
    (hd : IsDistance (costs N Removal.none s T) (some d)) (ha : IsDistance (costs N r s T) a) :
    a = some d ↔ KeepsShortest N r s T := by
  constructor
  · rintro rfl
    obtain ⟨t, ht, w, hw, hc⟩ := ha.1
    refine ⟨t, ht, w, (isLeast_none_iff N s t T ht w).mp ?_, hw⟩
    rw [hc]
    exact hd
  · rintro ⟨t, ht, w, hs, hw⟩
    have hcost : w.cost = d := IsLeast.unique ((isLeast_none_iff N s t T ht w).mpr hs) hd
    have hleast : IsDistance (costs N r s T) (some d) := by
      refine ⟨⟨t, ht, w, hw, hcost⟩, fun c hc => ?_⟩
      exact hd.2 (costs_antitone N (Removal.none_le r) s T hc)
    exact ha.unique hleast

omit [PartialOrder W] in
theorem costs_congr (N : Network V E W) {r r' : Removal V E}
    (hedges : ∀ e ∈ N.edges, e ∈ r.edges ↔ e ∈ r'.edges) (hnodes : r.nodes = r'.nodes) (s : V) (T : Set V) :
    costs N r s T = costs N r' s T := by
  have walks : ∀ {t : V} (w : Walk N s t), w.Avoids r ↔ w.Avoids r' := by
    intro t w
    unfold Walk.Avoids
    rw [hnodes]
    refine and_congr_left fun _ => forall₂_congr fun e he => not_congr ?_
    exact hedges e (edges_mem_of_isWalk w.hops s w.isWalk e he)
  simp only [costs, walks]

omit [PartialOrder W] in
theorem costs_node_removal (N : Network V E W) (L : Set E) (X : Set V) (n s : V) (T : Set V) (hs : s ≠ n) :
    costs N ⟨L, insert n X⟩ s T = costs N ⟨L ∪ {e | N.Incident n e}, X⟩ s T := by
  have key : ∀ (p : List (E × V)) (u : V), u ≠ n → IsWalk N u p →
      ((∀ v ∈ p.map Prod.snd, v ≠ n) ↔ ∀ e ∈ p.map Prod.fst, ¬ N.Incident n e) := by
    intro p
    induction p with
    | nil => simp
    | cons h p ih =>
      rintro u hu ⟨-, hx, hp⟩
      have hinc := incident_of_across hx n
      by_cases hv : h.2 = n
      · simp [hv, hinc]
      · have hno : ¬ N.Incident n h.1 := by
          rw [hinc]
          rintro (rfl | rfl)
          · exact hu rfl
          · exact hv rfl
        simp only [List.map_cons, List.forall_mem_cons, ih h.2 hv hp, hno, hv, ne_eq, not_false_eq_true,
          true_and]
  have walks : ∀ {t : V} (w : Walk N s t),
      w.Avoids ⟨L, insert n X⟩ ↔ w.Avoids ⟨L ∪ {e | N.Incident n e}, X⟩ := by
    intro t w
    have hk := key w.hops s hs w.isWalk
    simp only [Walk.Avoids, Walk.edges, Walk.nodes, Set.mem_insert_iff, Set.mem_union, Set.mem_ofPred_eq,
      not_or, List.forall_mem_cons, forall_and, hs, not_false_eq_true, true_and]
    have hk' : (∀ x ∈ List.map Prod.snd w.hops, ¬ x = n) ↔ ∀ e ∈ List.map Prod.fst w.hops, ¬ N.Incident n e :=
      hk
    tauto
  ext c
  constructor
  · rintro ⟨t, ht, w, hw, hc⟩
    exact ⟨t, ht, w, (walks w).mp hw, hc⟩
  · rintro ⟨t, ht, w, hw, hc⟩
    exact ⟨t, ht, w, (walks w).mpr hw, hc⟩

end Distance

section Routes

inductive Route [AddMonoid W] (arcs : V → List (V × W)) (s : V) : V → W → Prop
  | start : Route arcs s s 0
  | extend {u v : V} {c w : W} : Route arcs s u c → (v, w) ∈ arcs u → Route arcs s v (c + w)

variable [AddMonoid W]

def IsSurviving (N : Network V E W) (r : Removal V E) (arcs : V → List (V × W)) : Prop :=
  ∀ u v w, (v, w) ∈ arcs u ↔
    ∃ e ∈ N.edges, e ∉ r.edges ∧ N.across e u = some v ∧ v ∉ r.nodes ∧ N.weight e = w

omit [DecidableEq V] in
theorem exists_route_iff (arcs : V → List (V × W)) (s t : V) :
    (∃ c, Route arcs s t c) ↔ Relation.ReflTransGen (fun u v => ∃ w, (v, w) ∈ arcs u) s t := by
  constructor
  · rintro ⟨c, h⟩
    induction h with
    | start => exact .refl
    | extend _ harc ih => exact ih.tail ⟨_, harc⟩
  · intro h
    induction h with
    | refl => exact ⟨0, .start⟩
    | tail _ harc ih =>
      obtain ⟨c, hc⟩ := ih
      obtain ⟨w, hw⟩ := harc
      exact ⟨c + w, hc.extend hw⟩

theorem walk_of_route {N : Network V E W} {r : Removal V E} {arcs : V → List (V × W)}
    (ha : IsSurviving N r arcs) {s t : V} {c : W} (hs : s ∉ r.nodes) (h : Route arcs s t c) :
    ∃ w : Walk N s t, w.Avoids r ∧ w.cost = c := by
  induction h with
  | start => exact ⟨⟨[], trivial, rfl⟩, by simp [Walk.Avoids, Walk.edges, Walk.nodes, hs], rfl⟩
  | @extend u v c w hu harc ih =>
    obtain ⟨p, hp, hc⟩ := ih
    obtain ⟨e, he, her, hx, hv, rfl⟩ := (ha u v w).mp harc
    refine ⟨⟨p.hops ++ [(e, v)], ?_, ?_⟩, ?_, ?_⟩
    · exact (isWalk_append N s p.hops _).mpr ⟨p.isWalk, he, by rw [p.arrives]; exact hx, trivial⟩
    · rw [arrival_append]; rfl
    · refine ⟨fun f hf => ?_, fun x hxm => ?_⟩
      · simp only [Walk.edges, List.map_append, List.mem_append, List.map_cons, List.map_nil,
          List.mem_singleton] at hf
        rcases hf with hf | rfl
        · exact hp.1 f hf
        · exact her
      · simp only [Walk.nodes, List.map_append, List.mem_cons, List.mem_append, List.map_cons, List.map_nil,
          List.not_mem_nil, or_false] at hxm
        rcases hxm with rfl | hxm | rfl
        · exact hs
        · exact hp.2 x (List.mem_cons_of_mem _ hxm)
        · exact hv
    · simp only [Walk.cost, Walk.edges, List.map_append, List.map_cons, List.map_nil, List.sum_append,
        List.sum_cons, List.sum_nil, add_zero]
      exact congrArg (· + N.weight e) hc

theorem route_of_hops {N : Network V E W} {r : Removal V E} {arcs : V → List (V × W)}
    (ha : IsSurviving N r arcs) {s : V} (p : List (E × V)) (u : V) (c : W) (hu : Route arcs s u c)
    (hp : IsWalk N u p) (he : ∀ e ∈ p.map Prod.fst, e ∉ r.edges) (hv : ∀ v ∈ p.map Prod.snd, v ∉ r.nodes) :
    Route arcs s (arrival u p) (c + ((p.map Prod.fst).map N.weight).sum) := by
  induction p generalizing u c with
  | nil => simpa [arrival] using hu
  | cons h p ih =>
    obtain ⟨hmem, hx, hp⟩ := hp
    simp only [List.map_cons, List.forall_mem_cons] at he hv
    have harc : (h.2, N.weight h.1) ∈ arcs u := (ha u _ _).mpr ⟨h.1, hmem, he.1, hx, hv.1, rfl⟩
    simpa only [List.map_cons, List.sum_cons, add_assoc, arrival] using
      ih h.2 (c + N.weight h.1) (hu.extend harc) hp he.2 hv.2

theorem route_iff_walk {N : Network V E W} {r : Removal V E} {arcs : V → List (V × W)}
    (ha : IsSurviving N r arcs) {s t : V} (hs : s ∉ r.nodes) (c : W) :
    Route arcs s t c ↔ ∃ w : Walk N s t, w.Avoids r ∧ w.cost = c := by
  constructor
  · exact walk_of_route ha hs
  · rintro ⟨w, hw, rfl⟩
    have hn := hw.2
    simp only [Walk.nodes, List.forall_mem_cons] at hn
    have h := route_of_hops ha w.hops s 0 .start w.isWalk hw.1 hn.2
    rw [w.arrives, zero_add] at h
    exact h

end Routes

end TelconetSentinel.WeightedWalks
