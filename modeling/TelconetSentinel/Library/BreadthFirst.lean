import Mathlib.Data.Finset.Card
import Mathlib.Tactic

namespace TelconetSentinel.Iteration

variable {σ ρ : Type*}

/-- At most `n` rounds of a loop body that either continues with a new state or returns. -/
def iterate (body : σ → σ ⊕ ρ) : ℕ → σ → Option ρ
  | 0, _ => none
  | n + 1, s =>
    match body s with
    | .inl t => iterate body n t
    | .inr r => some r

theorem iterate_spec (body : σ → σ ⊕ ρ) (Inv : σ → Prop) (variant : σ → ℕ) (Post : ρ → Prop)
    (hstep : ∀ s t, Inv s → body s = .inl t → Inv t ∧ variant t < variant s)
    (hexit : ∀ s r, Inv s → body s = .inr r → Post r)
    (n : ℕ) (s : σ) (hs : Inv s) (hn : variant s < n) :
    ∃ r, iterate body n s = some r ∧ Post r := by
  induction n generalizing s with
  | zero => omega
  | succ n ih =>
    cases hb : body s with
    | inl t =>
      obtain ⟨ht, hlt⟩ := hstep s t hs hb
      obtain ⟨r, hr, hp⟩ := ih t ht (by omega)
      exact ⟨r, by simp [iterate, hb, hr], hp⟩
    | inr r => exact ⟨r, by simp [iterate, hb], hexit s r hs hb⟩

end TelconetSentinel.Iteration

namespace TelconetSentinel.BreadthFirst

open Iteration

variable {V ε : Type*} [DecidableEq V]

structure Frontier (V : Type*) where
  visited : Finset V
  pending : List V

def scan (targets : Finset V) : List V → Frontier V → Option (Frontier V)
  | [], st => some st
  | v :: rest, st =>
    if v ∈ st.visited then scan targets rest st
    else if v ∈ targets then none
    else scan targets rest ⟨insert v st.visited, st.pending ++ [v]⟩

def visitRound (neighbors : V → Except ε (List V)) (targets : Finset V) (st : Frontier V) :
    Frontier V ⊕ Except ε Bool :=
  match st.pending with
  | [] => .inr (.ok false)
  | current :: rest =>
    match neighbors current with
    | .error e => .inr (.error e)
    | .ok next =>
      match scan targets next ⟨st.visited, rest⟩ with
      | some st' => .inl st'
      | none => .inr (.ok true)

def start (source : V) : Frontier V := ⟨{source}, [source]⟩

def Reaches (next : V → List V) : V → V → Prop := Relation.ReflTransGen fun u v => v ∈ next u

def remaining (verts : Finset V) (st : Frontier V) : ℕ := (verts \ st.visited).card + st.pending.length

structure Scanned (verts targets : Finset V) (vs : List V) (st st' : Frontier V) : Prop where
  visited_iff : ∀ v, v ∈ st'.visited ↔ v ∈ st.visited ∨ v ∈ vs
  pending_iff : ∀ v, v ∈ st'.pending ↔ v ∈ st.pending ∨ v ∈ vs ∧ v ∉ st.visited
  untargeted : ∀ v ∈ vs, v ∉ st.visited → v ∉ targets
  remaining_eq : (∀ v ∈ vs, v ∈ verts) → remaining verts st' = remaining verts st

theorem remaining_visit {verts : Finset V} {v : V} {st : Frontier V} (hv : v ∈ verts)
    (hnew : v ∉ st.visited) :
    remaining verts ⟨insert v st.visited, st.pending ++ [v]⟩ = remaining verts st := by
  have hmem : v ∈ verts \ st.visited := Finset.mem_sdiff.mpr ⟨hv, hnew⟩
  have hinsert : verts \ insert v st.visited = (verts \ st.visited).erase v := by
    ext u
    simp only [Finset.mem_sdiff, Finset.mem_insert, Finset.mem_erase]
    tauto
  have hpos := Finset.card_pos.mpr ⟨v, hmem⟩
  simp only [remaining, hinsert, Finset.card_erase_of_mem hmem, List.length_append, List.length_singleton]
  omega

theorem scan_some (verts : Finset V) {targets : Finset V} {vs : List V} {st st' : Frontier V}
    (h : scan targets vs st = some st') : Scanned verts targets vs st st' := by
  induction vs generalizing st with
  | nil =>
    obtain rfl := Option.some.inj h
    exact ⟨by simp, by simp, by simp, fun _ => rfl⟩
  | cons v vs ih =>
    rw [scan] at h
    split_ifs at h with hvisited htarget
    · have hrest := ih h
      refine ⟨fun u => ?_, fun u => ?_, fun u hu hnew => ?_, fun hverts => ?_⟩
      · rw [hrest.visited_iff, List.mem_cons]
        grind
      · rw [hrest.pending_iff, List.mem_cons]
        grind
      · obtain rfl | hu := List.mem_cons.mp hu
        · exact absurd hvisited hnew
        · exact hrest.untargeted u hu hnew
      · exact hrest.remaining_eq fun u hu => hverts u (List.mem_cons_of_mem _ hu)
    · have hrest := ih h
      refine ⟨fun u => ?_, fun u => ?_, fun u hu hnew => ?_, fun hverts => ?_⟩
      · rw [hrest.visited_iff, Finset.mem_insert, List.mem_cons]
        tauto
      · rw [hrest.pending_iff, Finset.mem_insert, List.mem_append, List.mem_singleton, List.mem_cons]
        grind
      · by_cases heq : u = v
        · rwa [heq]
        · exact hrest.untargeted u ((List.mem_cons.mp hu).resolve_left heq) (by simp [heq, hnew])
      · rw [hrest.remaining_eq fun u hu => hverts u (List.mem_cons_of_mem _ hu)]
        exact remaining_visit (hverts v List.mem_cons_self) hvisited

theorem scan_none {targets : Finset V} {vs : List V} {st : Frontier V} (h : scan targets vs st = none) :
    ∃ v ∈ vs, v ∈ targets := by
  induction vs generalizing st with
  | nil => cases h
  | cons v vs ih =>
    rw [scan] at h
    split_ifs at h with hvisited htarget
    · obtain ⟨u, hu, ht⟩ := ih h
      exact ⟨u, List.mem_cons_of_mem _ hu, ht⟩
    · exact ⟨v, List.mem_cons_self, htarget⟩
    · obtain ⟨u, hu, ht⟩ := ih h
      exact ⟨u, List.mem_cons_of_mem _ hu, ht⟩

section Correctness

variable (next : V → List V) (verts targets : Finset V) (source : V)

/-- Everything visited is reached, and everything expanded has its neighbours visited. -/
structure Invariant (st : Frontier V) : Prop where
  source_visited : source ∈ st.visited
  reached : ∀ v ∈ st.visited, Reaches next source v
  known : ∀ v ∈ st.visited, v ∈ verts
  untargeted : ∀ v ∈ st.visited, v ∉ targets
  pending_visited : ∀ v ∈ st.pending, v ∈ st.visited
  expanded : ∀ u ∈ st.visited, u ∉ st.pending → ∀ v ∈ next u, v ∈ st.visited

variable {next verts targets source}

omit [DecidableEq V] in
theorem invariant_start (hs : source ∈ verts) (ht : source ∉ targets) :
    Invariant next verts targets source (start source) where
  source_visited := Finset.mem_singleton_self source
  reached := by
    intro v hv
    rw [Finset.mem_singleton.mp hv]
    exact .refl
  known := by
    intro v hv
    rwa [Finset.mem_singleton.mp hv]
  untargeted := by
    intro v hv
    rwa [Finset.mem_singleton.mp hv]
  pending_visited := by simp [start]
  expanded := by simp [start]

theorem invariant_scan (hclosed : ∀ u ∈ verts, ∀ v ∈ next u, v ∈ verts) {visited : Finset V} {current : V}
    {rest : List V} {st' : Frontier V} (hinv : Invariant next verts targets source ⟨visited, current :: rest⟩)
    (h : Scanned verts targets (next current) ⟨visited, rest⟩ st') :
    Invariant next verts targets source st' := by
  have hcurrent : current ∈ visited := hinv.pending_visited current List.mem_cons_self
  constructor
  · exact (h.visited_iff source).mpr (.inl hinv.source_visited)
  · intro v hv
    obtain hv | hv := (h.visited_iff v).mp hv
    · exact hinv.reached v hv
    · exact (hinv.reached current hcurrent).tail hv
  · intro v hv
    obtain hv | hv := (h.visited_iff v).mp hv
    · exact hinv.known v hv
    · exact hclosed current (hinv.known current hcurrent) v hv
  · intro v hv
    by_cases hold : v ∈ visited
    · exact hinv.untargeted v hold
    · exact h.untargeted v (((h.visited_iff v).mp hv).resolve_left hold) hold
  · intro v hv
    obtain hv | ⟨hv, -⟩ := (h.pending_iff v).mp hv
    · exact (h.visited_iff v).mpr (.inl (hinv.pending_visited v (List.mem_cons_of_mem _ hv)))
    · exact (h.visited_iff v).mpr (.inr hv)
  · intro u hu hdone v hv
    have hnew : u ∈ visited := by
      by_contra hnew
      exact hdone ((h.pending_iff u).mpr (.inr ⟨((h.visited_iff u).mp hu).resolve_left hnew, hnew⟩))
    have hrest : u ∉ rest := fun hmem => hdone ((h.pending_iff u).mpr (.inl hmem))
    by_cases heq : u = current
    · exact (h.visited_iff v).mpr (.inr (heq ▸ hv))
    · exact (h.visited_iff v).mpr (.inl (hinv.expanded u hnew (by simp [heq, hrest]) v hv))

omit [DecidableEq V] in
theorem Invariant.visited_of_reaches {st : Frontier V} (hinv : Invariant next verts targets source st)
    (hempty : st.pending = []) {v : V} (hv : Reaches next source v) : v ∈ st.visited := by
  induction hv with
  | refl => exact hinv.source_visited
  | tail _ hstep ih => exact hinv.expanded _ ih (by simp [hempty]) _ hstep

variable {neighbors : V → Except ε (List V)}

theorem visitRound_step (hnext : ∀ u ∈ verts, neighbors u = .ok (next u))
    (hclosed : ∀ u ∈ verts, ∀ v ∈ next u, v ∈ verts) (st st' : Frontier V)
    (hinv : Invariant next verts targets source st) (h : visitRound neighbors targets st = .inl st') :
    Invariant next verts targets source st' ∧ remaining verts st' < remaining verts st := by
  obtain ⟨visited, pending⟩ := st
  cases pending with
  | nil => cases h
  | cons current rest =>
    have hknown : current ∈ verts := hinv.known current (hinv.pending_visited current List.mem_cons_self)
    simp only [visitRound, hnext current hknown] at h
    cases hscan : scan targets (next current) ⟨visited, rest⟩ with
    | none =>
      rw [hscan] at h
      cases h
    | some scanned =>
      rw [hscan] at h
      obtain rfl := Sum.inl.inj h
      have hspec := scan_some verts hscan
      refine ⟨invariant_scan hclosed hinv hspec, ?_⟩
      rw [hspec.remaining_eq (hclosed current hknown)]
      simp [remaining]

theorem visitRound_exit (hnext : ∀ u ∈ verts, neighbors u = .ok (next u)) (st : Frontier V)
    (r : Except ε Bool) (hinv : Invariant next verts targets source st)
    (h : visitRound neighbors targets st = .inr r) :
    ∃ found, r = .ok found ∧ (found = true ↔ ∃ t ∈ targets, Reaches next source t) := by
  obtain ⟨visited, pending⟩ := st
  cases pending with
  | nil =>
    refine ⟨false, (Sum.inr.inj h).symm, ?_⟩
    simp only [Bool.false_eq_true, false_iff]
    rintro ⟨t, ht, hreach⟩
    exact hinv.untargeted t (hinv.visited_of_reaches rfl hreach) ht
  | cons current rest =>
    have hcurrent : current ∈ visited := hinv.pending_visited current List.mem_cons_self
    simp only [visitRound, hnext current (hinv.known current hcurrent)] at h
    cases hscan : scan targets (next current) ⟨visited, rest⟩ with
    | some scanned =>
      rw [hscan] at h
      cases h
    | none =>
      rw [hscan] at h
      obtain ⟨t, hstep, ht⟩ := scan_none hscan
      refine ⟨true, (Sum.inr.inj h).symm, ?_⟩
      simp only [true_iff]
      exact ⟨t, ht, (hinv.reached current hcurrent).tail hstep⟩

theorem search_correct (hnext : ∀ u ∈ verts, neighbors u = .ok (next u))
    (hclosed : ∀ u ∈ verts, ∀ v ∈ next u, v ∈ verts) (hs : source ∈ verts) (ht : source ∉ targets) {n : ℕ}
    (hn : verts.card < n) :
    ∃ found, iterate (visitRound neighbors targets) n (start source) = some (.ok found) ∧
      (found = true ↔ ∃ t ∈ targets, Reaches next source t) := by
  have hstart : remaining verts (start source) < n := by
    have hcard : (verts \ {source}).card + 1 = verts.card := by
      rw [Finset.sdiff_singleton_eq_erase]
      exact Finset.card_erase_add_one hs
    simp only [remaining, start, List.length_singleton, hcard]
    exact hn
  obtain ⟨r, hr, found, rfl, hfound⟩ := iterate_spec (visitRound neighbors targets)
    (Invariant next verts targets source) (remaining verts)
    (fun r => ∃ found, r = .ok found ∧ (found = true ↔ ∃ t ∈ targets, Reaches next source t))
    (visitRound_step hnext hclosed) (visitRound_exit hnext) n (start source) (invariant_start hs ht) hstart
  exact ⟨found, hr, hfound⟩

end Correctness

end TelconetSentinel.BreadthFirst
