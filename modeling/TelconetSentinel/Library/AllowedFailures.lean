import TelconetSentinel.Library.FallibleLists

namespace TelconetSentinel.AllowedFailures

open FallibleLists

universe u

variable {ε : Type*} {α β : Type u} {allowed : ε → Prop}

def FailsOnly (allowed : ε → Prop) (x : Except ε α) : Prop := ∀ e, x = .error e → allowed e

theorem failsOnly_ok (a : α) : FailsOnly allowed (.ok a : Except ε α) := by
  intro e h
  cases h

theorem failsOnly_pure (a : α) : FailsOnly allowed (pure a : Except ε α) := failsOnly_ok a

theorem failsOnly_error_iff (e : ε) : FailsOnly allowed (.error e : Except ε α) ↔ allowed e := by
  constructor
  · intro h
    exact h e rfl
  · rintro h e' he
    obtain rfl := Except.error.inj he
    exact h

theorem failsOnly_bind_iff (x : Except ε α) (f : α → Except ε β) :
    FailsOnly allowed (x >>= f) ↔ FailsOnly allowed x ∧ ∀ a, x = .ok a → FailsOnly allowed (f a) := by
  cases x with
  | error e =>
    rw [error_bind, failsOnly_error_iff, failsOnly_error_iff]
    exact (and_iff_left fun a h => nomatch h).symm
  | ok a =>
    rw [ok_bind]
    constructor
    · refine fun h => ⟨failsOnly_ok a, fun b hb => ?_⟩
      obtain rfl := Except.ok.inj hb
      exact h
    · exact fun h => h.2 a rfl

/-- A step that cannot fail with an error that is not allowed adds nothing to what follows it. -/
theorem failsOnly_bind_iff_of_left {x : Except ε α} (hx : FailsOnly allowed x) (f : α → Except ε β) :
    FailsOnly allowed (x >>= f) ↔ ∀ a, x = .ok a → FailsOnly allowed (f a) := by
  rw [failsOnly_bind_iff]
  exact and_iff_right hx

theorem FailsOnly.bind {x : Except ε α} {f : α → Except ε β} (hx : FailsOnly allowed x)
    (hf : ∀ a, x = .ok a → FailsOnly allowed (f a)) : FailsOnly allowed (x >>= f) :=
  (failsOnly_bind_iff x f).mpr ⟨hx, hf⟩

theorem failsOnly_required_bind_iff {x : Except ε α} {found : Option α} {e : ε} (he : ¬ allowed e)
    (hsome : ∀ a, found = some a → x = .ok a) (hnone : found = none → x = .error e) (f : α → Except ε β) :
    FailsOnly allowed (x >>= f) ↔ ∃ a, found = some a ∧ FailsOnly allowed (f a) := by
  cases hfound : found with
  | none =>
    rw [hnone hfound, error_bind, failsOnly_error_iff]
    constructor
    · exact fun h => absurd h he
    · rintro ⟨a, h, -⟩
      cases h
  | some a =>
    rw [hsome a hfound, ok_bind]
    constructor
    · exact fun h => ⟨a, rfl, h⟩
    · rintro ⟨other, h, hother⟩
      obtain rfl := Option.some.inj h
      exact hother

theorem FailsOnly.foldlM {δ : Type*} {f : β → δ → Except ε β} {I : β → Prop}
    (hfails : ∀ s x, I s → FailsOnly allowed (f s x)) (hkeeps : ∀ s x s', I s → f s x = .ok s' → I s')
    (xs : List δ) {s : β} (hs : I s) : FailsOnly allowed (xs.foldlM f s) := by
  induction xs generalizing s with
  | nil => exact failsOnly_ok s
  | cons x xs ih =>
    rw [List.foldlM_cons]
    exact (hfails s x hs).bind fun next hnext => ih (hkeeps s x next hs hnext)

theorem FailsOnly.check {p : Prop} [Decidable p] {e : ε} {x : Except ε α} (he : allowed e)
    (hx : FailsOnly allowed x) :
    FailsOnly allowed (if p then .error e else x) := by
  split_ifs
  · exact (failsOnly_error_iff e).mpr he
  · exact hx

theorem FailsOnly.forM {δ : Type*} {f : δ → Except ε PUnit} {xs : List δ}
    (h : ∀ x ∈ xs, FailsOnly allowed (f x)) :
    FailsOnly allowed (xs.forM f) := by
  induction xs with
  | nil => exact failsOnly_ok _
  | cons x xs ih =>
    obtain ⟨hfirst, hrest⟩ := List.forall_mem_cons.mp h
    exact hfirst.bind fun _ _ => ih hrest

theorem FailsOnly.mapM {δ : Type*} {f : δ → Except ε α} {xs : List δ}
    (h : ∀ x ∈ xs, FailsOnly allowed (f x)) :
    FailsOnly allowed (xs.mapM f) := by
  induction xs with
  | nil => exact failsOnly_pure _
  | cons x xs ih =>
    obtain ⟨hfirst, hrest⟩ := List.forall_mem_cons.mp h
    rw [List.mapM_cons]
    exact hfirst.bind fun _ _ => (ih hrest).bind fun _ _ => failsOnly_pure _

theorem FailsOnly.foldlM_of_mem {δ : Type*} {f : β → δ → Except ε β} {xs : List δ}
    (hfails : ∀ s, ∀ x ∈ xs, FailsOnly allowed (f s x)) (s : β) : FailsOnly allowed (xs.foldlM f s) := by
  induction xs generalizing s with
  | nil => exact failsOnly_ok s
  | cons x xs ih =>
    rw [List.foldlM_cons]
    exact (hfails s x List.mem_cons_self).bind fun next _ =>
      ih (fun s' y hy => hfails s' y (List.mem_cons_of_mem x hy)) next

end TelconetSentinel.AllowedFailures
