import Mathlib.Data.List.Forall2
import Mathlib.Tactic

namespace TelconetSentinel.FallibleLists

universe u

variable {ε α : Type*} {β γ : Type u}

theorem bind_ok_iff (x : Except ε γ) (f : γ → Except ε β) (b : β) :
    (x >>= f) = .ok b ↔ ∃ a, x = .ok a ∧ f a = .ok b := by
  cases x with
  | error e => simp [bind, Except.bind]
  | ok a => simp [bind, Except.bind]

theorem then_ok_iff (x : Except ε PUnit.{u + 1}) (y : Except ε β) (b : β) :
    (x >>= fun _ => y) = .ok b ↔ x = .ok ⟨⟩ ∧ y = .ok b := by
  rw [bind_ok_iff]
  exact ⟨fun ⟨_, hx, hy⟩ => ⟨hx, hy⟩, fun ⟨hx, hy⟩ => ⟨_, hx, hy⟩⟩

theorem ok_bind (a : γ) (f : γ → Except ε β) : (Except.ok a >>= f) = f a := rfl

theorem error_bind (e : ε) (f : γ → Except ε β) : (Except.error e >>= f) = .error e := rfl

theorem toOption_some_iff (x : Except ε β) (b : β) : x.toOption = some b ↔ x = .ok b := by
  cases x <;> simp [Except.toOption]

theorem exists_ok {x : Except ε γ} {f : γ → β} {b : β} (h : x.toOption.map f = some b) : ∃ a, x = .ok a ∧
    f a = b := by
  obtain ⟨a, hsome, hb⟩ := Option.map_eq_some_iff.mp h
  exact ⟨a, (toOption_some_iff x a).mp hsome, hb⟩

theorem exists_map_ok_iff (x : Except ε γ) (f : γ → β) : (∃ b, x.map f = .ok b) ↔ ∃ a, x = .ok a := by
  cases x <;> simp [Except.map]

theorem exists_error_iff (x : Except ε β) : (∃ e, x = .error e) ↔ ¬ ∃ b, x = .ok b := by
  cases x <;> simp

theorem check_ok_iff (p : Prop) [Decidable p] (e : ε) (x : Except ε β) (b : β) :
    (if p then .error e else x) = .ok b ↔ ¬ p ∧ x = .ok b := by
  split_ifs with h <;> simp [h]

theorem mapM_ok_iff (f : α → Except ε β) (xs : List α) (ys : List β) :
    xs.mapM f = .ok ys ↔ List.Forall₂ (fun x y => f x = .ok y) xs ys := by
  induction xs generalizing ys with
  | nil => cases ys <;> simp [pure, Except.pure]
  | cons x xs ih =>
    rw [List.mapM_cons, bind_ok_iff]
    constructor
    · rintro ⟨y, hy, h⟩
      obtain ⟨zs, hzs, hz⟩ := (bind_ok_iff _ _ _).mp h
      obtain rfl : y :: zs = ys := Except.ok.inj hz
      exact .cons hy ((ih zs).mp hzs)
    · intro h
      cases h with
      | cons hy hys => exact ⟨_, hy, (bind_ok_iff _ _ _).mpr ⟨_, (ih _).mpr hys, rfl⟩⟩

theorem mapM_some_iff (f : α → Option β) (xs : List α) (ys : List β) :
    xs.mapM f = some ys ↔ List.Forall₂ (fun x y => f x = some y) xs ys := by
  induction xs generalizing ys with
  | nil => cases ys <;> simp
  | cons x xs ih =>
    rw [List.mapM_cons, Option.bind_eq_bind, Option.bind_eq_some_iff]
    constructor
    · rintro ⟨y, hy, h⟩
      obtain ⟨zs, hzs, hz⟩ := Option.bind_eq_some_iff.mp h
      obtain rfl : y :: zs = ys := Option.some.inj hz
      exact .cons hy ((ih zs).mp hzs)
    · intro h
      cases h with
      | cons hy hys => exact ⟨_, hy, Option.bind_eq_some_iff.mpr ⟨_, (ih _).mpr hys, rfl⟩⟩

section Images

variable {δ : Type*} {R : δ → β → Prop}

theorem exists_mapM_forall₂ {f : α → Except ε β} {g : α → δ} {xs : List α}
    (h : ∀ x ∈ xs, ∃ y, f x = .ok y ∧ R (g x) y) : ∃ ys, xs.mapM f = .ok ys ∧
      List.Forall₂ R (xs.map g) ys := by
  induction xs with
  | nil => exact ⟨[], rfl, .nil⟩
  | cons x xs ih =>
    rw [List.forall_mem_cons] at h
    obtain ⟨⟨y, hy, hR⟩, hxs⟩ := h
    obtain ⟨ys, hys, hforall⟩ := ih hxs
    exact ⟨y :: ys, by rw [List.mapM_cons, hy, ok_bind, hys, ok_bind]; rfl, .cons hR hforall⟩

theorem exists_mapM_flatten {f : α → Except ε (List β)} {g : α → List δ} {xs : List α}
    (h : ∀ x ∈ xs, ∃ ys, f x = .ok ys ∧ List.Forall₂ R (g x) ys) :
    ∃ yss, xs.mapM f = .ok yss ∧ List.Forall₂ R (xs.flatMap g) yss.flatten := by
  induction xs with
  | nil => exact ⟨[], rfl, .nil⟩
  | cons x xs ih =>
    rw [List.forall_mem_cons] at h
    obtain ⟨⟨ys, hys, hR⟩, hxs⟩ := h
    obtain ⟨yss, hyss, hforall⟩ := ih hxs
    exact ⟨ys :: yss, by rw [List.mapM_cons, hys, ok_bind, hyss, ok_bind]; rfl, List.rel_append hR hforall⟩

theorem exists_mapM_ok (f : α → Except ε β) (xs : List α) (h : ∀ x ∈ xs, ∃ y, f x = .ok y) :
    ∃ ys, xs.mapM f = .ok ys := by
  obtain ⟨ys, hys, -⟩ := exists_mapM_forall₂ (R := fun _ _ => True) (g := id)
    fun x hx => (h x hx).imp fun y hy => ⟨hy, trivial⟩
  exact ⟨ys, hys⟩

end Images

/-- What is known of the elements that a run has taken, the newest first. -/
theorem foldlM_history {δ : Type*} {f : β → δ → Except ε β} {I : β → List δ → Prop}
    (hstep : ∀ s seen x s', I s seen → f s x = .ok s' → I s' (x :: seen)) {xs : List δ} {s s' : β}
    (seen : List δ) (hs : I s seen) (h : xs.foldlM f s = .ok s') : I s' (xs.reverse ++ seen) := by
  induction xs generalizing s seen with
  | nil =>
    obtain rfl := Except.ok.inj h
    exact hs
  | cons x xs ih =>
    rw [List.foldlM_cons] at h
    obtain ⟨next, hnext, h⟩ := (bind_ok_iff _ _ _).mp h
    rw [List.reverse_cons, List.append_assoc, List.singleton_append]
    exact ih (x :: seen) (hstep s seen x next hs hnext) h

theorem foldlM_invariant {f : β → α → Except ε β} (I : β → Prop)
    (hstep : ∀ s x s', I s → f s x = .ok s' → I s') {xs : List α} {s s' : β} (hs : I s)
    (h : xs.foldlM f s = .ok s') : I s' := by
  have hhistory : ∀ s (seen : List α) x s', I s → f s x = .ok s' → I s' := fun s _ x s' => hstep s x s'
  exact foldlM_history (I := fun s _ => I s) hhistory [] hs h

theorem foldlM_collect {δ : Type*} {f : β → α → Except ε β} (collected : β → List δ) (read : α → Option δ)
    (hstep : ∀ s x s', f s x = .ok s' → collected s' = collected s ++ (read x).toList) {xs : List α}
    {s s' : β} (h : xs.foldlM f s = .ok s') : collected s' = collected s ++ xs.filterMap read := by
  induction xs generalizing s with
  | nil =>
    obtain rfl := Except.ok.inj h
    rw [List.filterMap_nil, List.append_nil]
  | cons x xs ih =>
    rw [List.foldlM_cons] at h
    obtain ⟨next, hnext, h⟩ := (bind_ok_iff _ _ _).mp h
    rw [ih h, hstep s x next hnext, List.append_assoc, List.filterMap_cons]
    cases read x <;> rfl

theorem forM_ok (f : α → Except ε PUnit.{u + 1}) (xs : List α) (h : ∀ x ∈ xs, f x = .ok ⟨⟩) :
    xs.forM f = .ok ⟨⟩ := by
  induction xs with
  | nil => rfl
  | cons x xs ih =>
    change (f x >>= fun _ => xs.forM f) = _
    rw [h x List.mem_cons_self, ok_bind]
    exact ih fun y hy => h y (List.mem_cons_of_mem _ hy)

theorem of_forM_ok {f : α → Except ε PUnit.{u + 1}} {xs : List α} (h : xs.forM f = .ok ⟨⟩) :
    ∀ x ∈ xs, f x = .ok ⟨⟩ := by
  induction xs with
  | nil => simp
  | cons x xs ih =>
    obtain ⟨_, hx, hxs⟩ := (bind_ok_iff _ _ _).mp h
    exact List.forall_mem_cons.mpr ⟨hx, ih hxs⟩

theorem forM_ok_iff (f : α → Except ε PUnit.{u + 1}) (xs : List α) :
    xs.forM f = .ok ⟨⟩ ↔ ∀ x ∈ xs, f x = .ok ⟨⟩ :=
  ⟨of_forM_ok, forM_ok f xs⟩

section Pairing

variable {α β γ δ : Type*} {R : α → β → Prop} {S : β → γ → Prop} {xs : List α} {ys : List β} {zs : List γ}

theorem exists_right (h : List.Forall₂ R xs ys) {x : α} (hx : x ∈ xs) : ∃ y ∈ ys, R x y := by
  induction h with
  | nil => exact absurd hx List.not_mem_nil
  | cons hxy _ ih =>
    rcases List.mem_cons.mp hx with rfl | hx
    · exact ⟨_, List.mem_cons_self, hxy⟩
    · obtain ⟨y, hy, hr⟩ := ih hx
      exact ⟨y, List.mem_cons_of_mem _ hy, hr⟩

theorem exists_left (h : List.Forall₂ R xs ys) {y : β} (hy : y ∈ ys) : ∃ x ∈ xs, R x y :=
  exists_right h.flip hy

theorem pairing_comp (h : List.Forall₂ R xs ys) (h' : List.Forall₂ S ys zs) :
    List.Forall₂ (fun x z => ∃ y, R x y ∧ S y z) xs zs := by
  induction h generalizing zs with
  | nil => cases h'; exact .nil
  | cons hxy _ ih => cases h' with | cons hyz h' => exact .cons ⟨_, hxy, hyz⟩ (ih h')

theorem forall_iff_of_forall₂ {P : α → Prop} {Q : β → Prop} (h : List.Forall₂ (fun x y => Q y ↔ P x) xs ys) :
    (∀ y ∈ ys, Q y) ↔ ∀ x ∈ xs, P x := by
  induction h with
  | nil => simp
  | cons hxy _ ih => rw [List.forall_mem_cons, List.forall_mem_cons, ih, hxy]

theorem map_eq_map {f : α → δ} {g : β → δ} (h : List.Forall₂ R xs ys) (hfg : ∀ x y, R x y → f x = g y) :
    xs.map f = ys.map g := by
  induction h with
  | nil => rfl
  | cons hxy _ ih => rw [List.map_cons, List.map_cons, ih, hfg _ _ hxy]

theorem pairing_unique {R' : α → β → Prop} {ys' : List β} (h : List.Forall₂ R xs ys)
    (h' : List.Forall₂ R' xs ys') (hu : ∀ x ∈ xs, ∀ y y', R x y → R' x y' → y = y') : ys = ys' := by
  induction h generalizing ys' with
  | nil => cases h'; rfl
  | cons hxy _ ih =>
    cases h' with
    | cons hxy' h' =>
      rw [hu _ List.mem_cons_self _ _ hxy hxy', ih h' fun x hx => hu x (List.mem_cons_of_mem _ hx)]

theorem nodup_flatten_of_keys {κ : Type*} {key : α → κ} (tag : δ → κ) {k : β → δ} {yss : List (List β)}
    (h : List.Forall₂ (fun x ys => (ys.map k).Nodup ∧ ∀ y ∈ ys, tag (k y) = key x) xs yss)
    (hkeys : (xs.map key).Nodup) : (yss.flatten.map k).Nodup := by
  induction h with
  | nil => exact List.nodup_nil
  | @cons x ys xs yss hx hrest ih =>
    rw [List.map_cons, List.nodup_cons] at hkeys
    rw [List.flatten_cons, List.map_append, List.nodup_append']
    refine ⟨hx.1, ih hkeys.2, fun d hd hd' => hkeys.1 ?_⟩
    obtain ⟨y, hy, rfl⟩ := List.mem_map.mp hd
    obtain ⟨z, hz, hkz⟩ := List.mem_map.mp hd'
    obtain ⟨zs, hzs, hz⟩ := List.mem_flatten.mp hz
    obtain ⟨x', hx', hx''⟩ := exists_left hrest hzs
    rw [← hx.2 y hy, ← hkz, hx''.2 z hz]
    exact List.mem_map_of_mem hx'

theorem pairing_zipWith {S : α → γ → Prop} (f : α → β → γ) (h : List.Forall₂ R xs ys)
    (hf : ∀ x y, R x y → S x (f x y)) : List.Forall₂ S xs (List.zipWith f xs ys) := by
  induction h with
  | nil => exact .nil
  | cons hxy _ ih => exact .cons (hf _ _ hxy) ih

end Pairing

end TelconetSentinel.FallibleLists
