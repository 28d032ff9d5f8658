import Mathlib.Tactic

namespace TelconetSentinel.Interaction

variable {C ε α β σ : Type} {A : C → Type}

/-- A program that calls its surroundings, which answer or raise. A loop is `waiting` where it is cut off. -/
inductive Program (C : Type) (A : C → Type) (ε α : Type)
  | done (a : α)
  | raise (e : ε)
  | call (c : C) (next : Except ε (A c) → Program C A ε α)
  | waiting

namespace Program

def bind : Program C A ε α → (α → Program C A ε β) → Program C A ε β
  | done a, f => f a
  | raise e, _ => raise e
  | call c next, f => call c fun answer => (next answer).bind f
  | waiting, _ => waiting

instance : Monad (Program C A ε) where
  pure := done
  bind := bind

def ofExcept : Except ε α → Program C A ε α
  | .ok a => done a
  | .error e => raise e

def perform (c : C) : Program C A ε (A c) := call c ofExcept

/-- `try: body finally: cleanup` -/
def tryFinally : Program C A ε α → Program C A ε Unit → Program C A ε α
  | done a, cleanup => cleanup.bind fun _ => done a
  | raise e, cleanup => cleanup.bind fun _ => raise e
  | call c next, cleanup => call c fun answer => (next answer).tryFinally cleanup
  | waiting, _ => waiting

def onError : Program C A ε α → Program C A ε Unit → Program C A ε α
  | done a, _ => done a
  | raise e, cleanup => cleanup.bind fun _ => raise e
  | call c next, cleanup => call c fun answer => (next answer).onError cleanup
  | waiting, _ => waiting

def loop (round : σ → Program C A ε (σ ⊕ α)) : ℕ → σ → Program C A ε α
  | 0, _ => waiting
  | rounds + 1, s => (round s).bind fun
    | .inl next => loop round rounds next
    | .inr a => done a

end Program

structure Event (C : Type) (A : C → Type) (ε : Type) where
  call : C
  answer : Except ε (A call)

/-- What a program has called and been answered, and how it ended, if it did. -/
inductive Runs : Program C A ε α → List (Event C A ε) → Option (Except ε α) → Prop
  | stopped (program : Program C A ε α) : Runs program [] none
  | returned (a : α) : Runs (.done a) [] (some (.ok a))
  | raised (e : ε) : Runs (.raise e) [] (some (.error e))
  | called {c : C} {next : Except ε (A c) → Program C A ε α} {answer : Except ε (A c)}
    {trace : List (Event C A ε)}
      {outcome : Option (Except ε α)} (h : Runs (next answer) trace outcome) :
      Runs (.call c next) (⟨c, answer⟩ :: trace) outcome

section Runs

variable {program : Program C A ε α} {trace : List (Event C A ε)}

theorem runs_bind {f : α → Program C A ε β} {outcome : Option (Except ε β)}
    (h : Runs (program.bind f) trace outcome) :
    (Runs program trace none ∧ outcome = none) ∨
    (∃ e, Runs program trace (some (.error e)) ∧ outcome = some (.error e)) ∨
    ∃ a first second, trace = first ++ second ∧ Runs program first (some (.ok a)) ∧
    Runs (f a) second outcome := by
  induction program generalizing trace with
  | done a => exact Or.inr (Or.inr ⟨a, [], trace, rfl, .returned a, h⟩)
  | raise e =>
    cases h with
    | stopped => exact Or.inl ⟨.stopped _, rfl⟩
    | raised => exact Or.inr (Or.inl ⟨e, .raised e, rfl⟩)
  | waiting =>
    cases h with
    | stopped => exact Or.inl ⟨.stopped _, rfl⟩
  | call c next ih =>
    cases h with
    | stopped => exact Or.inl ⟨.stopped _, rfl⟩
    | called h =>
      rcases ih _ h with ⟨hrun, rfl⟩ | ⟨e, hrun, rfl⟩ | ⟨a, first, second, rfl, hrun, hrest⟩
      · exact Or.inl ⟨.called hrun, rfl⟩
      · exact Or.inr (Or.inl ⟨e, .called hrun, rfl⟩)
      · exact Or.inr (Or.inr ⟨a, _ :: first, second, rfl, .called hrun, hrest⟩)

theorem runs_tryFinally {cleanup : Program C A ε Unit} {outcome : Option (Except ε α)}
    (h : Runs (program.tryFinally cleanup) trace outcome) :
    (Runs program trace none ∧ outcome = none) ∨
    ∃ result first second, trace = first ++ second ∧ Runs program first (some result) ∧
      Runs (cleanup.bind fun _ => .ofExcept result) second outcome := by
  induction program generalizing trace with
  | done a => exact Or.inr ⟨.ok a, [], trace, rfl, .returned a, h⟩
  | raise e => exact Or.inr ⟨.error e, [], trace, rfl, .raised e, h⟩
  | waiting =>
    cases h with
    | stopped => exact Or.inl ⟨.stopped _, rfl⟩
  | call c next ih =>
    cases h with
    | stopped => exact Or.inl ⟨.stopped _, rfl⟩
    | called h =>
      rcases ih _ h with ⟨hrun, rfl⟩ | ⟨result, first, second, rfl, hrun, hrest⟩
      · exact Or.inl ⟨.called hrun, rfl⟩
      · exact Or.inr ⟨result, _ :: first, second, rfl, .called hrun, hrest⟩

theorem runs_onError {cleanup : Program C A ε Unit} {outcome : Option (Except ε α)}
    (h : Runs (program.onError cleanup) trace outcome) :
    (Runs program trace none ∧ outcome = none) ∨
    (∃ a, Runs program trace (some (.ok a)) ∧ outcome = some (.ok a)) ∨
    ∃ e first second, trace = first ++ second ∧ Runs program first (some (.error e)) ∧
      Runs (cleanup.bind fun _ => .raise e) second outcome := by
  induction program generalizing trace with
  | done a =>
    cases h with
    | stopped => exact Or.inl ⟨.stopped _, rfl⟩
    | returned => exact Or.inr (Or.inl ⟨a, .returned a, rfl⟩)
  | raise e => exact Or.inr (Or.inr ⟨e, [], trace, rfl, .raised e, h⟩)
  | waiting =>
    cases h with
    | stopped => exact Or.inl ⟨.stopped _, rfl⟩
  | call c next ih =>
    cases h with
    | stopped => exact Or.inl ⟨.stopped _, rfl⟩
    | called h =>
      rcases ih _ h with ⟨hrun, rfl⟩ | ⟨a, hrun, rfl⟩ | ⟨e, first, second, rfl, hrun, hrest⟩
      · exact Or.inl ⟨.called hrun, rfl⟩
      · exact Or.inr (Or.inl ⟨a, .called hrun, rfl⟩)
      · exact Or.inr (Or.inr ⟨e, _ :: first, second, rfl, .called hrun, hrest⟩)

end Runs

section Rules

variable {history : List (Event C A ε)} {inv : List (Event C A ε) → Prop}
variable {post : List (Event C A ε) → Except ε α → Prop} {later : List (Event C A ε) → Except ε β → Prop}
variable {program : Program C A ε α}

/-- Behind that history, every history of the program has `inv`, and where it ends `post` holds of the
result. -/
def Meets (history : List (Event C A ε)) (program : Program C A ε α) (inv : List (Event C A ε) → Prop)
    (post : List (Event C A ε) → Except ε α → Prop) : Prop :=
  ∀ trace outcome, Runs program trace outcome → inv (history ++ trace) ∧ ∀ result ∈ outcome,
    post (history ++ trace) result

theorem meets_done {a : α} (hinv : inv history) (hpost : post history (.ok a)) :
    Meets history (.done a) inv post := by
  intro trace outcome hrun
  cases hrun with
  | stopped => exact ⟨by simpa using hinv, by simp⟩
  | returned => exact ⟨by simpa using hinv, by simpa using hpost⟩

theorem meets_raise {e : ε} (hinv : inv history) (hpost : post history (.error e)) :
    Meets history (.raise e) inv post := by
  intro trace outcome hrun
  cases hrun with
  | stopped => exact ⟨by simpa using hinv, by simp⟩
  | raised => exact ⟨by simpa using hinv, by simpa using hpost⟩

theorem meets_waiting (hinv : inv history) : Meets history (.waiting : Program C A ε α) inv post := by
  rintro _ _ ⟨⟩
  exact ⟨by simpa using hinv, by simp⟩

theorem meets_call {c : C} {next : Except ε (A c) → Program C A ε α} (hinv : inv history)
    (hnext : ∀ answer, Meets (history ++ [⟨c, answer⟩]) (next answer) inv post) :
    Meets history (.call c next) inv post := by
  intro trace outcome hrun
  cases hrun with
  | stopped => exact ⟨by simpa using hinv, by simp⟩
  | called hrun => simpa using hnext _ _ _ hrun

theorem meets_perform {c : C} {after : List (Event C A ε) → Except ε (A c) → Prop} (hinv : inv history)
    (hnext : ∀ answer, inv (history ++ [⟨c, answer⟩]) ∧ after (history ++ [⟨c, answer⟩]) answer) :
    Meets history (.perform c) inv after := by
  refine meets_call hinv fun answer => ?_
  cases answer with
  | ok a => exact meets_done (hnext _).1 (hnext _).2
  | error e => exact meets_raise (hnext _).1 (hnext _).2

theorem Meets.mono (h : Meets history program inv post) {inv' : List (Event C A ε) → Prop}
    {post' : List (Event C A ε) → Except ε α → Prop} (hinv : ∀ h, inv h → inv' h)
    (hpost : ∀ h result, inv h → post h result → post' h result) : Meets history program inv' post' :=
  fun _ _ hrun => ⟨hinv _ (h _ _ hrun).1, fun result hresult =>
    hpost _ _ (h _ _ hrun).1 ((h _ _ hrun).2 result hresult)⟩

theorem meets_bind {f : α → Program C A ε β} (h : Meets history program inv post)
    (herror : ∀ history e, inv history → post history (.error e) → later history (.error e))
    (hok : ∀ history a, inv history → post history (.ok a) → Meets history (f a) inv later) :
    Meets history (program >>= f) inv later := by
  intro trace outcome hbind
  have hbind : Runs (program.bind f) trace outcome := hbind
  rcases runs_bind hbind with ⟨hrun, rfl⟩ | ⟨e, hrun, rfl⟩ | ⟨a, first, second, rfl, hrun, hrest⟩
  · exact ⟨(h _ _ hrun).1, by simp⟩
  · obtain ⟨hinv, hpost⟩ := h _ _ hrun
    exact ⟨hinv, by simpa using herror _ _ hinv (hpost _ rfl)⟩
  · obtain ⟨hinv, hpost⟩ := h _ _ hrun
    rw [← List.append_assoc]
    exact hok _ _ hinv (hpost _ rfl) _ _ hrest

theorem meets_ask {c : C} {f : A c → Program C A ε β} (hinv : inv history)
    (hanswer : ∀ answer, inv (history ++ [⟨c, answer⟩]))
    (herror : ∀ e, later (history ++ [⟨c, .error e⟩]) (.error e))
    (hok : ∀ a, Meets (history ++ [⟨c, .ok a⟩]) (f a) inv later) :
    Meets history (.perform c >>= f) inv later := by
  refine meets_call hinv fun answer => ?_
  cases answer with
  | ok a => exact hok a
  | error e => exact meets_raise (hanswer _) (herror e)

theorem meets_tryFinally {cleanup : Program C A ε Unit} {final : List (Event C A ε) → Except ε α → Prop}
    (h : Meets history program inv post)
    (hcleanup : ∀ history result, inv history → post history result →
      Meets history cleanup inv fun history done => final history (done.bind fun _ => result)) :
    Meets history (program.tryFinally cleanup) inv final := by
  intro trace outcome hfinally
  rcases runs_tryFinally hfinally with ⟨hrun, rfl⟩ | ⟨result, first, second, rfl, hrun, hrest⟩
  · exact ⟨(h _ _ hrun).1, by simp⟩
  · obtain ⟨hinv, hpost⟩ := h _ _ hrun
    rw [← List.append_assoc]
    have hfinish : ∀ history done, inv history →
        final history (Except.bind (.ok done : Except ε Unit) fun _ => result) →
        Meets history (.ofExcept result) inv final := by
      intro history _ hinv hfinal
      cases result with
      | ok a => exact meets_done hinv hfinal
      | error e => exact meets_raise hinv hfinal
    exact meets_bind (hcleanup _ result hinv (hpost _ rfl)) (fun _ _ _ herror => herror) hfinish _ _ hrest

theorem meets_onError {cleanup : Program C A ε Unit} {final : List (Event C A ε) → Except ε α → Prop}
    (h : Meets history program inv post)
    (hok : ∀ history a, inv history → post history (.ok a) → final history (.ok a))
    (hcleanup : ∀ history e, inv history → post history (.error e) →
      Meets history cleanup inv fun history done => final history (done.bind fun _ => .error e)) :
    Meets history (program.onError cleanup) inv final := by
  intro trace outcome honError
  rcases runs_onError honError with ⟨hrun, rfl⟩ | ⟨a, hrun, rfl⟩ | ⟨e, first, second, rfl, hrun, hrest⟩
  · exact ⟨(h _ _ hrun).1, by simp⟩
  · obtain ⟨hinv, hpost⟩ := h _ _ hrun
    exact ⟨hinv, by simpa using hok _ a hinv (hpost _ rfl)⟩
  · obtain ⟨hinv, hpost⟩ := h _ _ hrun
    rw [← List.append_assoc]
    exact meets_bind (hcleanup _ e hinv (hpost _ rfl)) (fun _ _ _ herror => herror)
      (fun _ _ hinv hfinal => meets_raise hinv hfinal) _ _ hrest

/-- What the state of a loop says of the history holds before every round. -/
theorem meets_loop {round : σ → Program C A ε (σ ⊕ α)} (holds : σ → List (Event C A ε) → Prop)
    (hround : ∀ s history, inv history → holds s history → Meets history (round s) inv fun history result =>
      match result with
      | .ok (.inl next) => holds next history
      | .ok (.inr a) => post history (.ok a)
      | .error e => post history (.error e))
    {s : σ} (hinv : inv history) (hstart : holds s history) (rounds : ℕ) :
    Meets history (.loop round rounds s) inv post := by
  induction rounds generalizing s history with
  | zero => exact meets_waiting hinv
  | succ rounds ih =>
    refine meets_bind (hround s history hinv hstart)
      (fun _ _ _ herror => herror) fun history next hinv hnext => ?_
    cases next with
    | inl next => exact ih hinv hnext
    | inr a => exact meets_done hinv hnext

end Rules

section Guards

def Guarded (guarded : Event C A ε → Prop) (allowed : List (Event C A ε) → Prop)
    (history : List (Event C A ε)) : Prop :=
  ∀ before event after, history = before ++ event :: after → guarded event → allowed before

theorem guarded_nil (guarded : Event C A ε → Prop) (allowed : List (Event C A ε) → Prop) :
    Guarded guarded allowed [] := by
  intro before event after h
  simp at h

theorem guarded_concat {guarded : Event C A ε → Prop} {allowed : List (Event C A ε) → Prop}
    {history : List (Event C A ε)} (h : Guarded guarded allowed history) {event : Event C A ε}
    (hevent : guarded event → allowed history) :
    Guarded guarded allowed (history ++ [event]) := by
  intro before e after hsplit he
  rcases List.eq_nil_or_concat after with rfl | ⟨after, last, rfl⟩
  · obtain ⟨rfl, hsame⟩ := List.append_inj' hsplit rfl
    obtain rfl := List.singleton_injective hsame
    exact hevent he
  · rw [List.concat_eq_append, ← List.cons_append, ← List.append_assoc] at hsplit
    obtain ⟨rfl, -⟩ := List.append_inj' hsplit rfl
    exact h _ _ _ rfl he

end Guards

section Surroundings

def execute (answer : σ → (c : C) → Except ε (A c) × σ) : Program C A ε α → σ →
    List (Event C A ε) × Option (Except ε α)
  | .done a, _ => ([], some (.ok a))
  | .raise e, _ => ([], some (.error e))
  | .waiting, _ => ([], none)
  | .call c next, s =>
    let rest := execute answer (next (answer s c).1) (answer s c).2
    (⟨c, (answer s c).1⟩ :: rest.1, rest.2)

theorem execute_runs (answer : σ → (c : C) → Except ε (A c) × σ) (program : Program C A ε α) (s : σ) :
    Runs program (execute answer program s).1 (execute answer program s).2 := by
  induction program generalizing s with
  | done a => exact .returned a
  | raise e => exact .raised e
  | waiting => exact .stopped _
  | call c next ih => exact .called (ih _ _)

end Surroundings

end TelconetSentinel.Interaction
