import TelconetSentinel.LiveCollection
import TelconetSentinel.LiveProtocol

namespace TelconetSentinel.LiveCollection

open BacktrackingPatterns BinaryFloats DocumentValues GatedStages Interaction LiveTransitionDetector

section Ledgers

def commandOf (event : LiveEvent) : Option (List String) :=
  match event with
  | ⟨.runCommand _ command, _⟩ => some command
  | _ => none

def postOf (event : LiveEvent) : Option (String × LiveTransition) :=
  match event with
  | ⟨.recordEvent runId transition, _⟩ => some (runId, transition)
  | _ => none

def readingsOf (event : LiveEvent) : Option Readings :=
  match event with
  | ⟨.sample, .ok readings⟩ => some readings
  | _ => none

def clockOf (event : LiveEvent) : Option ℤ :=
  match event with
  | ⟨.monotonicNs, .ok ns⟩ => some ns
  | _ => none

/-- What the properties of a collection are about, in the order of the calls. -/
structure Ledger where
  commands : List (List String) := []
  posts : List (String × LiveTransition) := []
  readings : List Readings := []
  clock : List ℤ := []

def ledger (history : List LiveEvent) : Ledger where
  commands := history.filterMap commandOf
  posts := history.filterMap postOf
  readings := history.filterMap readingsOf
  clock := history.filterMap clockOf

def LiveCall.Idle : LiveCall → Prop
  | .runCommand _ _ | .recordEvent _ _ | .sample | .monotonicNs => False
  | _ => True

theorem silent_of_idle {event : LiveEvent} (h : event.call.Idle) :
    commandOf event = none ∧ postOf event = none ∧ readingsOf event = none ∧ clockOf event = none := by
  obtain ⟨call, answer⟩ := event
  cases call with
  | runCommand | recordEvent | sample | monotonicNs => exact h.elim
  | health | startPing | getNowait | createRun | getRun | monotonic | sleep | print | terminate | wait | kill =>
    exact ⟨rfl, rfl, rfl, rfl⟩

theorem ledger_idle {event : LiveEvent} (h : event.call.Idle) (history : List LiveEvent) :
    ledger (history ++ [event]) = ledger history := by
  obtain ⟨hcommand, hpost, hreadings, hclock⟩ := silent_of_idle h
  simp [ledger, hcommand, hpost, hreadings, hclock]

variable (history : List LiveEvent)

theorem ledger_runCommand {check : Bool} {command : List String} (answer : Except LiveError Unit) :
    ledger (history ++ [⟨.runCommand check command, answer⟩]) =
      { ledger history with commands := (ledger history).commands ++ [command] } := by
  simp [ledger, commandOf, postOf, readingsOf, clockOf]

theorem ledger_recordEvent {runId : String} {transition : LiveTransition} (answer : Except LiveError Unit) :
    ledger (history ++ [⟨.recordEvent runId transition, answer⟩]) =
      { ledger history with posts := (ledger history).posts ++ [(runId, transition)] } := by
  simp [ledger, commandOf, postOf, readingsOf, clockOf]

theorem ledger_observed (readings : Readings) (ns : ℤ) :
    ledger (history ++ [⟨.sample, .ok readings⟩] ++ [⟨.monotonicNs, .ok ns⟩]) =
      { ledger history with
        readings := (ledger history).readings ++ [readings], clock := (ledger history).clock ++ [ns] } := by
  simp only [ledger, List.filterMap_append]
  simp [commandOf, postOf, readingsOf, clockOf]

end Ledgers

section Replies

def replyNumber (isWord : Char → Bool) (line : String) : Option ℤ :=
  (searchReply isWord none line.toList).bind fun found => PythonText.integer (found.group "seq")

variable {isWord : Char → Bool}

theorem replyPattern_captures : (replyPattern isWord).Captures fun group => ∀ c ∈ group,
    PythonText.isDecimal c = true := by
  simp only [replyPattern, Pattern.sequence, Pattern.Captures, Pattern.captures_literal, true_and, and_true]
  exact ⟨⟨trivial, trivial⟩, ⟨trivial, trivial⟩, ⟨trivial, trivial⟩, fun text found hfound =>
    Pattern.oneOrMore_accepted found hfound⟩

theorem searchReply_groups {before : Option Char} {text : List Char} {found : Success}
    (h : searchReply isWord before text = some found) :
    ∀ entry ∈ found.groups, ∀ c ∈ entry.2, PythonText.isDecimal c = true := by
  induction text generalizing before with
  | nil => cases h
  | cons c text ih =>
    rw [searchReply] at h
    split_ifs at h with hword
    · exact ih h
    · rcases Option.or_eq_some_iff.mp h with h | ⟨-, h⟩
      · exact replyPattern_captures.groups found (List.mem_of_find?_eq_some h)
      · exact ih h

theorem replyNumber_nonneg {line : String} {n : ℤ} (h : replyNumber isWord line = some n) : 0 ≤ n := by
  obtain ⟨found, hfound, hn⟩ := Option.bind_eq_some_iff.mp h
  have hdecimal : ∀ c ∈ found.group "seq", PythonText.isDecimal c = true :=
    Success.group_of_groups (p := fun group => ∀ c ∈ group, PythonText.isDecimal c = true)
      (searchReply_groups hfound) (by simp) "seq"
  exact PythonText.integer_nonneg hdecimal hn

def digitsError : LiveError := .valueError "Exceeds the limit for integer string conversion"

theorem observeReply_cases (isWord : Char → Bool) (tracker : PingRecoveryTracker) (line : String)
    (observedNs : ℤ) :
    tracker.observeReply isWord line observedNs = .raise digitsError ∨
    ∃ detected tracker', tracker.observeReply isWord line observedNs = .done (detected, tracker') ∧
      tracker'.injectedNs = tracker.injectedNs ∧
      (tracker'.lastSequence.isSome → tracker.lastSequence.isSome ∨ (replyNumber isWord line).isSome) ∧
      ∀ recovery ∈ detected, recovery.observedNs = observedNs ∧
      replyNumber isWord line = some recovery.sequence ∧
        ∃ injectedNs, tracker.injectedNs = some injectedNs ∧ injectedNs ≤ observedNs := by
  unfold PingRecoveryTracker.observeReply
  cases hfound : searchReply isWord none line.toList with
  | none => exact Or.inr ⟨none, tracker, rfl, rfl, Or.inl, by simp⟩
  | some found =>
    cases hsequence : PythonText.integer (found.group "seq") with
    | none => exact Or.inl (by simp only [hsequence, digitsError])
    | some sequence =>
      have hnumber : replyNumber isWord line = some sequence := by
        rw [replyNumber, hfound, Option.bind_some, hsequence]
      simp only [hsequence]
      cases hinjected : tracker.injectedNs with
      | none => exact Or.inr ⟨none, _, rfl, rfl, fun _ => Or.inr (by rw [hnumber]; rfl), by simp⟩
      | some injectedNs =>
        refine Or.inr ⟨_, _, rfl, rfl, fun _ => Or.inr (by rw [hnumber]; rfl), ?_⟩
        split_ifs with hearly
        · simp
        · intro recovery hrecovery
          obtain rfl := Option.some.inj hrecovery
          exact ⟨rfl, hnumber, injectedNs, rfl, not_lt.mp hearly⟩

end Replies

section Idle

def KeptByIdle (inv : List LiveEvent → Prop) : Prop :=
  ∀ history (event : LiveEvent), event.call.Idle → inv history → inv (history ++ [event])

def Answered (history : List LiveEvent) : Prop := ∀ event ∈ history, ∃ answer, event.answer = .ok answer

theorem not_answered_concat {history : List LiveEvent} {c : LiveCall} {e : LiveError} :
    ¬ Answered (history ++ [⟨c, .error e⟩]) := by
  intro h
  obtain ⟨answer, hanswer⟩ := h _ (List.mem_append_right _ (List.mem_singleton_self _))
  cases hanswer

/-- The results of a program. It is known what it raises itself, where no call has raised. -/
def EndsWith {α : Type} (value : List LiveEvent → α → Prop) (error : List LiveEvent → LiveError → Prop)
    (history : List LiveEvent) : Except LiveError α → Prop
  | .ok a => value history a
  | .error e => Answered history → error history e

variable {inv : List LiveEvent → Prop} {history : List LiveEvent} {error : List LiveEvent → LiveError → Prop}

theorem meets_asked {c : LiveCall} {β : Type} {f : c.Answer → LiveProgram β}
    {later : List LiveEvent → β → Prop} (hinv : inv history)
    (hkeep : ∀ answer, inv (history ++ [⟨c, answer⟩]))
    (hok : ∀ a, inv (history ++ [⟨c, .ok a⟩]) →
    Meets (history ++ [⟨c, .ok a⟩]) (f a) inv (EndsWith later error)) :
    Meets history (ask c >>= f) inv (EndsWith later error) :=
  meets_ask hinv hkeep (fun _ hanswered => absurd hanswered not_answered_concat) fun a => hok a (hkeep _)

theorem meets_idle {c : LiveCall} {β : Type} {f : c.Answer → LiveProgram β}
    {later : List LiveEvent → β → Prop} (hidle : c.Idle) (hkeep : KeptByIdle inv) (hinv : inv history)
    (hok : ∀ a, inv (history ++ [⟨c, .ok a⟩]) →
      Meets (history ++ [⟨c, .ok a⟩]) (f a) inv (EndsWith later error)) :
    Meets history (ask c >>= f) inv (EndsWith later error) :=
  meets_asked hinv (fun _ => hkeep _ _ hidle hinv) hok

theorem meets_next {α β : Type} {program : LiveProgram α} {f : α → LiveProgram β}
    {value : List LiveEvent → α → Prop} {later : List LiveEvent → β → Prop}
    (h : Meets history program inv (EndsWith value error))
    (hok : ∀ history a, inv history → value history a → Meets history (f a) inv (EndsWith later error)) :
    Meets history (program >>= f) inv (EndsWith later error) :=
  meets_bind h (fun _ _ _ herror => herror) hok

theorem meets_weaken {α : Type} {program : LiveProgram α} {value value' : List LiveEvent → α → Prop}
    {inv' : List LiveEvent → Prop} {error' : List LiveEvent → LiveError → Prop}
    (h : Meets history program inv (EndsWith value error)) (hinv : ∀ history, inv history → inv' history)
    (hvalue : ∀ history a, inv history → value history a → value' history a)
    (herror : ∀ history e, inv history → error history e → error' history e) :
    Meets history program inv' (EndsWith value' error') := by
  refine h.mono hinv fun history result hinv hresult => ?_
  cases result with
  | ok a => exact hvalue history a hinv hresult
  | error e => exact fun hanswered => herror history e hinv (hresult hanswered)

theorem meets_rounds {σ α : Type} {round : σ → LiveProgram (σ ⊕ α)} {value : List LiveEvent → α → Prop}
    (holds : σ → List LiveEvent → Prop) (hround : ∀ s history, inv history → holds s history →
      Meets history (round s) inv
        (EndsWith (fun history next => next.elim (holds · history) (value history)) error))
    {s : σ} (hinv : inv history) (hstart : holds s history) (rounds : ℕ) :
    Meets history (.loop round rounds s) inv (EndsWith value error) := by
  refine meets_loop holds (fun s history hinv hholds => ?_) hinv hstart rounds
  refine (hround s history hinv hholds).mono (fun _ h => h) fun history result _ hresult => ?_
  cases result with
  | error e => exact hresult
  | ok next => cases next <;> exact hresult

variable {isWord : Char → Bool} {since : Option ℤ}

def Heard (history : List LiveEvent) (line : String) (observedNs : ℤ) : Prop :=
  (⟨.getNowait, .ok (some (line, observedNs))⟩ : LiveEvent) ∈ history

def ReplySeen (isWord : Char → Bool) (history : List LiveEvent) : Prop :=
  ∃ line observedNs, Heard history line observedNs ∧ (replyNumber isWord line).isSome

def RepliedSince (isWord : Char → Bool) (since : Option ℤ) (history : List LiveEvent) (sequence : ℤ) : Prop :=
  ∃ line observedNs injectedNs, Heard history line observedNs ∧ replyNumber isWord line = some sequence ∧
    since = some injectedNs ∧ injectedNs ≤ observedNs

structure Drained (isWord : Char → Bool) (since : Option ℤ) (history : List LiveEvent)
    (drained : Option PingRecovery × PingRecoveryTracker) : Prop where
  injectedNs : drained.2.injectedNs = since
  baseline : drained.2.lastSequence.isSome → ReplySeen isWord history
  recovered : ∀ recovery ∈ drained.1, RepliedSince isWord since history recovery.sequence

theorem Heard.later {line : String} {observedNs : ℤ} (h : Heard history line observedNs)
    (events : List LiveEvent) :
    Heard (history ++ events) line observedNs :=
  List.mem_append_left _ h

theorem RepliedSince.later {sequence : ℤ} (h : RepliedSince isWord since history sequence)
    (events : List LiveEvent) :
    RepliedSince isWord since (history ++ events) sequence := by
  obtain ⟨line, observedNs, injectedNs, hheard, hrest⟩ := h
  exact ⟨line, observedNs, injectedNs, hheard.later events, hrest⟩

theorem Drained.later {drained : Option PingRecovery × PingRecoveryTracker}
    (h : Drained isWord since history drained) (events : List LiveEvent) :
    Drained isWord since (history ++ events) drained :=
  ⟨h.injectedNs, fun hseen => (h.baseline hseen).imp fun _ => Exists.imp fun _ hheard =>
    ⟨hheard.1.later events, hheard.2⟩, fun recovery hrecovery =>
    (h.recovered recovery hrecovery).later events⟩

theorem drainPing_meets (hkeep : KeptByIdle inv) (hinv : inv history) {tracker : PingRecoveryTracker}
    (hinjected : tracker.injectedNs = since) (hseen : tracker.lastSequence.isSome → ReplySeen isWord history)
    (rounds : ℕ) :
    Meets history (drainPing isWord rounds tracker) inv (EndsWith (Drained isWord since) fun _ e =>
      e = digitsError) := by
  refine meets_rounds (fun drained history => Drained isWord since history drained) ?_ hinv ⟨hinjected,
    hseen, by simp⟩ rounds
  rintro ⟨recovery, tracker⟩ history hinv hdrained
  refine meets_idle trivial hkeep hinv ?_
  rintro (_ | ⟨line, observedNs⟩) hinv
  · exact meets_done hinv (hdrained.later _)
  · have hheard : Heard (history ++ [⟨.getNowait, .ok (some (line, observedNs))⟩]) line observedNs :=
      List.mem_append_right _ (List.mem_singleton_self _)
    have hdrained := hdrained.later [⟨.getNowait, .ok (some (line, observedNs))⟩]
    dsimp only
    rcases observeReply_cases isWord tracker line observedNs with hraise | ⟨detected, tracker', hdone, hsince,
      hbaseline, hdetected⟩
    · rw [hraise]
      exact meets_raise hinv fun _ => rfl
    · rw [hdone]
      refine meets_done hinv ⟨hsince.trans hdrained.injectedNs, fun hlast => ?_, fun found hfound => ?_⟩
      · rcases hbaseline hlast with hlast | hreply
        · exact hdrained.baseline hlast
        · exact ⟨line, observedNs, hheard, hreply⟩
      · rcases Option.or_eq_some_iff.mp hfound with hfound | ⟨-, hfound⟩
        · obtain ⟨rfl, hnumber, injectedNs, hinjected, hle⟩ := hdetected found hfound
          exact ⟨line, _, injectedNs, hheard, hnumber, hdrained.injectedNs.symm.trans hinjected, hle⟩
        · exact hdrained.recovered found hfound

theorem waitForPingBaseline_meets (hkeep : KeptByIdle inv) (hinv : inv history) (rounds : ℕ)
    (timeoutSeconds : ℚ) :
    Meets history (waitForPingBaseline isWord rounds timeoutSeconds) inv
      (EndsWith (fun history _ => ReplySeen isWord history) fun _ _ => True) := by
  refine meets_idle trivial hkeep hinv fun started hinv => ?_
  refine meets_rounds (fun tracker _ => tracker.lastSequence = none)
    (fun tracker history hinv hnone => ?_) hinv rfl rounds
  refine meets_idle trivial hkeep hinv fun now hinv => ?_
  split_ifs
  · have hseen : ∀ history, tracker.lastSequence.isSome → ReplySeen isWord history := by simp [hnone]
    have hdrained := drainPing_meets hkeep hinv rfl (hseen _) rounds
    refine meets_next (meets_weaken hdrained (fun _ h => h) (fun _ _ _ h => h) fun _ _ _ _ => trivial) ?_
    rintro history ⟨recovery, drained⟩ hinv hdrained
    dsimp only
    split_ifs with hsome
    · exact meets_done hinv (hdrained.baseline hsome)
    · exact meets_idle trivial hkeep hinv fun _ hinv =>
        meets_done hinv (Option.not_isSome_iff_eq_none.mp hsome)
  · exact meets_raise hinv fun _ => trivial

end Idle

end TelconetSentinel.LiveCollection
