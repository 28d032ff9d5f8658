import TelconetSentinel.LiveCollectionRuns

namespace TelconetSentinel.LiveCollection

open BinaryFloats DocumentValues GatedStages Interaction LiveTransitionDetector

section Detection

def after (d : LiveTransitionDetector) (observations : List Observation) : LiveTransitionDetector :=
  observations.foldl (fun d o => (d.observe o.sample o.offsetMs).2) d

theorem after_concat (d : LiveTransitionDetector) (observations : List Observation) (o : Observation) :
    after d (observations ++ [o]) = ((after d observations).observe o.sample o.offsetMs).2 := by
  rw [after, List.foldl_append]
  rfl

theorem detect_cons (d : LiveTransitionDetector) (o : Observation) (observations : List Observation) :
    d.detect (o :: observations) = (d.observe o.sample o.offsetMs).1 ++
    (d.observe o.sample o.offsetMs).2.detect observations :=
  rfl

theorem detect_concat (d : LiveTransitionDetector) (observations : List Observation) (o : Observation) :
    d.detect (observations ++ [o]) = d.detect observations ++
    ((after d observations).observe o.sample o.offsetMs).1 := by
  induction observations generalizing d with
  | nil => simp [detect, after]
  | cons first observations ih =>
    rw [List.cons_append, detect_cons, detect_cons, ih, List.append_assoc]
    rfl

theorem detect_events (observations : List Observation) : ∃ n ≤ 4, (detect {} observations).length = n ∧
    (detect {} observations).map LiveTransition.event =
      (liveStages.take n).map ConvergenceEventKind.value := by
  have hcascades := cascade_cascades (stageHolds 140) liveStages observations
  have hdetect : detect {} observations =
      (cascade (stageHolds 140) liveStages observations).map stageTransition :=
    detect_fresh 140 observations
  have hfirst := hcascades.map_fst
  generalize cascade (stageHolds 140) liveStages observations = fired at hfirst hdetect
  have hlength := congrArg List.length hfirst
  rw [List.length_map, List.length_take] at hlength
  refine ⟨fired.length, hlength.trans_le (min_le_right _ _), by rw [hdetect, List.length_map], ?_⟩
  rw [hdetect, List.map_map, ← hfirst, List.map_map]
  rfl

theorem detect_complete_iff (observations : List Observation) :
    ((detect {} observations).map LiveTransition.event).toFinset = liveEvents ↔
    (detect {} observations).length = 4 := by
  obtain ⟨n, hn, hlength, hevents⟩ := detect_events observations
  rw [hevents, hlength]
  interval_cases n <;> decide +kernel

end Detection

section Follows

variable {settings : Settings} {isWord : Char → Bool} {history : List LiveEvent} {runId : String}
  {faultNs : ℤ}
variable {observations : List Observation} {sent : List LiveTransition}

def injection : LiveTransition := { event := "blackhole_injected", offsetMs := 0 }

def readingsAt (o : Observation) : Readings := ⟨o.sample.bfdUp, o.sample.ospfFull, o.sample.routeMetric⟩

/-- A collection that has put the fault in place has reported it first, and then transitions of what it has
sampled. -/
structure Follows (settings : Settings) (isWord : Char → Bool) (history : List LiveEvent) (runId : String)
    (faultNs : ℤ) (observations : List Observation) (sent : List LiveTransition) : Prop where
  commands : [settings.addQdisc, settings.addFilter] <+: (ledger history).commands
  posts : (ledger history).posts = (injection :: sent).map fun transition => (runId, transition)
  sent : sent <+: detect {} observations
  readings : observations.map readingsAt <+: (ledger history).readings.tail
  clock : (ledger history).clock.head? = some faultNs
  offsets : observations.map Observation.offsetMs <+: (ledger history).clock.tail.map (offsetMs faultNs)
  replies : ∀ o ∈ observations, ∀ sequence ∈ o.sample.icmpSequence,
    RepliedSince isWord (some faultNs) history sequence

theorem tail_grows {α : Type} (xs ys : List α) : xs.tail <+: (xs ++ ys).tail := by
  cases xs with
  | nil => exact List.nil_prefix
  | cons x xs => exact List.prefix_append xs ys

theorem Follows.later (h : Follows settings isWord history runId faultNs observations sent)
    {events : List LiveEvent} (hposts : events.filterMap postOf = []) :
    Follows settings isWord (history ++ events) runId faultNs observations sent where
  commands := by
    simp only [ledger, List.filterMap_append]
    exact h.commands.trans (List.prefix_append _ _)
  posts := by
    have hsame := h.posts
    simp only [ledger, List.filterMap_append, hposts, List.append_nil] at hsame ⊢
    exact hsame
  sent := h.sent
  readings := by
    simp only [ledger, List.filterMap_append]
    exact h.readings.trans (tail_grows _ _)
  clock := by
    have hhead := h.clock
    simp only [ledger, List.filterMap_append, List.head?_append] at hhead ⊢
    rw [hhead, Option.some_or]
  offsets := by
    simp only [ledger, List.filterMap_append]
    exact h.offsets.trans ((tail_grows _ _).map _)
  replies := fun o ho sequence hsequence => (h.replies o ho sequence hsequence).later events

theorem Follows.reported (h : Follows settings isWord history runId faultNs observations sent)
    {transition : LiveTransition} (hsent : sent ++ [transition] <+: detect {} observations)
    (answer : Except LiveError Unit) :
    Follows settings isWord (history ++ [⟨.recordEvent runId transition, answer⟩]) runId faultNs observations
      (sent ++ [transition]) := by
  have hledger : ledger (history ++ [⟨.recordEvent runId transition, answer⟩]) = _ :=
    ledger_recordEvent history answer
  refine ⟨?_, ?_, hsent, ?_, ?_, ?_, fun o ho sequence hsequence =>
    (h.replies o ho sequence hsequence).later _⟩
  · rw [hledger]
    exact h.commands
  · rw [hledger, ← List.cons_append, List.map_append, ← h.posts]
    rfl
  · rw [hledger]
    exact h.readings
  · rw [hledger]
    exact h.clock
  · rw [hledger]
    exact h.offsets

end Follows

section Rounds

variable (settings : Settings) (isWord : Char → Bool)

/-- All is well before the fault: the API, the routers, the pings and the run that will have the events. -/
structure Prepared (history : List LiveEvent) : Prop where
  healthy : (⟨.health, .ok ()⟩ : LiveEvent) ∈ history
  baseline : (⟨.sample, .ok ⟨true, true, some 30⟩⟩ : LiveEvent) ∈ history
  reply : ReplySeen isWord history
  run : ∃ document, (⟨.createRun "bfd_100x3" settings.source settings.target, .ok document⟩ : LiveEvent) ∈
    history ∧
    (document.get "id").isSome

structure CollectionSound (history : List LiveEvent) : Prop where
  guarded : Guarded (fun event => ∃ check, event.call = .runCommand check settings.addQdisc)
    (Prepared settings isWord) history
  commands : (ledger history).commands <+: [settings.addQdisc, settings.addFilter]
  reported : (ledger history).posts = [] ∨ ∃ runId faultNs observations sent,
    Follows settings isWord history runId faultNs observations sent

variable {settings isWord} {history : List LiveEvent} {runId : String} {faultNs : ℤ}
  {observations : List Observation}
variable {sent : List LiveTransition} {event : LiveEvent}

theorem reported_later (h : (ledger history).posts = [] ∨ ∃ runId faultNs observations sent,
    Follows settings isWord history runId faultNs observations sent) (hpost : postOf event = none) :
    (ledger (history ++ [event])).posts = [] ∨ ∃ runId faultNs observations sent,
      Follows settings isWord (history ++ [event]) runId faultNs observations sent := by
  refine h.imp (fun hnone => ?_) ?_
  · simpa [ledger, List.filterMap_append, hpost] using hnone
  · rintro ⟨runId, faultNs, observations, sent, hfollows⟩
    exact ⟨runId, faultNs, observations, sent, hfollows.later (by simp [hpost])⟩

theorem CollectionSound.step (h : CollectionSound settings isWord history) (hcommand : commandOf event = none)
    (hreported : (ledger (history ++ [event])).posts = [] ∨ ∃ runId faultNs observations sent,
      Follows settings isWord (history ++ [event]) runId faultNs observations sent) :
    CollectionSound settings isWord (history ++ [event]) := by
  refine ⟨guarded_concat h.guarded ?_, ?_, hreported⟩
  · rintro ⟨check, hcall⟩
    obtain ⟨call, answer⟩ := event
    obtain rfl : call = .runCommand check settings.addQdisc := hcall
    cases hcommand
  · have hsame : (ledger (history ++ [event])).commands = (ledger history).commands := by
      simp [ledger, List.filterMap_append, hcommand]
    rw [hsame]
    exact h.commands

theorem CollectionSound.quiet (h : CollectionSound settings isWord history)
    (hcommand : commandOf event = none) (hpost : postOf event = none) :
    CollectionSound settings isWord (history ++ [event]) :=
  h.step hcommand (reported_later h.reported hpost)

theorem collectionSound_kept : KeptByIdle (CollectionSound settings isWord) :=
  fun _ _ hidle h => h.quiet (silent_of_idle hidle).1 (silent_of_idle hidle).2.1

/-- Before a round of the loop all transitions of the samples have been reported. -/
structure AtRound (settings : Settings) (isWord : Char → Bool) (runId : String) (faultNs : ℤ)
    (observations : List Observation) (progress : Progress) (history : List LiveEvent) : Prop where
  follows : Follows settings isWord history runId faultNs observations (detect {} observations)
  readings : observations.map readingsAt = (ledger history).readings.tail
  sampled : (ledger history).readings ≠ []
  offsets : observations.map Observation.offsetMs = (ledger history).clock.tail.map (offsetMs faultNs)
  replied : ReplySeen isWord history
  injectedNs : progress.tracker.injectedNs = some faultNs
  detector : progress.detector = after {} observations
  recorded : progress.recorded = ((detect {} observations).map LiveTransition.event).toFinset
  unfinished : progress.recorded ≠ liveEvents

structure Beyond (history later : List LiveEvent) : Prop where
  grown : history <+: later
  readings : (ledger later).readings = (ledger history).readings
  clock : (ledger later).clock = (ledger history).clock

theorem Beyond.trans {later last : List LiveEvent} (h : Beyond history later) (h' : Beyond later last) :
    Beyond history last :=
  ⟨h.grown.trans h'.grown, h'.readings.trans h.readings, h'.clock.trans h.clock⟩

theorem beyond_concat (hreadings : readingsOf event = none) (hclock : clockOf event = none) :
    Beyond history (history ++ [event]) :=
  ⟨List.prefix_append _ _, by simp [ledger, hreadings], by simp [ledger, hclock]⟩

theorem ReplySeen.later (h : ReplySeen isWord history) {later : List LiveEvent} (hgrown : history <+: later) :
    ReplySeen isWord later := by
  obtain ⟨line, observedNs, hheard, hreply⟩ := h
  exact ⟨line, observedNs, hgrown.subset hheard, hreply⟩

theorem report_meets {transitions : List LiveTransition} (hsound : CollectionSound settings isWord history)
    (hfollows : Follows settings isWord history runId faultNs observations sent)
    (hsent : sent ++ transitions <+: detect {} observations) (recorded : Finset String) :
    Meets history (report runId transitions recorded) (CollectionSound settings isWord)
      (EndsWith (fun later recorded' => recorded' = recorded ∪
        (transitions.map LiveTransition.event).toFinset ∧
        Follows settings isWord later runId faultNs observations (sent ++ transitions) ∧ Beyond history later)
          fun _ _ => False) := by
  induction transitions generalizing history sent recorded with
  | nil =>
    refine meets_done hsound ⟨by simp, ?_, List.prefix_rfl, rfl, rfl⟩
    rwa [List.append_nil]
  | cons transition transitions ih =>
    have hfirst : sent ++ [transition] <+: detect {} observations := by
      rw [List.append_cons] at hsent
      exact (List.prefix_append _ _).trans hsent
    rw [List.append_cons] at hsent
    refine meets_asked hsound
      (fun answer => hsound.step rfl (Or.inr ⟨_, _, _, _, hfollows.reported hfirst answer⟩))
      fun done hsound => ?_
    have hreported : Follows settings isWord (history ++ [⟨.recordEvent runId transition, .ok done⟩]) runId
        faultNs observations (sent ++ [transition]) := hfollows.reported hfirst (.ok done)
    have hrecord : Beyond history (history ++ [⟨.recordEvent runId transition, .ok done⟩]) :=
      beyond_concat rfl rfl
    generalize history ++ [⟨.recordEvent runId transition, .ok done⟩] = later at hsound hreported hrecord ⊢
    refine meets_idle trivial collectionSound_kept hsound fun _ hsound => ?_
    refine meets_weaken (ih hsound (hreported.later rfl) hsent _) (fun _ h => h) ?_ fun _ _ _ h => h
    rintro last recorded' - ⟨rfl, hlast, hbeyond⟩
    refine ⟨by simp [Finset.insert_union], ?_, hrecord.trans ((beyond_concat rfl rfl).trans hbeyond)⟩
    rwa [List.append_cons]

theorem AtRound.idle {progress : Progress}
    (h : AtRound settings isWord runId faultNs observations progress history) (hidle : event.call.Idle) :
    AtRound settings isWord runId faultNs observations progress (history ++ [event]) := by
  have hledger := ledger_idle hidle history
  refine ⟨h.follows.later (by simp [(silent_of_idle hidle).2.1]), ?_, ?_, ?_,
    h.replied.later (List.prefix_append _ _), h.injectedNs, h.detector, h.recorded, h.unfinished⟩
  · rw [hledger]
    exact h.readings
  · rw [hledger]
    exact h.sampled
  · rw [hledger]
    exact h.offsets

structure Observed (settings : Settings) (isWord : Char → Bool) (runId : String) (faultNs : ℤ)
    (observations : List Observation) (sent : List LiveTransition) (history : List LiveEvent) : Prop where
  follows : Follows settings isWord history runId faultNs observations sent
  readings : observations.map readingsAt = (ledger history).readings.tail
  sampled : (ledger history).readings ≠ []
  offsets : observations.map Observation.offsetMs = (ledger history).clock.tail.map (offsetMs faultNs)

theorem AtRound.observed {progress : Progress}
    (h : AtRound settings isWord runId faultNs observations progress history) {o : Observation}
    {readings : Readings} {ns : ℤ} (hreadings : readingsAt o = readings)
    (hoffset : o.offsetMs = offsetMs faultNs ns)
    (hreplies : ∀ sequence ∈ o.sample.icmpSequence, RepliedSince isWord (some faultNs) history sequence) :
    Observed settings isWord runId faultNs (observations ++ [o]) (detect {} observations)
      (history ++ [⟨.sample, .ok readings⟩] ++ [⟨.monotonicNs, .ok ns⟩]) := by
  subst hreadings
  have hclock := ledger_observed history (readingsAt o) ns
  have hnonempty : (ledger history).clock ≠ [] := by
    intro hnil
    have hhead := h.follows.clock
    rw [hnil] at hhead
    cases hhead
  have hreadings : (observations ++ [o]).map readingsAt =
      ((ledger history).readings ++ [readingsAt o]).tail := by
    rw [List.tail_append_of_ne_nil h.sampled, List.map_append, h.readings]
    rfl
  have hoffsets : (observations ++ [o]).map Observation.offsetMs =
      ((ledger history).clock ++ [ns]).tail.map (offsetMs faultNs) := by
    rw [List.tail_append_of_ne_nil hnonempty, List.map_append, List.map_append, h.offsets, List.map_singleton,
      hoffset]
    rfl
  have hlater : Follows settings isWord (history ++ [⟨.sample, .ok (readingsAt o)⟩] ++
      [⟨.monotonicNs, .ok ns⟩]) runId faultNs observations (detect {} observations) :=
        (h.follows.later rfl).later rfl
  refine ⟨⟨hlater.commands, hlater.posts, ?_, ?_, hlater.clock, ?_, ?_⟩, ?_, ?_, ?_⟩
  · rw [detect_concat]
    exact List.prefix_append _ _
  · rw [hclock]
    exact hreadings ▸ List.prefix_rfl
  · rw [hclock]
    exact hoffsets ▸ List.prefix_rfl
  · refine List.forall_mem_append.mpr ⟨hlater.replies, List.forall_mem_singleton.mpr fun sequence hsequence =>
      ?_⟩
    exact ((hreplies sequence hsequence).later _).later _
  · rw [hclock]
    exact hreadings
  · rw [hclock]
    simp
  · rw [hclock]
    exact hoffsets

def notComplete : LiveError := .runtimeError "live API did not mark the convergence run complete"

def Completed (settings : Settings) (isWord : Char → Bool) (history : List LiveEvent) (result : Value) :
    Prop :=
  ∃ runId faultNs observations,
    Follows settings isWord history runId faultNs observations (detect {} observations) ∧
    (detect {} observations).length = 4 ∧ (⟨.getRun runId, .ok result⟩ : LiveEvent) ∈ history ∧
    result.getD "status" .null = .str "complete"

/-- The ways in which a collection fails by itself, of which only the time-out has transitions missing. -/
def Failed (settings : Settings) (isWord : Char → Bool) (history : List LiveEvent) (e : LiveError) : Prop :=
  (ledger history).posts = [] ∨
  ∃ runId faultNs observations,
  Follows settings isWord history runId faultNs observations (detect {} observations) ∧
    (e = digitsError ∨ (detect {} observations).length = 4 ∧ e = notComplete ∨
      (detect {} observations).length < 4 ∧
      e = timedOut ((detect {} observations).map LiveTransition.event).toFinset)

theorem finish_meets (hsound : CollectionSound settings isWord history)
    (hfollows : Follows settings isWord history runId faultNs observations (detect {} observations))
    (hfour : (detect {} observations).length = 4) :
    Meets history (finish runId) (CollectionSound settings isWord)
      (EndsWith (Completed settings isWord) (Failed settings isWord)) := by
  refine meets_idle trivial collectionSound_kept hsound fun result hsound => ?_
  have hlater : Follows settings isWord (history ++ [⟨.getRun runId, .ok result⟩]) runId faultNs observations
      (detect {} observations) := hfollows.later rfl
  split_ifs with hstatus
  · exact meets_done hsound ⟨runId, faultNs, observations, hlater, hfour,
      List.mem_append_right _ (List.mem_singleton_self _), (Value.pyEq_str_iff _ _).mp hstatus⟩
  · exact meets_raise hsound fun _ =>
      Or.inr ⟨runId, faultNs, observations, hlater, Or.inr (Or.inl ⟨hfour, rfl⟩)⟩

theorem meets_probeSample {α : Type} {inv : List LiveEvent → Prop}
    {post : List LiveEvent → Except LiveError α → Prop} {f : LiveSample → LiveProgram α}
    {icmpSequence : Option ℤ} (hinv : inv history) (hkeep : ∀ answer, inv (history ++ [⟨.sample, answer⟩]))
    (herror : ∀ e, post (history ++ [⟨.sample, .error e⟩]) (.error e))
    (hok : ∀ readings : Readings, Meets (history ++ [⟨.sample, .ok readings⟩])
      (f ⟨readings.bfdUp, readings.ospfFull, readings.routeMetric, icmpSequence⟩) inv post) :
    Meets history (probeSample icmpSequence >>= f) inv post := by
  refine meets_call hinv fun answer => ?_
  cases answer with
  | ok readings => exact hok readings
  | error e => exact meets_raise (hkeep _) (herror e)

theorem detect_length_lt (h : ((detect {} observations).map LiveTransition.event).toFinset ≠ liveEvents) :
    (detect {} observations).length < 4 := by
  obtain ⟨n, hn, hlength, -⟩ := detect_events observations
  have hne := mt (detect_complete_iff observations).mpr h
  omega

theorem pollRound_meets {progress : Progress} (hsound : CollectionSound settings isWord history)
    (hround : AtRound settings isWord runId faultNs observations progress history) (rounds : ℕ)
    (deadline : ℚ) :
    Meets history (pollRound isWord rounds settings runId faultNs deadline progress)
      (CollectionSound settings isWord)
        (EndsWith (fun later next => next.elim
          (fun progress => ∃ observations, AtRound settings isWord runId faultNs observations progress later)
        (Completed settings isWord later)) (Failed settings isWord)) := by
  refine meets_idle trivial collectionSound_kept hsound fun now hsound => ?_
  have hround : AtRound settings isWord runId faultNs observations progress
      (history ++ [⟨.monotonic, .ok now⟩]) :=
    hround.idle trivial
  generalize history ++ [⟨.monotonic, .ok now⟩] = history at hsound hround ⊢
  split_ifs with hnow
  · have hkept : KeptByIdle fun history => CollectionSound settings isWord history ∧
        AtRound settings isWord runId faultNs observations progress history :=
      fun history event hidle h => ⟨collectionSound_kept history event hidle h.1, h.2.idle hidle⟩
    have hdrained := drainPing_meets hkept ⟨hsound, hround⟩ hround.injectedNs (fun _ => hround.replied) rounds
    refine meets_next (meets_weaken hdrained (fun _ h => h.1) (fun _ _ h h' => And.intro h.2 h')
      fun history e h he =>
      Or.inr ⟨_, _, _, h.2.follows, Or.inl he⟩) ?_
    rintro later ⟨recovery, tracker⟩ hsound ⟨hround, hdrained⟩
    refine meets_probeSample hsound (fun answer => hsound.quiet rfl rfl)
      (fun _ hanswered => absurd hanswered not_answered_concat) fun readings => ?_
    have hsound : CollectionSound settings isWord (later ++ [⟨.sample, .ok readings⟩]) := hsound.quiet rfl rfl
    generalize hsample : (⟨readings.bfdUp, readings.ospfFull, readings.routeMetric,
      recovery.map PingRecovery.sequence⟩ :
      LiveSample) = sample
    refine meets_asked hsound (fun answer => hsound.quiet rfl rfl) fun ns hsound => ?_
    have hreplies : ∀ sequence ∈ sample.icmpSequence, RepliedSince isWord (some faultNs) later sequence := by
      rw [← hsample]
      intro sequence hsequence
      obtain ⟨found, hfound, rfl⟩ := Option.map_eq_some_iff.mp hsequence
      exact hdrained.recovered found hfound
    have hobserved := hround.observed (o := ⟨sample, offsetMs faultNs ns⟩) (by rw [← hsample]) rfl hreplies
    have hdetect := detect_concat {} observations ⟨sample, offsetMs faultNs ns⟩
    have hdetector := after_concat {} observations ⟨sample, offsetMs faultNs ns⟩
    rw [← hround.detector] at hdetect hdetector
    dsimp only at hdetect hdetector ⊢
    generalize progress.detector.observe sample (offsetMs faultNs ns) = observed at hdetect hdetector ⊢
    generalize (⟨sample, offsetMs faultNs ns⟩ : Observation) = o at hobserved hdetect hdetector ⊢
    have hsent : detect {} observations ++ observed.1 <+: detect {} (observations ++ [o]) :=
      ⟨[], (List.append_nil _).trans hdetect.symm⟩
    have hreported := report_meets hsound hobserved.follows hsent progress.recorded
    refine meets_next (meets_weaken hreported (fun _ h => h) (fun _ _ _ h => h) fun _ _ _ h => h.elim) ?_
    rintro last recorded hsound ⟨hrecorded, hfollows, hbeyond⟩
    rw [← hdetect] at hfollows
    have hevents : recorded = ((detect {} (observations ++ [o])).map LiveTransition.event).toFinset := by
      rw [hrecorded, hround.recorded, hdetect, List.map_append, List.toFinset_append]
    split_ifs with hall
    · have hfour := (detect_complete_iff _).mp (hevents ▸ hall)
      exact meets_next (finish_meets hsound hfollows hfour) fun _ _ hsound hcompleted =>
        meets_done hsound hcompleted
    · have hnext : AtRound settings isWord runId faultNs (observations ++ [o]) ⟨tracker, observed.2,
          recorded⟩ last :=
        ⟨hfollows, by rw [hbeyond.readings]; exact hobserved.readings, by
          rw [hbeyond.readings]; exact hobserved.sampled, by rw [hbeyond.clock]; exact hobserved.offsets,
          hround.replied.later (((List.prefix_append _ _).trans (List.prefix_append _ _)).trans
            hbeyond.grown),
          hdrained.injectedNs, hdetector.symm, hevents, hall⟩
      exact meets_idle trivial collectionSound_kept hsound fun _ hsound =>
        meets_done hsound ⟨_, hnext.idle trivial⟩
  · exact meets_raise hsound fun _ => Or.inr ⟨runId, faultNs, observations, hround.follows,
      Or.inr (Or.inr ⟨detect_length_lt (hround.recorded ▸ hround.unfinished), by rw [hround.recorded]⟩)⟩

end Rounds

end TelconetSentinel.LiveCollection
