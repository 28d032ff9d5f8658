import TelconetSentinel.LiveCollectionReports

namespace TelconetSentinel.LiveCollection

open BinaryFloats DocumentValues GatedStages Interaction LiveTransitionDetector

section Injection

variable {settings : Settings} {isWord : Char → Bool} {str : Value → String} {history : List LiveEvent}

theorem ledger_append (history events : List LiveEvent) : ledger (history ++ events) =
    ⟨(ledger history).commands ++ (ledger events).commands, (ledger history).posts ++ (ledger events).posts,
      (ledger history).readings ++ (ledger events).readings, (ledger history).clock ++
      (ledger events).clock⟩ := by
  simp [ledger]

structure Checked (settings : Settings) (isWord : Char → Bool) (history : List LiveEvent) : Prop where
  sound : CollectionSound settings isWord history
  ledger : ∃ readings, ledger history = { readings := [readings] }
  healthy : (⟨.health, .ok ()⟩ : LiveEvent) ∈ history
  baseline : (⟨.sample, .ok ⟨true, true, some 30⟩⟩ : LiveEvent) ∈ history

theorem checked_kept : KeptByIdle (Checked settings isWord) := fun history event hidle h =>
  ⟨collectionSound_kept history event hidle h.sound, by rw [ledger_idle hidle]; exact h.ledger,
    List.mem_append_left _ h.healthy, List.mem_append_left _ h.baseline⟩

theorem addFilter_ne_addQdisc : settings.addFilter ≠ settings.addQdisc := by
  simp [Settings.addFilter, Settings.addQdisc, Settings.tc]

theorem deleteQdisc_ne_addQdisc : settings.deleteQdisc ≠ settings.addQdisc := by
  simp [Settings.deleteQdisc, Settings.addQdisc, Settings.tc]

theorem guarded_command {check : Bool} {command : List String}
    (h : Guarded (fun event => ∃ check, event.call = .runCommand check settings.addQdisc)
      (Prepared settings isWord) history)
    (hallowed : command = settings.addQdisc → Prepared settings isWord history)
    (answer : Except LiveError Unit) :
    Guarded (fun event => ∃ check, event.call = .runCommand check settings.addQdisc)
      (Prepared settings isWord)
      (history ++ [⟨.runCommand check command, answer⟩]) := by
  refine guarded_concat h ?_
  rintro ⟨_, hcall⟩
  cases hcall
  exact hallowed rfl

theorem CollectionSound.command {check : Bool} {command : List String}
    (h : CollectionSound settings isWord history)
    (hallowed : command = settings.addQdisc → Prepared settings isWord history)
    (hcommands : (ledger history).commands ++ [command] <+: [settings.addQdisc, settings.addFilter])
    (hposts : (ledger history).posts = []) (answer : Except LiveError Unit) :
    CollectionSound settings isWord (history ++ [⟨.runCommand check command, answer⟩]) := by
  refine ⟨guarded_command h.guarded hallowed answer, ?_, Or.inl ?_⟩
  · rwa [ledger_runCommand]
  · rwa [ledger_runCommand]

variable (settings isWord) in
theorem injected_follows {readings : Readings} (hledger : ledger history = { readings := [readings] })
    (runId : String) (faultNs : ℤ) (answer : Except LiveError Unit) : Follows settings isWord (history ++
      [⟨.runCommand true settings.addQdisc, .ok ()⟩, ⟨.monotonicNs, .ok faultNs⟩,
        ⟨.runCommand true settings.addFilter, .ok ()⟩, ⟨.recordEvent runId injection, answer⟩]) runId faultNs
        [] [] := by
  have hlater := ledger_append history [⟨.runCommand true settings.addQdisc, .ok ()⟩,
    ⟨.monotonicNs, .ok faultNs⟩, ⟨.runCommand true settings.addFilter, .ok ()⟩,
    ⟨.recordEvent runId injection, answer⟩]
  rw [hledger] at hlater
  refine ⟨?_, ?_, List.nil_prefix, List.nil_prefix, ?_, List.nil_prefix, by simp⟩
  · rw [hlater]
    exact List.prefix_rfl
  · rw [hlater]
    rfl
  · rw [hlater]
    rfl

theorem pollLoop_meets {runId : String} {faultNs : ℤ} {progress : Progress}
    (hsound : CollectionSound settings isWord history)
    (hround : AtRound settings isWord runId faultNs [] progress history) (rounds : ℕ) (deadline : ℚ) :
    Meets history (.loop (pollRound isWord rounds settings runId faultNs deadline) rounds progress)
      (CollectionSound settings isWord) (EndsWith (Completed settings isWord) (Failed settings isWord)) := by
  refine meets_rounds (fun progress history => ∃ observations,
    AtRound settings isWord runId faultNs observations progress history) ?_ hsound ⟨[], hround⟩ rounds
  rintro progress history hsound ⟨observations, hround⟩
  exact pollRound_meets hsound hround rounds deadline

theorem started_round {readings : Readings} {tracker : PingRecoveryTracker} {answer : Except LiveError Unit}
    (hledger : ledger history = { readings := [readings] }) (hseen : ReplySeen isWord history)
    (runId : String) (faultNs : ℤ) :
    AtRound settings isWord runId faultNs [] { tracker := tracker.markInjected faultNs } (history ++
      [⟨.runCommand true settings.addQdisc, .ok ()⟩, ⟨.monotonicNs, .ok faultNs⟩,
        ⟨.runCommand true settings.addFilter, .ok ()⟩, ⟨.recordEvent runId injection, answer⟩]) := by
  have hfollows := injected_follows settings isWord hledger runId faultNs answer
  have hlater := ledger_append history [⟨.runCommand true settings.addQdisc, .ok ()⟩,
    ⟨.monotonicNs, .ok faultNs⟩, ⟨.runCommand true settings.addFilter, .ok ()⟩,
    ⟨.recordEvent runId injection, answer⟩]
  rw [hledger] at hlater
  refine ⟨hfollows, ?_, ?_, ?_, hseen.later (List.prefix_append _ _), rfl, rfl, rfl,
    show ∅ ≠ liveEvents by decide⟩
  · rw [hlater]
    rfl
  · rw [hlater]
    exact List.cons_ne_nil _ _
  · rw [hlater]
    rfl

theorem injectAndPoll_meets (h : Checked settings isWord history) (rounds : ℕ) :
    Meets history (injectAndPoll isWord str rounds settings) (CollectionSound settings isWord)
      (EndsWith (Completed settings isWord) (Failed settings isWord)) := by
  have hunreported : ∀ history e, Checked settings isWord history → Failed settings isWord history e := by
    rintro history e ⟨-, ⟨readings, hledger⟩, -, -⟩
    exact Or.inl (by rw [hledger])
  have hbaseline : Meets history (waitForPingBaseline isWord rounds) (Checked settings isWord)
      (EndsWith (fun history _ => ReplySeen isWord history) fun _ _ => True) :=
    waitForPingBaseline_meets checked_kept h rounds 5
  refine meets_next (meets_weaken hbaseline (fun _ h => h.sound) (fun _ _ h hseen => And.intro h hseen)
    fun history e h _ => hunreported history e h) ?_
  rintro history tracker - ⟨h, hseen⟩
  refine meets_idle trivial collectionSound_kept h.sound fun run hsound => ?_
  have hmade : (⟨.createRun "bfd_100x3" settings.source settings.target, .ok run⟩ : LiveEvent) ∈
      history ++ [⟨.createRun "bfd_100x3" settings.source settings.target, .ok run⟩] :=
    List.mem_append_right _ (List.mem_singleton_self _)
  have h : Checked settings isWord
      (history ++ [⟨.createRun "bfd_100x3" settings.source settings.target, .ok run⟩]) :=
    checked_kept _ _ trivial h
  replace hseen := hseen.later
    (List.prefix_append history [⟨.createRun "bfd_100x3" settings.source settings.target, .ok run⟩])
  generalize history ++ [⟨.createRun "bfd_100x3" settings.source settings.target, .ok run⟩] = history at *
  unfold runIdOf
  cases hid : run.get "id" with
  | none => exact meets_raise hsound fun _ => hunreported _ _ h
  | some id =>
    have hprepared : Prepared settings isWord history :=
      ⟨h.healthy, h.baseline, hseen, run, hmade, by rw [hid]; rfl⟩
    obtain ⟨readings, hledger⟩ := h.ledger
    refine meets_asked hsound (hsound.command (fun _ => hprepared) ?_ ?_) ?_
    · rw [hledger]
      exact ⟨[settings.addFilter], rfl⟩
    · rw [hledger]
    rintro ⟨⟩ hsound
    refine meets_asked hsound (fun answer => hsound.quiet rfl rfl) fun faultNs hsound => ?_
    have hlater : ledger (history ++ [⟨.runCommand true settings.addQdisc, .ok ()⟩] ++
        [⟨.monotonicNs, .ok faultNs⟩]) =
        ⟨[settings.addQdisc], [], [readings], [faultNs]⟩ := by
      rw [ledger_append, ledger_append, hledger]
      rfl
    refine meets_asked hsound (hsound.command (fun heq => absurd heq addFilter_ne_addQdisc) ?_ ?_) ?_
    · rw [hlater]
      exact List.prefix_rfl
    · rw [hlater]
    rintro ⟨⟩ hsound
    refine meets_asked hsound (fun answer => hsound.step rfl (Or.inr ⟨str id, faultNs, [], [], ?_⟩)) ?_
    · simpa [injection] using injected_follows settings isWord hledger (str id) faultNs answer
    rintro ⟨⟩ hsound
    refine meets_idle trivial collectionSound_kept hsound fun started hsound => ?_
    refine pollLoop_meets hsound (AtRound.idle ?_ trivial) rounds _
    simpa [injection] using started_round hledger hseen (str id) faultNs

end Injection

section Cleanup

variable (settings : Settings) (isWord : Char → Bool)

structure WholeSound (history : List LiveEvent) : Prop where
  guarded : Guarded (fun event => ∃ check, event.call = .runCommand check settings.addQdisc)
    (Prepared settings isWord) history
  commands : ∃ added, added <+: [settings.addQdisc, settings.addFilter] ∧
    ((ledger history).commands = added ∨ (ledger history).commands = added ++ [settings.deleteQdisc])
  reported : (ledger history).posts = [] ∨ ∃ runId faultNs observations sent,
    Follows settings isWord history runId faultNs observations sent

def CleanupRaised (history : List LiveEvent) : Prop :=
  ∃ c ∈ [LiveCall.runCommand false settings.deleteQdisc, .terminate, .wait 2], ∃ e,
    (⟨c, .error e⟩ : LiveEvent) ∈ history

def PingsEnded (history : List LiveEvent) : Prop :=
  (∃ answer, (⟨.terminate, answer⟩ : LiveEvent) ∈ history) ∧
    ((⟨.wait 2, .ok true⟩ : LiveEvent) ∈ history ∨ ∃ answer, (⟨.kill, answer⟩ : LiveEvent) ∈ history)

structure Cleaned (history : List LiveEvent) : Prop where
  commands : ∃ added, added <+: [settings.addQdisc, settings.addFilter] ∧
    (ledger history).commands = added ++ [settings.deleteQdisc]
  pings : CleanupRaised settings history ∨ PingsEnded history

variable {settings isWord} {str : Value → String} {history : List LiveEvent} {event : LiveEvent}

theorem CollectionSound.whole (h : CollectionSound settings isWord history) :
    WholeSound settings isWord history :=
  ⟨h.guarded, ⟨_, h.commands, Or.inl rfl⟩, h.reported⟩

theorem wholeSound_kept : KeptByIdle (WholeSound settings isWord) := by
  intro history event hidle h
  have hreported := reported_later h.reported (silent_of_idle hidle).2.1
  refine ⟨guarded_concat h.guarded ?_, by rw [ledger_idle hidle]; exact h.commands, hreported⟩
  rintro ⟨check, hcall⟩
  rw [hcall] at hidle
  exact hidle.elim

theorem endsWith_later {result : Except LiveError Value}
    (h : EndsWith (Completed settings isWord) (Failed settings isWord) history result)
    (hposts : postOf event = none) :
    EndsWith (Completed settings isWord) (Failed settings isWord) (history ++ [event]) result := by
  have hsilent : [event].filterMap postOf = [] := by simp [hposts]
  cases result with
  | ok document =>
    obtain ⟨runId, faultNs, observations, hfollows, hfour, hrun, hstatus⟩ := h
    exact ⟨runId, faultNs, observations, hfollows.later hsilent, hfour, List.mem_append_left _ hrun, hstatus⟩
  | error e =>
    intro hanswered
    refine (h fun event hevent => hanswered event (List.mem_append_left _ hevent)).imp (fun hnone => ?_) ?_
    · simpa [ledger, hposts] using hnone
    · rintro ⟨runId, faultNs, observations, hfollows, hways⟩
      exact ⟨runId, faultNs, observations, hfollows.later hsilent, hways⟩

structure Removed (settings : Settings) (isWord : Char → Bool) (result : Except LiveError Value)
    (history : List LiveEvent) :
    Prop where
  sound : WholeSound settings isWord history
  commands : ∃ added, added <+: [settings.addQdisc, settings.addFilter] ∧
    (ledger history).commands = added ++ [settings.deleteQdisc]
  result : EndsWith (Completed settings isWord) (Failed settings isWord) history result

theorem removed_kept (result : Except LiveError Value) : KeptByIdle (Removed settings isWord result) :=
  fun history event hidle h =>
    ⟨wholeSound_kept history event hidle h.sound, by rw [ledger_idle hidle]; exact h.commands,
      endsWith_later h.result (silent_of_idle hidle).2.1⟩

theorem CollectionSound.removed {result : Except LiveError Value}
    (h : CollectionSound settings isWord history)
    (hresult : EndsWith (Completed settings isWord) (Failed settings isWord) history result)
    (answer : Except LiveError (LiveCall.Answer (.runCommand false settings.deleteQdisc))) :
    Removed settings isWord result (history ++ [⟨.runCommand false settings.deleteQdisc, answer⟩]) := by
  have hcommands : ∃ added, added <+: [settings.addQdisc, settings.addFilter] ∧
      (ledger (history ++ [⟨.runCommand false settings.deleteQdisc, answer⟩])).commands = added ++
      [settings.deleteQdisc] :=
    ⟨_, h.commands, by rw [ledger_runCommand history answer]⟩
  exact ⟨⟨guarded_command h.guarded (fun heq => absurd heq deleteQdisc_ne_addQdisc) answer,
    hcommands.imp fun _ => And.imp_right Or.inr, reported_later h.reported rfl⟩, hcommands,
    endsWith_later hresult rfl⟩

theorem cleanup_meets {result : Except LiveError Value} (h : CollectionSound settings isWord history)
    (hresult : EndsWith (Completed settings isWord) (Failed settings isWord) history result) :
    Meets history (cleanup settings) (WholeSound settings isWord) fun history done =>
    Cleaned settings history ∧
      EndsWith (Completed settings isWord) (Failed settings isWord) history (done.bind fun _ => result) := by
  have hstep : ∀ {history c}, c ∈ [LiveCall.runCommand false settings.deleteQdisc, .terminate, .wait 2] →
      ∀ e, Removed settings isWord result (history ++ [⟨c, .error e⟩]) →
      Cleaned settings (history ++ [⟨c, .error e⟩]) ∧
        EndsWith (Completed settings isWord) (Failed settings isWord) (history ++ [⟨c, .error e⟩])
        (.error e) :=
    fun hc e hremoved => ⟨⟨hremoved.commands,
      Or.inl ⟨_, hc, e, List.mem_append_right _ (List.mem_singleton_self _)⟩⟩, fun hanswered =>
      absurd hanswered not_answered_concat⟩
  have hremoved := h.removed hresult
  refine meets_ask h.whole (fun answer => (hremoved answer).sound)
    (fun e => hstep (by simp) e (hremoved _)) fun done => ?_
  replace hremoved := hremoved (.ok done)
  generalize history ++ [⟨.runCommand false settings.deleteQdisc, .ok done⟩] = history at hremoved ⊢
  have hterminated := fun answer => removed_kept result history ⟨.terminate, answer⟩ trivial hremoved
  refine meets_ask hremoved.sound (fun answer => (hterminated answer).sound)
    (fun e => hstep (by simp) e (hterminated _))
    fun done => ?_
  have hterminate : (⟨.terminate, .ok done⟩ : LiveEvent) ∈ history ++ [⟨.terminate, .ok done⟩] :=
    List.mem_append_right _ (List.mem_singleton_self _)
  replace hremoved := hterminated (.ok done)
  generalize history ++ [⟨.terminate, .ok done⟩] = history at hremoved hterminate ⊢
  have hwaited := fun answer => removed_kept result history ⟨.wait 2, answer⟩ trivial hremoved
  refine meets_ask hremoved.sound (fun answer => (hwaited answer).sound)
    (fun e => hstep (by simp) e (hwaited _)) fun ended => ?_
  have hlater : (⟨.terminate, .ok done⟩ : LiveEvent) ∈ history ++ [⟨.wait 2, .ok ended⟩] :=
    List.mem_append_left _ hterminate
  replace hremoved := hwaited (.ok ended)
  cases ended with
  | true =>
    refine meets_done hremoved.sound ⟨⟨hremoved.commands, Or.inr ⟨⟨_, hlater⟩, Or.inl ?_⟩⟩, hremoved.result⟩
    exact List.mem_append_right _ (List.mem_singleton_self _)
  | false =>
    generalize history ++ [⟨.wait 2, .ok false⟩] = history at hremoved hlater ⊢
    have hkilled := fun answer => removed_kept result history ⟨.kill, answer⟩ trivial hremoved
    have hends : ∀ answer, Cleaned settings (history ++ [⟨.kill, answer⟩]) := fun answer =>
      ⟨(hkilled answer).commands,
        Or.inr ⟨⟨_, List.mem_append_left _ hlater⟩,
        Or.inr ⟨answer, List.mem_append_right _ (List.mem_singleton_self _)⟩⟩⟩
    refine meets_perform hremoved.sound fun answer => ⟨(hkilled answer).sound, hends answer, ?_⟩
    cases answer with
    | ok done => exact (hkilled _).result
    | error e => exact fun hanswered => absurd hanswered not_answered_concat

end Cleanup

section Collection

variable {settings : Settings} {isWord : Char → Bool} {str : Value → String} {rounds : ℕ}

def Started (history : List LiveEvent) : Prop :=
  ∃ container target, (⟨.startPing container target, .ok ()⟩ : LiveEvent) ∈ history

theorem collectionSound_nil : CollectionSound settings isWord [] :=
  ⟨guarded_nil _ _, List.nil_prefix, Or.inl rfl⟩

theorem healthyBaseline {readings : Readings}
    (h : ¬ ((!readings.bfdUp || !readings.ospfFull || readings.routeMetric != some 30) = true)) :
    readings = ⟨true, true, some 30⟩ := by
  obtain ⟨bfdUp, ospfFull, routeMetric⟩ := readings
  simp_all

theorem collectLiveConvergence_meets : Meets [] (collectLiveConvergence isWord str rounds settings)
    (WholeSound settings isWord)
      fun history result => (Started history → Cleaned settings history) ∧
      EndsWith (Completed settings isWord) (Failed settings isWord) history result := by
  have hnil : CollectionSound settings isWord [] := collectionSound_nil
  have hhealth := fun answer => collectionSound_kept [] ⟨.health, answer⟩ trivial hnil
  refine meets_ask hnil.whole (fun answer => (hhealth answer).whole)
    (fun e => ⟨by simp [Started], fun hanswered => absurd hanswered not_answered_concat⟩) fun done => ?_
  replace hhealth := hhealth (.ok done)
  refine meets_probeSample hhealth.whole (fun answer => (hhealth.quiet rfl rfl).whole)
    (fun e => ⟨by simp [Started], fun hanswered => absurd hanswered not_answered_concat⟩) fun readings => ?_
  have hsampled : CollectionSound settings isWord ([] ++ [⟨.health, .ok done⟩] ++
      [⟨.sample, .ok readings⟩]) :=
    hhealth.quiet rfl rfl
  split_ifs with hbaseline
  · exact meets_raise hsampled.whole ⟨by simp [Started], fun _ => Or.inl rfl⟩
  obtain rfl := healthyBaseline hbaseline
  have hstarted := fun answer => collectionSound_kept _ ⟨.startPing settings.clientContainer settings.target,
    answer⟩ trivial hsampled
  refine meets_ask hsampled.whole (fun answer => (hstarted answer).whole)
    (fun e => ⟨by simp [Started], fun hanswered => absurd hanswered not_answered_concat⟩) fun started => ?_
  have hchecked : Checked settings isWord ([] ++ [⟨.health, .ok done⟩] ++
      [⟨.sample, .ok ⟨true, true, some 30⟩⟩] ++
      [⟨.startPing settings.clientContainer settings.target, .ok started⟩]) :=
    ⟨hstarted (.ok started), ⟨_, rfl⟩, List.mem_cons_self, by simp⟩
  have hpolled : Meets _ (injectAndPoll isWord str rounds settings) _ _ := injectAndPoll_meets hchecked rounds
  have hbody := hpolled.mono (fun _ h => h.whole) fun _ _ hsound hresult => And.intro hsound hresult
  refine meets_tryFinally hbody fun history result _ hpost => ?_
  exact (cleanup_meets hpost.1 hpost.2).mono (fun _ h => h) fun _ _ _ h => ⟨fun _ => h.1, h.2⟩

theorem fault_prepared_and_removed {trace : List LiveEvent} {outcome : Option (Except LiveError Value)}
    (hrun : Runs (collectLiveConvergence isWord str rounds settings) trace outcome) :
    Guarded (fun event => ∃ check, event.call = .runCommand check settings.addQdisc)
      (Prepared settings isWord) trace ∧
    (∃ added, added <+: [settings.addQdisc, settings.addFilter] ∧
      ((ledger trace).commands = added ∨ (ledger trace).commands = added ++ [settings.deleteQdisc])) ∧
    (outcome.isSome → Started trace → Cleaned settings trace) := by
  obtain ⟨hsound, hpost⟩ := collectLiveConvergence_meets trace outcome hrun
  rw [List.nil_append] at hsound hpost
  refine ⟨hsound.guarded, hsound.commands, fun hended hstarted => ?_⟩
  obtain ⟨result, hresult⟩ := Option.isSome_iff_exists.mp hended
  exact (hpost result hresult).1 hstarted

theorem offsetMs_mono {faultNs a b : ℤ} (ha : faultNs ≤ a) (hab : a ≤ b) :
    offsetMs faultNs a ≤ offsetMs faultNs b := by
  have hfault : (faultNs : ℚ) ≤ a := by exact_mod_cast ha
  have hlater : (a : ℚ) ≤ b := by exact_mod_cast hab
  refine max_le_max le_rfl (roundHalfEven_mono (double_mono ?_ ?_))
  · exact div_nonneg (sub_nonneg.mpr hfault) (by norm_num)
  · gcongr

theorem Follows.ordered {history : List LiveEvent} {runId : String} {faultNs : ℤ}
    {observations : List Observation} {sent : List LiveTransition}
    (h : Follows settings isWord history runId faultNs observations sent)
    (hclock : (ledger history).clock.Pairwise (· ≤ ·)) :
    observations.Pairwise fun o later => o.offsetMs ≤ later.offsetMs := by
  obtain ⟨later, hlater⟩ := List.head?_eq_some_iff.mp h.clock
  have hoffsets := h.offsets
  rw [hlater, List.pairwise_cons] at hclock
  rw [hlater, List.tail_cons] at hoffsets
  have hordered : (later.map (offsetMs faultNs)).Pairwise (· ≤ ·) :=
    List.pairwise_map.mpr (hclock.2.imp_of_mem fun ha _ hab => offsetMs_mono (hclock.1 _ ha) hab)
  exact List.pairwise_map.mp (hordered.sublist hoffsets.sublist)

theorem Follows.numbers {history : List LiveEvent} {runId : String} {faultNs : ℤ}
    {observations : List Observation} {sent : List LiveTransition}
    (h : Follows settings isWord history runId faultNs observations sent) :
    ∀ o ∈ observations, 0 ≤ o.offsetMs ∧ ∀ sequence ∈ o.sample.icmpSequence, 0 ≤ sequence := by
  intro o ho
  refine ⟨?_, fun sequence hsequence => ?_⟩
  · obtain ⟨ns, -, hns⟩ := List.mem_map.mp (h.offsets.subset (List.mem_map_of_mem ho))
    exact hns ▸ le_max_left _ _
  · obtain ⟨line, observedNs, injectedNs, -, hnumber, -⟩ := h.replies o ho sequence hsequence
    exact replyNumber_nonneg hnumber

/-- What the API is told are transitions of what was read of the routers, numbered as it asks for. -/
theorem transitions_reported {trace : List LiveEvent} {outcome : Option (Except LiveError Value)}
    (hrun : Runs (collectLiveConvergence isWord str rounds settings) trace outcome) :
    ((ledger trace).posts = [] ∨ ∃ runId faultNs observations sent,
      Follows settings isWord trace runId faultNs observations sent ∧
      ((ledger trace).clock.Pairwise (· ≤ ·) → observations.Pairwise fun o later =>
        o.offsetMs ≤ later.offsetMs) ∧
      ∀ o ∈ observations, 0 ≤ o.offsetMs ∧ ∀ sequence ∈ o.sample.icmpSequence, 0 ≤ sequence) ∧
    ∀ result ∈ outcome, EndsWith (Completed settings isWord) (Failed settings isWord) trace result := by
  obtain ⟨hsound, hpost⟩ := collectLiveConvergence_meets trace outcome hrun
  rw [List.nil_append] at hsound hpost
  refine ⟨hsound.reported.imp id ?_, fun result hresult => (hpost result hresult).2⟩
  rintro ⟨runId, faultNs, observations, sent, hfollows⟩
  exact ⟨runId, faultNs, observations, sent, hfollows, hfollows.ordered, hfollows.numbers⟩

end Collection

section Lab

def labSettings : Settings where
  clientContainer := "clab-telconet-sentinel-client-a"
  faultContainer := "clab-telconet-sentinel-agg1"
  faultInterface := "eth1"
  source := "access1"
  target := "10.20.0.10"
  timeoutSeconds := 15
  pollIntervalSeconds := double (1 / 10)

def isAsciiWord (c : Char) : Bool := c.isAlphanum || c == '_'

def labReadings (calls : ℕ) : Readings :=
  if calls < 12 then ⟨true, true, some 30⟩ else if calls < 24 then ⟨false, true, some 30⟩ else
    ⟨false, false, some 140⟩

def labAnswer (calls : ℕ) : (c : LiveCall) → Except LiveError c.Answer × ℕ
  | .sample => (.ok (labReadings calls), calls + 1)
  | .getNowait =>
    (.ok (if calls % 2 = 0 then
      some (s!"64 bytes from 10.20.0.10: icmp_seq={calls} ttl=61 time=0.4 ms", calls * 1000000)
      else none), calls + 1)
  | .createRun _ _ _ => (.ok (.dict [(.str "id", .str "5d1f")]), calls + 1)
  | .getRun _ => (.ok (.dict [(.str "id", .str "5d1f"), (.str "status", .str "complete")]), calls + 1)
  | .monotonic => (.ok (calls / 1000 : ℚ), calls + 1)
  | .monotonicNs => (.ok (calls * 1000000 : ℤ), calls + 1)
  | .wait _ => (.ok false, calls + 1)
  | .health | .startPing _ _ | .recordEvent _ _ | .runCommand _ _ | .sleep _ | .print
    _ | .terminate | .kill =>
    (.ok (), calls + 1)

def labRun : List LiveEvent × Option (Except LiveError Value) :=
  execute labAnswer (collectLiveConvergence isAsciiWord (fun _ => "5d1f") 12 labSettings) 0

theorem fault_prepared_and_removed_lab :
    (∃ added, added <+: [labSettings.addQdisc, labSettings.addFilter] ∧
      ((ledger labRun.1).commands = added ∨ (ledger labRun.1).commands = added ++
        [labSettings.deleteQdisc])) ∧
    Cleaned labSettings labRun.1 :=
  have hproved := fault_prepared_and_removed (execute_runs labAnswer
    (collectLiveConvergence isAsciiWord (fun _ => "5d1f") 12 labSettings) 0)
  ⟨hproved.2.1, hproved.2.2 (by decide +kernel) ⟨_, _, List.mem_of_getElem? (i := 2) rfl⟩⟩

theorem transitions_reported_lab : (ledger labRun.1).posts.length = 5 ∧ ∃ runId faultNs observations sent,
    Follows labSettings isAsciiWord labRun.1 runId faultNs observations sent ∧
    observations.Pairwise fun o later => o.offsetMs ≤ later.offsetMs := by
  have hlength : (ledger labRun.1).posts.length = 5 := by decide +kernel
  refine ⟨hlength, ?_⟩
  rcases (transitions_reported (execute_runs labAnswer
    (collectLiveConvergence isAsciiWord (fun _ => "5d1f") 12 labSettings) 0)).1 with hnone | hreported
  · exact absurd (congrArg List.length hnone) (by decide +kernel)
  · obtain ⟨runId, faultNs, observations, sent, hfollows, hordered, -⟩ := hreported
    exact ⟨runId, faultNs, observations, sent, hfollows, hordered (by decide +kernel)⟩

end Lab

end TelconetSentinel.LiveCollection
