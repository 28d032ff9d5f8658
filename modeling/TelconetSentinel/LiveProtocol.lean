import TelconetSentinel.ConvergenceRuns
import TelconetSentinel.LiveCollector

namespace TelconetSentinel

open FallibleLists GatedStages KeyedLists LiveTransitionDetector Simulation

def LiveTransition.toEvent (transition : LiveTransition) (now : DateTime) : Result ConvergenceEvent := do
  let kind ← ConvergenceEventKind.ofValue transition.event
  return ⟨kind, transition.offsetMs, .utc now, transition.routeMetric, transition.icmpSequence⟩

theorem toEvent_stageTransition (entry : ConvergenceEventKind × Observation) (now : DateTime) :
    (stageTransition entry).toEvent now = .ok ⟨entry.1, entry.2.offsetMs, .utc now,
      (stageTransition entry).routeMetric, (stageTransition entry).icmpSequence⟩ := by
  have hkind : ConvergenceEventKind.ofValue (stageTransition entry).event = .ok entry.1 :=
    entry.1.ofValue_value
  rw [LiveTransition.toEvent, hkind]
  rfl

def Records (transition : LiveTransition) (event : ConvergenceEvent) : Prop :=
  ∃ now, transition.toEvent now = .ok event

structure Admissible (events : List ConvergenceEvent) : Prop where
  distinct : (events.map ConvergenceEvent.kind).Nodup
  ordered : events.Pairwise fun event later => event.offsetMs ≤ later.offsetMs
  not_injected : ∀ event ∈ events, event.kind ≠ .blackholeInjected
  nonneg : ∀ event ∈ events, 0 ≤ event.offsetMs
  aware : ∀ event ∈ events, event.observedAt.Aware
  failover : ∀ event ∈ events, event.kind = .routeFailover → ∃ metric ∈ event.routeMetric, 1 ≤ metric
  recovered : ∀ event ∈ events, event.kind = .dataPlaneRecovered → ∃ sequence ∈ event.icmpSequence,
    0 ≤ sequence

theorem Admissible.of_append {events later : List ConvergenceEvent} (h : Admissible (events ++ later)) :
    Admissible events := by
  have hmem : ∀ event ∈ events, event ∈ events ++ later := fun _ => List.mem_append_left _
  refine ⟨?_, (List.pairwise_append.mp h.ordered).1, fun event he => h.not_injected event (hmem event he),
    fun event he => h.nonneg event (hmem event he), fun event he => h.aware event (hmem event he),
    fun event he => h.failover event (hmem event he), fun event he => h.recovered event (hmem event he)⟩
  have hdistinct := h.distinct
  rw [List.map_append] at hdistinct
  exact (List.nodup_append.mp hdistinct).1

structure Injected (run : ConvergenceRun) (injection : ConvergenceEvent) (events : List ConvergenceEvent) :
    Prop where
  profile : run.profile = "bfd_100x3"
  kind : injection.kind = .blackholeInjected
  offset : injection.offsetMs = 0
  events_eq : run.events = injection :: events

theorem Injected.append {run : ConvergenceRun} {injection event : ConvergenceEvent}
    {events : List ConvergenceEvent} (h : Injected run injection events) :
    Injected (run.append event) injection (events ++ [event]) :=
  ⟨h.profile, h.kind, h.offset, by rw [ConvergenceRun.append, h.events_eq, List.cons_append]⟩

theorem requiredEvents_live : requiredEventsByProfile "bfd_100x3" = some ConvergenceEventKind.all := by
  decide

theorem ConvergenceEventKind.mem_all (kind : ConvergenceEventKind) : kind ∈ ConvergenceEventKind.all := by
  cases kind <;> decide

theorem Injected.validateEvent_ok {run : ConvergenceRun} {injection event : ConvergenceEvent}
    {events : List ConvergenceEvent} (h : Injected run injection events)
    (hadmissible : Admissible (events ++ [event])) :
    validateEvent run event = .ok () := by
  have hevent : event ∈ events ++ [event] := List.mem_append_right _ List.mem_cons_self
  rw [validateEvent_ok_iff]
  refine ⟨hadmissible.nonneg event hevent, hadmissible.aware event hevent, hadmissible.failover event hevent,
    hadmissible.recovered event hevent, (validateOrder_ok_iff _ _).mpr ⟨?_, ?_, ?_, ?_⟩⟩
  · rw [h.profile, requiredEvents_live]
    exact ⟨_, rfl, event.kind.mem_all⟩
  · rw [h.events_eq]
    exact fun hnil => absurd hnil (List.cons_ne_nil _ _)
  · intro recorded hrecorded hsame
    rw [h.events_eq] at hrecorded
    rcases List.mem_cons.mp hrecorded with rfl | hrecorded
    · exact hadmissible.not_injected event hevent (hsame.symm.trans h.kind)
    · have hdistinct := hadmissible.distinct
      rw [List.map_append, List.nodup_append] at hdistinct
      exact hdistinct.2.2 _ (List.mem_map_of_mem hrecorded) _ List.mem_cons_self hsame
  · rintro ⟨last, hlast, hlt⟩
    rw [h.events_eq] at hlast
    rcases List.mem_cons.mp (List.mem_of_getLast? hlast) with rfl | hmem
    · rw [h.offset] at hlt
      exact absurd (hadmissible.nonneg event hevent) (not_le.mpr hlt)
    · have hle := (List.pairwise_append.mp hadmissible.ordered).2.2 last hmem event List.mem_cons_self
      exact absurd hle (not_le.mpr hlt)

theorem Injected.complete_iff {run : ConvergenceRun} {injection : ConvergenceEvent}
    {events : List ConvergenceEvent} (h : Injected run injection events) (hadmissible : Admissible events) :
    run.status = .ok .complete ↔ events.length = 4 := by
  have hdistinct : (run.events.map ConvergenceEvent.kind).Nodup := by
    rw [h.events_eq, List.map_cons, h.kind, List.nodup_cons]
    refine ⟨fun hmem => ?_, hadmissible.distinct⟩
    obtain ⟨event, hevent, hkind⟩ := List.mem_map.mp hmem
    exact hadmissible.not_injected event hevent hkind
  have hcard : (run.events.map ConvergenceEvent.kind).toFinset.card = events.length + 1 := by
    rw [List.toFinset_card_of_nodup hdistinct, List.length_map, h.events_eq, List.length_cons]
  have hstatus : run.status = .ok .complete ↔
      (run.events.map ConvergenceEvent.kind).toFinset = ConvergenceEventKind.all := by
    rw [ConvergenceRun.status, h.profile, requiredEvents_live]
    by_cases heq : (run.events.map ConvergenceEvent.kind).toFinset = ConvergenceEventKind.all <;> simp [heq]
  have hall : ConvergenceEventKind.all.card = 5 := by decide
  rw [hstatus]
  constructor
  · intro heq
    rw [heq, hall] at hcard
    omega
  · intro hlength
    apply Finset.eq_of_subset_of_card_le
    · exact fun kind _ => kind.mem_all
    · rw [hcard, hall, hlength]

def appendedTo (runId : String) : ConvergenceWrite → Option ConvergenceEvent
  | .createRun _ _ _ _ _ _ => none
  | .appendEvent id event => if id = runId then some event else none

namespace ConvergenceStore

def Keeps (store : ConvergenceStore) (runId : String) (calls : List ConvergenceWrite) : Prop :=
  ∀ earlier ∈ calls.inits, runId ∈ (final write store earlier).runs.keys

variable {store : ConvergenceStore} {runId : String} {call : ConvergenceWrite}

theorem write_other_subset (hfresh : call.generatedId ≠ some runId) (hother : appendedTo runId call = none) :
    ∀ run ∈ (store.write call).2.runs.values, run.id = runId → run ∈ store.runs.values := by
  intro r hr hid
  cases call with
  | createRun profile source target startedAt now hex =>
    rw [write, createRun] at hr
    cases hnew : newRun profile source target startedAt now hex with
    | error e =>
      rw [hnew] at hr
      exact hr
    | ok new =>
      have hne : r.id ≠ new.id := by
        intro hsame
        apply hfresh
        rw [ConvergenceWrite.generatedId, hnew, ← hid, hsame]
        rfl
      rw [hnew] at hr
      exact Dict.mem_of_mem_assign (expire_subset _ _ _ hr) hne
  | appendEvent id event =>
    have hid' : id ≠ runId := by
      intro hsame
      rw [appendedTo, if_pos hsame] at hother
      cases hother
    rw [write, appendEvent] at hr
    cases hget : store.get id with
    | error e =>
      rw [hget] at hr
      exact hr
    | ok run =>
      rw [hget, ok_bind] at hr
      cases hvalid : validateEvent run event with
      | error e =>
        rw [hvalid] at hr
        exact hr
      | ok _ =>
        have hne : r.id ≠ (run.append event).id := by
          rw [hid, ConvergenceRun.append_id, ((store.get_ok_iff id run).mp hget).2]
          exact hid'.symm
        rw [hvalid] at hr
        exact Dict.mem_of_mem_assign hr hne

theorem get_write_other (hfresh : call.generatedId ≠ some runId) (hother : appendedTo runId call = none)
    (hkept : runId ∈ (store.write call).2.runs.keys) : (store.write call).2.get runId = store.get runId := by
  obtain ⟨run, hrun, hid⟩ := List.mem_map.mp hkept
  rw [((store.write call).2.get_ok_iff runId run).mpr ⟨hrun, hid⟩]
  exact ((store.get_ok_iff runId run).mpr ⟨write_other_subset hfresh hother run hrun hid, hid⟩).symm

theorem write_valid {run : ConvergenceRun} {event : ConvergenceEvent} (hget : store.get runId = .ok run)
    (hvalid : validateEvent run event = .ok ()) :
    (store.write (.appendEvent runId event)).1 = .ok (run.append event) ∧
      (store.write (.appendEvent runId event)).2.get runId = .ok (run.append event) := by
  have happend : store.appendEvent runId event =
      .ok (run.append event, { store with runs := store.runs.assign (run.append event) }) := by
    rw [appendEvent, hget, ok_bind, hvalid]
    rfl
  rw [write, happend]
  refine ⟨rfl, (get_ok_iff _ _ _).mpr ⟨Dict.mem_assign_self _, ?_⟩⟩
  rw [ConvergenceRun.append_id]
  exact ((store.get_ok_iff runId run).mp hget).2

/-- By induction on the calls: those on the run record their events, the others do not touch it. -/
theorem final_injected {run : ConvergenceRun} {injection : ConvergenceEvent}
    (hget : store.get runId = .ok run) (hinjected : Injected run injection []) (calls : List ConvergenceWrite)
    (hfresh : ∀ call ∈ calls, call.generatedId ≠ some runId) (hkept : store.Keeps runId calls)
    (hadmissible : Admissible (calls.filterMap (appendedTo runId))) :
    ∃ recorded, (final write store calls).get runId = .ok recorded ∧
      Injected recorded injection (calls.filterMap (appendedTo runId)) := by
  induction calls using List.reverseRecOn with
  | nil => exact ⟨run, hget, hinjected⟩
  | append_singleton calls call ih =>
    rw [List.filterMap_append] at hadmissible ⊢
    have hkept' : store.Keeps runId calls := fun earlier he =>
      hkept earlier ((List.mem_inits _ _).mpr (((List.mem_inits _ _).mp he).trans (List.prefix_append _ _)))
    have hcall : runId ∈ (final write store (calls ++ [call])).runs.keys :=
      hkept _ ((List.mem_inits _ _).mpr List.prefix_rfl)
    obtain ⟨recorded, hrecorded, hevents⟩ :=
      ih (fun c hc => hfresh c (List.mem_append_left _ hc)) hkept' hadmissible.of_append
    rw [final_concat] at hcall ⊢
    cases hother : appendedTo runId call with
    | none =>
      have hsame := get_write_other (hfresh call (List.mem_append_right _ List.mem_cons_self)) hother hcall
      refine ⟨recorded, hsame.trans hrecorded, ?_⟩
      rw [List.filterMap_cons_none hother, List.filterMap_nil, List.append_nil]
      exact hevents
    | some event =>
      have hcalled : call = .appendEvent runId event := by
        cases call with
        | createRun => cases hother
        | appendEvent id event' =>
          rw [appendedTo] at hother
          split_ifs at hother with hid
          rw [hid, Option.some.inj hother]
      rw [List.filterMap_cons_some hother, List.filterMap_nil] at hadmissible ⊢
      have hwrite := write_valid hrecorded (hevents.validateEvent_ok hadmissible)
      rw [hcalled]
      exact ⟨recorded.append event, hwrite.2, hevents.append⟩

end ConvergenceStore

theorem Records.stage {entry : ConvergenceEventKind × Observation} {event : ConvergenceEvent}
    (h : Records (stageTransition entry) event) : event.kind = entry.1 ∧ event.offsetMs = entry.2.offsetMs ∧
      event.observedAt.Aware ∧ event.routeMetric = (stageTransition entry).routeMetric ∧
      event.icmpSequence = (stageTransition entry).icmpSequence := by
  obtain ⟨now, hevent⟩ := h
  rw [toEvent_stageTransition] at hevent
  obtain rfl := Except.ok.inj hevent
  exact ⟨rfl, rfl, rfl, rfl, rfl⟩

section Agreement

variable {failoverMetric : ℤ} {observations : List Observation}
  {fired : List (ConvergenceEventKind × Observation)}
  {events : List ConvergenceEvent}

structure Fired (failoverMetric : ℤ) (observations : List Observation)
    (fired : List (ConvergenceEventKind × Observation)) (events : List ConvergenceEvent) : Prop where
  cascades : Cascades (fun stage o => stageHolds failoverMetric stage o = true) observations 0 liveStages
    fired
  records : List.Forall₂ (fun entry => Records (stageTransition entry)) (fired.take events.length) events

theorem Fired.map_kind (h : Fired failoverMetric observations fired events) :
    events.map ConvergenceEvent.kind = liveStages.take events.length := by
  have hlength : (fired.take events.length).length = events.length := h.records.length_eq
  have hle : events.length ≤ fired.length := by
    rw [List.length_take] at hlength
    omega
  rw [← map_eq_map h.records fun _ _ hrecords => hrecords.stage.1.symm, List.map_take, h.cascades.map_fst,
    List.take_take, Nat.min_eq_left hle]

theorem Fired.map_offsetMs (h : Fired failoverMetric observations fired events) :
    events.map ConvergenceEvent.offsetMs = (fired.take events.length).map fun entry => entry.2.offsetMs :=
  (map_eq_map h.records fun _ _ hrecords => hrecords.stage.2.1.symm).symm

theorem Fired.admissible (h : Fired failoverMetric observations fired events) (hmetric : 1 ≤ failoverMetric)
    (hordered : observations.Pairwise fun o later => o.offsetMs ≤ later.offsetMs)
    (hrange : ∀ o ∈ observations, 0 ≤ o.offsetMs ∧ o.offsetMs ≤ 60000)
    (hicmp : ∀ o ∈ observations, ∀ sequence ∈ o.sample.icmpSequence, 0 ≤ sequence) : Admissible events := by
  have hentry : ∀ event ∈ events, ∃ entry : ConvergenceEventKind × Observation, entry.2 ∈ observations ∧
      stageHolds failoverMetric entry.1 entry.2 ∧ Records (stageTransition entry) event := by
    intro event hevent
    obtain ⟨entry, hmem, hrecords⟩ := exists_left h.records hevent
    obtain ⟨hholds, i, -, hi⟩ := h.cascades.located entry (List.mem_of_mem_take hmem)
    exact ⟨entry, List.mem_of_getElem? hi, hholds, hrecords⟩
  refine ⟨?_, ?_, fun event hevent => ?_, fun event hevent => ?_, fun event hevent => ?_,
    fun event hevent hkind => ?_, fun event hevent hkind => ?_⟩
  · have hstages : liveStages.Nodup := by decide
    rw [h.map_kind]
    exact hstages.sublist (List.take_sublist _ _)
  · have hpairwise := h.cascades.pairwise (R := fun o later => o.offsetMs ≤ later.offsetMs)
      (fun _ => le_rfl) hordered
    rw [← List.pairwise_map (f := ConvergenceEvent.offsetMs), h.map_offsetMs, List.pairwise_map]
    exact hpairwise.sublist (List.take_sublist _ _)
  · obtain ⟨entry, -, hholds, hrecords⟩ := hentry event hevent
    rw [hrecords.stage.1]
    intro hinjected
    rw [hinjected] at hholds
    cases hholds
  · obtain ⟨entry, hmem, -, hrecords⟩ := hentry event hevent
    rw [hrecords.stage.2.1]
    exact (hrange entry.2 hmem).1
  · obtain ⟨entry, -, -, hrecords⟩ := hentry event hevent
    exact hrecords.stage.2.2.1
  · obtain ⟨entry, -, hholds, hrecords⟩ := hentry event hevent
    obtain ⟨hstage, -, -, hroute, -⟩ := hrecords.stage
    rw [hkind] at hstage
    rw [← hstage] at hholds
    refine ⟨failoverMetric, ?_, hmetric⟩
    rw [hroute, stageTransition, if_pos hstage.symm]
    exact eq_of_beq hholds
  · obtain ⟨entry, hmem, hholds, hrecords⟩ := hentry event hevent
    obtain ⟨hstage, -, -, -, hsequence⟩ := hrecords.stage
    rw [hkind] at hstage
    rw [← hstage] at hholds
    obtain ⟨sequence, hsome⟩ := Option.isSome_iff_exists.mp hholds
    refine ⟨sequence, ?_, hicmp entry.2 hmem sequence hsome⟩
    rw [hsequence, stageTransition, if_pos hstage.symm]
    exact hsome

end Agreement

open ConvergenceStore in
/-- The collector records the first of its transitions, in order, while other clients call the store. -/
theorem live_collector_follows_protocol (failoverMetric : ℤ) (hmetric : 1 ≤ failoverMetric)
    (observations : List Observation)
    (hordered : observations.Pairwise fun o later => o.offsetMs ≤ later.offsetMs)
    (hrange : ∀ o ∈ observations, 0 ≤ o.offsetMs ∧ o.offsetMs ≤ 60000)
    (hicmp : ∀ o ∈ observations, ∀ sequence ∈ o.sample.icmpSequence, 0 ≤ sequence) (store : ConvergenceStore)
    (run : ConvergenceRun) (injection : ConvergenceEvent) (hrun : store.get run.id = .ok run)
    (hinjected : Injected run injection []) (calls : List ConvergenceWrite)
    (hfresh : ∀ call ∈ calls, call.generatedId ≠ some run.id) (hkept : store.Keeps run.id calls)
    (sent : List LiveTransition) (hsent : sent <+: detect { failoverMetric } observations)
    (hrecords : List.Forall₂ Records sent (calls.filterMap (appendedTo run.id))) :
    ∃ fired, Cascades (fun stage o => stageHolds failoverMetric stage o = true) observations 0 liveStages
      fired ∧
      detect { failoverMetric } observations = fired.map stageTransition ∧
      (∀ earlier event later, calls = earlier ++ .appendEvent run.id event :: later →
        ∃ answer, ((final write store earlier).write (.appendEvent run.id event)).1 = .ok answer) ∧
      ∃ recorded, (final write store calls).get run.id = .ok recorded ∧
        recorded.events.map ConvergenceEvent.kind = .blackholeInjected :: liveStages.take sent.length ∧
        recorded.events.map ConvergenceEvent.offsetMs = 0 ::
        (fired.take sent.length).map (fun entry => entry.2.offsetMs) ∧
        (recorded.status = .ok .complete ↔ sent.length = 4) := by
  have hcascades := cascade_cascades (stageHolds failoverMetric) liveStages observations
  have hdetect := detect_fresh failoverMetric observations
  generalize cascade (stageHolds failoverMetric) liveStages observations = fired at hcascades hdetect
  have hlength : sent.length = (calls.filterMap (appendedTo run.id)).length := hrecords.length_eq
  have hfired : Fired failoverMetric observations fired (calls.filterMap (appendedTo run.id)) := by
    refine ⟨hcascades, ?_⟩
    rw [hdetect, List.prefix_iff_eq_take, ← List.map_take, hlength] at hsent
    rw [hsent, List.forall₂_map_left_iff] at hrecords
    exact hrecords
  have hadmissible := hfired.admissible hmetric hordered hrange hicmp
  refine ⟨fired, hcascades, hdetect, fun earlier event later hcalls => ?_, ?_⟩
  · have hcall : appendedTo run.id (.appendEvent run.id event) = some event := if_pos rfl
    have hkept' : store.Keeps run.id earlier := fun e he => hkept e <| (List.mem_inits _ _).mpr <|
      ((List.mem_inits _ _).mp he).trans (hcalls ▸ List.prefix_append _ _)
    have hsplit : calls.filterMap (appendedTo run.id) =
        earlier.filterMap (appendedTo run.id) ++ [event] ++ later.filterMap (appendedTo run.id) := by
      rw [hcalls, List.filterMap_append, List.filterMap_cons_some hcall, List.append_assoc,
        List.singleton_append]
    rw [hsplit] at hadmissible
    obtain ⟨recorded, hrecorded, hevents⟩ := final_injected hrun hinjected earlier
      (fun c hc => hfresh c (hcalls ▸ List.mem_append_left _ hc)) hkept' hadmissible.of_append.of_append
    exact ⟨_, (write_valid hrecorded (hevents.validateEvent_ok hadmissible.of_append)).1⟩
  · obtain ⟨recorded, hrecorded, hevents⟩ := final_injected hrun hinjected calls hfresh hkept hadmissible
    refine ⟨recorded, hrecorded, ?_, ?_, ?_⟩
    · rw [hevents.events_eq, List.map_cons, hevents.kind, hfired.map_kind, hlength]
    · rw [hevents.events_eq, List.map_cons, hevents.offset, hfired.map_offsetMs, hlength]
    · rw [hevents.complete_iff hadmissible, hlength]

def liveStore : ConvergenceStore :=
  final ConvergenceStore.write ⟨2, .empty _, [], Nat.two_pos⟩
    [.createRun "ospf_only" "access1" "10.20.0.10" none labStart "1c6e2f00a7b948d3",
      .createRun "bfd_100x3" "access1" "10.20.0.10" none labStart "9f31c07be6d24a58",
      .appendEvent "run-9f31c07be6d2" ⟨.blackholeInjected, 0, .utc labStart, none, none⟩]

def liveRun : ConvergenceRun :=
  ⟨"run-9f31c07be6d2", "bfd_100x3", "access1", "10.20.0.10", .utc labStart,
    [⟨.blackholeInjected, 0, .utc labStart, none, none⟩]⟩

def liveObservations : List Observation :=
  [⟨⟨true, true, some 140, none⟩, 285⟩, ⟨⟨false, false, some 140, none⟩, 410⟩,
    ⟨⟨false, false, some 140, some 8⟩, 498⟩]

def liveCalls : List ConvergenceWrite :=
  let event (kind : ConvergenceEventKind) (offsetMs : ℤ) (metric sequence : Option ℤ) : ConvergenceWrite :=
    .appendEvent liveRun.id ⟨kind, offsetMs, .utc labStart, metric, sequence⟩
  [event .bfdDown 410 none none,
    .createRun "ospf_only" "access2" "10.20.0.10" none labStart "40d5b8e2913c7f6a",
    event .ospfNeighborDown 410 none none, event .routeFailover 410 (some 140) none,
    event .dataPlaneRecovered 498 none (some 8)]

open ConvergenceStore in
theorem live_collector_follows_protocol_flapping :
    ∃ recorded, (final write liveStore liveCalls).get liveRun.id = .ok recorded ∧
      recorded.events.map ConvergenceEvent.kind =
        [.blackholeInjected, .bfdDown, .ospfNeighborDown, .routeFailover, .dataPlaneRecovered] ∧
      recorded.status = .ok .complete := by
  obtain ⟨fired, -, -, -, recorded, hget, hkinds, -, hcomplete⟩ :=
    live_collector_follows_protocol 140 (by decide) liveObservations (by decide) (by decide)
      (by decide) liveStore liveRun ⟨.blackholeInjected, 0, .utc labStart, none, none⟩ (by decide +kernel)
        ⟨rfl, rfl, rfl, rfl⟩ liveCalls
      (by decide +kernel) (by unfold Keeps; decide +kernel)
        (detect { failoverMetric := 140 } liveObservations)
      List.prefix_rfl
      (.cons ⟨labStart, by decide +kernel⟩
        (.cons ⟨labStart, by decide +kernel⟩ (.cons ⟨labStart, by decide +kernel⟩
        (.cons ⟨labStart, by decide +kernel⟩ .nil))))
  exact ⟨recorded, hget, hkinds, hcomplete.mpr (by decide +kernel)⟩

end TelconetSentinel
