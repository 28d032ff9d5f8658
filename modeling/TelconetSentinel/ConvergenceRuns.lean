import TelconetSentinel.Convergence
import TelconetSentinel.Library.RecentRetention

namespace TelconetSentinel

open FallibleLists KeyedLists RecentRetention Simulation

inductive RunStatus
  | complete
  | collecting
  deriving DecidableEq, Repr

namespace ConvergenceRun

def status (run : ConvergenceRun) : Result RunStatus :=
  match requiredEventsByProfile run.profile with
  | none => .error (.keyError run.profile)
  | some required =>
    .ok (if (run.events.map ConvergenceEvent.kind).toFinset = required then .complete else .collecting)

structure WellFormed (run : ConvergenceRun) : Prop where
  first : ∀ event ∈ run.events.head?, event.kind = .blackholeInjected
  distinct : (run.events.map ConvergenceEvent.kind).Nodup
  profile : ∃ required ∈ requiredEventsByProfile run.profile, ∀ event ∈ run.events, event.kind ∈ required
  nonneg : ∀ event ∈ run.events, 0 ≤ event.offsetMs
  ordered : run.events.Pairwise fun event later => event.offsetMs ≤ later.offsetMs
  failover : ∀ event ∈ run.events, event.kind = .routeFailover → ∃ metric ∈ event.routeMetric, 1 ≤ metric
  recovered : ∀ event ∈ run.events, event.kind = .dataPlaneRecovered → ∃ sequence ∈ event.icmpSequence,
    0 ≤ sequence

variable {run : ConvergenceRun} {event : ConvergenceEvent}

def GrownTo (run later : ConvergenceRun) : Prop := ∃ events,
    later = { run with events := run.events ++ events }

theorem GrownTo.refl (run : ConvergenceRun) : run.GrownTo run := ⟨[], by rw [List.append_nil]⟩

theorem GrownTo.trans {later last : ConvergenceRun} (h : run.GrownTo later) (h' : later.GrownTo last) :
    run.GrownTo last := by
  obtain ⟨events, rfl⟩ := h
  obtain ⟨events', rfl⟩ := h'
  exact ⟨events ++ events', by rw [List.append_assoc]⟩

theorem GrownTo.id_eq {later : ConvergenceRun} (h : run.GrownTo later) : later.id = run.id := by
  obtain ⟨events, rfl⟩ := h
  rfl

theorem grownTo_append (run : ConvergenceRun) (event : ConvergenceEvent) : run.GrownTo (run.append event) :=
  ⟨[event], rfl⟩

theorem le_of_not_beforeLast {events : List ConvergenceEvent} {offsetMs : ℤ}
    (hordered : events.Pairwise fun event later => event.offsetMs ≤ later.offsetMs)
    (h : ¬ BeforeLast events offsetMs) : ∀ event ∈ events, event.offsetMs ≤ offsetMs := by
  induction events using List.reverseRecOn with
  | nil => exact fun _ hmem => absurd hmem List.not_mem_nil
  | append_singleton earlier last _ =>
    have hlast : last.offsetMs ≤ offsetMs := by
      by_contra hlt
      exact h ⟨last, List.getLast?_concat, not_le.mp hlt⟩
    intro event hmem
    rcases List.mem_append.mp hmem with hmem | hmem
    · exact ((List.pairwise_append.mp hordered).2.2 event hmem last List.mem_cons_self).trans hlast
    · rwa [List.mem_singleton.mp hmem]

/-- Every branch of the validation is needed for one of the fields. -/
theorem WellFormed.append (h : run.WellFormed) (hvalid : validateEvent run event = .ok ()) :
    (run.append event).WellFormed := by
  obtain ⟨hoffset, -, hfailover, hrecovered, horder⟩ := (validateEvent_ok_iff _ _).mp hvalid
  obtain ⟨⟨required, hrequired, hkind⟩, hfirst, hnew, hlast⟩ := (validateOrder_ok_iff _ _).mp horder
  have hle := le_of_not_beforeLast h.ordered hlast
  refine ⟨?_, ?_, ?_, ?_, ?_, ?_, ?_⟩
  · intro first hmem
    cases hevents : run.events with
    | nil =>
      rw [ConvergenceRun.append, hevents] at hmem
      obtain rfl := Option.some.inj hmem
      exact hfirst hevents
    | cons head rest =>
      apply h.first
      rw [ConvergenceRun.append, hevents] at hmem
      rw [hevents]
      exact hmem
  · rw [ConvergenceRun.append, List.map_append, List.map_singleton, ← List.concat_eq_append]
    refine h.distinct.concat fun hmem => ?_
    obtain ⟨recorded, hrecorded, hsame⟩ := List.mem_map.mp hmem
    exact hnew recorded hrecorded hsame
  · obtain ⟨required', hrequired', hkinds⟩ := h.profile
    obtain rfl := Option.some.inj (hrequired.symm.trans hrequired')
    exact ⟨required, hrequired, List.forall_mem_append.mpr ⟨hkinds, List.forall_mem_singleton.mpr hkind⟩⟩
  · exact List.forall_mem_append.mpr ⟨h.nonneg, List.forall_mem_singleton.mpr hoffset⟩
  · refine List.pairwise_append.mpr ⟨h.ordered, List.pairwise_singleton _ _,
      fun earlier hearlier later hlater => ?_⟩
    rw [List.mem_singleton.mp hlater]
    exact hle earlier hearlier
  · exact List.forall_mem_append.mpr ⟨h.failover, List.forall_mem_singleton.mpr hfailover⟩
  · exact List.forall_mem_append.mpr ⟨h.recovered, List.forall_mem_singleton.mpr hrecovered⟩

/-- On a well-formed run the completeness test asks for the required kinds only: no other kind occurs. -/
theorem WellFormed.complete_iff (h : run.WellFormed) : run.status = .ok .complete ↔
    ∀ required ∈ requiredEventsByProfile run.profile, ∀ kind ∈ required, ∃ event ∈ run.events,
    event.kind = kind := by
  obtain ⟨required, hrequired, hkinds⟩ := h.profile
  have hprofile : requiredEventsByProfile run.profile = some required := hrequired
  have hsub : (run.events.map ConvergenceEvent.kind).toFinset ⊆ required := by
    intro kind hkind
    obtain ⟨event, hevent, rfl⟩ := List.mem_map.mp (List.mem_toFinset.mp hkind)
    exact hkinds event hevent
  have hstatus : run.status = .ok .complete ↔ (run.events.map ConvergenceEvent.kind).toFinset = required := by
    rw [status, hprofile]
    by_cases heq : (run.events.map ConvergenceEvent.kind).toFinset = required <;> simp [heq]
  rw [hstatus, hprofile]
  simp only [Option.mem_def, Option.some.injEq, forall_eq']
  constructor
  · intro heq kind hkind
    rw [← heq, List.mem_toFinset] at hkind
    exact List.mem_map.mp hkind
  · intro hall
    refine hsub.antisymm fun kind hkind => ?_
    exact List.mem_toFinset.mpr (List.mem_map.mpr (hall kind hkind))

theorem WellFormed.complete_rejects (h : run.WellFormed) (hcomplete : run.status = .ok .complete)
    (event : ConvergenceEvent) : ∃ e, validateEvent run event = .error e := by
  cases hvalid : validateEvent run event with
  | error e => exact ⟨e, rfl⟩
  | ok _ =>
    obtain ⟨-, -, -, -, horder⟩ := (validateEvent_ok_iff _ _).mp hvalid
    obtain ⟨⟨required, hrequired, hkind⟩, -, hnew, -⟩ := (validateOrder_ok_iff _ _).mp horder
    obtain ⟨recorded, hrecorded, hsame⟩ := h.complete_iff.mp hcomplete required hrequired event.kind hkind
    exact absurd hsame (hnew recorded hrecorded)

end ConvergenceRun

theorem newRun_ok_cases {profile source target : String} {startedAt : Option OffsetDateTime} {now : DateTime}
    {hex : String} {run : ConvergenceRun} (h : newRun profile source target startedAt now hex = .ok run) :
    run.id = newRunId hex ∧ run.events = [] ∧ ∃ required, requiredEventsByProfile run.profile =
      some required := by
  obtain ⟨_, hvalid, h⟩ := (bind_ok_iff _ _ _).mp h
  obtain rfl := Except.ok.inj h
  obtain ⟨hprofile, -⟩ := (check_ok_iff _ _ _ _).mp hvalid
  exact ⟨rfl, rfl, Option.ne_none_iff_exists'.mp hprofile⟩

theorem ConvergenceRun.wellFormed_new {run : ConvergenceRun} (hempty : run.events = [])
    (hprofile : ∃ required, requiredEventsByProfile run.profile = some required) : run.WellFormed := by
  obtain ⟨required, hrequired⟩ := hprofile
  refine ⟨?_, ?_, ⟨required, hrequired, ?_⟩, ?_, ?_, ?_, ?_⟩ <;> simp [hempty]

inductive ConvergenceWrite
  | createRun (profile source target : String) (startedAt : Option OffsetDateTime) (now : DateTime)
    (hex : String)
  | appendEvent (runId : String) (event : ConvergenceEvent)

def ConvergenceWrite.generatedId : ConvergenceWrite → Option String
  | createRun profile source target startedAt now hex =>
    (newRun profile source target startedAt now hex).toOption.map ConvergenceRun.id
  | appendEvent _ _ => none

def generatedIds (calls : List ConvergenceWrite) : List String := calls.filterMap ConvergenceWrite.generatedId

theorem generatedIds_concat (calls : List ConvergenceWrite) (call : ConvergenceWrite) :
    generatedIds (calls ++ [call]) = generatedIds calls ++ call.generatedId.toList := by
  rw [generatedIds, List.filterMap_append]
  cases h : call.generatedId with
  | none => rw [List.filterMap_cons_none h]; rfl
  | some id => rw [List.filterMap_cons_some h]; rfl

theorem generatedIds_nodup_of_append {calls later : List ConvergenceWrite}
    (h : (generatedIds (calls ++ later)).Nodup) : (generatedIds calls).Nodup := by
  rw [generatedIds, List.filterMap_append] at h
  exact (List.nodup_append.mp h).1

theorem not_generated_before {calls : List ConvergenceWrite} {call : ConvergenceWrite}
    (h : (generatedIds (calls ++ [call])).Nodup) {id : String} (hid : call.generatedId = some id) :
    id ∉ generatedIds calls := by
  rw [generatedIds_concat, hid] at h
  intro hmem
  exact (List.nodup_append.mp h).2.2 id hmem id List.mem_cons_self rfl

namespace ConvergenceStore

def write (store : ConvergenceStore) : ConvergenceWrite → Result ConvergenceRun × ConvergenceStore
  | .createRun profile source target startedAt now hex =>
    store.createRun profile source target startedAt now hex
  | .appendEvent runId event =>
    match store.appendEvent runId event with
    | .ok (run, appended) => (.ok run, appended)
    | .error e => (.error e, store)

inductive Wrote (store : ConvergenceStore) (call : ConvergenceWrite) :
    Result ConvergenceRun × ConvergenceStore → Prop
  | rejected (e : Exn) (hnone : call.generatedId = none) : Wrote store call (.error e, store)
  | created (run : ConvergenceRun) (store' : ConvergenceStore) (hid : call.generatedId = some run.id)
      (hempty : run.events = []) (hprofile : ∃ required, requiredEventsByProfile run.profile = some required)
      (hcapacity : store'.capacity = store.capacity) (horder : store'.order = store'.runs.keys)
      (hvalues : store'.runs.values = (store.runs.values ++ [run]).rtake store.capacity) :
      Wrote store call (.ok run, store')
  | appended (run : ConvergenceRun) (event : ConvergenceEvent) (hnone : call.generatedId = none)
      (hrun : run ∈ store.runs.values) (hvalid : validateEvent run event = .ok ()) :
      Wrote store call (.ok (run.append event), { store with runs := store.runs.assign (run.append event) })

theorem write_wrote {store : ConvergenceStore} (horder : store.order = store.runs.keys)
    (call : ConvergenceWrite) (hfresh : ∀ id ∈ call.generatedId, id ∉ store.runs.keys) :
    Wrote store call (store.write call) := by
  cases call with
  | createRun profile source target startedAt now hex =>
    cases hnew : newRun profile source target startedAt now hex with
    | error e =>
      rw [write, createRun, hnew]
      exact .rejected e (by rw [ConvergenceWrite.generatedId, hnew]; rfl)
    | ok run =>
      have hid : ConvergenceWrite.generatedId (.createRun profile source target startedAt now hex) =
          some run.id := by
        rw [ConvergenceWrite.generatedId, hnew]
        rfl
      obtain ⟨-, hempty, hprofile⟩ := newRun_ok_cases hnew
      obtain ⟨store', hinsert, hcapacity, horder', hvalues⟩ := insert_fresh store horder (hfresh run.id hid)
      rw [write, createRun, hnew]
      simp only [hinsert]
      exact .created run store' hid hempty hprofile hcapacity horder' hvalues
  | appendEvent runId event =>
    rw [write, appendEvent]
    cases hget : store.get runId with
    | error e => exact .rejected e rfl
    | ok run =>
      rw [ok_bind]
      cases hvalid : validateEvent run event with
      | error e => exact .rejected e rfl
      | ok _ => exact .appended run event rfl ((store.get_ok_iff runId run).mp hget).1 hvalid

structure Sound (store : ConvergenceStore) (generated : List String) : Prop where
  order_eq : store.order = store.runs.keys
  retained : store.runs.keys = generated.rtake store.capacity
  wellFormed : ∀ run ∈ store.runs.values, run.WellFormed

theorem Sound.fresh {store : ConvergenceStore} {calls : List ConvergenceWrite} {call : ConvergenceWrite}
    (h : store.Sound (generatedIds calls)) (hfresh : (generatedIds (calls ++ [call])).Nodup) :
    ∀ id ∈ call.generatedId, id ∉ store.runs.keys := by
  intro id hid hmem
  rw [h.retained] at hmem
  exact not_generated_before hfresh hid ((rtake_sublist _ _).subset hmem)

theorem Sound.wrote {store : ConvergenceStore} {calls : List ConvergenceWrite} {call : ConvergenceWrite}
    (h : store.Sound (generatedIds calls)) {outcome : Result ConvergenceRun × ConvergenceStore}
    (hwrote : Wrote store call outcome) : outcome.2.Sound (generatedIds (calls ++ [call])) := by
  rw [generatedIds_concat]
  cases hwrote with
  | rejected e hnone =>
    rw [hnone, Option.toList_none, List.append_nil]
    exact h
  | created run store' hid hempty hprofile hcapacity horder hvalues =>
    rw [hid, Option.toList_some]
    refine ⟨horder, ?_, fun r hr => ?_⟩
    · have hretained := h.retained
      rw [Dict.keys] at hretained ⊢
      rw [hvalues, map_rtake, List.map_append, hretained, hcapacity]
      exact rtake_append _ _ _
    · rw [hvalues] at hr
      rcases mem_rtake_concat hr with hr | rfl
      · exact h.wellFormed r hr
      · exact ConvergenceRun.wellFormed_new hempty hprofile
  | appended run event hnone hrun hvalid =>
    rw [hnone, Option.toList_none, List.append_nil]
    have hpresent : (run.append event).id ∈ store.runs.keys := by
      rw [ConvergenceRun.append_id]
      exact List.mem_map_of_mem hrun
    have hkeys := Dict.keys_assign_present hpresent
    refine ⟨h.order_eq.trans hkeys.symm, hkeys.trans h.retained, fun r hr => ?_⟩
    rcases Dict.mem_assign_cases hr with rfl | ⟨-, hr⟩
    · exact (h.wellFormed run hrun).append hvalid
    · exact h.wellFormed r hr

theorem init_sound {capacity : ℕ} {store : ConvergenceStore} (hinit : init capacity = .ok store) :
    store.capacity = capacity ∧ store.Sound (generatedIds []) := by
  unfold init at hinit
  split_ifs at hinit
  obtain rfl := Except.ok.inj hinit
  exact ⟨rfl, rfl, by simp [Dict.keys, Dict.empty, generatedIds], fun _ hrun => absurd hrun List.not_mem_nil⟩

theorem Wrote.capacity_eq {store : ConvergenceStore} {call : ConvergenceWrite}
    {outcome : Result ConvergenceRun × ConvergenceStore} (h : Wrote store call outcome) :
    outcome.2.capacity = store.capacity := by
  cases h with
  | rejected => rfl
  | created _ _ _ _ _ hcapacity => exact hcapacity
  | appended => rfl

theorem final_sound {store : ConvergenceStore} (h : store.Sound (generatedIds []))
    (calls : List ConvergenceWrite) (hfresh : (generatedIds calls).Nodup) :
    (final write store calls).capacity = store.capacity ∧
      (final write store calls).Sound (generatedIds calls) := by
  induction calls using List.reverseRecOn with
  | nil => exact ⟨rfl, h⟩
  | append_singleton calls call ih =>
    obtain ⟨hcapacity, hsound⟩ := ih (generatedIds_nodup_of_append hfresh)
    have hwrote := write_wrote hsound.order_eq call (hsound.fresh hfresh)
    rw [final_concat]
    exact ⟨hwrote.capacity_eq.trans hcapacity, hsound.wrote hwrote⟩

def Settled (store : ConvergenceStore) (run : ConvergenceRun) : Prop := ∀ r ∈ store.runs.values,
    r.id = run.id → r = run

theorem Settled.wrote {store : ConvergenceStore} {run : ConvergenceRun} (h : store.Settled run)
    (hwellFormed : run.WellFormed) (hcomplete : run.status = .ok .complete) {call : ConvergenceWrite}
    (hid : call.generatedId ≠ some run.id) {outcome : Result ConvergenceRun × ConvergenceStore}
    (hwrote : Wrote store call outcome) : outcome.2.Settled run := by
  intro r hr hsame
  cases hwrote with
  | rejected => exact h r hr hsame
  | created new store' hnew _ _ _ _ hvalues =>
    rw [hvalues] at hr
    rcases mem_rtake_concat hr with hr | rfl
    · exact h r hr hsame
    · exact absurd (hnew.trans (congrArg some hsame)) hid
  | appended other event _ hother hvalid =>
    rcases Dict.mem_assign_cases hr with rfl | ⟨-, hr⟩
    -- The complete run itself accepts no event.
    · obtain rfl := h other hother hsame
      obtain ⟨e, hrejected⟩ := hwellFormed.complete_rejects hcomplete event
      rw [hvalid] at hrejected
      cases hrejected
    · exact h r hr hsame

theorem Settled.rejects {store : ConvergenceStore} {run : ConvergenceRun} (h : store.Settled run)
    (hwellFormed : run.WellFormed) (hcomplete : run.status = .ok .complete) (event : ConvergenceEvent) :
    ∃ e, store.appendEvent run.id event = .error e := by
  rw [appendEvent]
  cases hget : store.get run.id with
  | error e => exact ⟨e, rfl⟩
  | ok found =>
    obtain ⟨hfound, hid⟩ := (store.get_ok_iff run.id found).mp hget
    obtain rfl := h found hfound hid
    obtain ⟨e, hrejected⟩ := hwellFormed.complete_rejects hcomplete event
    refine ⟨e, ?_⟩
    rw [ok_bind, hrejected]
    rfl

theorem complete_rejects_later {store : ConvergenceStore} (hinit : store.Sound (generatedIds []))
    {calls : List ConvergenceWrite} {run : ConvergenceRun}
    (hrun : run ∈ (final write store calls).runs.values) (hcomplete : run.status = .ok .complete)
    (later : List ConvergenceWrite) (hfresh : (generatedIds (calls ++ later)).Nodup)
    (event : ConvergenceEvent) :
    ∃ e, (final write store (calls ++ later)).appendEvent run.id event = .error e := by
  obtain ⟨-, hsound⟩ := final_sound hinit calls (generatedIds_nodup_of_append hfresh)
  have hwellFormed := hsound.wellFormed run hrun
  have hgenerated : run.id ∈ generatedIds calls := by
    apply (rtake_sublist _ (final write store calls).capacity).subset
    rw [← hsound.retained]
    exact List.mem_map_of_mem hrun
  have hsettled : (final write store (calls ++ later)).Settled run := by
    induction later using List.reverseRecOn with
    | nil =>
      rw [List.append_nil]
      exact fun r hr hid => key_inj (final write store calls).runs.keys_nodup hr hrun hid
    | append_singleton later call ih =>
      rw [← List.append_assoc] at hfresh
      have hearlier := generatedIds_nodup_of_append hfresh
      obtain ⟨-, hsound'⟩ := final_sound hinit (calls ++ later) hearlier
      have hother : call.generatedId ≠ some run.id := by
        intro hcall
        apply not_generated_before hfresh hcall
        rw [generatedIds, List.filterMap_append]
        exact List.mem_append_left _ hgenerated
      have hwrote := write_wrote hsound'.order_eq call (hsound'.fresh hfresh)
      rw [← List.append_assoc, final_concat]
      exact (ih hearlier).wrote hwellFormed hcomplete hother hwrote
  exact hsettled.rejects hwellFormed hcomplete event

theorem Wrote.unchanged {store : ConvergenceStore} {call : ConvergenceWrite}
    {outcome : Result ConvergenceRun × ConvergenceStore} (h : Wrote store call outcome) {e : Exn}
    (herror : outcome.1 = .error e) : outcome.2 = store := by
  cases h with
  | rejected => rfl
  | created => cases herror
  | appended => cases herror

end ConvergenceStore

open ConvergenceStore in
theorem convergence_runs_stay_sound (capacity : ℕ) (store : ConvergenceStore)
    (hinit : ConvergenceStore.init capacity = .ok store) (calls : List ConvergenceWrite)
    (hfresh : (generatedIds calls).Nodup) :
    (∀ run ∈ (final write store calls).runs.values, run.WellFormed ∧
      (run.status = .ok .complete ↔
        ∀ required ∈ requiredEventsByProfile run.profile, ∀ kind ∈ required, ∃ event ∈ run.events,
        event.kind = kind) ∧
      (run.status = .ok .complete → ∀ later, (generatedIds (calls ++ later)).Nodup → ∀ event,
        ∃ e, (final write store (calls ++ later)).appendEvent run.id event = .error e)) ∧
    (final write store calls).runs.keys = (generatedIds calls).rtake capacity ∧
    (final write store calls).runs.values.length ≤ capacity ∧
    ∀ call, (generatedIds (calls ++ [call])).Nodup → ∀ e, ((final write store calls).write call).1 =
      .error e →
      ((final write store calls).write call).2 = final write store calls := by
  obtain ⟨hcapacity, hstart⟩ := init_sound hinit
  obtain ⟨hcapacity', hsound⟩ := final_sound hstart calls hfresh
  have hretained := hsound.retained
  rw [hcapacity', hcapacity] at hretained
  refine ⟨fun run hrun => ?_, hretained, ?_, fun call hnext e herror => ?_⟩
  · have hwellFormed := hsound.wellFormed run hrun
    exact ⟨hwellFormed, hwellFormed.complete_iff, complete_rejects_later hstart hrun⟩
  · have hlength := congrArg List.length hretained
    rw [Dict.keys, List.length_map, length_rtake] at hlength
    omega
  · exact (write_wrote hsound.order_eq call (hsound.fresh hnext)).unchanged herror

def fullTimeline : List ConvergenceWrite :=
  let event (kind : ConvergenceEventKind) (offsetMs : ℤ) (metric sequence : Option ℤ) : ConvergenceWrite :=
    .appendEvent "run-89abcdef0123" ⟨kind, offsetMs, .utc labStart, metric, sequence⟩
  [.createRun "bfd_100x3" "access1" "10.20.0.10" none labStart "0123456789abcdef0123456789abcdef",
    .createRun "ospf_only" "access2" "10.20.0.10" none labStart "89abcdef0123456789abcdef01234567",
    event .ospfNeighborDown 10 none none, event .blackholeInjected 0 none none,
    event .ospfNeighborDown 338 none none, event .routeFailover 421 (some 140) none,
    event .dataPlaneRecovered 498 none (some 8)]

open ConvergenceStore in
theorem convergence_runs_stay_sound_timeline :
    (final write ⟨1, .empty _, [], Nat.one_pos⟩ fullTimeline).runs.keys = ["run-89abcdef0123"] ∧
    ∃ run ∈ (final write ⟨1, .empty _, [], Nat.one_pos⟩ fullTimeline).runs.values,
    run.status = .ok .complete ∧
      ∀ event, ∃ e, (final write ⟨1, .empty _, [], Nat.one_pos⟩ (fullTimeline ++ [])).appendEvent run.id
        event =
        .error e := by
  obtain ⟨hruns, hkeys, -, -⟩ := convergence_runs_stay_sound 1 ⟨1, .empty _, [], Nat.one_pos⟩ rfl fullTimeline
    (by decide +kernel)
  have hcomplete : ∃ run ∈ (final write ⟨1, .empty _, [], Nat.one_pos⟩ fullTimeline).runs.values,
      run.status = .ok .complete := by decide +kernel
  obtain ⟨run, hrun, hstatus⟩ := hcomplete
  obtain ⟨-, -, hrejects⟩ := hruns run hrun
  exact ⟨hkeys.trans (by decide +kernel), run, hrun, hstatus, hrejects hstatus [] (by decide +kernel)⟩

end TelconetSentinel
