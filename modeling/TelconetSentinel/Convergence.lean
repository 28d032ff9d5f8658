import TelconetSentinel.Library.FallibleLists
import TelconetSentinel.Library.KeyedLists
import TelconetSentinel.Library.RecentRetention
import TelconetSentinel.Library.Simulation
import TelconetSentinel.Timestamps

namespace TelconetSentinel

open FallibleLists KeyedLists

inductive ConvergenceEventKind
  | blackholeInjected
  | bfdDown
  | ospfNeighborDown
  | routeFailover
  | dataPlaneRecovered
  deriving DecidableEq, Repr

def ConvergenceEventKind.value : ConvergenceEventKind → String
  | blackholeInjected => "blackhole_injected"
  | bfdDown => "bfd_down"
  | ospfNeighborDown => "ospf_neighbor_down"
  | routeFailover => "route_failover"
  | dataPlaneRecovered => "data_plane_recovered"

def ConvergenceEventKind.ofValue (text : String) : Result ConvergenceEventKind :=
  match [blackholeInjected, bfdDown, ospfNeighborDown, routeFailover, dataPlaneRecovered].find?
    (·.value = text) with
  | some kind => .ok kind
  | none => .error (.valueError s!"'{text}' is not a valid ConvergenceEventKind")

theorem ConvergenceEventKind.ofValue_value (kind : ConvergenceEventKind) : ofValue kind.value = .ok kind := by
  cases kind <;> decide

theorem ConvergenceEventKind.value_injective : Function.Injective ConvergenceEventKind.value := by
  intro kind kind' h
  have hread := kind.ofValue_value
  rw [h, kind'.ofValue_value] at hread
  exact (Except.ok.inj hread).symm

def ConvergenceEventKind.all : Finset ConvergenceEventKind :=
  {blackholeInjected, bfdDown, ospfNeighborDown, routeFailover, dataPlaneRecovered}

def requiredEventsByProfile (profile : String) : Option (Finset ConvergenceEventKind) :=
  if profile = "ospf_only" then
    some {.blackholeInjected, .ospfNeighborDown, .routeFailover, .dataPlaneRecovered}
  else if profile = "bfd_100x3" then some ConvergenceEventKind.all
  else none

structure ConvergenceEvent where
  kind : ConvergenceEventKind
  offsetMs : ℤ
  observedAt : OffsetDateTime
  routeMetric : Option ℤ := none
  icmpSequence : Option ℤ := none
  deriving DecidableEq

structure ConvergenceRun where
  id : String
  profile : String
  source : String
  target : String
  startedAt : OffsetDateTime
  events : List ConvergenceEvent := []
  deriving DecidableEq

def ConvergenceRun.append (run : ConvergenceRun) (event : ConvergenceEvent) : ConvergenceRun :=
  { run with events := run.events ++ [event] }

@[simp] theorem ConvergenceRun.append_id (run : ConvergenceRun) (event : ConvergenceEvent) :
    (run.append event).id = run.id := rfl

def validateRun (profile source target : String) (startedAt : OffsetDateTime) : Result Unit :=
  if requiredEventsByProfile profile = none then
    .error (.valueError s!"unsupported convergence profile: {profile}")
  else if source = "" ∨ target = "" then
    .error (.valueError "convergence source and target must not be empty")
  else if ¬ startedAt.Aware then
    .error (.valueError "convergence started_at must be timezone-aware")
  else .ok ()

def MissingOrBelow (bound : ℤ) (value : Option ℤ) : Prop := ∀ n ∈ value, n < bound

instance (bound : ℤ) (value : Option ℤ) : Decidable (MissingOrBelow bound value) :=
  inferInstanceAs (Decidable (∀ n ∈ value, n < bound))

theorem not_missingOrBelow (bound : ℤ) (value : Option ℤ) : ¬ MissingOrBelow bound value ↔
    ∃ n ∈ value, bound ≤ n := by
  unfold MissingOrBelow
  push Not
  rfl

def BeforeLast (events : List ConvergenceEvent) (offsetMs : ℤ) : Prop := ∃ last ∈ events.getLast?,
    offsetMs < last.offsetMs

instance (events : List ConvergenceEvent) (offsetMs : ℤ) : Decidable (BeforeLast events offsetMs) :=
  inferInstanceAs (Decidable (∃ last ∈ events.getLast?, offsetMs < last.offsetMs))

def validateOrder (run : ConvergenceRun) (event : ConvergenceEvent) : Result Unit :=
  match requiredEventsByProfile run.profile with
  | none => .error (.keyError run.profile)
  | some required =>
    if event.kind ∉ required then
      .error (.valueError s!"event {event.kind.value} is not valid for profile {run.profile}")
    else if run.events = [] ∧ event.kind ≠ .blackholeInjected then
      .error (.valueError "first event must be blackhole_injected")
    else if ∃ recorded ∈ run.events, recorded.kind = event.kind then
      .error (.valueError s!"duplicate convergence event: {event.kind.value}")
    else if BeforeLast run.events event.offsetMs then
      .error (.valueError "convergence event offsets must be monotonic")
    else .ok ()

def validateEvent (run : ConvergenceRun) (event : ConvergenceEvent) : Result Unit :=
  if event.offsetMs < 0 then .error (.valueError "convergence event offset must be non-negative")
  else if ¬ event.observedAt.Aware then
    .error (.valueError "convergence event observed_at must be timezone-aware")
  else if event.kind = .routeFailover ∧ MissingOrBelow 1 event.routeMetric then
    .error (.valueError "route_failover requires a positive route_metric")
  else if event.kind = .dataPlaneRecovered ∧ MissingOrBelow 0 event.icmpSequence then
    .error (.valueError "data_plane_recovered requires a non-negative icmp_sequence")
  else validateOrder run event

theorem validateOrder_ok_iff (run : ConvergenceRun) (event : ConvergenceEvent) :
    validateOrder run event = .ok () ↔
    (∃ required ∈ requiredEventsByProfile run.profile, event.kind ∈ required) ∧
      (run.events = [] → event.kind = .blackholeInjected) ∧
      (∀ recorded ∈ run.events, recorded.kind ≠ event.kind) ∧
      ¬ BeforeLast run.events event.offsetMs := by
  unfold validateOrder
  cases requiredEventsByProfile run.profile with
  | none => simp
  | some required =>
    simp only [check_ok_iff, not_not, not_and, not_exists]
    simp

theorem validateEvent_ok_iff (run : ConvergenceRun) (event : ConvergenceEvent) :
    validateEvent run event = .ok () ↔
    0 ≤ event.offsetMs ∧ event.observedAt.Aware ∧
      (event.kind = .routeFailover → ∃ metric ∈ event.routeMetric, 1 ≤ metric) ∧
      (event.kind = .dataPlaneRecovered → ∃ sequence ∈ event.icmpSequence, 0 ≤ sequence) ∧
      validateOrder run event = .ok () := by
  simp only [validateEvent, check_ok_iff, not_lt, not_not, not_and, not_missingOrBelow]

def newRunId (hex : String) : String := "run-" ++ String.ofList (hex.toList.take 12)

def newRun (profile source target : String) (startedAt : Option OffsetDateTime) (now : DateTime)
    (hex : String) :
    Result ConvergenceRun := do
  let timestamp := startedAt.getD (.utc now)
  validateRun profile source target timestamp
  return ⟨newRunId hex, profile, source, target, timestamp, []⟩

def runNotFound (runId : String) : Exn := .keyError s!"convergence run not found: {runId}"

structure ConvergenceStore where
  capacity : ℕ
  runs : Dict ConvergenceRun.id
  order : List String
  capacity_pos : 0 < capacity

namespace ConvergenceStore

def init (capacity : ℕ) : Result ConvergenceStore :=
  if h : capacity < 1 then .error (.valueError "convergence store capacity must be positive")
  else .ok ⟨capacity, .empty _, [], Nat.not_lt.mp h⟩

/-- The loop that expires runs. One that raises leaves the dictionary and the queue as they are then. -/
def expire (capacity : ℕ) (runs : Dict ConvergenceRun.id) : List String →
    Result Unit × Dict ConvergenceRun.id × List String
  | [] => (.ok (), runs, [])
  | expired :: order =>
    if order.length + 1 > capacity then
      if expired ∈ runs.keys then expire capacity (runs.erase expired) order
      else (.error (.keyError expired), runs, order)
    else (.ok (), runs, expired :: order)

theorem expire_subset (capacity : ℕ) (runs : Dict ConvergenceRun.id) (order : List String) :
    (expire capacity runs order).2.1.values ⊆ runs.values := by
  induction order generalizing runs with
  | nil => exact List.Subset.refl _
  | cons expired order ih =>
    rw [expire]
    split_ifs
    · exact fun _ hrun => List.mem_of_mem_filter (ih _ hrun)
    · exact List.Subset.refl _
    · exact List.Subset.refl _

/-- A queue that holds the keys in order never names a missing run. -/
theorem expire_keys (capacity : ℕ) (runs : Dict ConvergenceRun.id) : ∃ kept : Dict ConvergenceRun.id,
    expire capacity runs runs.keys = (.ok (), kept, kept.keys) ∧
      kept.values = runs.values.drop (runs.values.length - capacity) := by
  induction hvalues : runs.values generalizing runs with
  | nil =>
    have hkeys : runs.keys = [] := by rw [Dict.keys, hvalues, List.map_nil]
    refine ⟨runs, ?_, ?_⟩
    · rw [hkeys, expire]
    · rw [hvalues, List.drop_nil]
  | cons run rest ih =>
    have hkeys : runs.keys = run.id :: rest.map ConvergenceRun.id := by rw [Dict.keys, hvalues, List.map_cons]
    by_cases hfull : rest.length + 1 > capacity
    · have herase : (runs.erase run.id).values = rest := Dict.erase_head hvalues
      have hrest : (runs.erase run.id).keys = rest.map ConvergenceRun.id := by rw [Dict.keys, herase]
      obtain ⟨kept, hexpire, hkept⟩ := ih (runs.erase run.id) herase
      have hmem : run.id ∈ runs.keys := hkeys ▸ List.mem_cons_self
      refine ⟨kept, ?_, ?_⟩
      · rw [hkeys, expire, List.length_map, if_pos hfull, if_pos hmem, ← hrest]
        exact hexpire
      · have hdrop : (run :: rest).length - capacity = rest.length - capacity + 1 := by
          rw [List.length_cons]
          omega
        rw [hdrop, List.drop_succ_cons, hkept]
    · refine ⟨runs, ?_, ?_⟩
      · rw [hkeys, expire, List.length_map, if_neg hfull]
      · have hdrop : (run :: rest).length - capacity = 0 := by
          rw [List.length_cons]
          omega
        rw [hdrop, List.drop_zero, hvalues]

variable (store : ConvergenceStore)

def insert (run : ConvergenceRun) : Result ConvergenceRun × ConvergenceStore :=
  let (expiry, runs, order) := expire store.capacity (store.runs.assign run) (store.order ++ [run.id])
  (expiry.map fun _ => run, ⟨store.capacity, runs, order, store.capacity_pos⟩)

theorem insert_fresh (horder : store.order = store.runs.keys) {run : ConvergenceRun}
    (hid : run.id ∉ store.runs.keys) : ∃ store', store.insert run = (.ok run, store') ∧
      store'.capacity = store.capacity ∧ store'.order = store'.runs.keys ∧
      store'.runs.values = (store.runs.values ++ [run]).rtake store.capacity := by
  have hvalues := Dict.assign_new hid
  have hkeys : (store.runs.assign run).keys = store.order ++ [run.id] := by
    rw [Dict.keys, hvalues, List.map_append, horder]
    rfl
  obtain ⟨kept, hexpire, hkept⟩ := expire_keys store.capacity (store.runs.assign run)
  rw [hvalues] at hkept
  refine ⟨⟨store.capacity, kept, kept.keys, store.capacity_pos⟩, ?_, rfl, rfl, hkept⟩
  rw [ConvergenceStore.insert, ← hkeys, hexpire]
  rfl

def createRun (profile source target : String) (startedAt : Option OffsetDateTime) (now : DateTime)
    (hex : String) :
    Result ConvergenceRun × ConvergenceStore :=
  match newRun profile source target startedAt now hex with
  | .error e => (.error e, store)
  | .ok run => store.insert run

def get (runId : String) : Result ConvergenceRun :=
  match store.runs.get runId with
  | none => .error (runNotFound runId)
  | some run => .ok run

theorem get_ok_iff (runId : String) (run : ConvergenceRun) :
    store.get runId = .ok run ↔ run ∈ store.runs.values ∧ run.id = runId := by
  rw [← Dict.get_some_iff, ConvergenceStore.get]
  cases store.runs.get runId with
  | none => simp
  | some found => simp

def appendEvent (runId : String) (event : ConvergenceEvent) : Result (ConvergenceRun × ConvergenceStore) := do
  let run ← store.get runId
  validateEvent run event
  return (run.append event, { store with runs := store.runs.assign (run.append event) })

def latest : Result (Option ConvergenceRun) :=
  match store.order.getLast? with
  | none => .ok none
  | some runId =>
    match store.runs.get runId with
    | none => .error (.keyError runId)
    | some run => .ok (some run)

end ConvergenceStore

structure ConvergenceRunRequest where
  profile : String
  source : String
  target : String
  startedAt : Option OffsetDateTime := none
  profile_literal : profile = "ospf_only" ∨ profile = "bfd_100x3"
  source_pattern : 1 ≤ source.toList.length ∧ source.toList.length ≤ 64 ∧ source.toList.all isSlug
  /-- The text of an IP address. -/
  target_nonempty : target ≠ ""
  startedAt_aware : ∀ d ∈ startedAt, d.Aware

structure ConvergenceEventRequest where
  event : ConvergenceEventKind
  offsetMs : ℤ
  observedAt : Option OffsetDateTime := none
  routeMetric : Option ℤ := none
  icmpSequence : Option ℤ := none
  offsetMs_range : 0 ≤ offsetMs ∧ offsetMs ≤ 60000
  observedAt_aware : ∀ d ∈ observedAt, d.Aware
  routeMetric_range : ∀ n ∈ routeMetric, 1 ≤ n ∧ n ≤ 65535
  icmpSequence_nonneg : ∀ n ∈ icmpSequence, 0 ≤ n

def ConvergenceEventRequest.toEvent (request : ConvergenceEventRequest) (now : DateTime) : ConvergenceEvent :=
  ⟨request.event, request.offsetMs, request.observedAt.getD (.utc now), request.routeMetric,
    request.icmpSequence⟩

/-- The calls of the handlers. The clock reading and the digits of the UUID in a call are the same for both
stores. -/
inductive ConvergenceCall
  | createRun (request : ConvergenceRunRequest) (now : DateTime) (hex : String)
  | appendEvent (runId : String) (request : ConvergenceEventRequest) (now : DateTime)
  | get (runId : String)
  | latest

inductive ConvergenceAnswer
  | run (run : ConvergenceRun)
  | latest (run : Option ConvergenceRun)
  deriving DecidableEq

def answerRun {σ : Type} (s : σ) (r : Result (ConvergenceRun × σ)) : Result ConvergenceAnswer × σ :=
  match r with
  | .ok (run, s') => (.ok (.run run), s')
  | .error e => (.error e, s)

def ConvergenceStore.step (store : ConvergenceStore) : ConvergenceCall →
    Result ConvergenceAnswer × ConvergenceStore
  | .createRun request now hex =>
    (store.createRun request.profile request.source request.target request.startedAt now hex).map
      (.map .run) id
  | .appendEvent runId request now => answerRun store (store.appendEvent runId (request.toEvent now))
  | .get runId => (.run <$> store.get runId, store)
  | .latest => (.latest <$> store.latest, store)

def observed {σ Call Answer : Type} (step : σ → Call → Result Answer × σ) (s : σ) (call : Call) :
    Except ErrorKind Answer × σ :=
  ((step s call).1.mapError Exn.kind, (step s call).2)

def labStart : DateTime := ⟨2025, 9, 6, 3, 4, 7,
    250000, by decide, by decide, by decide, by decide, by decide, by decide,
  by decide⟩

end TelconetSentinel
