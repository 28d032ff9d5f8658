import TelconetSentinel.ConvergenceSqlStore

namespace TelconetSentinel

open FallibleLists KeyedLists TopRetention Simulation

section Encoding

variable (fromisoformat : String → Result OffsetDateTime)

def ConvergenceRun.Readable (run : ConvergenceRun) : Prop :=
  fromisoformat run.startedAt.isoformat = .ok run.startedAt ∧
    ∀ event ∈ run.events, fromisoformat event.observedAt.isoformat = .ok event.observedAt

variable {fromisoformat}

theorem decodeEvent_columns {event : ConvergenceEvent}
    (h : fromisoformat event.observedAt.isoformat = .ok event.observedAt) :
    SQLiteConvergenceStore.decodeEvent fromisoformat event.columns = .ok event := by
  have hkind : ConvergenceEventKind.ofValue event.columns.kind = .ok event.kind := event.kind.ofValue_value
  have htime : fromisoformat event.columns.observedAt = .ok event.observedAt := h
  refine (bind_ok_iff _ _ _).mpr ⟨event.kind, hkind, ?_⟩
  exact (bind_ok_iff _ _ _).mpr ⟨event.observedAt, htime, rfl⟩

end Encoding

namespace ConvergenceDatabase

def eventsOf (db : ConvergenceDatabase) (runId : String) : List EventRow := db.events.filter fun row =>
    row.runId = runId

theorem selectEvents_eq (db : ConvergenceDatabase) (runId : String) :
    db.selectEvents runId = db.eventsOf runId := by
  have hascending : (db.eventsOf runId).Pairwise fun r s => r.sequence ≤ s.sequence :=
    (db.events_ascending.sublist List.filter_sublist).imp fun hlt => hlt.le
  exact hascending.insertionSort_eq

structure Records (fromisoformat : String → Result OffsetDateTime) (db : ConvergenceDatabase)
    (runs : List ConvergenceRun) : Prop where
  runs_eq : db.runs.map RunRow.toRunColumns = runs.map ConvergenceRun.columns
  events_eq : ∀ run ∈ runs, (db.eventsOf run.id).map EventRow.toEventColumns =
    run.events.map ConvergenceEvent.columns
  readable : ∀ run ∈ runs, run.Readable fromisoformat

namespace Records

variable {fromisoformat : String → Result OffsetDateTime} {db : ConvergenceDatabase}
  {runs : List ConvergenceRun}

theorem ids (h : db.Records fromisoformat runs) :
    (db.runs.map fun row => row.id) = runs.map ConvergenceRun.id := by
  have hids := congrArg (List.map RunColumns.id) h.runs_eq
  rwa [List.map_map, List.map_map] at hids

theorem length (h : db.Records fromisoformat runs) : db.runs.length = runs.length := by
  have hlength := congrArg List.length h.runs_eq
  rwa [List.length_map, List.length_map] at hlength

theorem selectRun (h : db.Records fromisoformat runs) (runId : String) :
    (db.selectRun runId).map RunRow.toRunColumns =
      (lookup ConvergenceRun.id runs runId).map ConvergenceRun.columns := by
  have hrows : lookup RunColumns.id (db.runs.map RunRow.toRunColumns) runId = _ :=
    lookup_map RunRow.toRunColumns db.runs runId
  have hruns : lookup RunColumns.id (runs.map ConvergenceRun.columns) runId = _ :=
    lookup_map ConvergenceRun.columns runs runId
  rw [h.runs_eq] at hrows
  exact hrows.symm.trans hruns

theorem loadEvents (h : db.Records fromisoformat runs) {run : ConvergenceRun} (hrun : run ∈ runs) :
    (db.selectEvents run.id).mapM
      (fun row => SQLiteConvergenceStore.decodeEvent fromisoformat row.toEventColumns) =
      .ok run.events := by
  have hcolumns : List.Forall₂ (fun row event => SQLiteConvergenceStore.decodeEvent fromisoformat row =
      .ok event) ((db.eventsOf run.id).map EventRow.toEventColumns) run.events := by
    rw [h.events_eq run hrun, List.forall₂_map_left_iff, List.forall₂_same]
    exact fun event hevent => decodeEvent_columns ((h.readable run hrun).2 event hevent)
  rw [selectEvents_eq, mapM_ok_iff]
  exact List.forall₂_map_left_iff.mp hcolumns

theorem load {store : SQLiteConvergenceStore} {runs : Dict ConvergenceRun.id}
    (h : store.database.Records fromisoformat runs.values) {run : ConvergenceRun} (hrun : run ∈ runs.values) :
    store.load fromisoformat run.id = .ok run := by
  have hselect := h.selectRun run.id
  rw [(lookup_some_iff runs.keys_nodup run.id run).mpr ⟨hrun, rfl⟩, Option.map_some] at hselect
  obtain ⟨row, hrow, hcolumns⟩ := Option.map_eq_some_iff.mp hselect
  obtain ⟨columns, sequence⟩ := row
  obtain rfl : columns = run.columns := hcolumns
  rw [SQLiteConvergenceStore.load, hrow]
  refine (bind_ok_iff _ _ _).mpr ⟨run.startedAt, (h.readable run hrun).1, ?_⟩
  exact (bind_ok_iff _ _ _).mpr ⟨run.events, h.loadEvents hrun, rfl⟩

theorem load_missing {store : SQLiteConvergenceStore} (h : store.database.Records fromisoformat runs)
    {runId : String} (hid : runId ∉ runs.map ConvergenceRun.id) :
    store.load fromisoformat runId = .error (runNotFound runId) := by
  have hnone : store.database.selectRun runId = none := by
    refine (lookup_none_iff _ _ _).mpr ?_
    rwa [h.ids]
  rw [SQLiteConvergenceStore.load, hnone]

theorem insertRun (h : db.Records fromisoformat runs) {run : ConvergenceRun}
    (hid : run.id ∉ runs.map ConvergenceRun.id) (hempty : run.events = [])
    (hread : run.Readable fromisoformat) :
    ∃ inserted, db.insertRun run.columns = .ok inserted ∧ inserted.Records fromisoformat (runs ++ [run]) := by
  have hnew : run.id ∉ db.runs.map fun row => row.id := by rwa [h.ids]
  refine ⟨_, dif_neg hnew, ?_, ?_, ?_⟩
  · rw [List.map_append, List.map_append, h.runs_eq]
    rfl
  · refine List.forall_mem_append.mpr ⟨h.events_eq, List.forall_mem_singleton.mpr ?_⟩
    have hnone : db.eventsOf run.id = [] := by
      refine List.filter_eq_nil_iff.mpr fun row hrow hrun => hnew ?_
      exact of_decide_eq_true hrun ▸ db.runs_present row hrow
    rw [hempty]
    exact congrArg (List.map EventRow.toEventColumns) hnone
  · exact List.forall_mem_append.mpr ⟨h.readable, List.forall_mem_singleton.mpr hread⟩

theorem prune (h : db.Records fromisoformat runs) {capacity : ℕ}
    (hbind : bindInteger capacity = .ok (capacity : ℤ)) :
    ∃ pruned, db.prune capacity = .ok pruned ∧
    pruned.Records fromisoformat (runs.drop (runs.length - capacity)) := by
  have hkept : (db.runs.filter fun row => row.sequence ∈ (db.newestRuns.take capacity).map RunRow.sequence) =
      db.runs.drop (runs.length - capacity) := by
    rw [← h.length]
    exact filter_top_of_ascending db.runs_ascending capacity
  have hcolumns : (db.runs.drop (runs.length - capacity)).map RunRow.toRunColumns =
      (runs.drop (runs.length - capacity)).map ConvergenceRun.columns := by
    rw [List.map_drop, List.map_drop, h.runs_eq]
  rw [ConvergenceDatabase.prune, hbind]
  refine ⟨_, rfl, ?_, fun run hrun => ?_, fun run hrun => h.readable run (List.mem_of_mem_drop hrun)⟩
  · rw [← hcolumns, ← hkept]
    rfl
  · have hid : run.id ∈ (db.runs.drop (runs.length - capacity)).map fun row => row.id := by
      have hids := congrArg (List.map RunColumns.id) hcolumns
      rw [List.map_map, List.map_map] at hids
      exact hids ▸ List.mem_map_of_mem hrun
    rw [← hkept] at hid
    rw [← h.events_eq run (List.mem_of_mem_drop hrun)]
    refine congrArg (List.map EventRow.toEventColumns) ?_
    unfold eventsOf
    rw [List.filter_filter]
    refine List.filter_congr fun row _ => ?_
    -- A row of a kept run is kept.
    refine Bool.and_eq_left_iff_imp.mpr fun hrow => ?_
    rw [of_decide_eq_true hrow]
    exact decide_eq_true hid

/-- Among the rows of a run no kind occurs twice as long as the run itself repeats none. -/
theorem kind_not_recorded (h : db.Records fromisoformat runs) {run : ConvergenceRun} (hrun : run ∈ runs)
    {event : ConvergenceEvent} (hnew : ∀ recorded ∈ run.events, recorded.kind ≠ event.kind) :
    (run.id, event.kind.value) ∉ db.events.map fun row => (row.runId, row.kind) := by
  intro hmem
  obtain ⟨row, hrow, hpair⟩ := List.mem_map.mp hmem
  obtain ⟨hid, hkind⟩ := Prod.mk.inj hpair
  have hof : row ∈ db.eventsOf run.id := List.mem_filter.mpr ⟨hrow, decide_eq_true hid⟩
  have hcolumns : row.toEventColumns ∈ run.events.map ConvergenceEvent.columns := by
    rw [← h.events_eq run hrun]
    exact List.mem_map_of_mem hof
  obtain ⟨recorded, hrecorded, hsame⟩ := List.mem_map.mp hcolumns
  have hvalue : recorded.kind.value = row.kind := congrArg EventColumns.kind hsame
  exact hnew recorded hrecorded (ConvergenceEventKind.value_injective (hvalue.trans hkind))

theorem insertBoundEvent (h : db.Records fromisoformat runs) {run : ConvergenceRun} (hrun : run ∈ runs)
    {event : ConvergenceEvent} (hvalid : validateEvent run event = .ok ()) :
    ∃ inserted, db.insertBoundEvent run.id event.columns = .ok inserted ∧ inserted.runs = db.runs ∧
      inserted.events = db.events ++ [⟨event.columns, db.lastEvent + 1, run.id⟩] := by
  obtain ⟨hoffset, -, -, -, horder⟩ := (validateEvent_ok_iff _ _).mp hvalid
  obtain ⟨-, -, hnew, -⟩ := (validateOrder_ok_iff _ _).mp horder
  have hid : run.id ∈ db.runs.map fun row => row.id := by
    rw [h.ids]
    exact List.mem_map_of_mem hrun
  have hoffset' : ¬ event.columns.offsetMs < 0 := not_lt.mpr hoffset
  have hkind : (run.id, event.columns.kind) ∉ db.events.map fun row => (row.runId, row.kind) :=
    h.kind_not_recorded hrun hnew
  unfold ConvergenceDatabase.insertBoundEvent
  rw [dif_neg hoffset', dif_neg hkind, dif_pos hid]
  exact ⟨_, rfl, rfl, rfl⟩

theorem append {runs : Dict ConvergenceRun.id} (h : db.Records fromisoformat runs.values)
    {run : ConvergenceRun} (hrun : run ∈ runs.values) {event : ConvergenceEvent} {sequence : ℕ}
    (hread : fromisoformat event.observedAt.isoformat = .ok event.observedAt) {inserted : ConvergenceDatabase}
    (hruns : inserted.runs = db.runs)
    (hevents : inserted.events = db.events ++ [⟨event.columns, sequence, run.id⟩]) :
    inserted.Records fromisoformat (runs.assign (run.append event)).values := by
  have hid : run.id ∈ runs.keys := List.mem_map_of_mem hrun
  have hpresent : (run.append event).id ∈ runs.keys := hid
  have hsame : ∀ r ∈ runs.values, r.id = run.id → r = run := fun r hr => key_inj runs.keys_nodup hr hrun
  have hown : inserted.eventsOf run.id = db.eventsOf run.id ++ [⟨event.columns, sequence, run.id⟩] := by
    unfold eventsOf
    rw [hevents, List.filter_append, List.filter_cons_of_pos (by simp), List.filter_nil]
  have hother : ∀ r ∈ runs.values, r.id ≠ run.id → inserted.eventsOf r.id = db.eventsOf r.id := by
    intro r _ hne
    unfold eventsOf
    rw [hevents, List.filter_append, List.filter_cons_of_neg (by simpa using hne.symm), List.filter_nil,
      List.append_nil]
  rw [Dict.assign_present hpresent, ConvergenceRun.append_id]
  refine ⟨?_, List.forall_mem_map.mpr fun r hr => ?_, List.forall_mem_map.mpr fun r hr => ?_⟩
  · rw [hruns, h.runs_eq, List.map_map]
    refine List.map_congr_left fun r hr => ?_
    rw [Function.comp_apply]
    split_ifs with hr'
    · rw [hsame r hr hr']
      rfl
    · rfl
  · split_ifs with hr'
    · rw [ConvergenceRun.append_id, hown, List.map_append, h.events_eq run hrun, ConvergenceRun.append,
        List.map_append]
      rfl
    · rw [hother r hr hr']
      exact h.events_eq r hr
  · split_ifs with hr'
    · refine ⟨(h.readable run hrun).1, List.forall_mem_append.mpr ⟨(h.readable run hrun).2, ?_⟩⟩
      exact List.forall_mem_singleton.mpr hread
    · exact h.readable r hr

end Records

end ConvergenceDatabase

namespace ConvergenceCall

def times : ConvergenceCall → List OffsetDateTime
  | createRun request now _ => [request.startedAt.getD (.utc now)]
  | appendEvent _ request now => [request.observedAt.getD (.utc now)]
  | get _ => []
  | latest => []

/-- A new run gets an id that no retained run has, and an event that its run accepts has a sequence number of
64 bits. -/
def Storable (store : ConvergenceStore) : ConvergenceCall → Prop
  | createRun _ _ hex => newRunId hex ∉ store.runs.keys
  | appendEvent runId request now => ∀ run, store.get runId = .ok run →
      validateEvent run (request.toEvent now) = .ok () → ∀ n ∈ request.icmpSequence, n < 2 ^ 63
  | get _ => True
  | latest => True

end ConvergenceCall

namespace ConvergenceEventRequest

variable (request : ConvergenceEventRequest) (now : DateTime)

theorem bind_bounded : bindInteger request.offsetMs = .ok request.offsetMs ∧
    ConvergenceDatabase.bindNullable request.routeMetric = .ok request.routeMetric := by
  have hoffset := request.offsetMs_range
  refine ⟨bindInteger_ok (by omega) (by omega), ?_⟩
  cases hmetric : request.routeMetric with
  | none => rfl
  | some metric =>
    have hrange := request.routeMetric_range metric hmetric
    have hbind : bindInteger metric = .ok metric := bindInteger_ok (by omega) (by omega)
    rw [ConvergenceDatabase.bindNullable, hbind]
    rfl

theorem insertEvent_eq (db : ConvergenceDatabase) (runId : String) :
    db.insertEvent runId (request.toEvent now).columns =
      (ConvergenceDatabase.bindNullable request.icmpSequence >>=
      fun sequence => db.insertBoundEvent runId
      { (request.toEvent now).columns with icmpSequence := sequence }) := by
  obtain ⟨hoffset, hmetric⟩ := request.bind_bounded
  unfold ConvergenceDatabase.insertEvent
  simp only [toEvent, ConvergenceEvent.columns]
  rw [hoffset, hmetric]
  rfl

theorem insertEvent_fits (db : ConvergenceDatabase) (runId : String)
    (h : ∀ n ∈ request.icmpSequence, n < 2 ^ 63) :
    db.insertEvent runId (request.toEvent now).columns =
      db.insertBoundEvent runId (request.toEvent now).columns := by
  have hbind : ConvergenceDatabase.bindNullable request.icmpSequence = .ok request.icmpSequence := by
    cases hsequence : request.icmpSequence with
    | none => rfl
    | some n =>
      have hnonneg := request.icmpSequence_nonneg n hsequence
      have hbind : bindInteger n = .ok n := bindInteger_ok (by omega) (h n hsequence)
      rw [ConvergenceDatabase.bindNullable, hbind]
      rfl
  rw [insertEvent_eq, hbind]
  rfl

end ConvergenceEventRequest

def ConvergenceRunRequest.toRun (request : ConvergenceRunRequest) (now : DateTime) (hex : String) :
    ConvergenceRun :=
  ⟨newRunId hex, request.profile, request.source, request.target, request.startedAt.getD (.utc now), []⟩

theorem newRun_ok (request : ConvergenceRunRequest) (now : DateTime) (hex : String) :
    newRun request.profile request.source request.target request.startedAt now hex =
      .ok (request.toRun now hex) := by
  have hprofile : requiredEventsByProfile request.profile ≠ none := by
    rcases request.profile_literal with h | h <;> rw [h] <;> decide
  have hsource : request.source ≠ "" := by
    intro hempty
    have hlength := request.source_pattern.1
    rw [hempty] at hlength
    exact absurd hlength (by decide)
  have haware : (request.startedAt.getD (.utc now)).Aware := by
    cases hstart : request.startedAt with
    | none => rfl
    | some d => exact request.startedAt_aware d hstart
  have hvalid : validateRun request.profile request.source request.target
      (request.startedAt.getD (.utc now)) = .ok () := by
    rw [validateRun, if_neg hprofile, if_neg (not_or.mpr ⟨hsource, request.target_nonempty⟩),
      if_neg (not_not.mpr haware)]
  rw [newRun, hvalid]
  rfl

structure ConvergenceMirrors (fromisoformat : String → Result OffsetDateTime) (memory : ConvergenceStore)
    (sqlite : SQLiteConvergenceStore) : Prop where
  capacity_eq : sqlite.capacity = memory.capacity
  bindable : bindInteger memory.capacity = .ok (memory.capacity : ℤ)
  order_eq : memory.order = memory.runs.keys
  records : sqlite.database.Records fromisoformat memory.runs.values

namespace ConvergenceMirrors

variable {fromisoformat : String → Result OffsetDateTime} {memory : ConvergenceStore}
  {sqlite : SQLiteConvergenceStore}

theorem get (h : ConvergenceMirrors fromisoformat memory sqlite) (runId : String) :
    memory.get runId = sqlite.get fromisoformat runId := by
  unfold ConvergenceStore.get SQLiteConvergenceStore.get
  cases hget : memory.runs.get runId with
  | none => exact (h.records.load_missing ((Dict.get_none_iff _).mp hget)).symm
  | some run =>
    obtain ⟨hrun, rfl⟩ := (Dict.get_some_iff _ _).mp hget
    exact (h.records.load hrun).symm

theorem latest (h : ConvergenceMirrors fromisoformat memory sqlite) :
    memory.latest = sqlite.latest fromisoformat := by
  have horder : memory.order.getLast? = memory.runs.values.getLast?.map ConvergenceRun.id := by
    rw [h.order_eq, Dict.keys, List.getLast?_map]
  have hnewest : sqlite.database.newestRuns.head? = sqlite.database.runs.getLast? := by
    rw [ConvergenceDatabase.newestRuns, descending_of_ascending sqlite.database.runs_ascending,
      List.head?_reverse]
  have hcolumns : sqlite.database.runs.getLast?.map RunRow.toRunColumns =
      memory.runs.values.getLast?.map ConvergenceRun.columns := by
    rw [← List.getLast?_map, ← List.getLast?_map, h.records.runs_eq]
  unfold ConvergenceStore.latest SQLiteConvergenceStore.latest
  rw [horder, hnewest]
  cases hlast : memory.runs.values.getLast? with
  | none =>
    rw [hlast, Option.map_none, Option.map_eq_none_iff] at hcolumns
    rw [hcolumns]
    rfl
  | some run =>
    have hrun : run ∈ memory.runs.values := List.mem_of_getLast? hlast
    rw [hlast, Option.map_some] at hcolumns
    obtain ⟨row, hrow, hsame⟩ := Option.map_eq_some_iff.mp hcolumns
    have hid : row.id = run.id := congrArg RunColumns.id hsame
    have hget : memory.runs.get run.id = some run := (Dict.get_some_iff _ _).mpr ⟨hrun, rfl⟩
    rw [hrow, Option.map_some]
    simp only [hget, hid, h.records.load hrun]
    rfl

theorem insert (h : ConvergenceMirrors fromisoformat memory sqlite) {run : ConvergenceRun}
    (hid : run.id ∉ memory.runs.keys) (hempty : run.events = []) (hread : run.Readable fromisoformat) :
    ∃ memory' sqlite', memory.insert run = (.ok run, memory') ∧ sqlite.insert run = .ok (run, sqlite') ∧
      ConvergenceMirrors fromisoformat memory' sqlite' := by
  obtain ⟨memory', hmemory, hcapacity, horder, hvalues⟩ := ConvergenceStore.insert_fresh memory h.order_eq hid
  obtain ⟨inserted, hinserted, hrecords⟩ := h.records.insertRun hid hempty hread
  obtain ⟨pruned, hpruned, hrecords⟩ := hrecords.prune h.bindable
  rw [List.rtake] at hvalues
  rw [← hvalues] at hrecords
  rw [← h.capacity_eq] at hpruned
  have hcapacity' : sqlite.capacity = memory'.capacity := h.capacity_eq.trans hcapacity.symm
  refine ⟨memory', ⟨sqlite.capacity, pruned⟩, hmemory, ?_, hcapacity', hcapacity ▸ h.bindable, horder,
    hrecords⟩
  exact (bind_ok_iff _ _ _).mpr ⟨inserted, hinserted, (bind_ok_iff _ _ _).mpr ⟨pruned, hpruned, rfl⟩⟩

section Events

variable {runId : String} {run : ConvergenceRun} {request : ConvergenceEventRequest} {now : DateTime}

theorem append_missing (h : ConvergenceMirrors fromisoformat memory sqlite) {e : Exn}
    (hget : memory.get runId = .error e) (event : ConvergenceEvent) :
    memory.appendEvent runId event = .error e ∧ sqlite.appendEvent fromisoformat runId event = .error e := by
  have hload : sqlite.load fromisoformat runId = .error e := (h.get runId).symm.trans hget
  rw [ConvergenceStore.appendEvent, SQLiteConvergenceStore.appendEvent, hget, hload]
  exact ⟨rfl, rfl⟩

theorem append_rejected (h : ConvergenceMirrors fromisoformat memory sqlite)
    (hget : memory.get runId = .ok run) {e : Exn} {event : ConvergenceEvent}
    (hvalid : validateEvent run event = .error e) :
    memory.appendEvent runId event = .error e ∧ sqlite.appendEvent fromisoformat runId event = .error e := by
  have hload : sqlite.load fromisoformat runId = .ok run := (h.get runId).symm.trans hget
  rw [ConvergenceStore.appendEvent, SQLiteConvergenceStore.appendEvent, hget, hload, ok_bind, ok_bind, hvalid]
  exact ⟨rfl, rfl⟩

theorem append_memory {event : ConvergenceEvent} (hget : memory.get runId = .ok run)
    (hvalid : validateEvent run event = .ok ()) : memory.appendEvent runId event =
      .ok (run.append event, { memory with runs := memory.runs.assign (run.append event) }) := by
  rw [ConvergenceStore.appendEvent, hget, ok_bind, hvalid]
  rfl

theorem append_sqlite (h : ConvergenceMirrors fromisoformat memory sqlite) {event : ConvergenceEvent}
    (hget : memory.get runId = .ok run) (hvalid : validateEvent run event = .ok ()) :
    sqlite.appendEvent fromisoformat runId event = (sqlite.database.insertEvent runId event.columns >>=
      fun database => .ok (run.append event, ⟨sqlite.capacity, database⟩)) := by
  have hload : sqlite.load fromisoformat runId = .ok run := (h.get runId).symm.trans hget
  rw [SQLiteConvergenceStore.appendEvent, hload, ok_bind, hvalid]
  rfl

theorem append_fits (h : ConvergenceMirrors fromisoformat memory sqlite) (hget : memory.get runId = .ok run)
    (hvalid : validateEvent run (request.toEvent now) = .ok ())
    (hfits : ∀ n ∈ request.icmpSequence, n < 2 ^ 63)
    (hread : fromisoformat (request.toEvent now).observedAt.isoformat =
    .ok (request.toEvent now).observedAt) :
    ∃ sqlite', sqlite.appendEvent fromisoformat runId (request.toEvent now) =
        .ok (run.append (request.toEvent now), sqlite') ∧
      ConvergenceMirrors fromisoformat
        { memory with runs := memory.runs.assign (run.append (request.toEvent now)) } sqlite' := by
  obtain ⟨hrun, rfl⟩ := (ConvergenceStore.get_ok_iff memory runId run).mp hget
  obtain ⟨inserted, hinserted, hruns, hevents⟩ := h.records.insertBoundEvent hrun hvalid
  have hpresent : (run.append (request.toEvent now)).id ∈ memory.runs.keys := by
    rw [ConvergenceRun.append_id]
    exact List.mem_map_of_mem hrun
  have horder : memory.order = (memory.runs.assign (run.append (request.toEvent now))).keys := by
    rw [Dict.keys_assign_present hpresent]
    exact h.order_eq
  refine ⟨⟨sqlite.capacity, inserted⟩, ?_, h.capacity_eq, h.bindable, horder,
    h.records.append hrun hread hruns hevents⟩
  rw [h.append_sqlite hget hvalid, request.insertEvent_fits now _ _ hfits, hinserted]
  rfl

end Events

theorem step (h : ConvergenceMirrors fromisoformat memory sqlite) (call : ConvergenceCall)
    (htimes : ∀ d ∈ call.times, fromisoformat d.isoformat = .ok d) (hstorable : call.Storable memory) :
    (memory.step call).1 = (sqlite.step fromisoformat call).1 ∧
      ConvergenceMirrors fromisoformat (memory.step call).2 (sqlite.step fromisoformat call).2 := by
  cases call with
  | createRun request now hex =>
    have hread := htimes _ List.mem_cons_self
    have hreadable : (request.toRun now hex).Readable fromisoformat :=
      ⟨hread, fun _ hevent => absurd hevent List.not_mem_nil⟩
    have hnew : (request.toRun now hex).id ∉ memory.runs.keys := hstorable
    obtain ⟨memory', sqlite', hm, hs, h'⟩ := h.insert hnew rfl hreadable
    rw [ConvergenceStore.step, SQLiteConvergenceStore.step, ConvergenceStore.createRun,
      SQLiteConvergenceStore.createRun, newRun_ok, ok_bind, hs]
    simp only [hm]
    exact ⟨rfl, h'⟩
  | appendEvent runId request now =>
    have hread := htimes _ List.mem_cons_self
    rw [ConvergenceStore.step, SQLiteConvergenceStore.step]
    cases hget : memory.get runId with
    | error e =>
      obtain ⟨hm, hs⟩ := h.append_missing hget (request.toEvent now)
      rw [hm, hs]
      exact ⟨rfl, h⟩
    | ok run =>
      cases hvalid : validateEvent run (request.toEvent now) with
      | error e =>
        obtain ⟨hm, hs⟩ := h.append_rejected hget hvalid
        rw [hm, hs]
        exact ⟨rfl, h⟩
      | ok _ =>
        obtain ⟨sqlite', hs, h'⟩ := h.append_fits hget hvalid (hstorable run hget hvalid) hread
        rw [append_memory hget hvalid, hs]
        exact ⟨rfl, h'⟩
  | get runId =>
    rw [ConvergenceStore.step, SQLiteConvergenceStore.step, h.get]
    exact ⟨rfl, h⟩
  | latest =>
    rw [ConvergenceStore.step, SQLiteConvergenceStore.step, h.latest]
    exact ⟨rfl, h⟩

theorem init {capacity : ℕ} (hmemory : ConvergenceStore.init capacity = .ok memory)
    (hcapacity : (capacity : ℤ) < 2 ^ 63) : ∃ sqlite, SQLiteConvergenceStore.init .empty capacity =
      .ok sqlite ∧
      ConvergenceMirrors fromisoformat memory sqlite := by
  have hbind : bindInteger capacity = .ok (capacity : ℤ) := bindInteger_ok (by omega) hcapacity
  have hempty : ConvergenceDatabase.empty.Records fromisoformat [] :=
    ⟨rfl, fun _ hrun => absurd hrun List.not_mem_nil, fun _ hrun => absurd hrun List.not_mem_nil⟩
  obtain ⟨pruned, hpruned, hrecords⟩ := hempty.prune hbind
  unfold ConvergenceStore.init at hmemory
  split_ifs at hmemory with hpositive
  obtain rfl := Except.ok.inj hmemory
  rw [List.drop_nil] at hrecords
  refine ⟨⟨capacity, pruned⟩, ?_, rfl, hbind, rfl, hrecords⟩
  rw [SQLiteConvergenceStore.init, if_neg hpositive, hpruned]
  rfl

end ConvergenceMirrors

theorem SQLiteConvergenceStore.init_lt {database : ConvergenceDatabase} {capacity : ℕ}
    {sqlite : SQLiteConvergenceStore} (h : SQLiteConvergenceStore.init database capacity = .ok sqlite) :
    (capacity : ℤ) < 2 ^ 63 := by
  unfold SQLiteConvergenceStore.init at h
  split_ifs at h
  obtain ⟨pruned, hpruned, -⟩ := (bind_ok_iff _ _ _).mp h
  obtain ⟨limit, hlimit, -⟩ := (bind_ok_iff _ _ _).mp hpruned
  exact bindInteger_lt hlimit

def accessRun : ConvergenceRunRequest :=
  ⟨"bfd_100x3", "access1", "10.20.0.10", none, by decide, by decide, by decide, by simp⟩

def labEvent (kind : ConvergenceEventKind) (offsetMs : ℤ) (sequence : Option ℤ)
    (hoffset : 0 ≤ offsetMs ∧ offsetMs ≤ 60000 := by decide)
    (hsequence : ∀ n ∈ sequence, 0 ≤ n := by decide) :
    ConvergenceEventRequest :=
  ⟨kind, offsetMs, none, none, sequence, hoffset, by simp, by simp, hsequence⟩

def labInjection : ConvergenceEventRequest := labEvent .blackholeInjected 0 none

end TelconetSentinel
