import TelconetSentinel.Convergence
import TelconetSentinel.Library.FallibleLists
import TelconetSentinel.Library.TopRetention

namespace TelconetSentinel

open FallibleLists KeyedLists TopRetention

structure RunColumns where
  id : String
  profile : String
  source : String
  target : String
  startedAt : String
  deriving DecidableEq

structure RunRow extends RunColumns where
  sequence : ℕ

structure EventColumns where
  kind : String
  offsetMs : ℤ
  observedAt : String
  routeMetric : Option ℤ
  icmpSequence : Option ℤ
  deriving DecidableEq

structure EventRow extends EventColumns where
  sequence : ℕ
  runId : String

/-- The tables in the order of their rowids, and the last rowid that `AUTOINCREMENT` gave in each. -/
structure ConvergenceDatabase where
  runs : List RunRow
  events : List EventRow
  lastRun : ℕ
  lastEvent : ℕ
  runs_ascending : runs.Pairwise fun r s => r.sequence < s.sequence
  runs_bounded : ∀ row ∈ runs, row.sequence ≤ lastRun
  ids_unique : (runs.map fun row => row.id).Nodup
  events_ascending : events.Pairwise fun r s => r.sequence < s.sequence
  events_bounded : ∀ row ∈ events, row.sequence ≤ lastEvent
  offsets_checked : ∀ row ∈ events, 0 ≤ row.offsetMs
  kinds_unique : (events.map fun row => (row.runId, row.kind)).Nodup
  runs_present : ∀ row ∈ events, row.runId ∈ runs.map fun row => row.id

theorem pairwise_concat_of_bounded {α : Type*} {index : α → ℕ} {rows : List α} {last : ℕ} {row : α}
    (hrows : rows.Pairwise fun r s => index r < index s) (hbound : ∀ r ∈ rows, index r ≤ last)
    (hrow : index row = last + 1) : (rows ++ [row]).Pairwise fun r s => index r < index s := by
  refine List.pairwise_append.mpr ⟨hrows, List.pairwise_singleton _ _, fun r hr s hs => ?_⟩
  obtain rfl := List.mem_singleton.mp hs
  have := hbound r hr
  omega

theorem bounded_concat {α : Type*} {index : α → ℕ} {rows : List α} {last : ℕ} {row : α}
    (hbound : ∀ r ∈ rows, index r ≤ last) (hrow : index row = last + 1) : ∀ r ∈ rows ++ [row],
      index r ≤ last + 1 := by
  intro r hr
  rcases List.mem_append.mp hr with hr | hr
  · exact (hbound r hr).trans (Nat.le_succ last)
  · obtain rfl := List.mem_singleton.mp hr
    exact hrow.le

namespace ConvergenceDatabase

def empty : ConvergenceDatabase where
  runs := []
  events := []
  lastRun := 0
  lastEvent := 0
  runs_ascending := List.Pairwise.nil
  runs_bounded := by simp
  ids_unique := List.nodup_nil
  events_ascending := List.Pairwise.nil
  events_bounded := by simp
  offsets_checked := by simp
  kinds_unique := List.nodup_nil
  runs_present := by simp

variable (db : ConvergenceDatabase)

def selectRun (runId : String) : Option RunRow := lookup (fun row => row.id) db.runs runId

/-- `ORDER BY sequence DESC` -/
def newestRuns : List RunRow := descending RunRow.sequence db.runs

/-- `WHERE run_id = ? ORDER BY sequence` -/
def selectEvents (runId : String) : List EventRow :=
  (db.events.filter fun row => row.runId = runId).insertionSort fun r s => r.sequence ≤ s.sequence

def insertRun (columns : RunColumns) : Result ConvergenceDatabase :=
  if h : columns.id ∈ db.runs.map fun row => row.id then
    .error (.integrityError "UNIQUE constraint failed: convergence_runs.id")
  else
    .ok { db with
      runs := db.runs ++ [⟨columns, db.lastRun + 1⟩]
      lastRun := db.lastRun + 1
      runs_ascending := pairwise_concat_of_bounded db.runs_ascending db.runs_bounded rfl
      runs_bounded := bounded_concat db.runs_bounded rfl
      ids_unique := by
        rw [List.map_append, List.map_singleton, ← List.concat_eq_append]
        exact db.ids_unique.concat h
      runs_present := fun row hrow => by
        rw [List.map_append]
        exact List.mem_append_left _ (db.runs_present row hrow) }

def prune (capacity : ℕ) : Result ConvergenceDatabase := do
  let limit ← bindInteger capacity
  let runs := db.runs.filter fun row => row.sequence ∈ (db.newestRuns.take limit.toNat).map RunRow.sequence
  return { db with
    runs := runs
    events := db.events.filter fun row => row.runId ∈ runs.map fun row => row.id
    runs_ascending := db.runs_ascending.sublist List.filter_sublist
    runs_bounded := fun row hrow => db.runs_bounded row (List.mem_of_mem_filter hrow)
    ids_unique := db.ids_unique.sublist (List.filter_sublist.map _)
    events_ascending := db.events_ascending.sublist List.filter_sublist
    events_bounded := fun row hrow => db.events_bounded row (List.mem_of_mem_filter hrow)
    offsets_checked := fun row hrow => db.offsets_checked row (List.mem_of_mem_filter hrow)
    kinds_unique := db.kinds_unique.sublist (List.filter_sublist.map _)
    runs_present := fun _ hrow => of_decide_eq_true (List.mem_filter.mp hrow).2 }

def bindNullable : Option ℤ → Result (Option ℤ)
  | none => .ok none
  | some n => some <$> bindInteger n

def insertBoundEvent (runId : String) (columns : EventColumns) : Result ConvergenceDatabase :=
  if hoffset : columns.offsetMs < 0 then
    .error (.integrityError "CHECK constraint failed: offset_ms >= 0")
  else if hkind : (runId, columns.kind) ∈ db.events.map fun row => (row.runId, row.kind) then
    .error (.integrityError "UNIQUE constraint failed: convergence_events.run_id, convergence_events.kind")
  else if hrun : runId ∈ db.runs.map fun row => row.id then
    .ok { db with
      events := db.events ++ [⟨columns, db.lastEvent + 1, runId⟩]
      lastEvent := db.lastEvent + 1
      events_ascending := pairwise_concat_of_bounded db.events_ascending db.events_bounded rfl
      events_bounded := bounded_concat db.events_bounded rfl
      offsets_checked := List.forall_mem_append.mpr ⟨db.offsets_checked, by simpa using hoffset⟩
      kinds_unique := by
        rw [List.map_append, List.map_singleton, ← List.concat_eq_append]
        exact db.kinds_unique.concat hkind
      runs_present := List.forall_mem_append.mpr ⟨db.runs_present, by simpa using hrun⟩ }
  else .error (.integrityError "FOREIGN KEY constraint failed")

def insertEvent (runId : String) (columns : EventColumns) : Result ConvergenceDatabase := do
  let offsetMs ← bindInteger columns.offsetMs
  let routeMetric ← bindNullable columns.routeMetric
  let icmpSequence ← bindNullable columns.icmpSequence
  db.insertBoundEvent runId ⟨columns.kind, offsetMs, columns.observedAt, routeMetric, icmpSequence⟩

end ConvergenceDatabase

def ConvergenceRun.columns (run : ConvergenceRun) : RunColumns :=
  ⟨run.id, run.profile, run.source, run.target, run.startedAt.isoformat⟩

def ConvergenceEvent.columns (event : ConvergenceEvent) : EventColumns :=
  ⟨event.kind.value, event.offsetMs, event.observedAt.isoformat, event.routeMetric, event.icmpSequence⟩

structure SQLiteConvergenceStore where
  capacity : ℕ
  database : ConvergenceDatabase

namespace SQLiteConvergenceStore

def init (database : ConvergenceDatabase) (capacity : ℕ) : Result SQLiteConvergenceStore :=
  if capacity < 1 then .error (.valueError "convergence store capacity must be positive")
  else do
    let database ← database.prune capacity
    return ⟨capacity, database⟩

variable (fromisoformat : String → Result OffsetDateTime) (store : SQLiteConvergenceStore)

def decodeEvent (row : EventColumns) : Result ConvergenceEvent := do
  let kind ← ConvergenceEventKind.ofValue row.kind
  let observedAt ← fromisoformat row.observedAt
  return ⟨kind, row.offsetMs, observedAt, row.routeMetric, row.icmpSequence⟩

def load (runId : String) : Result ConvergenceRun :=
  match store.database.selectRun runId with
  | none => .error (runNotFound runId)
  | some row => do
    let startedAt ← fromisoformat row.startedAt
    let events ← (store.database.selectEvents runId).mapM fun event =>
      decodeEvent fromisoformat event.toEventColumns
    return ⟨row.id, row.profile, row.source, row.target, startedAt, events⟩

/-- The transaction of `create_run`. One that raises is rolled back. -/
def insert (run : ConvergenceRun) : Result (ConvergenceRun × SQLiteConvergenceStore) := do
  let database ← store.database.insertRun run.columns
  let database ← database.prune store.capacity
  return (run, ⟨store.capacity, database⟩)

def createRun (profile source target : String) (startedAt : Option OffsetDateTime) (now : DateTime)
    (hex : String) :
    Result (ConvergenceRun × SQLiteConvergenceStore) := do
  let run ← newRun profile source target startedAt now hex
  store.insert run

def appendEvent (runId : String) (event : ConvergenceEvent) :
    Result (ConvergenceRun × SQLiteConvergenceStore) := do
  let run ← store.load fromisoformat runId
  validateEvent run event
  let database ← store.database.insertEvent runId event.columns
  return (run.append event, ⟨store.capacity, database⟩)

def get (runId : String) : Result ConvergenceRun := store.load fromisoformat runId

def latest : Result (Option ConvergenceRun) :=
  match store.database.newestRuns.head? with
  | none => .ok none
  | some row => some <$> store.load fromisoformat row.id

def step : ConvergenceCall → Result ConvergenceAnswer × SQLiteConvergenceStore
  | .createRun request now hex =>
    answerRun store (store.createRun request.profile request.source request.target request.startedAt now hex)
  | .appendEvent runId request now =>
    answerRun store (store.appendEvent fromisoformat runId (request.toEvent now))
  | .get runId => (.run <$> store.get fromisoformat runId, store)
  | .latest => (.latest <$> store.latest fromisoformat, store)

end SQLiteConvergenceStore

end TelconetSentinel
