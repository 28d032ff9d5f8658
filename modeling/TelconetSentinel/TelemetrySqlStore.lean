import TelconetSentinel.Library.FallibleLists
import TelconetSentinel.Library.Simulation
import TelconetSentinel.TelemetryStore

namespace TelconetSentinel

open FallibleLists KeyedLists TopRetention Simulation

structure SnapshotCodec where
  modelDumpJson : TelemetrySnapshot → String
  modelValidateJson : String → Result TelemetrySnapshot

structure SnapshotRow where
  snapshotId : String
  observedAt : String
  payload : String
  deriving DecidableEq

def SnapshotRow.orderKey (row : SnapshotRow) : String ×ₗ String := toLex (row.observedAt, row.snapshotId)

structure SnapshotTable where
  rows : List SnapshotRow
  primary_key : (rows.map SnapshotRow.snapshotId).Nodup
  deriving DecidableEq

namespace SnapshotTable

def empty : SnapshotTable := ⟨[], List.nodup_nil⟩

variable (table : SnapshotTable)

def select (snapshotId : String) : Option SnapshotRow := lookup SnapshotRow.snapshotId table.rows snapshotId

/-- `ORDER BY observed_at DESC, snapshot_id DESC` -/
def newestFirst : List SnapshotRow := descending SnapshotRow.orderKey table.rows

/-- `ORDER BY observed_at ASC, snapshot_id ASC LIMIT 1` -/
def oldest : Option SnapshotRow := (table.rows.insertionSort fun r s => r.orderKey ≤ s.orderKey).head?

def insert (row : SnapshotRow) : Result SnapshotTable :=
  if h : row.snapshotId ∈ table.rows.map SnapshotRow.snapshotId then
    .error (.integrityError "UNIQUE constraint failed: telemetry_snapshots.snapshot_id")
  else
    .ok ⟨table.rows ++ [row], by
      rw [List.map_append, List.map_singleton, ← List.concat_eq_append]
      exact table.primary_key.concat h⟩

def prune (capacity : ℕ) : Result SnapshotTable := do
  let limit ← bindInteger capacity
  return ⟨table.rows.filter fun row => row.snapshotId ∈
    (table.newestFirst.take limit.toNat).map SnapshotRow.snapshotId,
    table.primary_key.sublist (List.filter_sublist.map _)⟩

end SnapshotTable

structure SQLiteTelemetryStore where
  capacity : ℕ
  table : SnapshotTable
  deriving DecidableEq

def SnapshotCodec.row (codec : SnapshotCodec) (snapshot : TelemetrySnapshot) : SnapshotRow :=
  ⟨snapshot.snapshotId, snapshot.observedAt.isoformat, codec.modelDumpJson snapshot⟩

namespace SQLiteTelemetryStore

def init (table : SnapshotTable) (capacity : ℕ) : Result SQLiteTelemetryStore :=
  if capacity < 1 then .error (.valueError "telemetry store capacity must be positive")
  else do
    let table ← table.prune capacity
    return ⟨capacity, table⟩

variable (codec : SnapshotCodec) (store : SQLiteTelemetryStore)

def rejectsAsOld (snapshot : TelemetrySnapshot) : Result Bool :=
  if store.table.rows.length ≥ store.capacity then
    match store.table.oldest with
    | none => .error .assertionError
    | some oldest => .ok (decide (toLex (snapshot.observedAt.isoformat, snapshot.snapshotId) ≤
      oldest.orderKey))
  else .ok false

/-- The transaction of `save`. One that raises is rolled back. -/
def save (snapshot : TelemetrySnapshot) : Result (Bool × SQLiteTelemetryStore) :=
  match store.table.select snapshot.snapshotId with
  | some row => do
    let existing ← codec.modelValidateJson row.payload
    if existing ≠ snapshot then .error TelemetryStore.conflict else return (false, store)
  | none => do
    let old ← store.rejectsAsOld snapshot
    if old then return (false, store)
    else do
      let table ← store.table.insert (codec.row snapshot)
      let table ← table.prune store.capacity
      return (true, ⟨store.capacity, table⟩)

def loadRecent (limit : ℕ) (topologyFingerprint : Option String) : Result (List TelemetrySnapshot) := do
  let snapshots ← store.table.newestFirst.mapM fun row => codec.modelValidateJson row.payload
  return (TelemetryStore.matching topologyFingerprint snapshots).take limit

def latest (topologyFingerprint : Option String := none) : Result (Option TelemetrySnapshot) := do
  let snapshots ← store.loadRecent codec 1 topologyFingerprint
  return snapshots.head?

def recent (topologyFingerprint : Option String := none) : Result (List TelemetrySnapshot) :=
  store.loadRecent codec store.capacity topologyFingerprint

end SQLiteTelemetryStore

inductive TelemetryCall
  | save (snapshot : TelemetrySnapshot)
  | latest (topologyFingerprint : Option String)
  | recent (topologyFingerprint : Option String)

inductive TelemetryAnswer
  | saved (created : Bool)
  | latest (snapshot : Option TelemetrySnapshot)
  | recent (snapshots : List TelemetrySnapshot)
  deriving DecidableEq

def answerSave {σ : Type} (s : σ) (r : Result (Bool × σ)) : Result TelemetryAnswer × σ :=
  match r with
  | .ok (created, s') => (.ok (.saved created), s')
  | .error e => (.error e, s)

def TelemetryStore.step (store : TelemetryStore) : TelemetryCall → Result TelemetryAnswer × TelemetryStore
  | .save snapshot => answerSave store (store.save snapshot)
  | .latest topologyFingerprint => (.ok (.latest (store.latest topologyFingerprint)), store)
  | .recent topologyFingerprint => (.ok (.recent (store.recent topologyFingerprint)), store)

def SQLiteTelemetryStore.step (codec : SnapshotCodec) (store : SQLiteTelemetryStore) :
    TelemetryCall → Result TelemetryAnswer × SQLiteTelemetryStore
  | .save snapshot => answerSave store (store.save codec snapshot)
  | .latest topologyFingerprint => (.latest <$> store.latest codec topologyFingerprint, store)
  | .recent topologyFingerprint => (.recent <$> store.recent codec topologyFingerprint, store)

end TelconetSentinel
