import TelconetSentinel.Library.Interleaving
import TelconetSentinel.TelemetryConfig
import TelconetSentinel.TelemetryStore

namespace TelconetSentinel

open KeyedLists TopRetention Interleaving

inductive IngestAnswer
  | created (snapshot : TelemetrySnapshot)
  | retained (snapshot : TelemetrySnapshot)
  | conflict (detail : String)
  | failed (e : Exn)
  deriving DecidableEq

def IngestAnswer.status : IngestAnswer → ℕ
  | .created _ => 201
  | .retained _ => 200
  | .conflict _ => 409
  | .failed _ => 500

/-- Where a request stands: what it does next is the validation, `latest`, `save`, `recent` or nothing. -/
inductive IngestPhase
  | received
  | validated
  | checked
  | refused
  | answered (answer : IngestAnswer)
  deriving DecidableEq

/-- `except ValueError`: every other exception leaves the handler. -/
def answerError : Exn → IngestAnswer
  | .valueError detail => .conflict detail
  | e => .failed e

def NotNewer (latest : Option TelemetrySnapshot) (snapshot : TelemetrySnapshot) : Prop :=
  ∃ current ∈ latest, current.snapshotId ≠ snapshot.snapshotId ∧ snapshot.observedAt ≤ current.observedAt

instance (latest : Option TelemetrySnapshot) (snapshot : TelemetrySnapshot) :
    Decidable (NotNewer latest snapshot) :=
  inferInstanceAs (Decidable (∃ current ∈ latest, _))

def RetainedRetry (recent : List TelemetrySnapshot) (snapshot : TelemetrySnapshot) : Prop :=
  ∃ candidate ∈ recent, candidate.snapshotId = snapshot.snapshotId

instance (recent : List TelemetrySnapshot) (snapshot : TelemetrySnapshot) :
    Decidable (RetainedRetry recent snapshot) :=
  inferInstanceAs (Decidable (∃ candidate ∈ recent, _))

def afterValidation : Result Unit → IngestPhase
  | .ok () => .validated
  | .error e => .answered (answerError e)

/-- `ingest_telemetry_snapshot`, cut at its calls of the repository. -/
def ingestStep (binding : TelemetryTopologyBinding) (snapshot : TelemetrySnapshot) (serverNow : DateTime)
    (phase : IngestPhase) (store : TelemetryStore) : IngestPhase × TelemetryStore :=
  match phase with
  | .received => (afterValidation (validateTelemetryIngest snapshot binding serverNow), store)
  | .validated =>
    if NotNewer (store.latest binding.fingerprint) snapshot then
      (.answered (.conflict "telemetry snapshot is not newer than the current snapshot"), store)
    else (.checked, store)
  | .checked =>
    match store.save snapshot with
    | .error e => (.answered (answerError e), store)
    | .ok (true, store') => (.answered (.created snapshot), store')
    | .ok (false, store') => (.refused, store')
  | .refused =>
    if RetainedRetry (store.recent binding.fingerprint) snapshot then (.answered (.retained snapshot), store)
    else (.answered (.conflict "telemetry snapshot is outside the retention window"), store)
  | .answered answer => (.answered answer, store)

inductive IngestStepped (binding : TelemetryTopologyBinding) (snapshot : TelemetrySnapshot)
    (serverNow : DateTime) :
    IngestPhase → TelemetryStore → IngestPhase → TelemetryStore → Prop
  | invalid (store : TelemetryStore) (e : Exn)
    (h : validateTelemetryIngest snapshot binding serverNow = .error e) :
    IngestStepped binding snapshot serverNow .received store (.answered (answerError e)) store
  | valid (store : TelemetryStore) (h : validateTelemetryIngest snapshot binding serverNow = .ok ()) :
    IngestStepped binding snapshot serverNow .received store .validated store
  | notNewer (store : TelemetryStore) (h : NotNewer (store.latest binding.fingerprint) snapshot) :
    IngestStepped binding snapshot serverNow .validated store
      (.answered (.conflict "telemetry snapshot is not newer than the current snapshot")) store
  | newer (store : TelemetryStore) (h : ¬ NotNewer (store.latest binding.fingerprint) snapshot) :
    IngestStepped binding snapshot serverNow .validated store .checked store
  | differs (store : TelemetryStore) (existing : TelemetrySnapshot) (hmem : existing ∈ store.snapshots)
    (hid : existing.snapshotId = snapshot.snapshotId) (hne : existing ≠ snapshot) :
    IngestStepped binding snapshot serverNow .checked store (.answered (answerError TelemetryStore.conflict))
    store
  | repeated (store : TelemetryStore) (h : snapshot ∈ store.snapshots) :
    IngestStepped binding snapshot serverNow .checked store .refused store
  | tooOld (store : TelemetryStore)
    (hnew : snapshot.snapshotId ∉ store.snapshots.map TelemetrySnapshot.snapshotId)
    (h : store.TooOld snapshot) : IngestStepped binding snapshot serverNow .checked store .refused store
  | saved (store : TelemetryStore)
    (hnew : snapshot.snapshotId ∉ store.snapshots.map TelemetrySnapshot.snapshotId)
    (h : ¬ store.TooOld snapshot) :
    IngestStepped binding snapshot serverNow .checked store (.answered (.created snapshot))
      (store.insert snapshot hnew)
  | retry (store : TelemetryStore) (h : RetainedRetry (store.recent binding.fingerprint) snapshot) :
    IngestStepped binding snapshot serverNow .refused store (.answered (.retained snapshot)) store
  | outside (store : TelemetryStore) (h : ¬ RetainedRetry (store.recent binding.fingerprint) snapshot) :
    IngestStepped binding snapshot serverNow .refused store
      (.answered (.conflict "telemetry snapshot is outside the retention window")) store
  | finished (store : TelemetryStore) (answer : IngestAnswer) :
    IngestStepped binding snapshot serverNow (.answered answer) store (.answered answer) store

theorem ingestStep_stepped (binding : TelemetryTopologyBinding) (snapshot : TelemetrySnapshot)
    (serverNow : DateTime) (phase : IngestPhase) (store : TelemetryStore) :
    IngestStepped binding snapshot serverNow phase store (ingestStep binding snapshot serverNow phase store).1
      (ingestStep binding snapshot serverNow phase store).2 := by
  cases phase with
  | received =>
    cases h : validateTelemetryIngest snapshot binding serverNow with
    | error e =>
      rw [ingestStep, h]
      exact .invalid store e h
    | ok _ =>
      rw [ingestStep, h]
      exact .valid store h
  | validated =>
    unfold ingestStep
    by_cases h : NotNewer (store.latest binding.fingerprint) snapshot
    · simp only [if_pos h]
      exact .notNewer store h
    · simp only [if_neg h]
      exact .newer store h
  | checked =>
    unfold ingestStep
    rcases store.save_cases snapshot with ⟨s, hm, hid, hne, hr⟩ | ⟨hm, hr⟩ | ⟨hnew, hold, hr⟩ | ⟨hnew, hold,
      hr⟩
    · simp only [hr]
      exact .differs store s hm hid hne
    · simp only [hr]
      exact .repeated store hm
    · simp only [hr]
      exact .tooOld store hnew hold
    · simp only [hr]
      exact .saved store hnew hold
  | refused =>
    unfold ingestStep
    by_cases h : RetainedRetry (store.recent binding.fingerprint) snapshot
    · simp only [if_pos h]
      exact .retry store h
    · simp only [if_neg h]
      exact .outside store h
  | answered answer => exact .finished store answer

def ingestStart {ι : Type} (store : TelemetryStore) : Config ι IngestPhase TelemetryStore :=
  ⟨fun _ => .received, store⟩

def ingestAll {ι : Type} (binding : TelemetryTopologyBinding) (submitted : ι → TelemetrySnapshot)
    (clock : ι → DateTime) (i : ι) (phase : IngestPhase) (store : TelemetryStore) :
    IngestPhase × TelemetryStore :=
  ingestStep binding (submitted i) (clock i) phase store

end TelconetSentinel
