import TelconetSentinel.LinkImpact
import TelconetSentinel.Library.KeyedLists
import TelconetSentinel.Library.Simulation

namespace TelconetSentinel

open FallibleLists KeyedLists Simulation

inductive IncidentStatus
  | analyzed
  | awaitingApproval
  | approved
  | resolved
  deriving DecidableEq, Repr

structure RecoveryPlan where
  incidentId : String
  action : String
  target : String
  status : IncidentStatus := .awaitingApproval
  deriving DecidableEq, Repr

structure Incident where
  id : String
  fingerprint : String
  event : NetworkEvent
  analysis : ImpactAnalysis
  recoveryPlan : RecoveryPlan
  deriving DecidableEq, Repr

def createRecoveryPlan (T : Topology) (incidentId action target : String) : Result RecoveryPlan :=
  if action ≠ "restore_link" then .error (.valueError "action is not allowed")
  else do
    let _ ← T.link target
    return { incidentId, action, target }

def approveRecovery (plan : RecoveryPlan) : Result RecoveryPlan :=
  if plan.status ≠ .awaitingApproval then .error (.valueError "recovery plan is not awaiting approval")
  else .ok { plan with status := .approved }

structure EventRequest where
  eventType : String
  linkId : String
  eventType_pattern : 1 ≤ eventType.toList.length ∧ eventType.toList.length ≤ 32 ∧
    ∀ c ∈ eventType.toList, isLower c ∨ c = '_'
  linkId_pattern : 1 ≤ linkId.toList.length ∧ linkId.toList.length ≤ 128 ∧
    ∀ c ∈ linkId.toList, isLower c ∨ isDigit c ∨ c = '-'

def EventRequest.toEvent (request : EventRequest) : NetworkEvent := ⟨request.linkId, request.eventType⟩

def fingerprintText (event : NetworkEvent) : String := s!"{event.eventType}:{event.linkId}"

def newIncidentId (hex : String) : String := "inc-" ++ String.ofList (hex.toList.take 12)

def newIncident (T : Topology) (fingerprint : String) (event : NetworkEvent) (hex : String) :
    Result Incident := do
  let analysis ← T.analyzeLinkDown event
  let incidentId := newIncidentId hex
  let plan ← createRecoveryPlan T incidentId "restore_link" analysis.failedComponent
  return ⟨incidentId, fingerprint, event, analysis, plan⟩

/-- The three dictionaries. The clock's readings are of any type that is subtracted and compared. -/
structure IncidentIndexes (τ : Type) where
  incidents : Dict Incident.id
  idByFingerprint : Dict (Prod.fst : String × String → String)
  lastSeen : Dict (Prod.fst : String × τ → String)

structure IncidentService (τ : Type) extends IncidentIndexes τ where
  topology : Topology
  /-- `dedup_window.total_seconds()` -/
  dedupWindow : τ
  maxIncidents : ℕ
  maxIncidents_pos : 0 < maxIncidents

def incidentNotFound (incidentId : String) : Exn := .keyError s!"incident not found: {incidentId}"

namespace IncidentService

variable {τ : Type} (service : IncidentService τ)

def get (incidentId : String) : Result Incident :=
  match service.incidents.get incidentId with
  | none => .error (incidentNotFound incidentId)
  | some incident => .ok incident

def approve (incidentId : String) : Result Incident × IncidentService τ :=
  match service.get incidentId with
  | .error e => (.error e, service)
  | .ok incident =>
    match approveRecovery incident.recoveryPlan with
    | .error e => (.error e, service)
    | .ok plan =>
      let approved := { incident with recoveryPlan := plan }
      (.ok approved, { service with incidents := service.incidents.assign approved })

theorem get_ok_iff (incidentId : String) (incident : Incident) :
    service.get incidentId = .ok incident ↔ incident ∈ service.incidents.values ∧
    incident.id = incidentId := by
  rw [← Dict.get_some_iff, IncidentService.get]
  cases service.incidents.get incidentId with
  | none => simp
  | some found => simp

end IncidentService

section

variable {τ : Type} [Sub τ] [Zero τ] [LE τ] [DecidableRel (fun a b : τ => a ≤ b)]

def IncidentService.init (T : Topology) (dedupWindow : τ) (maxIncidents : ℕ) : Result (IncidentService τ) :=
  if dedupWindow ≤ 0 then .error (.valueError "dedup window must be positive")
  else if h : maxIncidents = 0 then .error (.valueError "max incidents must be positive")
  else .ok ⟨⟨.empty _, .empty _, .empty _⟩, T, dedupWindow, maxIncidents, Nat.pos_of_ne_zero h⟩

/-- The eviction loop. One that raises leaves the dictionaries as they are then. -/
def IncidentIndexes.evict (maxIncidents : ℕ) : ℕ → IncidentIndexes τ → Result Unit × IncidentIndexes τ
  | 0, s => (if s.incidents.values.length > maxIncidents then .error .nontermination else .ok (), s)
  | rounds + 1, s =>
    if s.incidents.values.length > maxIncidents then
      match s.incidents.values with
      | [] => (.error (.keyError "dictionary is empty"), s)
      | evicted :: _ =>
        let popped := { s with incidents := s.incidents.erase evicted.id }
        if s.idByFingerprint.get evicted.fingerprint = some (evicted.fingerprint, evicted.id) then
          let unindexed := { popped with idByFingerprint := s.idByFingerprint.erase evicted.fingerprint }
          if evicted.fingerprint ∈ s.lastSeen.keys then
            evict maxIncidents rounds { unindexed with lastSeen := s.lastSeen.erase evicted.fingerprint }
          else (.error (.keyError evicted.fingerprint), unindexed)
        else evict maxIncidents rounds popped
    else (.ok (), s)

namespace IncidentService

variable (service : IncidentService τ) (sha256 : String → String)

def openIncident (fingerprint : String) (receivedAt : τ) : Result (Option Incident) :=
  match service.idByFingerprint.get fingerprint with
  | none => .ok none
  | some (_, existingId) =>
    match service.incidents.get existingId with
    | none => .error (.keyError existingId)
    | some existing =>
      match service.lastSeen.get fingerprint with
      | none => .error (.keyError fingerprint)
      | some (_, seenAt) =>
        let elapsed := receivedAt - seenAt
        .ok (if existing.recoveryPlan.status = .awaitingApproval ∧ 0 ≤ elapsed ∧
          elapsed ≤ service.dedupWindow then
          some existing
        else none)

def merge (fingerprint : String) (receivedAt : τ) : IncidentService τ :=
  { service with lastSeen := service.lastSeen.assign (fingerprint, receivedAt) }

def store (incident : Incident) (receivedAt : τ) : IncidentIndexes τ where
  incidents := service.incidents.assign incident
  idByFingerprint := service.idByFingerprint.assign (incident.fingerprint, incident.id)
  lastSeen := service.lastSeen.assign (incident.fingerprint, receivedAt)

def insert (incident : Incident) (receivedAt : τ) : Result Incident × IncidentService τ :=
  let stored := service.store incident receivedAt
  let (eviction, indexes) := IncidentIndexes.evict service.maxIncidents stored.incidents.values.length stored
  (eviction.map fun _ => incident, { service with toIncidentIndexes := indexes })

def ingest (event : NetworkEvent) (receivedAt : τ) (hex : String) : Result Incident × IncidentService τ :=
  let fingerprint := sha256 (fingerprintText event)
  match service.openIncident fingerprint receivedAt with
  | .error e => (.error e, service)
  | .ok (some existing) => (.ok existing, service.merge fingerprint receivedAt)
  | .ok none =>
    match newIncident service.topology fingerprint event hex with
    | .error e => (.error e, service)
    | .ok incident => service.insert incident receivedAt

end IncidentService

inductive IncidentCall (τ : Type)
  | ingest (event : NetworkEvent) (receivedAt : τ) (hex : String)
  | approve (incidentId : String)

namespace IncidentService

variable (sha256 : String → String) (service : IncidentService τ)

def step : IncidentCall τ → Result Incident × IncidentService τ
  | .ingest event receivedAt hex => service.ingest sha256 event receivedAt hex
  | .approve incidentId => service.approve incidentId

def makes : IncidentCall τ → Option Incident
  | .ingest event receivedAt hex =>
    match service.openIncident (sha256 (fingerprintText event)) receivedAt with
    | .ok none => (newIncident service.topology (sha256 (fingerprintText event)) event hex).toOption
    | _ => none
  | .approve _ => none

def created : IncidentService τ → List (IncidentCall τ) → List String
  | _, [] => []
  | service, call :: calls =>
    ((service.makes sha256 call).map Incident.id).toList ++ created (service.step sha256 call).2 calls

theorem created_append (calls calls' : List (IncidentCall τ)) : service.created sha256 (calls ++ calls') =
    service.created sha256 calls ++ (final (step sha256) service calls).created sha256 calls' := by
  induction calls generalizing service with
  | nil => rfl
  | cons call calls ih => rw [List.cons_append, created, ih, created, List.append_assoc]; rfl

theorem created_concat (calls : List (IncidentCall τ)) (call : IncidentCall τ) :
    service.created sha256 (calls ++ [call]) = service.created sha256 calls ++
      (((final (step sha256) service calls).makes sha256 call).map Incident.id).toList := by
  rw [created_append, created, created, List.append_nil]

end IncidentService

end

end TelconetSentinel
