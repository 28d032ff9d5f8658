import TelconetSentinel.ExperimentSeries
import TelconetSentinel.IncidentService
import TelconetSentinel.LiveMetrics
import TelconetSentinel.ResilienceMetrics
import TelconetSentinel.TelemetryIngest
import TelconetSentinel.TelemetryText

namespace TelconetSentinel

open DocumentValues FallibleLists KeyedLists

def IncidentStatus.value : IncidentStatus → String
  | analyzed => "analyzed"
  | awaitingApproval => "awaiting_approval"
  | approved => "approved"
  | resolved => "resolved"

def RunStatus.value : RunStatus → String
  | complete => "complete"
  | collecting => "collecting"

section PublishedTopology

variable (digest : TopologyDocument → String)

def Topology.expectedScenarioIds (T : Topology) : Result (Finset String) := do
  let links ← T.linkFailureScenarios
  let nodes ← T.transportNodeFailureScenarios
  return ((links ++ nodes).map FaultScenario.id).toFinset

def validateRuntimeN1PublishedTopology (evidence : RuntimeN1Publication) (T : Topology)
    (runtimeConfigurationSha256 : String) : Result Unit :=
  if T.fingerprint digest ≠ evidence.topologySha256 then
    .error (.valueError "published runtime N-1 evidence does not match candidate intent")
  else if runtimeConfigurationSha256 ≠ evidence.runtimeConfigurationSha256 then
    .error (.valueError "published runtime N-1 runtime configuration does not match current files")
  else do
    let expected ← T.expectedScenarioIds
    if (evidence.scenarios.map RuntimeN1PublishedScenario.scenarioId).toFinset ≠ expected then
      .error (.valueError "published runtime N-1 scenario matrix does not match candidate intent")
    else return

end PublishedTopology

namespace Api

structure Arguments where
  topology : Topology
  experimentEvidence : Option Value := none
  repeatedExperimentEvidence : Option Value := none
  convergenceStore : Option ConvergenceStore := none
  candidateTopology : Option Topology := none
  failureDomains : Option FailureDomainCatalog := none
  runtimeN1Evidence : Option RuntimeN1Publication := none
  runtimeN1ConfigurationSha256 : Option String := none
  telemetryBinding : Option TelemetryTopologyBinding := none
  telemetryStore : Option TelemetryStore := none

/-- What the handlers share and none of them changes. -/
structure App extends Arguments where
  resilienceAudit : ResilienceAudit
  nodeResilienceAudit : NodeResilienceAudit
  candidateAudit : Option ResilienceAudit
  candidateNodeAudit : Option NodeResilienceAudit
  failureDomainAudit : Option FailureDomainAudit

/-- What the handlers read and write. Without a binding no handler reaches the telemetry store. The store of
runs hands out the runs themselves, which a handler can go on reading when the store has dropped them. -/
structure State (τ : Type) where
  service : IncidentService τ
  liveStore : ConvergenceStore
  runObjects : Dict ConvergenceRun.id
  telemetryStore : TelemetryStore

def validateRuntimeEvidence (digest : TopologyDocument → String) (arguments : Arguments) : Result Unit :=
  match arguments.runtimeN1Evidence with
  | none => .ok ()
  | some evidence =>
    match arguments.candidateTopology, arguments.runtimeN1ConfigurationSha256 with
    | none, _ => .error (.valueError "runtime N-1 evidence requires the candidate topology")
    | some _, none => .error (.valueError "runtime N-1 evidence requires the runtime configuration")
    | some candidate, some sha256 => validateRuntimeN1PublishedTopology digest evidence candidate sha256

/-- `None if argument is None else f(argument)` -/
def optionally {α β : Type} (f : α → Result β) : Option α → Result (Option β)
  | none => .ok none
  | some a => (f a).map some

def auditDomains (digest : TopologyDocument → String) (arguments : Arguments) :
    Result (Option FailureDomainAudit) :=
  match arguments.candidateTopology, arguments.failureDomains with
  | some candidate, some catalog => (candidate.auditFailureDomains digest catalog).map some
  | _, _ => .ok none

/-- The deduplication window stands for a minute of the clock. -/
def createApp {τ : Type} [Zero τ] [LE τ] [DecidableRel (fun a b : τ => a ≤ b)]
    (digest : TopologyDocument → String) (dedupWindow : τ) (arguments : Arguments) :
    Result (App × State τ) := do
  let _ ← optionally validateExperimentEvidence arguments.experimentEvidence
  let _ ← optionally validateRepeatedExperimentEvidence arguments.repeatedExperimentEvidence
  validateRuntimeEvidence digest arguments
  if arguments.telemetryStore.isSome ∧ arguments.telemetryBinding.isNone then
    .error (.valueError "telemetry storage requires a server-side topology binding")
  else do
    let service ← IncidentService.init arguments.topology dedupWindow 1000
    let liveStore ← arguments.convergenceStore.elim (ConvergenceStore.init 20) .ok
    let telemetryStore ← arguments.telemetryStore.elim (TelemetryStore.init 120) .ok
    let resilienceAudit ← arguments.topology.auditSingleLinkFailures
    let nodeResilienceAudit ← arguments.topology.auditSingleNodeFailures
    let candidateAudit ← optionally Topology.auditSingleLinkFailures arguments.candidateTopology
    let candidateNodeAudit ← optionally Topology.auditSingleNodeFailures arguments.candidateTopology
    let failureDomainAudit ← auditDomains digest arguments
    return (⟨arguments, resilienceAudit, nodeResilienceAudit, candidateAudit, candidateNodeAudit,
      failureDomainAudit⟩, ⟨service, liveStore, liveStore.runs, telemetryStore⟩)

section Responses

structure RecoveryActionResponse where
  action : String
  target : String
  deriving DecidableEq

structure IncidentResponse where
  id : String
  failedComponent : String
  evidence : List String
  affectedNodes : List String
  affectedPrefixes : List String
  serviceImpact : String
  recommendedAction : RecoveryActionResponse
  status : String
  deriving DecidableEq

def incidentResponse (incident : Incident) : IncidentResponse where
  id := incident.id
  failedComponent := incident.analysis.failedComponent
  evidence := incident.analysis.evidence
  affectedNodes := incident.analysis.affectedNodes
  affectedPrefixes := incident.analysis.affectedPrefixes
  serviceImpact := incident.analysis.serviceImpact.value
  recommendedAction := ⟨incident.recoveryPlan.action, incident.recoveryPlan.target⟩
  status := incident.recoveryPlan.status.value

structure ConvergenceRunResponse where
  id : String
  profile : String
  source : String
  target : String
  startedAt : OffsetDateTime
  status : String
  events : List ConvergenceEvent
  deriving DecidableEq

def convergenceResponse (run : ConvergenceRun) : Result ConvergenceRunResponse := do
  let status ← run.status
  return ⟨run.id, run.profile, run.source, run.target, run.startedAt, status.value, run.events⟩

structure ResilienceSummaryResponse where
  total : ℕ
  outage : ℕ
  degraded : ℕ
  redundancyReduced : ℕ
  deriving DecidableEq

structure ResilienceAuditResponse where
  scope : String
  passesNMinusOne : Bool
  summary : ResilienceSummaryResponse
  scenarios : List (String × List String × String × List String × List String)
  deriving DecidableEq

def resilienceResponse (audit : ResilienceAudit) : ResilienceAuditResponse where
  scope := "single_link_failure"
  passesNMinusOne := audit.passesNMinusOne
  summary := ⟨audit.totalScenarios, audit.count .outage, audit.count .degraded,
    audit.count .redundancyReduced⟩
  scenarios := audit.scenarios.map fun scenario =>
    (scenario.linkId, [scenario.endpoints.1, scenario.endpoints.2],
    scenario.serviceImpact.value, scenario.affectedNodes, scenario.affectedPrefixes)

structure NodeResilienceAuditResponse where
  scope : String
  passesNMinusOne : Bool
  summary : ResilienceSummaryResponse
  scenarios : List (String × String × String × List String × List String)
  deriving DecidableEq

def nodeResilienceResponse (audit : NodeResilienceAudit) : NodeResilienceAuditResponse where
  scope := "single_transport_node_failure"
  passesNMinusOne := audit.passesNMinusOne
  summary := ⟨audit.totalScenarios, audit.count .outage, audit.count .degraded,
    audit.count .redundancyReduced⟩
  scenarios := audit.scenarios.map fun scenario =>
    (scenario.nodeName, scenario.role.value, scenario.serviceImpact.value,
    scenario.affectedNodes, scenario.affectedPrefixes)

structure FailureDomainScenarioResponse where
  domainId : String
  domainType : String
  excludedLinks : List String
  excludedNodes : List String
  serviceImpact : String
  affectedNodes : List String
  affectedPrefixes : List String
  paths : List AccessPathResult
  deriving DecidableEq

structure FailureDomainAuditResponse where
  scope : String
  design : String
  passesAll : Bool
  summary : ResilienceSummaryResponse
  scenarios : List FailureDomainScenarioResponse
  deriving DecidableEq

def failureDomainResponse (audit : FailureDomainAudit) : FailureDomainAuditResponse where
  scope := "shared_risk_failure_domain"
  design := audit.design
  passesAll := audit.passesAll
  summary := ⟨audit.totalScenarios, audit.count .outage, audit.count .degraded,
    audit.count .redundancyReduced⟩
  scenarios := audit.scenarios.map fun scenario =>
    ⟨scenario.domainId, scenario.domainType.value, scenario.excludedLinks, scenario.excludedNodes,
      scenario.serviceImpact.value, scenario.affectedNodes, scenario.affectedPrefixes, scenario.paths⟩

structure TopologyResponse where
  nodes : List (String × String × List String)
  links : List Link
  deriving DecidableEq

def topologyResponse (T : Topology) : TopologyResponse :=
  ⟨T.nodes.map fun node => (node.name, node.role.value, node.prefixes), T.links⟩

/-- The `detail` of an error. `str` of a `KeyError` puts the message in quotes. -/
inductive Detail
  | text (message : String)
  | quoted (message : String)
  deriving DecidableEq

inductive Body
  | status (text : String)
  | metrics (text : String)
  | topology (topology : TopologyResponse)
  | links (audit : ResilienceAuditResponse)
  | nodes (audit : NodeResilienceAuditResponse)
  | domains (audit : FailureDomainAuditResponse)
  | run (run : ConvergenceRunResponse)
  | incident (incident : IncidentResponse)
  | snapshot (snapshot : TelemetrySnapshot)
  | error (detail : Detail)
  | internalError
  deriving DecidableEq

structure Response where
  status : ℕ
  body : Body
  deriving DecidableEq

def internalError : Response := ⟨500, .internalError⟩

def httpException (status : ℕ) (detail : String) : Response := ⟨status, .error (.text detail)⟩

def failure (keyError valueError : Option ℕ) : Exn → Response
  | .keyError message => keyError.elim internalError fun status => ⟨status, .error (.quoted message)⟩
  | .valueError message => valueError.elim internalError fun status => httpException status message
  | _ => internalError

def orFailure (keyError valueError : Option ℕ) : Result Response → Response
  | .ok response => response
  | .error e => failure keyError valueError e

end Responses

section Handlers

inductive Request (τ : Type)
  | health
  | metrics
  | ingestTelemetrySnapshot (snapshot : TelemetrySnapshot) (serverNow : DateTime)
  | getLatestTelemetrySnapshot
  | getTopology
  | getSingleLinkFailureAudit
  | getCandidateSingleLinkFailureAudit
  | getSingleNodeFailureAudit
  | getCandidateSingleNodeFailureAudit
  | getCandidateFailureDomainAudit
  | createConvergenceRun (request : ConvergenceRunRequest) (now : DateTime) (hex : String)
  | getLatestConvergenceRun
  | getConvergenceRun (runId : String)
  | recordConvergenceEvent (runId : String) (request : ConvergenceEventRequest) (now : DateTime)
  | ingestEvent (request : EventRequest) (receivedAt : τ) (hex : String)
  | getIncident (incidentId : String)
  | approveIncident (incidentId : String)

/-- Where a request stands. Only two handlers call the stores more than once, and one of them reads the run
that it was handed in three steps of its own. -/
inductive Phase
  | received
  | found (text : String) (runId : String)
  | indexed (text : String) (run : ConvergenceRun)
  | judged (text : String) (run : ConvergenceRun) (status : RunStatus)
  | rendered (text : String)
  | ingesting (phase : IngestPhase)
  | answered (response : Response)

def renderDesigns (app : App) : Result String := do
  let baselineNodes ← renderNodeResilienceMetrics app.nodeResilienceAudit
  let candidateNodes ← optionally (renderNodeResilienceMetrics · "candidate") app.candidateNodeAudit
  return renderResilienceMetrics app.resilienceAudit ++ baselineNodes ++
    (app.candidateAudit.elim "" renderCandidateResilienceMetrics ++ candidateNodes.getD "" ++
      (app.failureDomainAudit.elim "" renderFailureDomainMetrics ++
        app.runtimeN1Evidence.elim "" renderRuntimeN1Metrics))

def renderFirst (app : App) (experiments : String) (readings : Option LiveReadings) : Result String := do
  let live ← renderLiveMetrics readings
  let designs ← renderDesigns app
  return experiments ++ live ++ designs

def metricsPage (text : String) : Phase := .answered ⟨200, .metrics text⟩

def showRun (app : App) (experiments : String) (readings : Option LiveReadings) : Phase :=
  match renderFirst app experiments readings with
  | .error _ => .answered internalError
  | .ok text => if app.telemetryBinding.isSome then .rendered text else metricsPage text

def startMetrics (app : App) (liveStore : ConvergenceStore) : Phase :=
  match app.experimentEvidence with
  | none => .answered (httpException 503 "experiment evidence is unavailable")
  | some evidence =>
    match renderExperimentMetrics evidence app.repeatedExperimentEvidence with
    | .error _ => .answered internalError
    | .ok experiments =>
      match liveStore.latest with
      | .error _ => .answered internalError
      | .ok none => showRun app experiments none
      | .ok (some run) => .found experiments run.id

def judge (text : String) (run : ConvergenceRun) : Result RunStatus → Phase
  | .error _ => .answered internalError
  | .ok status => .judged text run status

def finishMetrics (app : App) (text : String) (telemetryStore : TelemetryStore) : Phase :=
  match app.telemetryBinding with
  | none => metricsPage text
  | some binding =>
    match TelemetryMetrics.renderTelemetryMetrics TelemetryMetrics.timestampText
        (telemetryStore.latest binding.fingerprint) binding with
    | .error _ => .answered internalError
    | .ok telemetry => metricsPage (text ++ telemetry)

def ingestResponse : IngestAnswer → Response
  | .created snapshot => ⟨201, .snapshot snapshot⟩
  | .retained snapshot => ⟨200, .snapshot snapshot⟩
  | .conflict detail => httpException 409 detail
  | .failed _ => internalError

def ofIngest : IngestPhase → Phase
  | .answered answer => .answered (ingestResponse answer)
  | phase => .ingesting phase

def runAnswer (status : ℕ) (run : ConvergenceRun) : Result Response := do
  let response ← convergenceResponse run
  return ⟨status, .run response⟩

def incidentAnswer (status : ℕ) (incident : Incident) : Response :=
  ⟨status, .incident (incidentResponse incident)⟩

def available {α : Type} (detail : String) (body : α → Body) : Option α → Response
  | none => httpException 404 detail
  | some a => ⟨200, body a⟩

variable {τ : Type}

def readRun (state : State τ) (runId : String) (next : ConvergenceRun → Phase) : Phase :=
  (state.runObjects.get runId).elim (.answered internalError) next

def holdRun (runObjects : Dict ConvergenceRun.id) : Result ConvergenceRun → Dict ConvergenceRun.id
  | .error _ => runObjects
  | .ok run => runObjects.assign run

variable [Sub τ] [Zero τ] [LE τ] [DecidableRel (fun a b : τ => a ≤ b)] (sha256 : String → String) (app : App)

def answer (response : Response) (state : State τ) : Phase × State τ := (.answered response, state)

def receive (state : State τ) : Request τ → Phase × State τ
  | .health => answer ⟨200, .status "ok"⟩ state
  | .metrics => (startMetrics app state.liveStore, state)
  | .ingestTelemetrySnapshot snapshot serverNow =>
    match app.telemetryBinding with
    | none => answer (httpException 404 "Not Found") state
    | some binding =>
      let (phase, store) := ingestStep binding snapshot serverNow .received state.telemetryStore
      (ofIngest phase, { state with telemetryStore := store })
  | .getLatestTelemetrySnapshot =>
    match app.telemetryBinding with
    | none => answer (httpException 404 "Not Found") state
    | some binding =>
      answer (available "telemetry snapshot not found" .snapshot
        (state.telemetryStore.latest binding.fingerprint)) state
  | .getTopology => answer ⟨200, .topology (topologyResponse app.topology)⟩ state
  | .getSingleLinkFailureAudit => answer ⟨200, .links (resilienceResponse app.resilienceAudit)⟩ state
  | .getCandidateSingleLinkFailureAudit =>
    answer (available "candidate design is unavailable" (fun audit => .links (resilienceResponse audit))
      app.candidateAudit) state
  | .getSingleNodeFailureAudit => answer ⟨200, .nodes (nodeResilienceResponse app.nodeResilienceAudit)⟩ state
  | .getCandidateSingleNodeFailureAudit =>
    answer (available "candidate design is unavailable" (fun audit => .nodes (nodeResilienceResponse audit))
      app.candidateNodeAudit) state
  | .getCandidateFailureDomainAudit =>
    answer (available "failure-domain audit is unavailable"
      (fun audit => .domains (failureDomainResponse audit))
      app.failureDomainAudit) state
  | .createConvergenceRun request now hex =>
    let (run, liveStore) :=
      state.liveStore.createRun request.profile request.source request.target request.startedAt now hex
    answer (orFailure none none (run >>= runAnswer 201))
      { state with liveStore, runObjects := holdRun state.runObjects run }
  | .getLatestConvergenceRun =>
    match state.liveStore.latest with
    | .error e => answer (failure none none e) state
    | .ok none => answer (httpException 404 "convergence run not found") state
    | .ok (some run) => answer (orFailure none none (runAnswer 200 run)) state
  | .getConvergenceRun runId =>
    answer (orFailure (some 404) none (state.liveStore.get runId >>= runAnswer 200)) state
  | .recordConvergenceEvent runId request now =>
    match state.liveStore.appendEvent runId (request.toEvent now) with
    | .error e => answer (failure (some 404) (some 409) e) state
    | .ok (run, liveStore) =>
      answer (orFailure none none (runAnswer 201 run))
        { state with liveStore, runObjects := holdRun state.runObjects (.ok run) }
  | .ingestEvent request receivedAt hex =>
    let (incident, service) := state.service.ingest sha256 request.toEvent receivedAt hex
    answer (orFailure none (some 400) (incident.map (incidentAnswer 201))) { state with service }
  | .getIncident incidentId =>
    answer (orFailure (some 404) none ((state.service.get incidentId).map (incidentAnswer 200))) state
  | .approveIncident incidentId =>
    let (incident, service) := state.service.approve incidentId
    answer (orFailure (some 404) (some 409) (incident.map (incidentAnswer 200))) { state with service }

def resume (state : State τ) (request : Request τ) : Phase → Phase × State τ
  | .received => receive sha256 app state request
  | .found text runId => (readRun state runId fun run => .indexed text run, state)
  | .indexed text run => (readRun state run.id fun later => judge text run later.status, state)
  | .judged text run status =>
    (readRun state run.id fun later => showRun app text (some ⟨run, status, later.events⟩), state)
  | .rendered text => (finishMetrics app text state.telemetryStore, state)
  | .ingesting phase =>
    match request, app.telemetryBinding with
    | .ingestTelemetrySnapshot snapshot serverNow, some binding =>
      let (next, store) := ingestStep binding snapshot serverNow phase state.telemetryStore
      (ofIngest next, { state with telemetryStore := store })
    | _, _ => (.ingesting phase, state)
  | .answered response => (.answered response, state)

end Handlers

end Api

end TelconetSentinel
