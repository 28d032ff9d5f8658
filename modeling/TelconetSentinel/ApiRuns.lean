import TelconetSentinel.ApiErrors
import TelconetSentinel.ApiPages
import TelconetSentinel.ConvergenceEquivalence
import TelconetSentinel.IncidentIndexes
import TelconetSentinel.RetrySafety

namespace TelconetSentinel

open AllowedFailures ExpositionText FallibleLists KeyedLists RecentRetention TopRetention

namespace Api

section Stores

structure RunsSound (given : String → Prop) (store : ConvergenceStore) : Prop where
  order_eq : store.order = store.runs.keys
  ids_given : ∀ id ∈ store.runs.keys, given id
  runs : ∀ run ∈ store.runs.values, run.WellFormed ∧ run.OffsetsFit

/-- The runs that a store has handed out, among which are those that it still holds. -/
structure ObjectsSound (given : String → Prop) (store : ConvergenceStore)
    (runObjects : Dict ConvergenceRun.id) : Prop where
  held : ∀ run ∈ store.runs.values, run ∈ runObjects.values
  ids_given : ∀ id ∈ runObjects.keys, given id
  runs : ∀ run ∈ runObjects.values, run.WellFormed ∧ run.OffsetsFit

def Grown (runObjects later : Dict ConvergenceRun.id) : Prop :=
  ∀ run ∈ runObjects.values, ∃ grown ∈ later.values, run.GrownTo grown

theorem Grown.refl (runObjects : Dict ConvergenceRun.id) : Grown runObjects runObjects :=
  fun run hrun => ⟨run, hrun, .refl run⟩

theorem Grown.trans {runObjects later last : Dict ConvergenceRun.id} (h : Grown runObjects later)
    (h' : Grown later last) :
    Grown runObjects last := by
  intro run hrun
  obtain ⟨grown, hgrown, hle⟩ := h run hrun
  obtain ⟨found, hfound, hle'⟩ := h' grown hgrown
  exact ⟨found, hfound, hle.trans hle'⟩

variable {given : String → Prop} {store : ConvergenceStore} {runObjects : Dict ConvergenceRun.id}

theorem createRun_sound (h : RunsSound given store) (hobjects : ObjectsSound given store runObjects)
    (request : ConvergenceRunRequest) (now : DateTime) (hex : String) (hfresh : ¬ given (newRunId hex)) :
    ∃ store',
      store.createRun request.profile request.source request.target request.startedAt now hex =
        (.ok (request.toRun now hex), store') ∧
      RunsSound (fun id => given id ∨ newRunId hex = id) store' ∧
      ObjectsSound (fun id => given id ∨ newRunId hex = id) store'
        (runObjects.assign (request.toRun now hex)) ∧
      Grown runObjects (runObjects.assign (request.toRun now hex)) := by
  have hnew : (request.toRun now hex).id ∉ store.runs.keys := fun hmem => hfresh (h.ids_given _ hmem)
  have hmade := newRun_ok request now hex
  obtain ⟨-, hempty, hprofile⟩ := newRun_ok_cases hmade
  obtain ⟨store', hinsert, -, horder, hvalues⟩ := store.insert_fresh h.order_eq hnew
  have hstored : ∀ run ∈ store'.runs.values, run ∈ store.runs.values ∨ run = request.toRun now hex :=
    fun run hrun => mem_rtake_concat (hvalues ▸ hrun)
  have hunknown : (request.toRun now hex).id ∉ runObjects.keys :=
    fun hmem => hfresh (hobjects.ids_given _ hmem)
  have hobject : ∀ run, run ∈ (runObjects.assign (request.toRun now hex)).values ↔
      run ∈ runObjects.values ∨ run = request.toRun now hex := by
    intro run
    rw [Dict.assign_new hunknown, List.mem_append, List.mem_singleton]
  have hsound : (request.toRun now hex).WellFormed ∧ (request.toRun now hex).OffsetsFit :=
    ⟨ConvergenceRun.wellFormed_new hempty hprofile, fun event hevent =>
      absurd (hempty ▸ hevent) List.not_mem_nil⟩
  refine ⟨store', by rw [ConvergenceStore.createRun, hmade]; exact hinsert,
    ⟨horder, fun id hid => ?_, fun run hrun => ?_⟩,
    ⟨fun run hrun => (hobject run).mpr ((hstored run hrun).imp_left (hobjects.held run)), fun id hid => ?_,
    fun run hrun => ?_⟩, fun run hrun => ⟨run, (hobject run).mpr (Or.inl hrun), .refl run⟩⟩
  · obtain ⟨run, hrun, rfl⟩ := List.mem_map.mp hid
    rcases hstored run hrun with hrun | rfl
    · exact Or.inl (h.ids_given _ (List.mem_map_of_mem hrun))
    · exact Or.inr rfl
  · rcases hstored run hrun with hrun | rfl
    · exact h.runs run hrun
    · exact hsound
  · obtain ⟨run, hrun, rfl⟩ := List.mem_map.mp hid
    rcases (hobject run).mp hrun with hrun | rfl
    · exact Or.inl (hobjects.ids_given _ (List.mem_map_of_mem hrun))
    · exact Or.inr rfl
  · rcases (hobject run).mp hrun with hrun | rfl
    · exact hobjects.runs run hrun
    · exact hsound

def Answerable (e : Exn) : Prop := e.kind = .keyError ∨ e.kind = .valueError

theorem getRun_fails (store : ConvergenceStore) (runId : String) : FailsOnly (·.kind = .keyError)
    (store.get runId) := by
  unfold ConvergenceStore.get
  split
  · exact (failsOnly_error_iff _).mpr rfl
  · exact failsOnly_ok _

theorem validateEvent_fails (run : ConvergenceRun) (event : ConvergenceEvent) :
    FailsOnly Answerable (validateEvent run event) := by
  refine .check (Or.inr rfl) (.check (Or.inr rfl) (.check (Or.inr rfl) (.check (Or.inr rfl) ?_)))
  unfold validateOrder
  split
  · exact (failsOnly_error_iff _).mpr (Or.inl rfl)
  · exact .check (Or.inr rfl)
      (.check (Or.inr rfl) (.check (Or.inr rfl) (.check (Or.inr rfl) (failsOnly_ok _))))

theorem toEvent_fits (request : ConvergenceEventRequest) (now : DateTime) :
    |(request.toEvent now).offsetMs| < BinaryFloats.floatLimit * 1000 := by
  obtain ⟨hnonneg, hle⟩ := request.offsetMs_range
  have hlimit : (60000 : ℤ) < BinaryFloats.floatLimit * 1000 := by decide +kernel
  have habs : |(request.toEvent now).offsetMs| = request.offsetMs := abs_of_nonneg hnonneg
  rw [habs]
  exact hle.trans_lt hlimit

theorem ObjectsSound.appended (h : ObjectsSound given store runObjects) {run : ConvergenceRun}
    {event : ConvergenceEvent} (hrun : run ∈ store.runs.values)
    (hsound : (run.append event).WellFormed ∧ (run.append event).OffsetsFit) :
    ObjectsSound given { store with runs := store.runs.assign (run.append event) }
    (runObjects.assign (run.append event)) ∧
      Grown runObjects (runObjects.assign (run.append event)) := by
  have hobject := h.held run hrun
  have hkeys : (runObjects.assign (run.append event)).keys = runObjects.keys := by
    apply Dict.keys_assign_present
    rw [ConvergenceRun.append_id]
    exact List.mem_map_of_mem hobject
  refine ⟨⟨fun other hother => ?_, fun id hid => h.ids_given id (hkeys ▸ hid), fun other hother => ?_⟩,
    fun other hother => ?_⟩
  · rcases Dict.mem_assign_cases hother with rfl | ⟨hne, hother⟩
    · exact Dict.mem_assign_self _
    · exact Dict.mem_assign_of_ne (h.held other hother) hne
  · rcases Dict.mem_assign_cases hother with rfl | ⟨-, hother⟩
    · exact hsound
    · exact h.runs other hother
  · by_cases hid : other.id = (run.append event).id
    · obtain rfl := key_inj runObjects.keys_nodup hother hobject (hid.trans (run.append_id event))
      exact ⟨_, Dict.mem_assign_self _, ConvergenceRun.grownTo_append _ _⟩
    · exact ⟨other, Dict.mem_assign_of_ne hother hid, .refl other⟩

theorem appendEvent_sound (h : RunsSound given store) (hobjects : ObjectsSound given store runObjects)
    (runId : String) (request : ConvergenceEventRequest) (now : DateTime) :
    (∃ e, store.appendEvent runId (request.toEvent now) = .error e ∧ Answerable e) ∨
      ∃ run store', store.appendEvent runId (request.toEvent now) = .ok (run, store') ∧ run.WellFormed ∧
        RunsSound given store' ∧ ObjectsSound given store' (runObjects.assign run) ∧
          Grown runObjects (runObjects.assign run) := by
  cases hget : store.get runId with
  | error e =>
    exact Or.inl ⟨e, by rw [ConvergenceStore.appendEvent, hget, error_bind],
      Or.inl (getRun_fails store runId e hget)⟩
  | ok run =>
    obtain ⟨hrun, rfl⟩ := (store.get_ok_iff _ _).mp hget
    cases hvalid : validateEvent run (request.toEvent now) with
    | error e =>
      refine Or.inl ⟨e, ?_, validateEvent_fails _ _ e hvalid⟩
      rw [ConvergenceStore.appendEvent, hget, ok_bind, hvalid, error_bind]
    | ok _ =>
      obtain ⟨hwellFormed, hfit⟩ := h.runs run hrun
      have hpresent : (run.append (request.toEvent now)).id ∈ store.runs.keys := by
        rw [ConvergenceRun.append_id]
        exact List.mem_map_of_mem hrun
      have hkeys := Dict.keys_assign_present hpresent
      have hfits : (run.append (request.toEvent now)).OffsetsFit :=
        List.forall_mem_append.mpr ⟨hfit, List.forall_mem_singleton.mpr (toEvent_fits request now)⟩
      refine Or.inr ⟨_, { store with runs := store.runs.assign (run.append (request.toEvent now)) }, ?_,
        hwellFormed.append hvalid, ⟨h.order_eq.trans hkeys.symm, ?_, fun r hr => ?_⟩,
        hobjects.appended hrun ⟨hwellFormed.append hvalid, hfits⟩⟩
      · rw [ConvergenceStore.appendEvent, hget, ok_bind, hvalid, ok_bind]
        rfl
      · exact fun id hid => h.ids_given id (hkeys ▸ hid)
      · rcases Dict.mem_assign_cases hr with rfl | ⟨-, hr⟩
        · exact ⟨hwellFormed.append hvalid, hfits⟩
        · exact h.runs r hr

variable {τ : Type} {T : Topology} {service : IncidentService τ}

structure MadeFor (T : Topology) (incident : Incident) : Prop where
  analysed : T.analyzeLinkDown incident.event = .ok incident.analysis
  action : incident.recoveryPlan.action = "restore_link"
  target : incident.recoveryPlan.target = incident.analysis.failedComponent

theorem newIncident_made {fingerprint hex : String} {event : NetworkEvent} {incident : Incident}
    (h : newIncident T fingerprint event hex = .ok incident) : MadeFor T incident := by
  obtain ⟨analysis, hanalysis, h⟩ := (bind_ok_iff _ _ _).mp h
  obtain ⟨plan, hplan, h⟩ := (bind_ok_iff _ _ _).mp h
  obtain rfl := Except.ok.inj h
  obtain ⟨-, hplan⟩ := (check_ok_iff _ _ _ _).mp hplan
  obtain ⟨_, -, hplan⟩ := (bind_ok_iff _ _ _).mp hplan
  obtain rfl := Except.ok.inj hplan
  exact ⟨hanalysis, rfl, rfl⟩

structure IncidentsSound (T : Topology) (given : String → Prop) (service : IncidentService τ) : Prop where
  topology_eq : service.topology = T
  coherent : service.Coherent
  ids_given : ∀ id ∈ service.incidents.keys, given id
  made : ∀ incident ∈ service.incidents.values, MadeFor T incident

theorem get_fails (incidentId : String) : FailsOnly (·.kind = .keyError) (service.get incidentId) := by
  unfold IncidentService.get
  split
  · exact (failsOnly_error_iff _).mpr rfl
  · exact failsOnly_ok _

theorem approve_fails (incidentId : String) : FailsOnly Answerable (service.approve incidentId).1 := by
  cases hget : service.get incidentId with
  | error e =>
    simp only [IncidentService.approve, hget]
    exact (failsOnly_error_iff _).mpr (Or.inl (get_fails incidentId e hget))
  | ok incident =>
    have hplan : FailsOnly Answerable (approveRecovery incident.recoveryPlan) := .check (Or.inr rfl)
      (failsOnly_ok _)
    cases happroved : approveRecovery incident.recoveryPlan with
    | error e =>
      simp only [IncidentService.approve, hget, happroved]
      exact (failsOnly_error_iff _).mpr (hplan e happroved)
    | ok plan =>
      simp only [IncidentService.approve, hget, happroved]
      exact failsOnly_ok _

variable [Sub τ] [Zero τ] [LE τ] [DecidableRel (fun a b : τ => a ≤ b)] {sha256 : String → String}

open IncidentService in
/-- Whatever a call answers was made for the topology, and what it stores has an id given before or by it. -/
theorem stepped_sound (h : IncidentsSound T given service) {call : IncidentCall τ}
    {outcome : Result Incident × IncidentService τ} (hstepped : Stepped service sha256 call outcome)
    (given' : String → Prop) (hids : ∀ incident ∈ service.makes sha256 call, given' incident.id) :
    IncidentsSound T (fun id => given id ∨ given' id) outcome.2 ∧
      ∀ incident, outcome.1 = .ok incident → MadeFor T incident := by
  cases hstepped with
  | rejected => exact ⟨⟨h.topology_eq, h.coherent, fun id hid => Or.inl (h.ids_given id hid),
    h.made⟩, by simp⟩
  | merged event receivedAt hex existing _ _ hopen =>
    obtain ⟨hmem, hfingerprint⟩ := newest_mem (openIncident_existing h.coherent hopen).1
    have hknown := (h.coherent.mem_lastSeen_iff _).mpr ⟨existing, hmem, hfingerprint⟩
    refine ⟨⟨h.topology_eq, h.coherent.seen hknown, fun id hid => Or.inl (h.ids_given id hid), h.made⟩, ?_⟩
    intro incident hincident
    obtain rfl := Except.ok.inj hincident
    exact h.made _ hmem
  | created event receivedAt hex new kept _ hmakes _ hincident hvalues hcoherent _ =>
    have hmade : MadeFor T new := h.topology_eq ▸ newIncident_made hincident
    have hstored : ∀ incident ∈ kept.incidents.values, incident ∈ service.incidents.values ∨ incident = new :=
      fun incident hincident => mem_rtake_concat (hvalues ▸ hincident)
    refine ⟨⟨h.topology_eq, hcoherent, fun id hid => ?_, fun incident hincident => ?_⟩, ?_⟩
    · obtain ⟨incident, hincident, rfl⟩ := List.mem_map.mp hid
      rcases hstored incident hincident with hold | rfl
      · exact Or.inl (h.ids_given _ (List.mem_map_of_mem hold))
      · exact Or.inr (hids _ hmakes)
    · rcases hstored incident hincident with hold | rfl
      · exact h.made incident hold
      · exact hmade
    · intro incident hincident
      obtain rfl := Except.ok.inj hincident
      exact hmade
  | approved incident _ _ hmem _ =>
    have hpresent : incident.id ∈ service.incidents.keys := List.mem_map_of_mem hmem
    have hkeys : (service.incidents.assign incident.approved).keys = service.incidents.keys :=
      Dict.keys_assign_present (x := incident.approved) hpresent
    refine ⟨⟨h.topology_eq, h.coherent.replaced hmem rfl rfl,
      fun id hid => Or.inl (h.ids_given id (hkeys ▸ hid)), fun other hother => ?_⟩, ?_⟩
    · rcases Dict.mem_assign_cases hother with rfl | ⟨-, hother⟩
      · exact ⟨(h.made incident hmem).analysed, (h.made incident hmem).action, (h.made incident hmem).target⟩
      · exact h.made other hother
    · intro answer hanswer
      obtain rfl := Except.ok.inj hanswer
      exact ⟨(h.made incident hmem).analysed, (h.made incident hmem).action, (h.made incident hmem).target⟩

open IncidentService in
theorem ingest_fails {call : IncidentCall τ} {outcome : Result Incident × IncidentService τ}
    (hstepped : Stepped service sha256 call outcome) {event : NetworkEvent} {receivedAt : τ} {hex : String}
    (hcall : call = .ingest event receivedAt hex) : FailsOnly Exn.IsValueError outcome.1 := by
  cases hstepped with
  | rejected e _ hreason =>
    exact (failsOnly_error_iff _).mpr (service.topology.analyzeLinkDown_fails event e (hreason _ _ _ hcall))
  | merged | created | approved => exact failsOnly_ok _

end Stores

section Answers

variable {τ : Type}

/-- The statuses that a handler documents. Without a binding the telemetry routes do not exist. -/
def Request.statuses (app : App) : Request τ → List ℕ
  | .health | .getTopology | .getSingleLinkFailureAudit | .getSingleNodeFailureAudit => [200]
  | .metrics => [200, 503]
  | .ingestTelemetrySnapshot _ _ => if app.telemetryBinding.isSome then [201, 200, 409] else [404]
  | .getLatestTelemetrySnapshot => [200, 404]
  | .getCandidateSingleLinkFailureAudit | .getCandidateSingleNodeFailureAudit | .getCandidateFailureDomainAudit =>
    [200, 404]
  | .createConvergenceRun _ _ _ => [201]
  | .getLatestConvergenceRun | .getConvergenceRun _ => [200, 404]
  | .recordConvergenceEvent _ _ _ => [201, 404, 409]
  | .ingestEvent _ _ _ => [201, 400]
  | .getIncident _ => [200, 404]
  | .approveIncident _ => [200, 404, 409]

def IsPageOf (names : List String) (live : Option LiveReadings) (text : String) : Prop :=
  ∃ before after, PageText names (before ++ liveBlock live :: after) text

def IsPage (names : List String) (text : String) : Prop :=
  ∃ live : Option LiveReadings, (∀ readings ∈ live, readings.Sound) ∧ IsPageOf names live text

def BodySound (app : App) : Body → Prop
  | .metrics text => IsPage (pageNames app) text
  | .run response => ∃ run : ConvergenceRun, run.WellFormed ∧ convergenceResponse run = .ok response
  | .incident response => ∃ incident : Incident, MadeFor app.topology incident ∧
    response = incidentResponse incident
  | .snapshot snapshot => ∀ binding ∈ app.telemetryBinding, validateTelemetrySnapshot snapshot binding =
    .ok ()
  | .internalError => False
  | _ => True

structure AnswerSound (app : App) (request : Request τ) (response : Response) : Prop where
  status : response.status ∈ request.statuses app
  body : BodySound app response.body

variable {app : App} {request : Request τ}

theorem failure_sound {keyError valueError : Option ℕ} {e : Exn} (hkind : Answerable e)
    (hkey : e.kind = .keyError → ∃ status ∈ keyError, status ∈ request.statuses app)
    (hvalue : e.kind = .valueError → ∃ status ∈ valueError, status ∈ request.statuses app) :
    AnswerSound app request (failure keyError valueError e) := by
  cases e with
  | keyError message =>
    obtain ⟨status, rfl, hstatus⟩ := hkey rfl
    exact ⟨hstatus, trivial⟩
  | valueError message =>
    obtain ⟨status, rfl, hstatus⟩ := hvalue rfl
    exact ⟨hstatus, trivial⟩
  | _ => simp [Answerable, Exn.kind] at hkind

theorem runAnswer_sound {status : ℕ} {run : ConvergenceRun} (hwellFormed : run.WellFormed)
    (hstatus : status ∈ request.statuses app) :
    ∃ response, runAnswer status run = .ok response ∧ AnswerSound app request response ∧
    response.status = status := by
  obtain ⟨found, hfound⟩ := hwellFormed.status_ok
  have hresponse : convergenceResponse run =
      .ok ⟨run.id, run.profile, run.source, run.target, run.startedAt, found.value, run.events⟩ := by
    rw [convergenceResponse, hfound]
    rfl
  refine ⟨⟨status, .run _⟩, ?_, ⟨hstatus, run, hwellFormed, hresponse⟩, rfl⟩
  rw [runAnswer, hresponse]
  rfl

theorem available_sound {α : Type} {detail : String} {body : α → Body} {argument : Option α}
    (hstatuses : 200 ∈ request.statuses app ∧ 404 ∈ request.statuses app)
    (hbody : ∀ a ∈ argument, BodySound app (body a)) :
    AnswerSound app request (available detail body argument) := by
  cases argument with
  | none => exact ⟨hstatuses.2, trivial⟩
  | some a => exact ⟨hstatuses.1, hbody a rfl⟩

end Answers

section Steps

variable {τ : Type}

structure Sound (app : App) (given : String → Prop) (state : State τ) : Prop where
  incidents : IncidentsSound app.topology given state.service
  runs : RunsSound given state.liveStore
  objects : ObjectsSound given state.liveStore state.runObjects
  telemetry : ∀ binding ∈ app.telemetryBinding, Validated binding state.telemetryStore

def Request.givenId : Request τ → Option String
  | .ingestEvent _ _ hex => some (newIncidentId hex)
  | .createConvergenceRun _ _ hex => some (newRunId hex)
  | _ => none

def Request.ClockTicks : Request τ → Prop
  | .ingestTelemetrySnapshot _ serverNow => Ticks serverNow
  | _ => True

def Request.steps : Request τ → ℕ
  | .metrics => 5
  | .ingestTelemetrySnapshot _ _ => 4
  | _ => 1

theorem Request.steps_pos (request : Request τ) : 1 ≤ request.steps := by
  unfold Request.steps
  split <;> decide

def Phase.remaining (request : Request τ) : Phase → ℕ
  | .received => request.steps
  | .found _ _ => 4
  | .indexed _ _ => 3
  | .judged _ _ _ => 2
  | .rendered _ => 1
  | .ingesting .validated => 3
  | .ingesting .checked => 2
  | .ingesting .refused => 1
  | .ingesting _ => 0
  | .answered _ => 0

def IngestPhase.Pending (phase : IngestPhase) : Prop := phase = .validated ∨ phase = .checked ∨
    phase = .refused

def IsOpening (app : App) (text : String) : Prop := ∃ blocks, PageText (experimentNames app) blocks text

def PhaseSound (app : App) (runObjects : Dict ConvergenceRun.id) (request : Request τ) : Phase → Prop
  | .received => True
  | .found text runId => request = .metrics ∧ IsOpening app text ∧ ∃ run ∈ runObjects.values, run.id = runId
  | .indexed text run => request = .metrics ∧ IsOpening app text ∧ run.WellFormed ∧
    ∃ later ∈ runObjects.values, run.GrownTo later
  | .judged text run _ => request = .metrics ∧ IsOpening app text ∧ run.WellFormed ∧
    ∃ later ∈ runObjects.values, run.GrownTo later
  | .rendered text => request = .metrics ∧ app.telemetryBinding.isSome ∧ IsPage (firstNames app) text
  | .ingesting phase => ∃ snapshot serverNow binding, request = .ingestTelemetrySnapshot snapshot serverNow ∧
    app.telemetryBinding = some binding ∧ IngestPhase.Pending phase ∧
    validateTelemetrySnapshot snapshot binding = .ok ()
  | .answered response => AnswerSound app request response

theorem PhaseSound.mono {app : App} {runObjects later : Dict ConvergenceRun.id}
    (hgrown : Grown runObjects later) {request : Request τ} {phase : Phase}
    (h : PhaseSound app runObjects request phase) :
    PhaseSound app later request phase := by
  cases phase with
  | found text runId =>
    obtain ⟨hrequest, htext, run, hrun, rfl⟩ := h
    obtain ⟨grown, hmem, hle⟩ := hgrown run hrun
    exact ⟨hrequest, htext, grown, hmem, hle.id_eq⟩
  | indexed | judged =>
    obtain ⟨hrequest, htext, hwellFormed, run, hrun, hle⟩ := h
    obtain ⟨grown, hmem, hle'⟩ := hgrown run hrun
    exact ⟨hrequest, htext, hwellFormed, grown, hmem, hle.trans hle'⟩
  | received | rendered | ingesting | answered => exact h

/-- What one step does: it changes the stores only where it ends in a success. -/
structure Handled (app : App) (given : String → Prop) (request : Request τ) (phase : Phase) (state : State τ)
    (outcome : Phase × State τ) : Prop where
  sound : Sound app (fun id => given id ∨ request.givenId = some id) outcome.2
  grown : Grown state.runObjects outcome.2.runObjects
  phase_sound : PhaseSound app outcome.2.runObjects request outcome.1
  progress : outcome.1.remaining request ≤ phase.remaining request - 1
  unchanged : outcome.2 = state ∨ ∃ response, outcome.1 = .answered response ∧ response.status < 400

variable {app : App} {given : String → Prop} {request : Request τ} {state : State τ} {phase : Phase}

theorem IncidentsSound.mono {T : Topology} {service : IncidentService τ} (h : IncidentsSound T given service)
    {given' : String → Prop} (hle : ∀ id, given id → given' id) : IncidentsSound T given' service :=
  ⟨h.topology_eq, h.coherent, fun id hid => hle id (h.ids_given id hid), h.made⟩

theorem RunsSound.mono {store : ConvergenceStore} (h : RunsSound given store) {given' : String → Prop}
    (hle : ∀ id, given id → given' id) : RunsSound given' store :=
  ⟨h.order_eq, fun id hid => hle id (h.ids_given id hid), h.runs⟩

theorem ObjectsSound.mono {store : ConvergenceStore} {runObjects : Dict ConvergenceRun.id}
    (h : ObjectsSound given store runObjects) {given' : String → Prop} (hle : ∀ id, given id → given' id) :
    ObjectsSound given' store runObjects :=
  ⟨h.held, fun id hid => hle id (h.ids_given id hid), h.runs⟩

theorem Sound.mono (h : Sound app given state) {given' : String → Prop} (hle : ∀ id, given id → given' id) :
    Sound app given' state :=
  ⟨h.incidents.mono hle, h.runs.mono hle, h.objects.mono hle, h.telemetry⟩

theorem handled_same (h : Sound app given state) {next : Phase}
    (hphase : PhaseSound app state.runObjects request next)
    (hprogress : next.remaining request ≤ phase.remaining request - 1) :
    Handled app given request phase state (next, state) :=
  ⟨h.mono fun _ => Or.inl, .refl _, hphase, hprogress, Or.inl rfl⟩

theorem handled_answer (h : Sound app given state) {response : Response}
    (hresponse : AnswerSound app request response) :
    Handled app given request phase state (answer response state) :=
  handled_same h hresponse (Nat.zero_le _)

section Ingest

variable {binding : TelemetryTopologyBinding} {snapshot : TelemetrySnapshot} {serverNow : DateTime}

theorem answerError_conflict {e : Exn} (h : e.IsValueError) : ∃ detail, answerError e = .conflict detail := by
  cases e with
  | valueError detail => exact ⟨detail, rfl⟩
  | _ => cases h

theorem ingestResponse_sound (hbinding : app.telemetryBinding = some binding) {answer : IngestAnswer}
    (hanswer : validateTelemetrySnapshot snapshot binding = .ok () ∧
      (answer = .created snapshot ∨ answer = .retained snapshot) ∨
      ∃ detail, answer = .conflict detail) :
    AnswerSound app (.ingestTelemetrySnapshot snapshot serverNow : Request τ) (ingestResponse answer) := by
  have hstatuses : Request.statuses app (.ingestTelemetrySnapshot snapshot serverNow : Request τ) =
      [201, 200, 409] := by
    rw [Request.statuses, hbinding]
    rfl
  obtain ⟨hvalid, hanswer⟩ | ⟨detail, rfl⟩ := hanswer
  · have hbody : ∀ bound ∈ app.telemetryBinding, validateTelemetrySnapshot snapshot bound = .ok () := by
      rw [hbinding]
      rintro bound hbound
      obtain rfl := Option.some.inj hbound
      exact hvalid
    rcases hanswer with rfl | rfl
    · exact ⟨by simp [hstatuses, ingestResponse], hbody⟩
    · exact ⟨by simp [hstatuses, ingestResponse], hbody⟩
  · exact ⟨by simp [hstatuses, ingestResponse, httpException], trivial⟩

theorem ingestStep_handled (h : Sound app given state) (hbinding : app.telemetryBinding = some binding)
    (hinventory : TelemetryMetrics.Inventory binding) (hclock : Ticks serverNow) {current : IngestPhase}
    {phase : Phase} (hphase : current = .received ∧ phase = .received ∨ IngestPhase.Pending current ∧
      phase = .ingesting current ∧
      validateTelemetrySnapshot snapshot binding = .ok ()) :
    Handled app given (.ingestTelemetrySnapshot snapshot serverNow : Request τ) phase state
      (ofIngest (ingestStep binding snapshot serverNow current state.telemetryStore).1,
        { state with telemetryStore := (ingestStep binding snapshot serverNow current state.telemetryStore).2 }) := by
  have hstep := ingestStep_stepped binding snapshot serverNow current state.telemetryStore
  generalize ingestStep binding snapshot serverNow current state.telemetryStore = outcome at hstep ⊢
  obtain ⟨next, store⟩ := outcome
  have hpending : ∀ later : IngestPhase, IngestPhase.Pending later →
      validateTelemetrySnapshot snapshot binding = .ok () →
      PhaseSound app state.runObjects (.ingestTelemetrySnapshot snapshot serverNow : Request τ)
      (.ingesting later) :=
    fun later hlater hvalid => ⟨snapshot, serverNow, binding, rfl, hbinding, hlater, hvalid⟩
  cases hstep with
  | invalid _ e hinvalid =>
    obtain ⟨detail, hdetail⟩ :=
      answerError_conflict (validateTelemetryIngest_fails hinventory snapshot hclock e hinvalid)
    exact handled_same h (ingestResponse_sound hbinding (Or.inr ⟨detail, hdetail⟩)) (Nat.zero_le _)
  | valid _ hvalid =>
    obtain ⟨-, rfl⟩ | ⟨hnot, -, -⟩ := hphase
    · exact handled_same h (hpending _ (Or.inl rfl) ((validateTelemetryIngest_ok_iff _ _ _).mp hvalid).2)
        le_rfl
    · simp [IngestPhase.Pending] at hnot
  | notNewer => exact handled_same h (ingestResponse_sound hbinding (Or.inr ⟨_, rfl⟩)) (Nat.zero_le _)
  | newer =>
    obtain ⟨hnot, -⟩ | ⟨-, rfl, hvalid⟩ := hphase
    · cases hnot
    · exact handled_same h (hpending _ (Or.inr (Or.inl rfl)) hvalid) le_rfl
  | differs => exact handled_same h (ingestResponse_sound hbinding (Or.inr ⟨_, rfl⟩)) (Nat.zero_le _)
  | repeated | tooOld =>
    obtain ⟨hnot, -⟩ | ⟨-, rfl, hvalid⟩ := hphase
    · cases hnot
    · exact handled_same h (hpending _ (Or.inr (Or.inr rfl)) hvalid) le_rfl
  | saved _ hnew hold =>
    obtain ⟨hnot, -⟩ | ⟨-, rfl, hvalid⟩ := hphase
    · cases hnot
    have hmono : Sound app (fun id => given id ∨ none = some id) state := h.mono fun _ => Or.inl
    refine ⟨⟨hmono.incidents, hmono.runs, hmono.objects, fun bound hbound s hs => ?_⟩, .refl _,
      ingestResponse_sound hbinding (Or.inl ⟨hvalid, Or.inl rfl⟩), Nat.zero_le _,
      Or.inr ⟨_, rfl, by simp [ingestResponse]⟩⟩
    obtain rfl := Option.some.inj (hbinding.symm.trans hbound)
    rcases (state.telemetryStore.insert_isTop snapshot hnew).subset s hs with rfl | hs
    · exact hvalid
    · exact h.telemetry _ hbound s hs
  | retry =>
    obtain ⟨hnot, -⟩ | ⟨-, -, hvalid⟩ := hphase
    · cases hnot
    · exact handled_same h (ingestResponse_sound hbinding (Or.inl ⟨hvalid, Or.inr rfl⟩)) (Nat.zero_le _)
  | outside => exact handled_same h (ingestResponse_sound hbinding (Or.inr ⟨_, rfl⟩)) (Nat.zero_le _)
  | finished =>
    obtain ⟨hnot, -⟩ | ⟨hnot, -, -⟩ := hphase
    · cases hnot
    · simp [IngestPhase.Pending] at hnot

end Ingest

section Metrics

theorem renderTelemetry_page {text : String} {binding : TelemetryTopologyBinding}
    (hbinding : app.telemetryBinding = some binding) (hinventory : TelemetryMetrics.Inventory binding)
    {store : TelemetryStore} (hstore : Validated binding store) {live : Option LiveReadings}
    (htext : IsPageOf (firstNames app) live text) :
    ∃ page, finishMetrics app text store = metricsPage page ∧ IsPageOf (pageNames app) live page := by
  have hvalid : ∀ retained ∈ store.latest binding.fingerprint, validateTelemetrySnapshot retained binding =
      .ok () :=
    fun retained hretained => hstore retained (mem_matching.mp (List.argmax_mem hretained)).1
  obtain ⟨telemetry, block, htelemetry, hpage⟩ :=
    TelemetryMetrics.renderTelemetryMetrics_page hinventory hvalid
  obtain ⟨before, after, hfirst⟩ := htext
  have hsecond : PageText telemetryNames [block] telemetry := by
    refine ⟨?_, List.forall_mem_singleton.mpr hpage.sound, ?_⟩
    · rw [List.flatMap_singleton]
      exact hpage.renders
    · rw [List.flatMap_singleton]
      exact hpage.names
  have hnames : firstNames app ++ telemetryNames = pageNames app := by rw [pageNames, hbinding]; rfl
  have hall := hfirst.append hsecond
  rw [hnames, List.append_assoc, List.cons_append] at hall
  refine ⟨text ++ telemetry, ?_, before, after ++ [block], hall⟩
  simp only [finishMetrics, hbinding, htelemetry]

theorem finishMetrics_sound {text : String} {binding : TelemetryTopologyBinding}
    (hbinding : app.telemetryBinding = some binding) (hinventory : TelemetryMetrics.Inventory binding)
    {store : TelemetryStore} (hstore : Validated binding store) (htext : IsPage (firstNames app) text)
    (runObjects : Dict ConvergenceRun.id) :
    PhaseSound app runObjects (.metrics : Request τ) (finishMetrics app text store) ∧
      (finishMetrics app text store).remaining (.metrics : Request τ) = 0 := by
  obtain ⟨live, hlive, htext⟩ := htext
  obtain ⟨page, hfinish, hpage⟩ := renderTelemetry_page hbinding hinventory hstore htext
  rw [hfinish]
  exact ⟨⟨by simp [Request.statuses], live, hlive, hpage⟩, rfl⟩

variable [Zero τ] [LE τ] [DecidableRel (fun a b : τ => a ≤ b)] {digest : TopologyDocument → String}
  {dedupWindow : τ}
variable {arguments : Arguments} {start : State τ}

def Shows (app : App) (live : Option LiveReadings) : Phase → Prop
  | .rendered text => app.telemetryBinding.isSome ∧ IsPageOf (firstNames app) live text
  | .answered response => ∃ text, response = ⟨200, .metrics text⟩ ∧ IsPageOf (pageNames app) live text
  | _ => False

theorem showRun_shows (hcreated : Created digest dedupWindow arguments app start) {text : String}
    (htext : IsOpening app text) {live : Option LiveReadings} (hlive : ∀ readings ∈ live, readings.Sound) :
    Shows app live (showRun app text live) := by
  obtain ⟨blocks, hblocks⟩ := htext
  obtain ⟨body, after, hbody, hpage⟩ := renderFirst_page hcreated hblocks hlive
  have hshown : IsPageOf (firstNames app) live body := ⟨blocks, after, hpage⟩
  simp only [showRun, hbody]
  by_cases hbinding : app.telemetryBinding.isSome = true
  · rw [if_pos hbinding]
    exact ⟨hbinding, hshown⟩
  · have hnames : firstNames app = pageNames app := by rw [pageNames, if_neg hbinding, List.append_nil]
    rw [hnames] at hshown
    rw [if_neg hbinding]
    exact ⟨body, rfl, hshown⟩

omit [Zero τ] [LE τ] [DecidableRel (fun a b : τ => a ≤ b)] in
theorem Shows.sound {live : Option LiveReadings} (hlive : ∀ readings ∈ live, readings.Sound) {phase : Phase}
    (h : Shows app live phase) (runObjects : Dict ConvergenceRun.id) :
    PhaseSound app runObjects (.metrics : Request τ) phase ∧ phase.remaining (.metrics : Request τ) ≤ 1 := by
  cases phase with
  | rendered text => exact ⟨⟨rfl, h.1, live, hlive, h.2⟩, le_rfl⟩
  | answered response =>
    obtain ⟨text, rfl, hpage⟩ := h
    exact ⟨⟨by simp [Request.statuses], live, hlive, hpage⟩, Nat.zero_le _⟩
  | received | found | indexed | judged | ingesting => exact h.elim

theorem startMetrics_cases (hcreated : Created digest dedupWindow arguments app start) {given : String → Prop}
    {store : ConvergenceStore} (h : RunsSound given store) :
    app.experimentEvidence = none ∧
        startMetrics app store = .answered (httpException 503 "experiment evidence is unavailable") ∨
      store.latest = .ok none ∧ Shows app none (startMetrics app store) ∨
      ∃ run ∈ store.runs.values, ∃ text, store.latest = .ok (some run) ∧
      startMetrics app store = .found text run.id ∧
        IsOpening app text := by
  unfold startMetrics
  cases hevidence : app.experimentEvidence with
  | none => exact Or.inl ⟨rfl, rfl⟩
  | some evidence =>
    obtain ⟨text, blocks, htext, hopening⟩ := experiments_page hcreated hevidence
    obtain ⟨latest, hlatest, hstored⟩ := latest_ok h.order_eq
    simp only [htext, hlatest]
    cases latest with
    | none => exact Or.inr (Or.inl ⟨rfl, showRun_shows hcreated ⟨blocks, hopening⟩ (by simp)⟩)
    | some run => exact Or.inr (Or.inr ⟨run, hstored run rfl, text, rfl, rfl, blocks, hopening⟩)

theorem startMetrics_sound (hcreated : Created digest dedupWindow arguments app start) {given : String → Prop}
    {store : ConvergenceStore} (h : RunsSound given store) {runObjects : Dict ConvergenceRun.id}
    (hobjects : ObjectsSound given store runObjects) :
    PhaseSound app runObjects (.metrics : Request τ) (startMetrics app store) ∧
      (startMetrics app store).remaining (.metrics : Request τ) ≤ 4 := by
  rcases startMetrics_cases hcreated h with ⟨-, hrefused⟩ | ⟨-, hshows⟩ | ⟨run, hrun, text, -, hfound, htext⟩
  · rw [hrefused]
    exact ⟨⟨by simp [httpException, Request.statuses], trivial⟩, Nat.zero_le _⟩
  · obtain ⟨hphase, hremaining⟩ := hshows.sound (by simp) runObjects
    exact ⟨hphase, hremaining.trans (by decide)⟩
  · rw [hfound]
    exact ⟨⟨rfl, htext, run, hobjects.held run hrun, rfl⟩, le_rfl⟩

omit [Zero τ] [LE τ] [DecidableRel (fun a b : τ => a ≤ b)] in
theorem readRun_eq {run : ConvergenceRun} (h : run ∈ state.runObjects.values) {runId : String}
    (hid : run.id = runId) (next : ConvergenceRun → Phase) : readRun state runId next = next run := by
  rw [readRun, (Dict.get_some_iff _ _).mpr ⟨h, hid⟩]
  rfl

theorem judge_ok {later : ConvergenceRun} (h : later.WellFormed) (run : ConvergenceRun) (text : String) :
    ∃ status, later.status = .ok status ∧ judge text run later.status = .judged text run status := by
  obtain ⟨status, hstatus⟩ := h.status_ok
  exact ⟨status, hstatus, by rw [hstatus, judge]⟩

theorem readings_sound {run later : ConvergenceRun} (h : run.WellFormed)
    (hlater : later.WellFormed ∧ later.OffsetsFit) (status : RunStatus) :
    LiveReadings.Sound ⟨run, status, later.events⟩ :=
  ⟨h, hlater.1.distinct, hlater.2⟩

end Metrics

section Requests

variable [Sub τ] [Zero τ] [LE τ] [DecidableRel (fun a b : τ => a ≤ b)] {digest : TopologyDocument → String}
  {dedupWindow : τ}
variable {arguments : Arguments} {start : State τ} {sha256 : String → String}

theorem makes_id {service : IncidentService τ} {event : NetworkEvent} {receivedAt : τ} {hex : String}
    {incident : Incident} (h : service.makes sha256 (.ingest event receivedAt hex) = some incident) :
    newIncidentId hex = incident.id := by
  rw [IncidentService.makes] at h
  split at h
  · cases hnew : newIncident service.topology (sha256 (fingerprintText event)) event hex with
    | error e =>
      rw [hnew] at h
      cases h
    | ok made =>
      rw [hnew] at h
      obtain rfl := Option.some.inj h
      exact (IncidentService.newIncident_ok_cases hnew).1.symm
  · cases h

omit [Sub τ] [Zero τ] [LE τ] [DecidableRel (fun a b : τ => a ≤ b)] in
theorem incident_handled {service : IncidentService τ}
    (h : Sound app (fun id => given id ∨ request.givenId = some id) { state with service })
    {incident : Incident} (hmade : MadeFor app.topology incident) {status : ℕ}
    (hstatus : status ∈ request.statuses app) (hsuccess : status < 400) :
    Handled app given request phase state (answer (incidentAnswer status incident) { state with service }) :=
  ⟨h, .refl _, ⟨hstatus, incident, hmade, rfl⟩, Nat.zero_le _, Or.inr ⟨_, rfl, hsuccess⟩⟩

theorem ingestEvent_handled (h : Sound app given state) (event : EventRequest) (receivedAt : τ) (hex : String)
    (hfresh : ¬ given (newIncidentId hex)) :
    Handled app given (.ingestEvent event receivedAt hex) .received state
      (receive sha256 app state (.ingestEvent event receivedAt hex)) := by
  have hstepped : IncidentService.Stepped state.service sha256 _
      (state.service.ingest sha256 event.toEvent receivedAt hex) :=
    IncidentService.ingest_stepped h.incidents.coherent event.toEvent receivedAt hex
      fun incident hmakes hmem => hfresh (makes_id hmakes ▸ h.incidents.ids_given _ hmem)
  obtain ⟨hservice, hmade⟩ := stepped_sound h.incidents hstepped (newIncidentId hex = ·) fun _ => makes_id
  have hfails := ingest_fails hstepped rfl
  have hunchanged := fun e => hstepped.unchanged (e := e)
  have hreceive : receive sha256 app state (.ingestEvent event receivedAt hex) =
      answer (orFailure none (some 400)
        ((state.service.ingest sha256 event.toEvent receivedAt hex).1.map (incidentAnswer 201)))
        { state with service := (state.service.ingest sha256 event.toEvent receivedAt hex).2 } := rfl
  rw [hreceive]
  generalize state.service.ingest sha256 event.toEvent receivedAt hex = outcome at *
  obtain ⟨incident, service⟩ := outcome
  have hsound : Sound app (fun id => given id ∨ some (newIncidentId hex) = some id) { state with service } :=
    ⟨hservice.mono fun id hid => hid.imp_right (congrArg some), h.runs.mono fun _ => Or.inl,
      h.objects.mono fun _ => Or.inl, h.telemetry⟩
  cases incident with
  | error e =>
    obtain rfl := hunchanged e rfl
    have hkind : e.kind = .valueError := hfails e rfl
    refine ⟨hsound, .refl _, failure_sound (Or.inr hkind) (fun hkey => ?_) fun _ =>
      ⟨400, rfl, by simp [Request.statuses]⟩, Nat.zero_le _, Or.inl rfl⟩
    rw [hkind] at hkey
    cases hkey
  | ok incident => exact incident_handled hsound (hmade incident rfl) (by simp [Request.statuses]) (by decide)

theorem approveIncident_handled (h : Sound app given state) (incidentId : String) :
    Handled app given (.approveIncident incidentId) .received state
      (receive sha256 app state (.approveIncident incidentId)) := by
  have hstepped : IncidentService.Stepped state.service sha256 _ (state.service.approve incidentId) :=
    IncidentService.approve_stepped incidentId
  obtain ⟨hservice, hmade⟩ := stepped_sound h.incidents hstepped (fun _ => False)
    (by simp [IncidentService.makes])
  have hfails : FailsOnly Answerable (state.service.approve incidentId).1 := approve_fails incidentId
  have hunchanged := fun e => hstepped.unchanged (e := e)
  have hreceive : receive sha256 app state (.approveIncident incidentId) =
      answer (orFailure (some 404) (some 409) ((state.service.approve incidentId).1.map (incidentAnswer 200)))
        { state with service := (state.service.approve incidentId).2 } := rfl
  rw [hreceive]
  generalize state.service.approve incidentId = outcome at *
  obtain ⟨incident, service⟩ := outcome
  have hsound : Sound app (fun id => given id ∨ none = some id) { state with service } :=
    ⟨hservice.mono fun id hid => hid.imp_right False.elim, h.runs.mono fun _ => Or.inl,
      h.objects.mono fun _ => Or.inl, h.telemetry⟩
  cases incident with
  | error e =>
    obtain rfl := hunchanged e rfl
    exact ⟨hsound, .refl _, failure_sound (hfails e rfl) (fun _ => ⟨404, rfl, by simp [Request.statuses]⟩)
      fun _ => ⟨409, rfl, by simp [Request.statuses]⟩, Nat.zero_le _, Or.inl rfl⟩
  | ok incident => exact incident_handled hsound (hmade incident rfl) (by simp [Request.statuses]) (by decide)

omit [Sub τ] [Zero τ] [LE τ] [DecidableRel (fun a b : τ => a ≤ b)] in
theorem run_handled {liveStore : ConvergenceStore} {runObjects : Dict ConvergenceRun.id}
    (h : Sound app (fun id => given id ∨ request.givenId = some id) { state with liveStore, runObjects })
    (hgrown : Grown state.runObjects runObjects) {run : ConvergenceRun} (hwellFormed : run.WellFormed)
    (hstatus : 201 ∈ request.statuses app) : Handled app given request phase state
      (answer (orFailure none none (runAnswer 201 run)) { state with liveStore, runObjects }) := by
  obtain ⟨response, hresponse, hsound, hcode⟩ := runAnswer_sound hwellFormed hstatus
  rw [hresponse]
  exact ⟨h, hgrown, hsound, Nat.zero_le _, Or.inr ⟨response, rfl, by rw [hcode]; decide⟩⟩

theorem createConvergenceRun_handled (h : Sound app given state) (run : ConvergenceRunRequest)
    (now : DateTime) (hex : String) (hfresh : ¬ given (newRunId hex)) :
    Handled app given (.createConvergenceRun run now hex) .received state
      (receive sha256 app state (.createConvergenceRun run now hex)) := by
  obtain ⟨liveStore, hcreate, hruns, hobjects, hgrown⟩ := createRun_sound h.runs h.objects run now hex hfresh
  obtain ⟨-, hempty, hprofile⟩ := newRun_ok_cases (newRun_ok run now hex)
  have hstatus : 201 ∈ Request.statuses app (.createConvergenceRun run now hex : Request τ) := by
    simp [Request.statuses]
  have hsound : Sound app (fun id => given id ∨ some (newRunId hex) = some id)
      { state with liveStore, runObjects := state.runObjects.assign (run.toRun now hex) } :=
    ⟨h.incidents.mono fun _ => Or.inl, hruns.mono fun id hid => hid.imp_right (congrArg some),
      hobjects.mono fun id hid => hid.imp_right (congrArg some), h.telemetry⟩
  simp only [receive, hcreate, ok_bind]
  exact run_handled hsound hgrown (ConvergenceRun.wellFormed_new hempty hprofile) hstatus

theorem recordConvergenceEvent_handled (h : Sound app given state) (runId : String)
    (event : ConvergenceEventRequest) (now : DateTime) :
    Handled app given (.recordConvergenceEvent runId event now) .received state
      (receive sha256 app state (.recordConvergenceEvent runId event now)) := by
  have hstatus : 201 ∈ Request.statuses app (.recordConvergenceEvent runId event now : Request τ) := by
    simp [Request.statuses]
  rcases appendEvent_sound h.runs h.objects runId event now with
    ⟨e, hfailed, hkind⟩ | ⟨run, liveStore, happended, hwellFormed, hruns, hobjects, hgrown⟩
  · simp only [receive, hfailed]
    exact handled_answer h (failure_sound hkind (fun _ => ⟨404, rfl, by simp [Request.statuses]⟩)
      fun _ => ⟨409, rfl, by simp [Request.statuses]⟩)
  · have hsound : Sound app (fun id => given id ∨ none = some id)
        { state with liveStore, runObjects := state.runObjects.assign run } :=
      ⟨h.incidents.mono fun _ => Or.inl, hruns.mono fun _ => Or.inl, hobjects.mono fun _ => Or.inl,
        h.telemetry⟩
    simp only [receive, happended]
    exact run_handled hsound hgrown hwellFormed hstatus

structure Serves (digest : TopologyDocument → String) (dedupWindow : τ) (arguments : Arguments) (app : App)
    (start : State τ) :
    Prop where
  created : Created digest dedupWindow arguments app start
  inventory : ∀ binding ∈ app.telemetryBinding, TelemetryMetrics.Inventory binding

theorem receive_handled (hserves : Serves digest dedupWindow arguments app start) (h : Sound app given state)
    (request : Request τ) (hclock : request.ClockTicks) (hfresh : ∀ id ∈ request.givenId, ¬ given id) :
    Handled app given request .received state (receive sha256 app state request) := by
  cases request with
  | health | getTopology | getSingleLinkFailureAudit | getSingleNodeFailureAudit =>
    exact handled_answer h ⟨by simp [Request.statuses], trivial⟩
  | metrics =>
    obtain ⟨hphase, hprogress⟩ := startMetrics_sound hserves.created h.runs h.objects
    exact handled_same h hphase hprogress
  | ingestTelemetrySnapshot snapshot serverNow =>
    cases hbinding : app.telemetryBinding with
    | none =>
      simp only [receive, hbinding]
      exact handled_answer h ⟨by simp [Request.statuses, hbinding, httpException], trivial⟩
    | some binding =>
      simp only [receive, hbinding]
      exact ingestStep_handled h hbinding (hserves.inventory binding hbinding) hclock (Or.inl ⟨rfl, rfl⟩)
  | getLatestTelemetrySnapshot =>
    cases hbinding : app.telemetryBinding with
    | none =>
      simp only [receive, hbinding]
      exact handled_answer h ⟨by simp [Request.statuses, httpException], trivial⟩
    | some binding =>
      simp only [receive, hbinding]
      refine handled_answer h (available_sound (by simp [Request.statuses])
        fun snapshot hlatest bound hbound => ?_)
      exact h.telemetry bound hbound snapshot (mem_matching.mp (List.argmax_mem hlatest)).1
  | getCandidateSingleLinkFailureAudit | getCandidateSingleNodeFailureAudit | getCandidateFailureDomainAudit =>
    exact handled_answer h (available_sound (by simp [Request.statuses]) fun _ _ => trivial)
  | createConvergenceRun run now hex => exact createConvergenceRun_handled h run now hex (hfresh _ rfl)
  | getLatestConvergenceRun =>
    obtain ⟨latest, hlatest, hstored⟩ := latest_ok h.runs.order_eq
    cases latest with
    | none =>
      simp only [receive, hlatest]
      exact handled_answer h ⟨by simp [Request.statuses, httpException], trivial⟩
    | some run =>
      have hstatus : 200 ∈ Request.statuses app (.getLatestConvergenceRun : Request τ) := by
        simp [Request.statuses]
      obtain ⟨response, hresponse, hsound, -⟩ := runAnswer_sound (h.runs.runs run (hstored run rfl)).1 hstatus
      simp only [receive, hlatest, hresponse]
      exact handled_answer h hsound
  | getConvergenceRun runId =>
    cases hget : state.liveStore.get runId with
    | error e =>
      have hkind : e.kind = .keyError := getRun_fails _ _ e hget
      simp only [receive, hget, error_bind]
      exact handled_answer h (failure_sound (Or.inl hkind) (fun _ => ⟨404, rfl, by simp [Request.statuses]⟩)
        fun hvalue => nomatch hkind.symm.trans hvalue)
    | ok run =>
      have hstatus : 200 ∈ Request.statuses app (.getConvergenceRun runId : Request τ) := by
        simp [Request.statuses]
      obtain ⟨hrun, -⟩ := (state.liveStore.get_ok_iff _ _).mp hget
      obtain ⟨response, hresponse, hsound, -⟩ := runAnswer_sound (h.runs.runs run hrun).1 hstatus
      simp only [receive, hget, ok_bind, hresponse]
      exact handled_answer h hsound
  | recordConvergenceEvent runId event now => exact recordConvergenceEvent_handled h runId event now
  | ingestEvent event receivedAt hex => exact ingestEvent_handled h event receivedAt hex (hfresh _ rfl)
  | getIncident incidentId =>
    cases hget : state.service.get incidentId with
    | error e =>
      have hkind : e.kind = .keyError := get_fails incidentId e hget
      simp only [receive, hget]
      exact handled_answer h (failure_sound (Or.inl hkind) (fun _ => ⟨404, rfl, by simp [Request.statuses]⟩)
        fun hvalue => nomatch hkind.symm.trans hvalue)
    | ok incident =>
      obtain ⟨hincident, -⟩ := (state.service.get_ok_iff _ _).mp hget
      simp only [receive, hget]
      exact handled_answer h ⟨by simp [Request.statuses, orFailure, Except.map, incidentAnswer], incident,
        h.incidents.made incident hincident, rfl⟩
  | approveIncident incidentId => exact approveIncident_handled h incidentId

theorem resume_handled (hserves : Serves digest dedupWindow arguments app start) (h : Sound app given state)
    (request : Request τ) (hclock : request.ClockTicks) {phase : Phase}
    (hphase : PhaseSound app state.runObjects request phase)
    (hfresh : phase = .received → ∀ id ∈ request.givenId, ¬ given id) :
    Handled app given request phase state (resume sha256 app state request phase) := by
  cases phase with
  | received => exact receive_handled hserves h request hclock (hfresh rfl)
  | found text runId =>
    obtain ⟨rfl, htext, run, hrun, hid⟩ := hphase
    simp only [resume, readRun_eq hrun hid]
    exact handled_same h ⟨rfl, htext, (h.objects.runs run hrun).1, run, hrun, .refl run⟩ le_rfl
  | indexed text run =>
    obtain ⟨rfl, htext, hwellFormed, later, hlater, hgrown⟩ := hphase
    obtain ⟨status, -, hjudged⟩ := judge_ok (h.objects.runs later hlater).1 run text
    simp only [resume, readRun_eq hlater hgrown.id_eq, hjudged]
    exact handled_same h ⟨rfl, htext, hwellFormed, later, hlater, hgrown⟩ le_rfl
  | judged text run status =>
    obtain ⟨rfl, htext, hwellFormed, later, hlater, hgrown⟩ := hphase
    have hreadings : ∀ readings ∈ some (LiveReadings.mk run status later.events), readings.Sound := by
      rintro readings hmem
      obtain rfl := Option.some.inj hmem
      exact readings_sound hwellFormed (h.objects.runs later hlater) status
    obtain ⟨hnext, hremaining⟩ :=
      (showRun_shows hserves.created htext hreadings).sound (τ := τ) hreadings state.runObjects
    simp only [resume, readRun_eq hlater hgrown.id_eq]
    exact handled_same h hnext hremaining
  | rendered text =>
    obtain ⟨rfl, hbinding, htext⟩ := hphase
    obtain ⟨binding, hbinding⟩ := Option.isSome_iff_exists.mp hbinding
    obtain ⟨hnext, hremaining⟩ := finishMetrics_sound (τ := τ) hbinding (hserves.inventory binding hbinding)
      (h.telemetry binding hbinding) htext state.runObjects
    exact handled_same h hnext (hremaining ▸ Nat.zero_le _)
  | ingesting current =>
    obtain ⟨snapshot, serverNow, binding, rfl, hbinding, hpending, hvalid⟩ := hphase
    simp only [resume, hbinding]
    exact ingestStep_handled h hbinding (hserves.inventory binding hbinding) hclock
      (Or.inr ⟨hpending, rfl, hvalid⟩)
  | answered response => exact handled_answer h hphase

end Requests

end Steps

section Runs

open Interleaving

variable {ι τ : Type} [DecidableEq ι] [Sub τ] [Zero τ] [LE τ] [DecidableRel (fun a b : τ => a ≤ b)]

/-- The server at work on requests that arrived together, each of which is a process of its own. -/
def serve (sha256 : String → String) (app : App) (requests : ι → Request τ) (i : ι) (phase : Phase)
    (state : State τ) :
    Phase × State τ :=
  resume sha256 app state (requests i) phase

def arrived (state : State τ) : Config ι Phase (State τ) := ⟨fun _ => .received, state⟩

def IdsDiffer (requests : ι → Request τ) : Prop :=
  ∀ i j id, (requests i).givenId = some id → (requests j).givenId = some id → i = j

def Given (requests : ι → Request τ) (c : Config ι Phase (State τ)) (id : String) : Prop :=
  ∃ i, c.locals i ≠ .received ∧ (requests i).givenId = some id

structure Healthy (app : App) (requests : ι → Request τ) (c : Config ι Phase (State τ)) : Prop where
  sound : Sound app (Given requests c) c.shared
  phases : ∀ i, PhaseSound app c.shared.runObjects (requests i) (c.locals i)

variable {digest : TopologyDocument → String} {dedupWindow : τ} {arguments : Arguments} {start : State τ}
  {app : App}
variable {sha256 : String → String} {requests : ι → Request τ} {c : Config ι Phase (State τ)}

omit [DecidableEq ι] [Sub τ] [Zero τ] [LE τ] [DecidableRel (fun a b : τ => a ≤ b)] in
theorem remaining_le {request : Request τ} {runObjects : Dict ConvergenceRun.id} {phase : Phase}
    (h : PhaseSound app runObjects request phase) : phase.remaining request ≤ request.steps := by
  cases phase with
  | received => exact le_rfl
  | found | indexed | judged | rendered =>
    obtain ⟨rfl, -⟩ := h
    simp [Phase.remaining, Request.steps]
  | ingesting current =>
    obtain ⟨_, _, _, rfl, -, rfl | rfl | rfl, -⟩ := h <;> simp [Phase.remaining, Request.steps]
  | answered response => exact Nat.zero_le _

omit [DecidableEq ι] [Sub τ] [Zero τ] [LE τ] [DecidableRel (fun a b : τ => a ≤ b)] in
theorem not_given (hids : IdsDiffer requests) {i : ι} (hreceived : c.locals i = .received) {id : String}
    (hid : (requests i).givenId = some id) : ¬ Given requests c id := by
  rintro ⟨j, hj, hsame⟩
  obtain rfl := hids i j id hid hsame
  exact hj hreceived

variable (sha256) in
omit [DecidableEq ι] in
theorem Healthy.handled (hserves : Serves digest dedupWindow arguments app start)
    (hclock : ∀ i, (requests i).ClockTicks) (hids : IdsDiffer requests) (h : Healthy app requests c) (i : ι) :
    Handled app (Given requests c) (requests i)
      (c.locals i) c.shared (serve sha256 app requests i (c.locals i) c.shared) :=
  resume_handled hserves h.sound (requests i) (hclock i) (h.phases i) fun hreceived _ =>
    not_given hids hreceived

omit [DecidableEq ι] [Zero τ] [LE τ] [DecidableRel (fun a b : τ => a ≤ b)] [Sub τ] in
theorem Handled.left_received {given : String → Prop} {request : Request τ} {phase : Phase} {state : State τ}
    {outcome : Phase × State τ} (h : Handled app given request phase state outcome)
    (hphase : PhaseSound app state.runObjects request phase) : outcome.1 ≠ .received := by
  intro hreceived
  have hprogress := h.progress
  have hle := remaining_le hphase
  have hpos := request.steps_pos
  rw [hreceived, Phase.remaining] at hprogress
  omega

theorem given_advance {i : ι} (hleft : (serve sha256 app requests i (c.locals i) c.shared).1 ≠ .received)
    {id : String} (h : Given requests c id) :
    Given requests (advance (serve sha256 app requests) c i) id := by
  obtain ⟨j, hj, hgiven⟩ := h
  refine ⟨j, ?_, hgiven⟩
  by_cases hij : j = i
  · subst hij
    rwa [advance_locals_same]
  · rwa [advance_locals_of_ne _ hij]

variable (sha256) in
theorem Healthy.advance (hserves : Serves digest dedupWindow arguments app start)
    (hclock : ∀ i, (requests i).ClockTicks) (hids : IdsDiffer requests) (h : Healthy app requests c) (i : ι) :
    Healthy app requests (Interleaving.advance (serve sha256 app requests) c i) := by
  have hhandled := h.handled sha256 hserves hclock hids i
  have hleft := hhandled.left_received (h.phases i)
  refine ⟨hhandled.sound.mono fun id hid => ?_, fun j => ?_⟩
  · rcases hid with hid | hgiven
    · exact given_advance hleft hid
    · exact ⟨i, by rw [advance_locals_same]; exact hleft, hgiven⟩
  · by_cases hij : j = i
    · subst hij
      rw [advance_locals_same]
      exact hhandled.phase_sound
    · rw [advance_locals_of_ne _ hij]
      exact (h.phases j).mono hhandled.grown

structure Arguments.Fresh (arguments : Arguments) : Prop where
  runs : ∀ store ∈ arguments.convergenceStore, ∃ capacity, ConvergenceStore.init capacity = .ok store
  snapshots : ∀ store ∈ arguments.telemetryStore, ∃ capacity, TelemetryStore.init capacity = .ok store
  binding : ∀ binding ∈ arguments.telemetryBinding, ∃ pyRepr config intent clabDocument fingerprint,
    TelemetryBinding.loadTelemetryBinding pyRepr config intent clabDocument fingerprint = .ok binding

theorem init_runsSound {capacity : ℕ} {store : ConvergenceStore}
    (h : ConvergenceStore.init capacity = .ok store) (given : String → Prop) : RunsSound given store := by
  obtain ⟨-, hsound⟩ := ConvergenceStore.init_sound h
  have hkeys : store.runs.keys = [] := hsound.retained.trans List.drop_nil
  have hvalues : store.runs.values = [] := List.map_eq_nil_iff.mp hkeys
  exact ⟨hsound.order_eq, by simp [hkeys], by simp [hvalues]⟩

theorem RunsSound.objects {given : String → Prop} {store : ConvergenceStore} (h : RunsSound given store) :
    ObjectsSound given store store.runs := ⟨fun _ hrun => hrun, h.ids_given, h.runs⟩

theorem init_validated {capacity : ℕ} {store : TelemetryStore} (h : TelemetryStore.init capacity = .ok store)
    (binding : TelemetryTopologyBinding) : Validated binding store :=
  (ReachableByIngest.init capacity store h).validated

omit [Sub τ] in
theorem served (hcreate : createApp digest dedupWindow arguments = .ok (app, start))
    (hfresh : arguments.Fresh) :
    Serves digest dedupWindow arguments app start := by
  have hcreated := createApp_created hcreate
  refine ⟨hcreated, fun binding hbinding => ?_⟩
  rw [hcreated.arguments_eq] at hbinding
  obtain ⟨_, _, _, _, _, hload⟩ := hfresh.binding binding hbinding
  exact TelemetryMetrics.inventory_of_load hload

omit [DecidableEq ι] [Sub τ] in
theorem healthy_arrived (hcreate : createApp digest dedupWindow arguments = .ok (app, start))
    (hfresh : arguments.Fresh) (requests : ι → Request τ) : Healthy app requests (arrived start) := by
  have hcreated := createApp_created hcreate
  obtain ⟨htopology, -, -, hempty, hservice⟩ := IncidentService.init_sound hcreated.service
  have hkeys : start.service.incidents.keys = [] := by rw [hempty]; rfl
  have hvalues : start.service.incidents.values = [] := by rw [hempty]; rfl
  have hruns : RunsSound (Given requests (arrived start)) start.liveStore := by
    have hstore := hcreated.liveStore
    rw [hcreated.arguments_eq] at hstore
    cases hgiven : arguments.convergenceStore with
    | none =>
      rw [hgiven] at hstore
      exact init_runsSound hstore _
    | some store =>
      rw [hgiven] at hstore
      obtain ⟨capacity, hinit⟩ := hfresh.runs store hgiven
      exact init_runsSound (Except.ok.inj hstore ▸ hinit) _
  have hobjects : ObjectsSound (Given requests (arrived start)) start.liveStore start.runObjects := by
    rw [hcreated.objects]
    exact hruns.objects
  refine ⟨⟨⟨htopology, hservice.coherent, by simp [arrived, hkeys], by simp [arrived, hvalues]⟩, hruns,
    hobjects, fun binding _ => ?_⟩, fun _ => trivial⟩
  have hstore := hcreated.telemetryStore
  rw [hcreated.arguments_eq] at hstore
  cases hgiven : arguments.telemetryStore with
  | none =>
    rw [hgiven] at hstore
    exact init_validated hstore binding
  | some store =>
    rw [hgiven] at hstore
    obtain ⟨capacity, hinit⟩ := hfresh.snapshots store hgiven
    exact init_validated (Except.ok.inj hstore ▸ hinit) binding

variable (sha256) in
theorem healthy_run (hcreate : createApp digest dedupWindow arguments = .ok (app, start))
    (hfresh : arguments.Fresh) (hclock : ∀ i, (requests i).ClockTicks) (hids : IdsDiffer requests)
    (schedule : List ι) :
    Healthy app requests (run (serve sha256 app requests) (arrived start) schedule) :=
  invariant_run (fun _ i h => h.advance sha256 (served hcreate hfresh) hclock hids i)
    (healthy_arrived hcreate hfresh requests) schedule

def labArguments : Arguments where
  topology := Topology.diamond
  experimentEvidence := some (evidenceWith (.int 3900))
  telemetryBinding := labLoad.toOption

def labServer : Result (App × State ℤ) := createApp (fun _ => labFingerprint) 60 labArguments

def labRequests : Fin 4 → Request ℤ
  | 0 => .createConvergenceRun accessRun labStart "0123456789abcdef0123456789abcdef"
  | 1 => .recordConvergenceEvent "run-0123456789ab" labInjection labStart
  | 2 => .metrics
  | 3 => .ingestTelemetrySnapshot (.unanswered "s5" 5 s5_valid five_lt_sixty)
      (TelemetrySnapshot.unanswered "s5" 5 s5_valid five_lt_sixty).observedAt

theorem labArguments_fresh : labArguments.Fresh :=
  ⟨by simp [labArguments], by simp [labArguments], fun binding hbinding =>
    ⟨fun _ => "'...'", labBinding.config, labIntent, clabDocument, labFingerprint,
      (toOption_some_iff _ _).mp hbinding⟩⟩

theorem labRequests_tick (i : Fin 4) : (labRequests i).ClockTicks := by
  fin_cases i
  · trivial
  · trivial
  · trivial
  · have hvalid : validateTelemetryIngest (.unanswered "s5" 5 s5_valid five_lt_sixty) labBinding
        (TelemetrySnapshot.unanswered "s5" 5 s5_valid five_lt_sixty).observedAt =
        .ok () := by decide +kernel
    exact ((validateTelemetryIngest_ok_iff _ _ _).mp hvalid).1.imp fun _ hlimit => hlimit.1

theorem labRequests_differ : IdsDiffer labRequests := by
  intro i j id hi hj
  fin_cases i <;> fin_cases j <;> simp [labRequests, Request.givenId] at hi hj ⊢

end Runs

end Api

end TelconetSentinel
