import TelconetSentinel.ApiMetrics

namespace TelconetSentinel.Api

open FallibleLists Interleaving KeyedLists RecentRetention

section Once

variable {ι τ α : Type} {key : α → String} {used : α → Prop} {stored : State τ → List α}
  {requests : ι → Request τ}
variable {request : Request τ} {app : App} {given : String → Prop} {state : State τ} {id : String}

def Kept (key : α → String) (used : α → Prop) (request : Request τ) (before after : List α) : Prop :=
  ∀ x ∈ after, request.givenId = some (key x) ∨ ∃ old ∈ before, key old = key x ∧ (used old → used x)

theorem Kept.of_same {before after : List α} (h : after = before) : Kept key used request before after :=
  fun x hx => Or.inr ⟨x, h ▸ hx, rfl, fun hused => hused⟩

structure Spent (key : α → String) (used : α → Prop) (stored : State τ → List α) (requests : ι → Request τ)
    (id : String) (c : Config ι Phase (State τ)) : Prop where
  given : Given requests c id
  used : ∀ x ∈ stored c.shared, key x = id → used x

variable [Sub τ] [Zero τ] [LE τ] [DecidableRel (fun a b : τ => a ≤ b)] {sha256 : String → String}

theorem resume_others (sha256 : String → String) (app : App) (state : State τ) (request : Request τ)
    {phase : Phase} (h : phase ≠ .received) :
    (resume sha256 app state request phase).2.service = state.service ∧
      (resume sha256 app state request phase).2.liveStore = state.liveStore := by
  cases phase with
  | received => exact absurd rfl h
  | found | indexed | judged | rendered | answered => exact ⟨rfl, rfl⟩
  | ingesting current =>
    simp only [resume]
    split <;> exact ⟨rfl, rfl⟩

/-- Requests that need something unused under an id, and use it up where they are answered with the status. -/
structure UsesUp (sha256 : String → String) (app : App) (key : α → String) (used : α → Prop)
    (stored : State τ → List α) (id : String) (wanted : Request τ → Prop) (status : ℕ) : Prop where
  others : ∀ before after : State τ, after.service = before.service → after.liveStore = before.liveStore →
    stored after = stored before
  kept : ∀ given state request, Sound app given state → (∀ new ∈ request.givenId, ¬ given new) →
    Kept key used request (stored state) (stored (receive sha256 app state request).2)
  single : ∀ runObjects request phase, wanted request → PhaseSound app runObjects request phase →
    phase = .received ∨ ∃ response, phase = .answered response
  wins : ∀ given state request body, Sound app given state → wanted request →
    (receive sha256 app state request).1 = .answered ⟨status, body⟩ →
    given id ∧ (∃ x ∈ stored state, key x = id ∧ ¬ used x) ∧
      ∀ x ∈ stored (receive sha256 app state request).2, key x = id → used x

variable [DecidableEq ι] {digest : TopologyDocument → String} {dedupWindow : τ} {arguments : Arguments}
  {start : State τ}
variable {c : Config ι Phase (State τ)} {wanted : Request τ → Prop} {status : ℕ}

theorem UsesUp.spent_advance (h : UsesUp sha256 app key used stored id wanted status)
    (hserves : Serves digest dedupWindow arguments app start) (hclock : ∀ i, (requests i).ClockTicks)
    (hids : IdsDiffer requests) (hhealthy : Healthy app requests c)
    (hspent : Spent key used stored requests id c) (i : ι) :
    Spent key used stored requests id (advance (serve sha256 app requests) c i) := by
  refine ⟨given_advance ((hhealthy.handled sha256 hserves hclock hids i).left_received (hhealthy.phases i))
    hspent.given, fun x hx hid => ?_⟩
  by_cases hreceived : c.locals i = .received
  · have hkept := h.kept _ _ (requests i) hhealthy.sound fun _ => not_given hids hreceived
    rw [advance, hreceived] at hx
    obtain hgiven | ⟨old, hold, hkey, hused⟩ := hkept x hx
    · exact absurd hspent.given (not_given hids hreceived (hgiven.trans (congrArg some hid)))
    · exact hused (hspent.used old hold (hkey.trans hid))
  · obtain ⟨hservice, hliveStore⟩ := resume_others sha256 app c.shared (requests i) hreceived
    exact hspent.used x (h.others _ _ hservice hliveStore ▸ hx) hid

/-- However the requests are interleaved, at most one of them is answered with the status. -/
theorem UsesUp.unique (h : UsesUp sha256 app key used stored id wanted status)
    (hcreate : createApp digest dedupWindow arguments = .ok (app, start)) (hfresh : arguments.Fresh)
    (hclock : ∀ i, (requests i).ClockTicks) (hids : IdsDiffer requests) (schedule : List ι) {i j : ι}
    (hi : wanted (requests i)) (hj : wanted (requests j)) {body body' : Body}
    (hanswered : (run (serve sha256 app requests) (arrived start) schedule).locals i =
      .answered ⟨status, body⟩)
    (hanswered' : (run (serve sha256 app requests) (arrived start) schedule).locals j =
      .answered ⟨status, body'⟩) :
    i = j := by
  have hserves := served hcreate hfresh
  refine winner_unique (Healthy app requests) (Spent key used stored requests id)
    (fun k phase => wanted (requests k) ∧ ∃ body, phase = .answered ⟨status, body⟩)
    (fun c k hc => hc.advance sha256 hserves hclock hids k) ?_
    (fun c k hc hspent => h.spent_advance hserves hclock hids hc hspent k)
    (healthy_arrived hcreate hfresh requests)
    (fun k hwon => nomatch hwon.2) schedule ⟨hi, body, hanswered⟩ ⟨hj, body', hanswered'⟩
  rintro c k hc hopen ⟨hwanted, body, hwon⟩
  rw [advance_locals_same] at hwon
  obtain hreceived | ⟨response, hresponse⟩ := h.single _ _ _ hwanted (hc.phases k)
  · have hstep : serve sha256 app requests k (c.locals k) c.shared =
        receive sha256 app c.shared (requests k) := by
      rw [hreceived]
      rfl
    rw [hstep] at hwon
    obtain ⟨hgiven, ⟨x, hx, hid, hunused⟩, hafter⟩ := h.wins _ _ _ _ hc.sound hwanted hwon
    refine ⟨fun hspent => hunused (hspent.used x hx hid), ?_, ?_⟩
    · exact given_advance ((hc.handled sha256 hserves hclock hids k).left_received (hc.phases k)) hgiven
    · intro y hy
      rw [advance, hstep] at hy
      exact hafter y hy
  · rw [hresponse] at hwon
    exact absurd ⟨hwanted, body, hresponse.trans hwon⟩ hopen

theorem UsesUp.loses (h : UsesUp sha256 app key used stored id wanted status)
    (hcreate : createApp digest dedupWindow arguments = .ok (app, start)) (hfresh : arguments.Fresh)
    (hclock : ∀ i, (requests i).ClockTicks) (hids : IdsDiffer requests)
    (hstatuses : ∀ request, wanted request → request.statuses app = [status, 404, 409]) (schedule : List ι)
    {i j : ι} (hi : wanted (requests i)) (hj : wanted (requests j)) (hne : i ≠ j) {body : Body}
    {response : Response} (hwon : (run (serve sha256 app requests) (arrived start) schedule).locals i =
      .answered ⟨status, body⟩)
    (hanswered : (run (serve sha256 app requests) (arrived start) schedule).locals j = .answered response) :
    response.status = 404 ∨ response.status = 409 := by
  have hphase := (healthy_run sha256 hcreate hfresh hclock hids schedule).phases j
  rw [hanswered] at hphase
  have hstatus := hphase.status
  rw [hstatuses _ hj] at hstatus
  simp only [List.mem_cons, List.not_mem_nil, or_false] at hstatus
  rcases hstatus with hsuccess | hrefused
  · obtain ⟨_, body'⟩ := response
    obtain rfl := hsuccess
    exact absurd (h.unique hcreate hfresh hclock hids schedule hi hj hwon hanswered) hne
  · exact hrefused

section Incidents

def Decided (incident : Incident) : Prop := incident.recoveryPlan.status ≠ .awaitingApproval

def storedIncidents (state : State τ) : List Incident := state.service.incidents.values

omit [DecidableEq ι] in
open IncidentService in
theorem stepped_kept {service : IncidentService τ} {call : IncidentCall τ}
    {outcome : Result Incident × IncidentService τ} (h : Stepped service sha256 call outcome)
    (hmakes : ∀ incident ∈ service.makes sha256 call, request.givenId = some incident.id) :
    Kept Incident.id Decided request service.incidents.values outcome.2.incidents.values := by
  cases h with
  | rejected | merged => exact .of_same rfl
  | created event receivedAt hex new kept _ hmade _ _ hvalues =>
    intro incident hincident
    rcases mem_rtake_concat (hvalues ▸ hincident) with hold | rfl
    · exact Or.inr ⟨incident, hold, rfl, fun hdecided => hdecided⟩
    · exact Or.inl (hmakes _ hmade)
  | approved old _ _ hmem =>
    intro incident hincident
    rcases Dict.mem_assign_cases hincident with rfl | ⟨-, hincident⟩
    · exact Or.inr ⟨old, hmem, rfl, fun _ => by simp [Decided, Incident.approved]⟩
    · exact Or.inr ⟨incident, hincident, rfl, fun hdecided => hdecided⟩

theorem receive_incidents (h : Sound app given state) (hfresh : ∀ id ∈ request.givenId, ¬ given id) :
    Kept Incident.id Decided request (storedIncidents state)
      (storedIncidents (receive sha256 app state request).2) := by
  cases request with
  | ingestEvent event receivedAt hex =>
    have hstepped : IncidentService.Stepped state.service sha256 _
        (state.service.ingest sha256 event.toEvent receivedAt hex) :=
      IncidentService.ingest_stepped h.incidents.coherent event.toEvent receivedAt hex
        fun incident hmakes hmem => hfresh _ (congrArg some (makes_id hmakes)) (h.incidents.ids_given _ hmem)
    exact stepped_kept hstepped fun incident hmakes => congrArg some (makes_id hmakes)
  | approveIncident incidentId =>
    have hstepped : IncidentService.Stepped state.service sha256 _ (state.service.approve incidentId) :=
      IncidentService.approve_stepped incidentId
    exact stepped_kept hstepped (by simp [IncidentService.makes])
  | ingestTelemetrySnapshot | getLatestTelemetrySnapshot | getLatestConvergenceRun | recordConvergenceEvent =>
    refine .of_same ?_
    unfold receive
    dsimp only
    split <;> rfl
  | _ => exact .of_same rfl

theorem approve_wins (h : Sound app given state) {incidentId : String} {body : Body}
    (hanswered : (receive sha256 app state (.approveIncident incidentId)).1 = .answered ⟨200, body⟩) :
    given incidentId ∧ (∃ incident ∈ storedIncidents state, incident.id = incidentId ∧ ¬ Decided incident) ∧
      ∀ incident ∈ storedIncidents (receive sha256 app state (.approveIncident incidentId)).2,
      incident.id = incidentId →
        Decided incident := by
  have hstepped : IncidentService.Stepped state.service sha256 _ (state.service.approve incidentId) :=
    IncidentService.approve_stepped incidentId
  have hservice : storedIncidents (receive sha256 app state (.approveIncident incidentId)).2 =
      (state.service.approve incidentId).2.incidents.values := rfl
  have hphase : Phase.answered (orFailure (some 404) (some 409)
      ((state.service.approve incidentId).1.map (incidentAnswer 200))) = .answered ⟨200, body⟩ := hanswered
  rw [hservice]
  generalize state.service.approve incidentId = outcome at hstepped hphase
  cases hstepped with
  | rejected e => cases e <;> simp [orFailure, Except.map, failure, httpException, internalError] at hphase
  | merged _ _ _ _ hcall => cases hcall
  | created _ _ _ _ _ hcall => cases hcall
  | approved incident hcall _ hmem hstatus =>
    obtain rfl := IncidentCall.approve.inj hcall
    refine ⟨h.incidents.ids_given _ (List.mem_map_of_mem hmem), ⟨incident, hmem, rfl, not_not.mpr hstatus⟩,
      ?_⟩
    intro other hother hid
    rcases Dict.mem_assign_cases hother with rfl | ⟨hne, -⟩
    · simp [Decided, Incident.approved]
    · exact absurd hid hne

theorem approval_usesUp (incidentId : String) :
    UsesUp sha256 app Incident.id Decided (storedIncidents (τ := τ)) incidentId
    (fun request => request = .approveIncident incidentId) 200 where
  others := fun before after hservice _ => by rw [storedIncidents, storedIncidents, hservice]
  kept := fun _ _ _ h hfresh => receive_incidents h hfresh
  single := by
    rintro _ _ phase rfl hphase
    cases phase with
    | received => exact Or.inl rfl
    | found | indexed | judged | rendered => exact nomatch hphase.1
    | ingesting =>
      obtain ⟨_, _, _, hrequest, -⟩ := hphase
      cases hrequest
    | answered response => exact Or.inr ⟨response, rfl⟩
  wins := by
    rintro _ _ _ _ h rfl hanswered
    exact approve_wins h hanswered

end Incidents

section Runs

def Recorded (kind : ConvergenceEventKind) (run : ConvergenceRun) : Prop := ∃ event ∈ run.events,
    event.kind = kind

variable {kind : ConvergenceEventKind} {store : ConvergenceStore} {runId : String}

theorem Recorded.append {run : ConvergenceRun} (h : Recorded kind run) (event : ConvergenceEvent) :
    Recorded kind (run.append event) :=
  h.imp fun _ hrecorded => ⟨List.mem_append_left _ hrecorded.1, hrecorded.2⟩

end Runs

def racingRequests : Fin 6 → Request ℤ
  | 0 => .ingestEvent ⟨"link_down", "access1--agg1", by simp [isLower], by simp [isLower, isDigit]⟩ 100
    "5d0c31f2ab7e"
  | 1 => .approveIncident "inc-5d0c31f2ab7e"
  | 2 => .approveIncident "inc-5d0c31f2ab7e"
  | 3 => labRequests 0
  | 4 => labRequests 1
  | 5 => labRequests 1

theorem racingRequests_tick (i : Fin 6) : (racingRequests i).ClockTicks := by
  fin_cases i <;> trivial

theorem racingRequests_differ : IdsDiffer racingRequests := by
  intro i j id hi hj
  fin_cases i <;> fin_cases j <;> simp [racingRequests, labRequests, Request.givenId] at hi hj ⊢
  · exact absurd (hi.trans hj.symm) (by decide)
  · exact absurd (hj.trans hi.symm) (by decide)

def raced (server : App × State ℤ) (i : Fin 6) : Phase :=
  (run (serve linkDigest server.1 racingRequests) (arrived server.2) [0, 2, 1, 3, 5, 4]).locals i

theorem raced_answered : ∃ app start, labServer = .ok (app, start) ∧ ∀ i, ∃ body,
    raced (app, start) i = .answered ⟨![201, 409, 200, 201, 409, 201] i, body⟩ := by
  have hruns : labServer.toOption.map (fun server => (List.finRange 6).map fun i =>
      (raced server i).response.map Response.status) =
      some ((List.finRange 6).map fun i => some (![201, 409, 200, 201, 409, 201] i)) := by decide +kernel
  obtain ⟨⟨app, start⟩, hserver, hstatuses⟩ := Option.map_eq_some_iff.mp hruns
  refine ⟨app, start, (toOption_some_iff _ _).mp hserver, fun i => ?_⟩
  have hstatus := List.map_inj_left.mp hstatuses i (List.mem_finRange i)
  obtain ⟨⟨_, body⟩, hresponse, rfl⟩ := Option.map_eq_some_iff.mp hstatus
  exact ⟨body, Phase.response_some hresponse⟩

section Answers

variable (digest : TopologyDocument → String) (sha256 : String → String) (dedupWindow : τ)
  (arguments : Arguments) (app : App)
variable (start : State τ)

/-- Of all requests to approve an incident, in whatever order they are handled, at most one succeeds. -/
theorem incident_approved_once (hcreate : createApp digest dedupWindow arguments = .ok (app, start))
    (hfresh : arguments.Fresh) (requests : ι → Request τ) (hclock : ∀ i, (requests i).ClockTicks)
    (hids : IdsDiffer requests) (schedule : List ι) (incidentId : String) (i j : ι)
    (hi : requests i = .approveIncident incidentId) (hj : requests j = .approveIncident incidentId)
    (hne : i ≠ j) (body : Body) (response : Response)
    (happroved : (run (serve sha256 app requests) (arrived start) schedule).locals i = .answered ⟨200, body⟩)
    (hanswered : (run (serve sha256 app requests) (arrived start) schedule).locals j = .answered response) :
    response.status = 404 ∨ response.status = 409 :=
  (approval_usesUp incidentId).loses hcreate hfresh hclock hids (by rintro _ rfl; rfl) schedule hi hj hne
    happroved hanswered

theorem incident_approved_once_raced : ∃ app start body response, labServer = .ok (app, start) ∧
    raced (app, start) 2 = .answered ⟨200, body⟩ ∧ raced (app, start) 1 = .answered response ∧
    (response.status = 404 ∨ response.status = 409) := by
  obtain ⟨app, start, hserver, hraced⟩ := raced_answered
  obtain ⟨⟨body, happroved⟩, body', hanswered⟩ := And.intro (hraced 2) (hraced 1)
  exact ⟨app, start, body, _, hserver, happroved, hanswered,
    incident_approved_once (fun _ => labFingerprint) linkDigest 60
    labArguments app start hserver labArguments_fresh racingRequests racingRequests_tick racingRequests_differ
    [0, 2, 1, 3, 5, 4] "inc-5d0c31f2ab7e" 2 1 rfl rfl (by decide) body _ happroved hanswered⟩

end Answers

end Once

section Agreement

variable {T : Topology}

theorem link_down_of_analysed {event : NetworkEvent} {analysis : ImpactAnalysis}
    (h : T.analyzeLinkDown event = .ok analysis) :
    ∃ link ∈ T.linksById, event = ⟨link.id, "link_down"⟩ ∧ analysis.failedComponent = link.id := by
  obtain ⟨htype, h⟩ := (check_ok_iff _ _ _ _).mp h
  obtain ⟨link, hlink, h⟩ := (bind_ok_iff _ _ _).mp h
  obtain ⟨-, h⟩ := (check_ok_iff _ _ _ _).mp h
  obtain ⟨st, -, h⟩ := (bind_ok_iff _ _ _).mp h
  obtain ⟨owners, -, h⟩ := (bind_ok_iff _ _ _).mp h
  obtain rfl := Except.ok.inj h
  refine ⟨link, T.mem_of_link_ok hlink, ?_, rfl⟩
  unfold Topology.link at hlink
  split at hlink
  · next found hfound =>
    obtain rfl := Except.ok.inj hlink
    have hid : found.id = event.linkId := by simpa using List.find?_some hfound
    cases event
    exact congrArg₂ NetworkEvent.mk hid.symm (not_not.mp htype)
  · cases hlink

theorem audited_of_analysed {audit : ResilienceAudit} (haudit : T.auditSingleLinkFailures = .ok audit)
    {event : NetworkEvent} {analysis : ImpactAnalysis} (h : T.analyzeLinkDown event = .ok analysis) :
    ∃ scenario ∈ audit.scenarios,
      scenario.linkId = analysis.failedComponent ∧ scenario.serviceImpact = analysis.serviceImpact ∧
      scenario.affectedNodes = analysis.affectedNodes ∧
      scenario.affectedPrefixes = analysis.affectedPrefixes := by
  obtain ⟨link, hlink, rfl, hfailed⟩ := link_down_of_analysed h
  obtain ⟨scenario, hscenario, ⟨hid, fault, result, hL, hX, hspec, himpact, hnodes, hprefixes⟩⟩ :=
    exists_right (Topology.auditSingleLinkFailures_ok haudit) ((T.mem_links link).mpr hlink)
  have hpaths := hspec.paths
  rw [hL, hX] at hpaths
  obtain ⟨made, hmade, hreport⟩ := T.analyzeLinkDown_ok hlink (Topology.serviceNodes_ne_empty haudit) hpaths
  obtain rfl := Except.ok.inj (hmade.symm.trans h)
  obtain ⟨-, himpact', hnodes', hprefixes'⟩ := hreport.congr hspec.toReportedAs fun access _ => by rw [hL, hX]
  exact ⟨scenario, hscenario, hid.trans hfailed.symm, himpact.trans himpact'.symm, hnodes.trans hnodes'.symm,
    hprefixes.trans hprefixes'.symm⟩

variable {ι τ : Type} [DecidableEq ι] [Sub τ] [Zero τ] [LE τ] [DecidableRel (fun a b : τ => a ≤ b)]

/-- What a handler says of an incident is a row of the audit that another handler answers with. -/
theorem incidents_agree_with_audit (digest : TopologyDocument → String) (sha256 : String → String)
    (dedupWindow : τ) (arguments : Arguments) (app : App) (start : State τ)
    (hcreate : createApp digest dedupWindow arguments = .ok (app, start)) (hfresh : arguments.Fresh)
    (requests : ι → Request τ) (hclock : ∀ i, (requests i).ClockTicks) (hids : IdsDiffer requests)
    (schedule : List ι) (i : ι) (status : ℕ) (incident : IncidentResponse)
    (hanswered : (run (serve sha256 app requests) (arrived start) schedule).locals i =
      .answered ⟨status, .incident incident⟩) :
    (∃ endpoints, (incident.failedComponent, endpoints, incident.serviceImpact, incident.affectedNodes,
      incident.affectedPrefixes) ∈ (resilienceResponse app.resilienceAudit).scenarios) ∧
    incident.recommendedAction = ⟨"restore_link", incident.failedComponent⟩ := by
  have hphase := (healthy_run sha256 hcreate hfresh hclock hids schedule).phases i
  rw [hanswered] at hphase
  obtain ⟨made, ⟨hanalysed, haction, htarget⟩, rfl⟩ := hphase.body
  obtain ⟨scenario, hscenario, hid, himpact, hnodes, hprefixes⟩ :=
    audited_of_analysed (createApp_created hcreate).resilience hanalysed
  refine ⟨⟨[scenario.endpoints.1, scenario.endpoints.2], List.mem_map.mpr ⟨scenario, hscenario, ?_⟩⟩, ?_⟩
  · rw [hid, himpact, hnodes, hprefixes]
    rfl
  · exact congrArg₂ RecoveryActionResponse.mk haction htarget

def Phase.incident : Phase → Option IncidentResponse
  | .answered ⟨_, .incident incident⟩ => some incident
  | _ => none

theorem Phase.incident_some {phase : Phase} {incident : IncidentResponse}
    (h : phase.incident = some incident) :
    ∃ status, phase = .answered ⟨status, .incident incident⟩ := by
  unfold Phase.incident at h
  split at h
  · exact ⟨_, congrArg _ (congrArg _ (congrArg Body.incident (Option.some.inj h)))⟩
  · cases h

theorem incidents_agree_with_audit_raced : ∃ app start status incident, labServer = .ok (app, start) ∧
    raced (app, start) 0 = .answered ⟨status, .incident incident⟩ ∧
    ∃ endpoints, (incident.failedComponent, endpoints, incident.serviceImpact, incident.affectedNodes,
      incident.affectedPrefixes) ∈ (resilienceResponse app.resilienceAudit).scenarios := by
  have hruns : (labServer.toOption.bind fun server => (raced server 0).incident).isSome = true := by
    decide +kernel
  obtain ⟨incident, hincident⟩ := Option.isSome_iff_exists.mp hruns
  obtain ⟨⟨app, start⟩, hserver, hmade⟩ := Option.bind_eq_some_iff.mp hincident
  obtain ⟨status, hanswered⟩ := Phase.incident_some hmade
  have hcreate := (toOption_some_iff _ _).mp hserver
  obtain ⟨hrow, -⟩ := incidents_agree_with_audit (fun _ => labFingerprint) linkDigest 60 labArguments app
    start hcreate labArguments_fresh racingRequests racingRequests_tick racingRequests_differ [0, 2, 1, 3, 5,
      4] 0 status incident hanswered
  exact ⟨app, start, status, incident, hcreate, hanswered, hrow⟩

end Agreement

end TelconetSentinel.Api
