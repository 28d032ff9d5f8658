import TelconetSentinel.ApiRuns
import TelconetSentinel.Library.FixedPointText

namespace TelconetSentinel.Api

open DocumentValues ExpositionText FallibleLists FixedPointText Interleaving
open TelemetryMetrics (flag)

def Phase.response : Phase → Option Response
  | .answered response => some response
  | _ => none

theorem Phase.response_some {phase : Phase} {response : Response} (h : phase.response = some response) :
    phase = .answered response := by
  cases phase <;> simp_all [Phase.response]

section Pages

variable {ι τ : Type} [DecidableEq ι] [Sub τ] [Zero τ] [LE τ] [DecidableRel (fun a b : τ => a ≤ b)]
variable {digest : TopologyDocument → String} {dedupWindow : τ} {arguments : Arguments}
  {start state : State τ} {app : App}
variable {sha256 : String → String} {requests : ι → Request τ} {c : Config ι Phase (State τ)} {i : ι}
variable {live : Option LiveReadings} {given : String → Prop}

section Readings

variable (sha256 : String → String) (app : App) (requests : ι → Request τ) (i : ι)

def Reads (runId : String) : Config ι Phase (State τ) → List ι → List ConvergenceRun → Prop
  | _, _, [] => True
  | c, schedule, found :: later => ∃ earlier rest, schedule = earlier ++ i :: rest ∧ i ∉ earlier ∧
      (run (serve sha256 app requests) c earlier).shared.runObjects.get runId = some found ∧
      Reads runId (advance (serve sha256 app requests) (run (serve sha256 app requests) c earlier) i) rest
      later

/-- The latest run at the first step of a request, and what its next three steps find of this run. -/
structure ReadInTurn (c : Config ι Phase (State τ)) (after : List ι) (readings : LiveReadings)
    (latest judged listed : ConvergenceRun) : Prop where
  latest_eq : c.shared.liveStore.latest = .ok (some latest)
  reads : Reads sha256 app requests i latest.id (advance (serve sha256 app requests) c i) after
    [readings.run, judged, listed]
  run_grown : latest.GrownTo readings.run
  judged_grown : readings.run.GrownTo judged
  listed_grown : judged.GrownTo listed
  status_eq : judged.status = .ok readings.status
  events_eq : readings.events = listed.events

def ReadFrom (c : Config ι Phase (State τ)) (after : List ι) : Option LiveReadings → Prop
  | none => c.shared.liveStore.latest = .ok none
  | some readings => ∃ latest judged listed,
    ReadInTurn sha256 app requests i c after readings latest judged listed

end Readings

theorem shows_resume (hserves : Serves digest dedupWindow arguments app start) (h : Sound app given state)
    {phase : Phase} (hshows : Shows app live phase) :
    Shows app live (resume sha256 app state .metrics phase).1 := by
  cases phase with
  | received | found | indexed | judged | ingesting => exact hshows.elim
  | rendered text =>
    obtain ⟨hbinding, htext⟩ := hshows
    obtain ⟨binding, hbinding⟩ := Option.isSome_iff_exists.mp hbinding
    obtain ⟨page, hfinish, hpage⟩ := renderTelemetry_page hbinding (hserves.inventory binding hbinding)
      (h.telemetry binding hbinding) htext
    rw [resume, hfinish]
    exact ⟨page, rfl, hpage⟩
  | answered response => exact hshows

section Runs

variable (hserves : Serves digest dedupWindow arguments app start) (hclock : ∀ i, (requests i).ClockTicks)
  (hids : IdsDiffer requests)
include hserves hclock hids

variable (sha256) in
theorem shows_run (h : Healthy app requests c) (hmetrics : requests i = .metrics)
    (hshows : Shows app live (c.locals i)) (schedule : List ι) :
    Shows app live ((run (serve sha256 app requests) c schedule).locals i) := by
  have hkeeps : ∀ (c : Config ι Phase (State τ)) (j : ι), Healthy app requests c ∧
      Shows app live (c.locals i) →
      Healthy app requests (advance (serve sha256 app requests) c j) ∧
        Shows app live ((advance (serve sha256 app requests) c j).locals i) := by
    rintro c j ⟨hc, hshown⟩
    refine ⟨hc.advance sha256 hserves hclock hids j, ?_⟩
    by_cases hij : i = j
    · subst hij
      rw [advance_locals_same, serve, hmetrics]
      exact shows_resume hserves hc.sound hshown
    · rwa [advance_locals_of_ne _ hij]
  exact (invariant_run hkeeps ⟨h, hshows⟩ schedule).2

variable (sha256) in
theorem grown_run (h : Healthy app requests c) (schedule : List ι) :
    Healthy app requests (run (serve sha256 app requests) c schedule) ∧
      Grown c.shared.runObjects (run (serve sha256 app requests) c schedule).shared.runObjects := by
  have hkeeps : ∀ (later : Config ι Phase (State τ)) (j : ι),
      Healthy app requests later ∧ Grown c.shared.runObjects later.shared.runObjects →
      Healthy app requests (advance (serve sha256 app requests) later j) ∧
        Grown c.shared.runObjects (advance (serve sha256 app requests) later j).shared.runObjects := by
    rintro later j ⟨hlater, hgrown⟩
    exact ⟨hlater.advance sha256 hserves hclock hids j,
      hgrown.trans (hlater.handled sha256 hserves hclock hids j).grown⟩
  exact invariant_run hkeeps ⟨h, .refl _⟩ schedule

/-- A request that is to read a run has a next step, in which it finds the run as it has grown up to then. -/
theorem reading_step (h : Healthy app requests c) (hmetrics : requests i = .metrics) {schedule : List ι}
    {response : Response} (hanswered : (run (serve sha256 app requests) c schedule).locals i =
      .answered response)
    {phase : Phase} (hlocal : c.locals i = phase) (hpending : phase ≠ .answered response)
    {known : ConvergenceRun} (hknown : known ∈ c.shared.runObjects.values) {runId : String}
    (hid : known.id = runId) {next : ConvergenceRun → Phase}
    (hread : ∀ state : State τ, resume sha256 app state .metrics phase = (readRun state runId next, state)) :
    ∃ earlier rest c' later, schedule = earlier ++ i :: rest ∧ i ∉ earlier ∧
      (run (serve sha256 app requests) c earlier).shared.runObjects.get runId = some later ∧
      c' = advance (serve sha256 app requests) (run (serve sha256 app requests) c earlier) i ∧
      Healthy app requests c' ∧
      c'.locals i = next later ∧ later ∈ c'.shared.runObjects.values ∧ known.GrownTo later ∧
      (run (serve sha256 app requests) c' rest).locals i = .answered response := by
  obtain ⟨earlier, rest, rfl, hfirst, hkept⟩ :=
    next_own_step (fun hsame => hpending (hlocal.symm.trans (hsame.symm.trans hanswered)))
  obtain ⟨hhealthy, hgrown⟩ := grown_run sha256 hserves hclock hids h earlier
  obtain ⟨later, hlater, hle⟩ := hgrown known hknown
  have hlaterId : later.id = runId := hle.id_eq.trans hid
  have hstep : serve sha256 app requests i ((run (serve sha256 app requests) c earlier).locals i)
      (run (serve sha256 app requests) c earlier).shared =
      (next later, (run (serve sha256 app requests) c earlier).shared) := by
    rw [hkept, hlocal, serve, hmetrics, hread, readRun_eq hlater hlaterId]
  rw [List.append_cons, run_append, run_concat] at hanswered
  refine ⟨earlier, rest, _, later, rfl, hfirst, (KeyedLists.Dict.get_some_iff _ _).mpr ⟨hlater, hlaterId⟩,
    rfl, hhealthy.advance sha256 hserves hclock hids i, ?_, ?_, hle, hanswered⟩
  · rw [advance_locals_same, hstep]
  · rw [advance, hstep]
    exact hlater

theorem found_answer (h : Healthy app requests c) (hmetrics : requests i = .metrics) {latest : ConvergenceRun}
    (hlatest : latest ∈ c.shared.runObjects.values) {opening : String} (hopening : IsOpening app opening)
    (hlocal : c.locals i = .found opening latest.id) {schedule : List ι} {response : Response}
    (hanswered : (run (serve sha256 app requests) c schedule).locals i = .answered response) :
    ∃ text readings judged listed, response = ⟨200, .metrics text⟩ ∧ IsPageOf (pageNames app)
      (some readings) text ∧
      readings.Sound ∧ Reads sha256 app requests i latest.id c schedule [readings.run, judged, listed] ∧
      latest.GrownTo readings.run ∧ readings.run.GrownTo judged ∧ judged.GrownTo listed ∧
      judged.status = .ok readings.status ∧ readings.events = listed.events := by
  obtain ⟨earlier₁, rest₁, c₁, indexed, rfl, hfirst₁, hget₁, hc₁, hhealthy₁, hlocal₁, hmem₁, hgrown₁,
    hanswered⟩ :=
    reading_step hserves hclock hids h hmetrics hanswered hlocal Phase.noConfusion hlatest rfl fun _ => rfl
  have hid₁ : indexed.id = latest.id := hgrown₁.id_eq
  obtain ⟨earlier₂, rest₂, c₂, judged, rfl, hfirst₂, hget₂, hc₂, hhealthy₂, hlocal₂, hmem₂, hgrown₂,
    hanswered⟩ :=
    reading_step hserves hclock hids hhealthy₁ hmetrics hanswered hlocal₁ Phase.noConfusion hmem₁ hid₁
      fun _ => by rw [resume, hid₁]
  obtain ⟨status, hstatus, hjudged⟩ := judge_ok (hhealthy₂.sound.objects.runs judged hmem₂).1 indexed opening
  rw [hjudged] at hlocal₂
  obtain ⟨earlier₃, rest₃, c₃, listed, rfl, hfirst₃, hget₃, hc₃, hhealthy₃, hlocal₃, hmem₃, hgrown₃,
    hanswered⟩ :=
    reading_step hserves hclock hids hhealthy₂ hmetrics hanswered hlocal₂ Phase.noConfusion hmem₂
      (hgrown₂.id_eq.trans hid₁) fun _ => by rw [resume, hid₁]
  have hsound : LiveReadings.Sound ⟨indexed, status, listed.events⟩ :=
    readings_sound (hhealthy₁.sound.objects.runs indexed hmem₁).1 (hhealthy₃.sound.objects.runs listed hmem₃)
      status
  have hshows := showRun_shows hserves.created hopening fun readings hreadings => Option.some.inj hreadings ▸
    hsound
  have hshown := shows_run sha256 hserves hclock hids hhealthy₃ hmetrics (hlocal₃.symm ▸ hshows) rest₃
  rw [hanswered] at hshown
  obtain ⟨text, rfl, hpage⟩ := hshown
  subst hc₁ hc₂ hc₃
  exact ⟨text, _, judged, listed, rfl, hpage, hsound,
    ⟨earlier₁, _, rfl, hfirst₁, hget₁, earlier₂, _, rfl, hfirst₂, hget₂, earlier₃, _, rfl, hfirst₃, hget₃,
      trivial⟩,
    hgrown₁, hgrown₂, hgrown₃, hstatus, rfl⟩

end Runs

theorem metrics_answer (hcreate : createApp digest dedupWindow arguments = .ok (app, start))
    (hfresh : arguments.Fresh) (hclock : ∀ i, (requests i).ClockTicks) (hids : IdsDiffer requests)
    (before after : List ι) (hmetrics : requests i = .metrics) (hfirst : i ∉ before) {response : Response}
    (hanswered : (run (serve sha256 app requests) (arrived start) (before ++ i :: after)).locals i =
      .answered response) :
    app.experimentEvidence = none ∧ response = httpException 503 "experiment evidence is unavailable" ∨
    ∃ text live, response = ⟨200, .metrics text⟩ ∧ IsPageOf (pageNames app) live text ∧
    (∀ readings ∈ live, readings.Sound) ∧
      ReadFrom sha256 app requests i (run (serve sha256 app requests) (arrived start) before) after live := by
  have hserves := served hcreate hfresh
  have hhealthy := healthy_run sha256 hcreate hfresh hclock hids before
  have hstart : (run (serve sha256 app requests) (arrived start) before).locals i = .received :=
    untouched_run hfirst _
  have hadvanced := hhealthy.advance sha256 hserves hclock hids i
  rw [List.append_cons, run_append, run_concat] at hanswered
  generalize run (serve sha256 app requests) (arrived start) before = c at *
  have hstep : serve sha256 app requests i (c.locals i) c.shared =
      (startMetrics app c.shared.liveStore, c.shared) := by
    rw [hstart, serve, hmetrics]
    rfl
  have hlocal : (advance (serve sha256 app requests) c i).locals i = startMetrics app c.shared.liveStore := by
    rw [advance_locals_same, hstep]
  have hshared : (advance (serve sha256 app requests) c i).shared = c.shared := by rw [advance, hstep]
  rcases startMetrics_cases hserves.created hhealthy.sound.runs with
    ⟨hevidence, hrefused⟩ | ⟨hnone, hshows⟩ | ⟨latest, hlatest, opening, hsome, hfound, hopening⟩
  · rw [fixed_run (fun _ => rfl) (hlocal.trans hrefused) after] at hanswered
    exact Or.inl ⟨hevidence, (Phase.answered.inj hanswered).symm⟩
  · have hshown := shows_run sha256 hserves hclock hids hadvanced hmetrics (hlocal.symm ▸ hshows) after
    rw [hanswered] at hshown
    obtain ⟨text, rfl, hpage⟩ := hshown
    exact Or.inr ⟨text, none, rfl, hpage, by simp, hnone⟩
  · have hheld : latest ∈ (advance (serve sha256 app requests) c i).shared.runObjects.values := by
      rw [hshared]
      exact hhealthy.sound.objects.held latest hlatest
    obtain ⟨text, readings, judged, listed, rfl, hpage, hsound, hreads, hindexed, hjudged, hlisted, hstatus,
      hevents⟩ :=
      found_answer hserves hclock hids hadvanced hmetrics hheld hopening (hlocal.trans hfound) hanswered
    refine Or.inr ⟨text, some readings, rfl, hpage, fun found hfound => Option.some.inj hfound ▸ hsound,
      latest, judged, listed, hsome, hreads, hindexed, hjudged, hlisted, hstatus, hevents⟩

theorem elim_liveSamples (h : ∀ readings ∈ live, readings.Sound) :
    live.elim (.ok []) liveSamples = .ok (liveBlock live).samples := by
  cases live with
  | none => rfl
  | some readings => exact liveSamples_ok (h readings rfl)

theorem page_reads {text : String} (h : IsPageOf (pageNames app) live text) :
    ∃ lines, readMetrics text = some lines ∧
    WellFormed lines ∧ lines.filterMap Line.typed = pageNames app ∧
    (lines.filterMap Line.sampled).filter (·.name ∈ liveNames) = (liveBlock live).samples := by
  obtain ⟨before, after, hpage⟩ := h
  exact ⟨_, hpage.renders.read, hpage.wellFormed (pageNames_nodup app), hpage.typed,
    hpage.samples_of_block (pageNames_nodup app) (List.mem_append_right _ List.mem_cons_self)⟩

theorem labText : ∃ app start text, labServer = .ok (app, start) ∧
    (run (serve linkDigest app labRequests) (arrived start) ([0] ++ 2 :: [2, 1, 2, 2, 3, 2])).locals 2 =
      .answered ⟨200, .metrics text⟩ := by
  have hruns : labServer.toOption.bind (fun server =>
      ((run (serve linkDigest server.1 labRequests) (arrived server.2)
        ([0] ++ 2 :: [2, 1, 2, 2, 3, 2])).locals 2).response.map
        Response.status) = some 200 := by
    decide +kernel
  obtain ⟨⟨app, start⟩, hserver, hrun⟩ := Option.bind_eq_some_iff.mp hruns
  obtain ⟨response, hresponse, hstatus⟩ := Option.map_eq_some_iff.mp hrun
  have hcreate := (toOption_some_iff _ _).mp hserver
  have hanswered := Phase.response_some hresponse
  rcases metrics_answer hcreate labArguments_fresh labRequests_tick labRequests_differ [0]
    [2, 1, 2, 2, 3, 2] rfl (by decide) hanswered with ⟨-, rfl⟩ | ⟨text, -, rfl, -⟩
  · cases hstatus
  · exact ⟨app, start, text, hcreate, hanswered⟩

/-- The page reads back as a well-formed text of the metrics of the application. Its live samples are those of
the run that was the latest at the first step of the request, as its next three steps have read it. -/
theorem metrics_page_reads_back (digest : TopologyDocument → String) (sha256 : String → String)
    (dedupWindow : τ) (arguments : Arguments) (app : App) (start : State τ)
    (hcreate : createApp digest dedupWindow arguments = .ok (app, start)) (hfresh : arguments.Fresh)
    (requests : ι → Request τ) (hclock : ∀ i, (requests i).ClockTicks) (hids : IdsDiffer requests)
    (before after : List ι) (i : ι) (hmetrics : requests i = .metrics) (hfirst : i ∉ before)
    (response : Response) (hanswered : (run (serve sha256 app requests) (arrived start)
      (before ++ i :: after)).locals i = .answered response) :
    app.experimentEvidence = none ∧ response = httpException 503 "experiment evidence is unavailable" ∨
    ∃ text lines live, response = ⟨200, .metrics text⟩ ∧ readMetrics text = some lines ∧ WellFormed lines ∧
      lines.filterMap Line.typed = pageNames app ∧
      live.elim (.ok []) liveSamples = .ok ((lines.filterMap Line.sampled).filter (·.name ∈ liveNames)) ∧
      ReadFrom sha256 app requests i (run (serve sha256 app requests) (arrived start) before) after live := by
  rcases metrics_answer hcreate hfresh hclock hids before after hmetrics hfirst hanswered with
    hrefused | ⟨text, live, hresponse, hpage, hsound, hread⟩
  · exact Or.inl hrefused
  · obtain ⟨lines, hlines, hwellFormed, hnames, hlive⟩ := page_reads hpage
    exact Or.inr ⟨text, lines, live, hresponse, hlines, hwellFormed, hnames, hlive ▸ elim_liveSamples hsound,
      hread⟩

theorem metrics_page_reads_back_lab : ∃ app start text lines live, labServer = .ok (app, start) ∧
    (run (serve linkDigest app labRequests) (arrived start) ([0] ++ 2 :: [2, 1, 2, 2, 3, 2])).locals 2 =
      .answered ⟨200, .metrics text⟩ ∧
    readMetrics text = some lines ∧ WellFormed lines ∧ lines.filterMap Line.typed = pageNames app ∧
    live.elim (.ok []) liveSamples = .ok ((lines.filterMap Line.sampled).filter (·.name ∈ liveNames)) ∧
    ReadFrom linkDigest app labRequests 2 (run (serve linkDigest app labRequests) (arrived start) [0])
    [2, 1, 2, 2, 3, 2] live := by
  obtain ⟨app, start, text, hserver, hanswered⟩ := labText
  rcases metrics_page_reads_back (fun _ => labFingerprint) linkDigest 60 labArguments app start hserver
    labArguments_fresh labRequests labRequests_tick labRequests_differ [0]
      [2, 1, 2, 2, 3, 2] 2 rfl (by decide) _ hanswered with
    ⟨-, hrefused⟩ | ⟨page, lines, live, hpage, hread⟩
  · cases hrefused
  · obtain rfl := Body.metrics.inj (Response.mk.inj hpage).2
    exact ⟨app, start, text, lines, live, hserver, hanswered, hread⟩

end Pages

section Alerts

/-- `metric == 0` in the rules of Prometheus, on the page that it has scraped. -/
def Fires (metric : String) (lines : List Line) : Prop :=
  ∃ sample ∈ lines.filterMap Line.sampled, sample.name = metric ∧ readDecimal sample.value.toList = some 0

theorem readDecimal_flag (b : Bool) : readDecimal (flag b).toList = some 0 ↔ b = false := by
  cases b <;> decide +kernel

theorem fires_iff {lines : List Line} {metric : String} (hmetric : metric ∈ liveNames) : Fires metric lines ↔
    ∃ sample ∈ (lines.filterMap Line.sampled).filter (·.name ∈ liveNames), sample.name = metric ∧
      readDecimal sample.value.toList = some 0 := by
  simp only [Fires, List.mem_filter]
  constructor
  · rintro ⟨sample, hsample, rfl, hzero⟩
    exact ⟨sample, ⟨hsample, decide_eq_true hmetric⟩, rfl, hzero⟩
  · rintro ⟨sample, ⟨hsample, -⟩, hname, hzero⟩
    exact ⟨sample, hsample, hname, hzero⟩

variable {readings : LiveReadings} {run : ConvergenceRun} {status : RunStatus}

theorem complete_fires_iff : (∃ sample ∈ liveMeant readings, sample.name = "telconet_live_run_complete" ∧
    readDecimal sample.value.toList = some 0) ↔ readings.status = .collecting := by
  have hvalue : readDecimal (flag (readings.status = .complete)).toList = some 0 ↔
      readings.status = .collecting := by
    rw [readDecimal_flag]
    cases readings.status <;> simp
  rw [← hvalue]
  constructor
  · rintro ⟨sample, hsample, hname, hzero⟩
    simp only [liveMeant, peerSample, stateSamples, List.mem_cons, List.mem_append, List.mem_map,
      List.not_mem_nil, or_false] at hsample
    rcases hsample with rfl | ⟨event, -, rfl⟩ | hpeer | rfl | rfl | rfl
    · exact hzero
    · simp [offsetMeant] at hname
    · split_ifs at hpeer
      · obtain rfl := List.mem_singleton.mp hpeer
        simp at hname
      · exact absurd hpeer List.not_mem_nil
    all_goals simp at hname
  · exact fun hzero => ⟨_, List.mem_cons_self, rfl, hzero⟩

theorem reachable_fires_iff :
    (∃ sample ∈ liveMeant readings, sample.name = "telconet_live_data_plane_reachable" ∧
    readDecimal sample.value.toList = some 0) ↔ readings.run.reachable = false := by
  rw [← readDecimal_flag]
  constructor
  · rintro ⟨sample, hsample, hname, hzero⟩
    simp only [liveMeant, peerSample, stateSamples, List.mem_cons, List.mem_append, List.mem_map,
      List.not_mem_nil, or_false] at hsample
    rcases hsample with rfl | ⟨event, -, rfl⟩ | hpeer | rfl | rfl | rfl
    · simp at hname
    · simp [offsetMeant] at hname
    · split_ifs at hpeer
      · obtain rfl := List.mem_singleton.mp hpeer
        simp at hname
      · exact absurd hpeer List.not_mem_nil
    · simp at hname
    · simp at hname
    · exact hzero
  · intro hzero
    refine ⟨⟨"telconet_live_data_plane_reachable", [("profile", readings.run.profile)],
      flag readings.run.reachable⟩, ?_, rfl, hzero⟩
    simp [liveMeant, stateSamples]

theorem reachable_false_iff : run.reachable = false ↔
    (∃ event ∈ run.events, event.kind = .blackholeInjected) ∧
    ∀ event ∈ run.events, event.kind ≠ .dataPlaneRecovered := by
  rw [ConvergenceRun.reachable, Bool.or_eq_false_iff, ← Bool.not_eq_true, ConvergenceRun.recorded_iff,
    Bool.not_eq_false', ConvergenceRun.recorded_iff, and_comm]
  push Not
  rfl

theorem collecting_of_unreachable (h : run.WellFormed) (hstatus : run.status = .ok status)
    (hlost : ∀ event ∈ run.events, event.kind ≠ .dataPlaneRecovered) : status = .collecting := by
  cases status with
  | collecting => rfl
  | complete =>
    obtain ⟨required, hrequired, -⟩ := h.profile
    have hrecovery : ConvergenceEventKind.dataPlaneRecovered ∈ required := by
      rcases h.profile_cases with hprofile | hprofile
      all_goals
        rw [hprofile] at hrequired
        obtain rfl := Option.some.inj hrequired
        decide
    obtain ⟨event, hevent, hkind⟩ := h.complete_iff.mp hstatus required hrequired _ hrecovery
    exact absurd hkind (hlost event hevent)

theorem alerts_iff {lines : List Line} {live : Option LiveReadings}
    (hsamples : (lines.filterMap Line.sampled).filter (·.name ∈ liveNames) = (liveBlock live).samples) :
    (Fires "telconet_live_run_complete" lines ↔ ∃ readings ∈ live, readings.status = .collecting) ∧
    (Fires "telconet_live_data_plane_reachable" lines ↔ ∃ readings ∈ live,
      (∃ event ∈ readings.run.events, event.kind = .blackholeInjected) ∧
        ∀ event ∈ readings.run.events, event.kind ≠ .dataPlaneRecovered) := by
  have hnames : "telconet_live_run_complete" ∈ liveNames ∧ "telconet_live_data_plane_reachable" ∈
      liveNames := by
    decide +kernel
  rw [fires_iff hnames.1, fires_iff hnames.2, hsamples]
  cases live with
  | none => simp [liveBlock]
  | some readings =>
    simp only [liveBlock, Option.elim_some, complete_fires_iff, reachable_fires_iff, reachable_false_iff,
      Option.mem_def, Option.some.injEq, exists_eq_left', and_self]

/-- A page without the recovery calls the run complete only if its last events came between the two
readings. -/
theorem unreachable_cases {live : Option LiveReadings} (hsound : ∀ readings ∈ live, readings.Sound)
    {lines : List Line} (hcomplete : Fires "telconet_live_run_complete" lines ↔ ∃ readings ∈ live,
      readings.status = .collecting)
    (hreachable : Fires "telconet_live_data_plane_reachable" lines ↔ ∃ readings ∈ live,
      (∃ event ∈ readings.run.events, event.kind = .blackholeInjected) ∧
        ∀ event ∈ readings.run.events, event.kind ≠ .dataPlaneRecovered)
    (hfires : Fires "telconet_live_data_plane_reachable" lines) : Fires "telconet_live_run_complete" lines ∨
      ∃ readings ∈ live, readings.run.status = .ok .collecting ∧ readings.status = .complete := by
  obtain ⟨readings, hreadings, -, hlost⟩ := hreachable.mp hfires
  have hwellFormed := (hsound readings hreadings).wellFormed
  obtain ⟨status, hstatus⟩ := hwellFormed.status_ok
  obtain rfl := collecting_of_unreachable hwellFormed hstatus hlost
  cases hjudged : readings.status with
  | collecting => exact Or.inl (hcomplete.mpr ⟨readings, hreadings, hjudged⟩)
  | complete => exact Or.inr ⟨readings, hreadings, hstatus, hjudged⟩

end Alerts

section Rules

variable {ι τ : Type} [DecidableEq ι] [Sub τ] [Zero τ] [LE τ] [DecidableRel (fun a b : τ => a ≤ b)]

/-- The rules for the convergence fire for the run that was the latest when the page was asked for, as it was
read. The one for the data plane fires alone only if the run was completed between two of the readings. -/
theorem alerts_follow_the_latest_run (digest : TopologyDocument → String) (sha256 : String → String)
    (dedupWindow : τ) (arguments : Arguments) (app : App) (start : State τ)
    (hcreate : createApp digest dedupWindow arguments = .ok (app, start)) (hfresh : arguments.Fresh)
    (requests : ι → Request τ) (hclock : ∀ i, (requests i).ClockTicks) (hids : IdsDiffer requests)
    (before after : List ι) (i : ι) (hmetrics : requests i = .metrics) (hfirst : i ∉ before) (text : String)
    (hanswered : (run (serve sha256 app requests) (arrived start) (before ++ i :: after)).locals i =
      .answered ⟨200, .metrics text⟩) :
    ∃ lines live, readMetrics text = some lines ∧
      ReadFrom sha256 app requests i (run (serve sha256 app requests) (arrived start) before) after live ∧
      (Fires "telconet_live_run_complete" lines ↔ ∃ readings ∈ live, readings.status = .collecting) ∧
      (Fires "telconet_live_data_plane_reachable" lines ↔ ∃ readings ∈ live,
        (∃ event ∈ readings.run.events, event.kind = .blackholeInjected) ∧
          ∀ event ∈ readings.run.events, event.kind ≠ .dataPlaneRecovered) ∧
      (Fires "telconet_live_data_plane_reachable" lines → Fires "telconet_live_run_complete" lines ∨
        ∃ readings ∈ live, readings.run.status = .ok .collecting ∧ readings.status = .complete) := by
  rcases metrics_answer hcreate hfresh hclock hids before after hmetrics hfirst hanswered with
    ⟨-, hrefused⟩ | ⟨page, live, hresponse, hpage, hsound, hread⟩
  · cases hrefused
  · obtain rfl := Body.metrics.inj (Response.mk.inj hresponse).2
    obtain ⟨lines, hlines, -, -, hsamples⟩ := page_reads hpage
    obtain ⟨hcomplete, hreachable⟩ := alerts_iff hsamples
    exact ⟨lines, live, hlines, hread, hcomplete, hreachable, unreachable_cases hsound hcomplete hreachable⟩

theorem alerts_follow_the_latest_run_lab : ∃ app start text lines live, labServer = .ok (app, start) ∧
    (run (serve linkDigest app labRequests) (arrived start) ([0] ++ 2 :: [2, 1, 2, 2, 3, 2])).locals 2 =
      .answered ⟨200, .metrics text⟩ ∧
    readMetrics text = some lines ∧
    ReadFrom linkDigest app labRequests 2 (run (serve linkDigest app labRequests) (arrived start) [0])
    [2, 1, 2, 2, 3, 2] live ∧
    (Fires "telconet_live_run_complete" lines ↔ ∃ readings ∈ live, readings.status = .collecting) ∧
    (Fires "telconet_live_data_plane_reachable" lines ↔ ∃ readings ∈ live,
      (∃ event ∈ readings.run.events, event.kind = .blackholeInjected) ∧
        ∀ event ∈ readings.run.events, event.kind ≠ .dataPlaneRecovered) ∧
    (Fires "telconet_live_data_plane_reachable" lines → Fires "telconet_live_run_complete" lines ∨
      ∃ readings ∈ live, readings.run.status = .ok .collecting ∧ readings.status = .complete) := by
  obtain ⟨app, start, text, hserver, hanswered⟩ := labText
  obtain ⟨lines, live, hread⟩ := alerts_follow_the_latest_run (fun _ => labFingerprint) linkDigest 60
    labArguments app start hserver labArguments_fresh labRequests labRequests_tick labRequests_differ [0]
      [2, 1, 2, 2, 3, 2] 2 rfl (by decide) text
    hanswered
  exact ⟨app, start, text, lines, live, hserver, hanswered, hread⟩

end Rules

end TelconetSentinel.Api
