import TelconetSentinel.ConvergenceRuns
import TelconetSentinel.MetricsText
import TelconetSentinel.PythonNumbers

namespace TelconetSentinel

open BinaryFloats ExpositionText FallibleLists GeneralFormat
open TelemetryMetrics (flag)

namespace ConvergenceRun

/-- The entry of the dictionary by kind, in which a later event replaces an earlier one. -/
def eventOf (run : ConvergenceRun) (kind : ConvergenceEventKind) : Option ConvergenceEvent :=
  run.events.reverse.find? fun event => event.kind = kind

def recorded (run : ConvergenceRun) (kind : ConvergenceEventKind) : Bool := (run.eventOf kind).isSome

def routeMetric (run : ConvergenceRun) : Option ℤ :=
  match run.eventOf .routeFailover with
  | some event => event.routeMetric
  | none => some 30

def reachable (run : ConvergenceRun) : Bool := run.recorded .dataPlaneRecovered ||
    !run.recorded .blackholeInjected

end ConvergenceRun

def liveFamilies : List Family := [
  ⟨"telconet_live_run_complete", "Whether the latest live run recorded all stages.", .gauge⟩,
  ⟨"telconet_live_event_offset_seconds", "Observed offset from fault injection.", .gauge⟩,
  ⟨"telconet_live_bfd_peer_up", "Whether the observed BFD peer is up.", .gauge⟩,
  ⟨"telconet_live_ospf_neighbor_full", "Whether the observed OSPF neighbor is Full.", .gauge⟩,
  ⟨"telconet_live_route_metric", "Current observed service route metric.", .gauge⟩,
  ⟨"telconet_live_data_plane_reachable", "Whether the live ICMP probe is reachable.", .gauge⟩]

def optionText : Option ℤ → String
  | some n => toString n
  | none => "None"

def offsetSample (label : String × String) (event : ConvergenceEvent) : Result Sample := do
  let seconds ← trueDivision event.offsetMs 1000
  return ⟨"telconet_live_event_offset_seconds", [("event", event.kind.value), label],
    general (.finite seconds)⟩

def peerSample (run : ConvergenceRun) (label : String × String) : List Sample :=
  if run.profile = "bfd_100x3" then [⟨"telconet_live_bfd_peer_up", [label], flag !run.recorded .bfdDown⟩] else
    []

def stateSamples (run : ConvergenceRun) (label : String × String) : List Sample := [
  ⟨"telconet_live_ospf_neighbor_full", [label], flag !run.recorded .ospfNeighborDown⟩,
  ⟨"telconet_live_route_metric", [label], optionText (run.routeMetric)⟩,
  ⟨"telconet_live_data_plane_reachable", [label], flag run.reachable⟩]

/-- The events of a run are read for the dictionary by kind, then for the status, and once more for the
offsets. A store in memory hands out the run itself, so that other requests may append to it between these
readings. -/
structure LiveReadings where
  run : ConvergenceRun
  status : RunStatus
  events : List ConvergenceEvent

def liveSamples (readings : LiveReadings) : Result (List Sample) := do
  let label := ("profile", readings.run.profile)
  let offsets ← readings.events.mapM (offsetSample label)
  return ⟨"telconet_live_run_complete", [label], flag (readings.status = .complete)⟩ ::
    (offsets ++ (peerSample readings.run label ++ stateSamples readings.run label))

def renderLiveMetrics : Option LiveReadings → Result String
  | none => .ok (renderBlocks [⟨liveFamilies, []⟩])
  | some readings => do
    let samples ← liveSamples readings
    return renderBlocks [⟨liveFamilies, samples⟩]

section Exposition

variable {run : ConvergenceRun}

def ConvergenceRun.OffsetsFit (run : ConvergenceRun) : Prop := ∀ event ∈ run.events,
    |event.offsetMs| < floatLimit * 1000

structure LiveReadings.Sound (readings : LiveReadings) : Prop where
  wellFormed : readings.run.WellFormed
  distinct : (readings.events.map ConvergenceEvent.kind).Nodup
  fit : ∀ event ∈ readings.events, |event.offsetMs| < floatLimit * 1000

def offsetMeant (profile : String) (event : ConvergenceEvent) : Sample :=
  ⟨"telconet_live_event_offset_seconds", [("event", event.kind.value), ("profile", profile)],
    general (.finite (double (event.offsetMs / (1000 : ℤ))))⟩

theorem offsetSample_ok {profile : String} {event : ConvergenceEvent}
    (h : |event.offsetMs| < floatLimit * 1000) :
    offsetSample ("profile", profile) event = .ok (offsetMeant profile event) := by
  have hdivision := (trueDivision_ok_iff (by norm_num : (1000 : ℤ) ≠ 0)
    (double (event.offsetMs / (1000 : ℤ)))).mpr
    ⟨(abs_div_lt_limit_iff (by norm_num)).mpr h, rfl⟩
  rw [offsetSample, hdivision]
  rfl

theorem ConvergenceEventKind.plain_value (kind : ConvergenceEventKind) : Plain kind.value := by
  cases kind <;> decide +kernel

namespace ConvergenceRun

theorem WellFormed.profile_cases (h : run.WellFormed) :
    run.profile = "ospf_only" ∨ run.profile = "bfd_100x3" := by
  obtain ⟨required, hrequired, -⟩ := h.profile
  simp only [requiredEventsByProfile, Option.mem_def] at hrequired
  split_ifs at hrequired with hospf hbfd
  · exact Or.inl hospf
  · exact Or.inr hbfd

theorem WellFormed.plain_profile (h : run.WellFormed) : Plain run.profile := by
  rcases h.profile_cases with hprofile | hprofile <;> rw [hprofile] <;> decide +kernel

theorem eventOf_some {kind : ConvergenceEventKind} {event : ConvergenceEvent}
    (h : run.eventOf kind = some event) :
    event ∈ run.events ∧ event.kind = kind := by
  have hkind := List.find?_some h
  exact ⟨List.mem_reverse.mp (List.mem_of_find?_eq_some h), of_decide_eq_true hkind⟩

theorem recorded_iff (run : ConvergenceRun) (kind : ConvergenceEventKind) :
    run.recorded kind = true ↔ ∃ event ∈ run.events, event.kind = kind := by
  simp [recorded, eventOf]

/-- Before the failover the metric is that of the design, and each failover has one. -/
theorem WellFormed.routeMetric_pos (h : run.WellFormed) : ∃ n, run.routeMetric = some n ∧ 1 ≤ n := by
  unfold routeMetric
  split
  · next event hevent =>
    obtain ⟨hmem, hkind⟩ := eventOf_some hevent
    exact h.failover event hmem hkind
  · exact ⟨30, rfl, by norm_num⟩

theorem WellFormed.status_ok (h : run.WellFormed) : ∃ status, run.status = .ok status := by
  obtain ⟨required, hrequired, -⟩ := h.profile
  have hprofile : requiredEventsByProfile run.profile = some required := hrequired
  rw [status, hprofile]
  exact ⟨_, rfl⟩

end ConvergenceRun

variable {readings : LiveReadings}

def liveMeant (readings : LiveReadings) : List Sample :=
  ⟨"telconet_live_run_complete", [("profile", readings.run.profile)], flag (readings.status = .complete)⟩ ::
    (readings.events.map (offsetMeant readings.run.profile) ++
      (peerSample readings.run ("profile", readings.run.profile) ++
        stateSamples readings.run ("profile", readings.run.profile)))

theorem liveSamples_ok (h : readings.Sound) : liveSamples readings = .ok (liveMeant readings) := by
  have hoffsets : readings.events.mapM (offsetSample ("profile", readings.run.profile)) =
      .ok (readings.events.map (offsetMeant readings.run.profile)) := by
    rw [mapM_ok_iff, List.forall₂_map_right_iff, List.forall₂_same]
    exact fun event hevent => offsetSample_ok (h.fit event hevent)
  rw [liveSamples, hoffsets]
  rfl

theorem liveMeant_cases (h : readings.Sound) {sample : Sample} (hsample : sample ∈ liveMeant readings) :
    (∃ event ∈ readings.events, sample = offsetMeant readings.run.profile event) ∨
      (sample.name ∈ ["telconet_live_run_complete", "telconet_live_bfd_peer_up",
        "telconet_live_ospf_neighbor_full", "telconet_live_route_metric",
        "telconet_live_data_plane_reachable"] ∧
        sample.labels = [("profile", readings.run.profile)] ∧ IsValue sample.value) := by
  obtain ⟨metric, hmetric, -⟩ := h.wellFormed.routeMetric_pos
  simp only [liveMeant, peerSample, stateSamples, List.mem_cons, List.mem_append, List.mem_map,
    List.not_mem_nil, or_false] at hsample
  rcases hsample with rfl | ⟨event, hevent, rfl⟩ | hpeer | rfl | rfl | rfl
  · exact Or.inr ⟨by simp, rfl, isValue_flag _⟩
  · exact Or.inl ⟨event, hevent, rfl⟩
  · split_ifs at hpeer with hprofile
    · obtain rfl := List.mem_singleton.mp hpeer
      exact Or.inr ⟨by simp, rfl, isValue_flag _⟩
    · exact absurd hpeer List.not_mem_nil
  · exact Or.inr ⟨by simp, rfl, isValue_flag _⟩
  · rw [hmetric]
    exact Or.inr ⟨by simp, rfl, isValue_integer _⟩
  · exact Or.inr ⟨by simp, rfl, isValue_flag _⟩

def liveLabelNames (name : String) : List String :=
  if name = "telconet_live_event_offset_seconds" then ["event", "profile"] else ["profile"]

theorem liveMeant_labels (h : readings.Sound) {sample : Sample} (hsample : sample ∈ liveMeant readings) :
    sample.labels.map Prod.fst = liveLabelNames sample.name := by
  rcases liveMeant_cases h hsample with ⟨event, -, rfl⟩ | ⟨hname, hlabels, -⟩
  · rfl
  · rw [hlabels, liveLabelNames, if_neg]
    · rfl
    · revert hname
      generalize sample.name = name
      rintro hname rfl
      revert hname
      decide +kernel

theorem names_nodup (run : ConvergenceRun) (label : String × String) :
    ("telconet_live_event_offset_seconds" ::
    "telconet_live_run_complete" ::
    (peerSample run label ++ stateSamples run label).map Sample.name).Nodup := by
  unfold peerSample stateSamples
  split_ifs <;> simp

theorem liveMeant_unique (h : readings.Sound) :
    ((liveMeant readings).map fun sample => (sample.name, sample.labels)).Nodup := by
  have hoffsets : ((readings.events.map (offsetMeant readings.run.profile)).map
      fun sample => (sample.name, sample.labels)).Nodup := by
    rw [List.map_map]
    refine Block.nodup_of_key h.distinct fun event event' heq => ConvergenceEventKind.value_injective ?_
    simpa [offsetMeant] using heq
  obtain ⟨hoffset, hothers⟩ := List.nodup_cons.mp (names_nodup readings.run ("profile", readings.run.profile))
  rw [liveMeant, (List.perm_middle.symm.map _).nodup_iff, List.map_append, List.nodup_append']
  refine ⟨hoffsets, ?_, ?_⟩
  · refine List.Nodup.of_map Prod.fst ?_
    rw [List.map_map]
    exact hothers
  · intro key hevents hother
    obtain ⟨_, hmem, rfl⟩ := List.mem_map.mp hevents
    obtain ⟨event, -, rfl⟩ := List.mem_map.mp hmem
    obtain ⟨sample, hsample, hkey⟩ := List.mem_map.mp hother
    have hname : sample.name = "telconet_live_event_offset_seconds" := congrArg Prod.fst hkey
    have hnamed := List.mem_map_of_mem (f := Sample.name) hsample
    rw [hname] at hnamed
    exact hoffset hnamed

theorem liveBlock_sound (h : readings.Sound) : (⟨liveFamilies, liveMeant readings⟩ : Block).Sound := by
  refine ⟨fun sample hsample => ?_, fun sample hsample => ?_, ?_⟩
  · rcases liveMeant_cases h hsample with ⟨event, -, rfl⟩ | ⟨hname, -, -⟩
    · exact (by decide +kernel : "telconet_live_event_offset_seconds" ∈ liveFamilies.map Family.name)
    · exact (by decide +kernel : _ ⊆ liveFamilies.map Family.name) hname
  · rw [liveMeant_labels h hsample, liveLabelNames]
    split_ifs <;> decide +kernel
  · refine Sample.series_nodup (fun sample => liveMeant_labels h) (fun name => ?_) (liveMeant_unique h)
    rw [liveLabelNames]
    split_ifs <;> decide +kernel

theorem liveFamilies_readable : ∀ family ∈ liveFamilies, IsName family.name ∧ '\n' ∉ family.help.toList := by
  intro family hfamily
  fin_cases hfamily <;> exact ⟨isName_ofList (by decide), not_mem_ofList (by decide)⟩

theorem renderLiveMetrics_renders (h : readings.Sound) :
    ∃ body, renderLiveMetrics (some readings) = .ok body ∧
    Renders body (Block.lines ⟨liveFamilies, liveMeant readings⟩) := by
  refine ⟨renderBlocks [⟨liveFamilies, liveMeant readings⟩], ?_, ?_⟩
  · rw [renderLiveMetrics, liveSamples_ok h]
    rfl
  · have hwrites : WritesBlock ⟨liveFamilies, liveMeant readings⟩ ⟨liveFamilies, liveMeant readings⟩ := by
      refine writes_plain liveFamilies_readable fun sample hsample => ?_
      rcases liveMeant_cases h hsample with ⟨event, -, rfl⟩ | ⟨hname, hlabel, hvalue⟩
      · have hname : IsName "telconet_live_event_offset_seconds" := isName_ofList (by decide)
        have hlabels : IsName "event" ∧ IsName "profile" :=
          ⟨isName_ofList (by decide), isName_ofList (by decide)⟩
        have hvalue : IsValue (offsetMeant readings.run.profile event).value := isValue_general (.finite _)
        exact ⟨⟨hname, List.forall_mem_cons.mpr ⟨hlabels.1, List.forall_mem_singleton.mpr hlabels.2⟩, hvalue⟩,
          List.forall_mem_cons.mpr ⟨event.kind.plain_value,
            List.forall_mem_singleton.mpr h.wellFormed.plain_profile⟩⟩
      · have hlabel' : IsName "profile" := isName_ofList (by decide)
        rw [Sample.Readable, hlabel]
        refine ⟨⟨?_, List.forall_mem_singleton.mpr hlabel', hvalue⟩,
          List.forall_mem_singleton.mpr h.wellFormed.plain_profile⟩
        exact (by decide +kernel : ∀ name ∈ _, IsName name) _ hname
    have hrender := renders_blocks (by simp [liveFamilies, writtenBlock, familyHeader]) (.cons hwrites .nil)
    rwa [List.flatMap_singleton] at hrender

theorem renderLiveMetrics_none : ∃ body, renderLiveMetrics none = .ok body ∧
    Renders body (Block.lines ⟨liveFamilies, []⟩) := by
  have hwrites : WritesBlock ⟨liveFamilies, []⟩ ⟨liveFamilies, []⟩ :=
    writes_plain liveFamilies_readable fun _ hsample => absurd hsample List.not_mem_nil
  have hrender := renders_blocks (by simp [liveFamilies, writtenBlock, familyHeader]) (.cons hwrites .nil)
  rw [List.flatMap_singleton] at hrender
  exact ⟨_, rfl, hrender⟩

end Exposition

end TelconetSentinel
