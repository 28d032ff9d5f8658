import TelconetSentinel.Library.FixedPointText
import TelconetSentinel.MetricSeries
import TelconetSentinel.MetricsText

namespace TelconetSentinel

open ExpositionText FallibleLists FixedPointText
open BinaryFloats (double)

def DateTime.epoch : DateTime :=
  ⟨1970, 1, 1, 0, 0, 0, 0, by decide, by decide, by decide, by decide, by decide, by decide, Nat.succ_pos _⟩

def DateTime.sinceEpoch (d : DateTime) : ℤ := d.microseconds - DateTime.epoch.microseconds

/-- `self.timestamp()`, the float next to the seconds since the epoch. -/
def DateTime.timestamp (d : DateTime) : ℚ := double (d.sinceEpoch / 1000000)

def Metric.kind (metric : Metric) : Kind := if metric.entry.2.2 = "counter" then .counter else .gauge

namespace TelemetryMetrics

def timestampText (observedAt : DateTime) : String := String.ofList (shortText 6 observedAt.timestamp)

theorem isValue_timestampText (observedAt : DateTime) : IsValue (timestampText observedAt) := by
  refine isValue_of_number (fun hempty => shortText_ne_nil 6 observedAt.timestamp ?_) fun c hc => ?_
  · rw [← String.toList_ofList (l := shortText 6 observedAt.timestamp), ← timestampText, hempty]
    rfl
  · rw [timestampText, String.toList_ofList] at hc
    exact isNumberChar_shortText _ _ c hc

section Lines

variable {binding : TelemetryTopologyBinding} {snapshot : TelemetrySnapshot}

def metricFamilies : List Family := Metric.all.map fun metric => ⟨metric.name, metric.entry.2.1, metric.kind⟩

def Sample.written (sample : Sample) : ExpositionText.Sample :=
  ⟨sample.metric.name, sample.labels.map fun label => (label.1, escapeLabel label.2), sample.value⟩

def Sample.meant (sample : Sample) : ExpositionText.Sample :=
  ⟨sample.metric.name, sample.labels, sample.value⟩

theorem headerLines_eq (metric : Metric) :
    metric.headerLines = familyHeader metric.name metric.entry.2.1 metric.kind.text := by
  have hkind : metric.entry.2.2 = metric.kind.text := by
    cases metric <;> decide +kernel
  rw [Metric.headerLines, familyHeader, hkind]

theorem line_eq (sample : Sample) : sample.line = writtenSample sample.written := by
  unfold Sample.line writtenSample sampleLine
  by_cases hnil : sample.labels = []
  · simp [Sample.written, hnil, toString]
  · simp [Sample.written, hnil, labelText, toString, String.append_assoc, Function.comp_def]

theorem exposition_eq (samples : List Sample) :
    exposition samples = renderBlocks [⟨metricFamilies, samples.map Sample.written⟩] := by
  have hheader : Metric.all.flatMap Metric.headerLines =
      metricFamilies.flatMap fun family => familyHeader family.name family.help family.kind.text := by
    rw [metricFamilies, List.flatMap_map]
    exact List.flatMap_congr fun metric _ => headerLines_eq metric
  have hsamples : samples.map Sample.line = (samples.map Sample.written).map writtenSample := by
    rw [List.map_map]
    exact List.map_congr_left fun sample _ => line_eq sample
  rw [exposition, renderBlocks, joinLines, List.flatMap_singleton, writtenBlock, hheader, hsamples]

theorem metricFamilies_readable : ∀ family ∈ metricFamilies, IsName family.name ∧
    '\n' ∉ family.help.toList := by
  intro family hfamily
  obtain ⟨metric, -, rfl⟩ := List.mem_map.mp hfamily
  cases metric <;> exact ⟨isName_ofList (by decide), not_mem_ofList (by decide)⟩

theorem mem_all (metric : Metric) : metric ∈ Metric.all := by
  cases metric <;> decide

theorem labelNames_readable (metric : Metric) : ∀ name ∈ metric.labelNames, IsName name := by
  cases metric <;> decide +kernel

variable {lo hi : ℕ} {samples : List Sample}

theorem exposition_renders (h : Block lo hi samples) (hvalues : ∀ sample ∈ samples, IsValue sample.value) :
    Renders (exposition samples) (ExpositionText.Block.lines ⟨metricFamilies, samples.map Sample.meant⟩) := by
  have hwrites : WritesBlock ⟨metricFamilies, samples.map Sample.written⟩ ⟨metricFamilies,
      samples.map Sample.meant⟩ := by
    refine ⟨rfl, metricFamilies_readable, ?_⟩
    rw [List.forall₂_map_left_iff, List.forall₂_map_right_iff, List.forall₂_same]
    refine fun sample hsample => ⟨rfl, rfl, ?_, ?_, fun label hlabel => ?_, hvalues sample hsample⟩
    · rw [Sample.written, List.forall₂_map_left_iff]
      exact List.forall₂_same.mpr fun label _ => writesLabel_escapeLabel label.1 label.2
    · exact (metricFamilies_readable _ (List.mem_map_of_mem (mem_all sample.metric))).1
    · have hname : label.1 ∈ sample.metric.labelNames :=
        h.labelled sample hsample ▸ List.mem_map_of_mem hlabel
      exact labelNames_readable _ _ hname
  have hrender := renders_blocks (by simp [metricFamilies, writtenBlock, familyHeader, Metric.all])
    (.cons hwrites .nil)
  rw [List.flatMap_singleton] at hrender
  rw [exposition_eq]
  exact hrender

theorem exposition_sound (h : Block lo hi samples) :
    (⟨metricFamilies, samples.map Sample.meant⟩ : ExpositionText.Block).Sound := by
  refine ⟨fun sample hsample => ?_, fun sample hsample => ?_, ?_⟩
  · obtain ⟨sample, -, rfl⟩ := List.mem_map.mp hsample
    rw [ExpositionText.Block.names, metricFamilies, List.map_map]
    exact List.mem_map_of_mem (mem_all _)
  · obtain ⟨sample, hmem, rfl⟩ := List.mem_map.mp hsample
    have hnames : sample.labels.map Prod.fst = sample.metric.labelNames := h.labelled sample hmem
    exact hnames ▸ Metric.labelNames_nodup _
  · have hseries := h.series_nodup
    rw [List.map_map]
    exact hseries

theorem isValue_routeSamples {node : String} {route : RouteTelemetry}
    (h : routeSamples binding node route = .ok samples) :
    ∀ sample ∈ samples, IsValue sample.value := by
  unfold routeSamples at h
  dsimp only at h
  split_ifs at h
  · split at h
    · obtain rfl := Except.ok.inj h
      simp only [List.forall_mem_cons]
      exact ⟨isValue_flag _, isValue_natural _, by decide, by simp⟩
    · cases h
  · obtain rfl := Except.ok.inj h
    exact List.forall_mem_singleton.mpr (isValue_flag _)

theorem isValue_interfaceSamples (node : String) (interface : InterfaceTelemetry) :
    ∀ sample ∈ interfaceSamples binding node interface, IsValue sample.value := by
  simp only [interfaceSamples, List.forall_mem_cons]
  exact ⟨isValue_integer _, isValue_natural _, isValue_natural _, isValue_natural _,
    isValue_natural _, by simp⟩

theorem isValue_routerSamples {router : RouterTelemetry} (h : routerSamples binding router = .ok samples) :
    ∀ sample ∈ samples, IsValue sample.value := by
  obtain ⟨routes, hroutes, h⟩ := (bind_ok_iff _ _ _).mp h
  obtain rfl := Except.ok.inj h
  refine List.forall_mem_cons.mpr ⟨isValue_flag _, ?_⟩
  simp only [List.forall_mem_append]
  refine ⟨⟨⟨fun sample hsample => ?_, fun sample hsample => ?_⟩, fun sample hsample => ?_⟩,
    fun sample hsample => ?_⟩
  · obtain ⟨interface, -, hsample⟩ := List.mem_flatMap.mp hsample
    exact isValue_interfaceSamples _ _ sample hsample
  · obtain ⟨neighbor, -, rfl⟩ := List.mem_map.mp hsample
    exact isValue_integer _
  · obtain ⟨peer, -, hsample⟩ := List.mem_flatMap.mp hsample
    simp only [bfdSamples, List.mem_cons, List.not_mem_nil, or_false] at hsample
    rcases hsample with rfl | rfl
    · exact isValue_flag _
    · exact isValue_integer _
  · obtain ⟨part, hpart, hsample⟩ := List.mem_flatten.mp hsample
    obtain ⟨route, -, hroute⟩ := exists_left ((mapM_ok_iff _ _ _).mp hroutes) hpart
    exact isValue_routeSamples hroute sample hsample

theorem isValue_linkSample {routers : KeyedLists.Dict RouterTelemetry.name} {link : TelemetryLink}
    {sample : Sample} (h : linkSample routers link = some sample) : IsValue sample.value := by
  rw [(linkSample_some h).2]
  exact isValue_integer _

end Lines

section Rendering

variable {binding : TelemetryTopologyBinding} {snapshot : TelemetrySnapshot}

structure TelemetryPage (body : String) (block : ExpositionText.Block) : Prop where
  renders : Renders body block.lines
  sound : block.Sound
  names : block.names = Metric.all.map Metric.name

theorem page_of_block {samples : List Sample} (h : Block 0 7 samples)
    (hvalues : ∀ sample ∈ samples, IsValue sample.value) :
    ∃ block, TelemetryPage (exposition samples) block := by
  refine ⟨_, exposition_renders h hvalues, exposition_sound h, ?_⟩
  rw [ExpositionText.Block.names, metricFamilies, List.map_map]
  rfl

theorem isValue_nodeInfoSample : ∀ sample ∈ binding.targets.map nodeInfoSample, IsValue sample.value := by
  intro sample hsample
  obtain ⟨target, -, rfl⟩ := List.mem_map.mp hsample
  exact (by decide : IsValue "1")

theorem isValue_lines {observed : List (List Sample)} {timestamp : Sample}
    (htimestamp : IsValue timestamp.value)
    (h : List.Forall₂ (Reported snapshot binding) binding.targets observed) :
    ∀ sample ∈ binding.targets.map nodeInfoSample ++
        timestamp :: (observed.flatten ++ binding.links.filterMap (linkSample (routerMap snapshot))),
      IsValue sample.value := by
  refine List.forall_mem_append.mpr ⟨isValue_nodeInfoSample, List.forall_mem_cons.mpr ⟨htimestamp, ?_⟩⟩
  refine List.forall_mem_append.mpr ⟨fun sample hsample => ?_, fun sample hsample => ?_⟩
  · obtain ⟨part, hpart, hsample⟩ := List.mem_flatten.mp hsample
    obtain ⟨target, -, hreport⟩ := exists_left h hpart
    obtain ⟨router, -, -, hrouter⟩ := hreport.router
    exact isValue_routerSamples hrouter sample hsample
  · obtain ⟨link, -, hlink⟩ := List.mem_filterMap.mp hsample
    exact isValue_linkSample hlink

theorem renderTelemetryMetrics_page (hinventory : Inventory binding) {snapshot : Option TelemetrySnapshot}
    (hvalid : ∀ retained ∈ snapshot, validateTelemetrySnapshot retained binding = .ok ()) :
    ∃ body block, renderTelemetryMetrics timestampText snapshot binding = .ok body ∧
    TelemetryPage body block := by
  cases snapshot with
  | none =>
    have hnodes := nodeInfo_block hinventory.nodes_unique
    obtain ⟨block, hpage⟩ := page_of_block ⟨hnodes.unique, fun sample hsample =>
      ⟨(hnodes.family sample hsample).1, (hnodes.family sample hsample).2.trans (by decide)⟩,
      hnodes.labelled⟩ isValue_nodeInfoSample
    exact ⟨_, block, rfl, hpage⟩
  | some snapshot =>
    obtain ⟨observed, hreported, hrender, hblock⟩ :=
      renderTelemetryMetrics_lines timestampText hinventory (hvalid snapshot rfl)
    obtain ⟨block, hpage⟩ := page_of_block hblock (isValue_lines (isValue_timestampText _) hreported)
    exact ⟨_, block, hrender, hpage⟩

end Rendering

end TelemetryMetrics

open DocumentValues (Value)
open TelemetryBinding TelemetryMetrics

theorem telemetry_metrics_unique_bounded (pyRepr : Value → String) (timestampText : DateTime → String)
    (config : TelemetryConfig) (intent : NetworkIntent) (clabDocument : Value) (fingerprint : String)
    (binding : TelemetryTopologyBinding) (snapshot : TelemetrySnapshot)
    (h : loadTelemetryBinding pyRepr config intent clabDocument fingerprint = .ok binding)
    (hvalid : validateTelemetrySnapshot snapshot binding = .ok ()) :
    ∃ samples, renderTelemetryMetrics timestampText (some snapshot) binding = .ok (exposition samples) ∧
      (IsValue (timestampText snapshot.observedAt) →
        readMetrics (exposition samples) =
          some (ExpositionText.Block.lines ⟨metricFamilies, samples.map Sample.meant⟩)) ∧
      (samples.map TelemetryMetrics.Sample.series).Nodup ∧
      (∀ sample ∈ samples, sample.series ∈ boundSeries binding) ∧
      (∀ router ∈ snapshot.routers, router.collectionSuccess = false →
        ⟨.collectionSuccess, [("node", router.name)], "0"⟩ ∈ samples ∧ ∀ sample ∈ samples,
          ("node", router.name) ∈ sample.labels → sample.metric = .nodeInfo ∨
            sample = ⟨.collectionSuccess, [("node", router.name)], "0"⟩) ∧
      ∀ link ∈ binding.links, ∀ sample ∈ samples, sample.metric = .linkOperUp →
      ("link_id", link.id) ∈ sample.labels →
        sample.value = "1" → ReportsUp snapshot link.source link.sourceInterface ∧
          ReportsUp snapshot link.target link.targetInterface := by
  have hinventory := inventory_of_load h
  obtain ⟨observed, hreported, hrender, hblock⟩ :=
    renderTelemetryMetrics_lines timestampText hinventory hvalid
  have hlinks := links_block (routerMap snapshot) hinventory.ids_unique
  have hrouters := observed_block hinventory.nodes_unique hreported
  let timestamp : TelemetryMetrics.Sample := ⟨.snapshotTimestamp, [], timestampText snapshot.observedAt⟩
  refine ⟨_, hrender, fun hvalue => (exposition_renders hblock (isValue_lines hvalue hreported)).read,
    hblock.series_nodup, fun sample hsample => ?_, fun router hrouter hfailed => ?_,
    fun link hlink sample hsample => ?_⟩
  · exact List.mem_toFinset.mpr (List.mem_map.mpr ⟨_, bound_lines timestamp rfl hreported hsample, rfl⟩)
  · exact failed_router_lines timestamp (fun _ => hinventory.target_of_router) rfl hlinks hreported hrouter
      hfailed
  · exact link_line_up timestamp hinventory.ids_unique (fun hmetric => nomatch hmetric) hrouters hlink hsample

theorem telemetry_metrics_unique_bounded_troubled : ∃ snapshot samples, troubledCollection labBinding =
    .ok snapshot ∧
    renderTelemetryMetrics (fun _ => "1723349872.125") (some snapshot) labBinding = .ok (exposition samples) ∧
      readMetrics (exposition samples) =
        some (ExpositionText.Block.lines ⟨metricFamilies, samples.map Sample.meant⟩) ∧
      (samples.map TelemetryMetrics.Sample.series).Nodup := by
  obtain ⟨snapshot, hsnapshot, hvalid⟩ : ∃ snapshot, troubledCollection labBinding = .ok snapshot ∧
      (validateTelemetrySnapshot snapshot labBinding).toOption = some () := by
    apply exists_ok
    decide +kernel
  obtain ⟨samples, hrender, hread, hunique, -⟩ := telemetry_metrics_unique_bounded _
    (fun _ => "1723349872.125") _ _ _ _ _ snapshot labLoad_ok ((toOption_some_iff _ _).mp hvalid)
  exact ⟨snapshot, samples, hsnapshot, hrender, hread (by decide), hunique⟩

end TelconetSentinel
