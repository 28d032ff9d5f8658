import TelconetSentinel.ExperimentExposition
import TelconetSentinel.MetricsText

namespace TelconetSentinel

open DocumentValues ExpositionText FallibleLists

def MetricSample.meant (sample : MetricSample) : Sample := ⟨sample.name, sample.labels, sample.written.text⟩

def experimentFamilies : List Family := [
  ⟨"telconet_detection_seconds", "Observed failure detection upper bound.", .gauge⟩,
  ⟨"telconet_failover_lost_packets", "Packets lost before failover became observable.", .gauge⟩,
  ⟨"telconet_capture_packet_loss_ratio", "Packet loss ratio for the full capture.", .gauge⟩]

def repeatedFamilies : List Family := [
  ⟨"telconet_detection_summary_seconds", "Detection upper-bound summary across repeated trials.", .gauge⟩,
  ⟨"telconet_trial_detection_seconds", "Detection upper bound for one repeated trial.", .gauge⟩]

def experimentBlocks (samples : List MetricSample) (repeated : Option (List MetricSample)) : List Block :=
  ⟨experimentFamilies, samples.map MetricSample.meant⟩ ::
    (repeated.map fun trials => (⟨repeatedFamilies, trials.map MetricSample.meant⟩ : Block)).toList

theorem MetricSample.line_eq {sample : MetricSample} (h : sample.labels ≠ []) :
    sample.line = writtenSample sample.meant := by
  rw [writtenSample, sampleLine, if_neg (show sample.meant.labels ≠ [] from h), MetricSample.line]
  simp [MetricSample.meant, toString, String.append_assoc]

theorem writtenBlock_meant (families : List Family) (header : List String) {samples : List MetricSample}
    (hheader : families.flatMap (fun family => familyHeader family.name family.help family.kind.text) =
      header)
    (h : ∀ sample ∈ samples, sample.labels ≠ []) :
    writtenBlock ⟨families, samples.map MetricSample.meant⟩ = header ++ samples.map MetricSample.line := by
  rw [writtenBlock, hheader, List.map_map]
  exact congrArg _ (List.map_congr_left fun sample hsample => (MetricSample.line_eq (h sample hsample)).symm)

theorem metricsText_eq {samples : List MetricSample} {repeated : Option (List MetricSample)}
    (h : ∀ sample ∈ samples, sample.labels ≠ [])
    (hrepeated : ∀ trials ∈ repeated, ∀ sample ∈ trials, sample.labels ≠ []) :
    metricsText samples repeated = renderBlocks (experimentBlocks samples repeated) := by
  have hfirst := writtenBlock_meant experimentFamilies headerLines (by decide +kernel) h
  cases repeated with
  | none => simp [metricsText, renderBlocks, joinLines, experimentBlocks, hfirst]
  | some trials =>
    have hsecond := writtenBlock_meant repeatedFamilies repeatedHeaderLines (by decide +kernel)
      (hrepeated trials rfl)
    simp [metricsText, renderBlocks, joinLines, experimentBlocks, hfirst, hsecond]

section Series

def MetricSample.key (sample : MetricSample) : String × List (String × String) := (sample.name, sample.labels)

def experimentKeys : List (String × List (String × String)) :=
  profileNames.flatMap fun profile => (experimentFamilies.map Family.name).map fun name =>
    (name, [("profile", profile)])

def repeatedProfileKeys (trials : ℕ) (profile : String) : List (String × List (String × String)) :=
  statNames.map (fun stat =>
    ("telconet_detection_summary_seconds", [("profile", profile), ("stat", stat)])) ++
    (List.range' 1 trials).map fun number : ℕ =>
      ("telconet_trial_detection_seconds", [("profile", profile), ("trial", twoDigits number)])

def repeatedKeys (trials : ℕ) : List (String × List (String × String)) :=
  profileNames.flatMap (repeatedProfileKeys trials)

theorem experimentSamples_keys {evidence : Value} {samples : List MetricSample}
    (h : experimentSamples evidence = .ok samples) : samples.map MetricSample.key = experimentKeys := by
  obtain ⟨item, -, h⟩ := (bind_ok_iff _ _ _).mp h
  obtain ⟨profiles, -, h⟩ := (bind_ok_iff _ _ _).mp h
  obtain ⟨parts, hparts, h⟩ := (bind_ok_iff _ _ _).mp h
  obtain rfl := Except.ok.inj h
  have hkeys : (profileNames.map fun profile => (experimentFamilies.map Family.name).map fun name =>
      (name, [("profile", profile)])) = parts.map (List.map MetricSample.key) := by
    refine map_eq_map ((mapM_ok_iff _ _ _).mp hparts) fun profile part hpart => ?_
    obtain ⟨values, -, hpart⟩ := (bind_ok_iff _ _ _).mp hpart
    obtain ⟨_, -, hpart⟩ := (bind_ok_iff _ _ _).mp hpart
    obtain ⟨detection, -, hpart⟩ := (bind_ok_iff _ _ _).mp hpart
    obtain ⟨_, -, hpart⟩ := (bind_ok_iff _ _ _).mp hpart
    obtain ⟨lostPackets, -, hpart⟩ := (bind_ok_iff _ _ _).mp hpart
    obtain ⟨_, -, hpart⟩ := (bind_ok_iff _ _ _).mp hpart
    obtain ⟨captureLoss, -, hpart⟩ := (bind_ok_iff _ _ _).mp hpart
    obtain rfl := Except.ok.inj hpart
    rfl
  rw [List.map_flatten, ← hkeys, experimentKeys, List.flatMap_def]

theorem trialSample_key {profile : String} {entry : Value × ℕ} {sample : MetricSample}
    (hvalid : validateTrial profile entry = .ok ()) (h : trialSample profile entry.1 = .ok sample) :
    sample.key = ("telconet_trial_detection_seconds",
      [("profile", profile), ("trial", twoDigits entry.2)]) := by
  obtain ⟨trial, htrial, hvalid⟩ := (bind_ok_iff _ _ _).mp hvalid
  obtain ⟨-, hassert⟩ := requireMapping_ok htrial
  obtain ⟨hnumber, -⟩ := (check_ok_iff _ _ _ _).mp hvalid
  have hvalue := (Value.pyEq_int_iff _ _).mp (not_not.mp hnumber)
  rw [Int.cast_natCast] at hvalue
  rw [trialSample, hassert, ok_bind, itemOf_of_number hvalue, ok_bind, integerOf_number hvalue, ok_bind] at h
  obtain ⟨_, -, h⟩ := (bind_ok_iff _ _ _).mp h
  obtain ⟨detection, -, h⟩ := (bind_ok_iff _ _ _).mp h
  obtain rfl := Except.ok.inj h
  rfl

theorem requireTrials_ok {profile : String} {trialCount : ℤ} {value : Option Value} {trials : List Value}
    (h : requireTrials profile trialCount value = .ok trials) :
    value = some (.list trials) ∧ (trials.length : ℤ) = trialCount := by
  unfold requireTrials at h
  split at h
  · obtain ⟨hlength, hsame⟩ := (check_ok_iff _ _ _ _).mp h
    obtain rfl := Except.ok.inj hsame
    exact ⟨rfl, not_not.mp hlength⟩
  · cases h

theorem checkTrialCount_le {value : Option Value} {trialCount : ℤ}
    (h : checkTrialCount value = .ok trialCount) :
    trialCount.toNat ≤ 30 := by
  unfold checkTrialCount at h
  split at h
  · simp only [check_ok_iff, Except.ok.injEq] at h
    omega
  · cases h

/-- The check of the numbers says which label the sample of each trial has. -/
theorem trialSamples_keys {profile : String} {trials : List Value} {samples : List MetricSample}
    (hvalid : (trials.zipIdx 1).forM (validateTrial profile) = .ok ())
    (h : trials.mapM (trialSample profile) = .ok samples) :
    samples.map MetricSample.key = (List.range' 1 trials.length).map fun number : ℕ =>
      ("telconet_trial_detection_seconds", [("profile", profile), ("trial", twoDigits number)]) := by
  have hpairs : List.Forall₂ (fun entry sample => trialSample profile entry.1 = .ok sample)
      (trials.zipIdx 1) samples := by
    rw [← List.forall₂_map_left_iff (f := Prod.fst) (R := fun trial sample => trialSample profile trial =
      .ok sample), List.zipIdx_map_fst]
    exact (mapM_ok_iff _ _ _).mp h
  have hboth := (List.forall₂_and_left _ _).mpr ⟨(forM_ok_iff _ _).mp hvalid, hpairs⟩
  have hkeys := map_eq_map hboth fun entry sample hentry => (trialSample_key hentry.1 hentry.2).symm
  rw [← hkeys, ← List.zipIdx_map_snd 1 trials, List.map_map]
  rfl

theorem summarySamples_keys {profile : String} {summary : Value} {samples : List MetricSample}
    (h : statNames.mapM (summarySample profile summary) = .ok samples) : samples.map MetricSample.key =
      statNames.map fun stat =>
      ("telconet_detection_summary_seconds", [("profile", profile), ("stat", stat)]) := by
  refine (map_eq_map ((mapM_ok_iff _ _ _).mp h) fun stat sample hsample => ?_).symm
  obtain ⟨_, -, hsample⟩ := (bind_ok_iff _ _ _).mp hsample
  obtain ⟨detection, -, hsample⟩ := (bind_ok_iff _ _ _).mp hsample
  obtain rfl := Except.ok.inj hsample
  rfl

theorem repeatedProfileSamples_keys {profiles : Value} {trialCount : ℤ} {profile : String}
    {samples : List MetricSample} (hvalid : validateRepeatedProfile profiles trialCount profile = .ok ())
    (h : repeatedProfileSamples profiles profile = .ok samples) :
    samples.map MetricSample.key = repeatedProfileKeys trialCount.toNat profile := by
  obtain ⟨values, hvalues, hvalid⟩ := (bind_ok_iff _ _ _).mp hvalid
  obtain ⟨summary, hsummary, hvalid⟩ := (bind_ok_iff _ _ _).mp hvalid
  obtain ⟨-, hvalid⟩ := (then_ok_iff _ _ _).mp hvalid
  obtain ⟨trials, htrials, hvalid⟩ := (bind_ok_iff _ _ _).mp hvalid
  obtain ⟨hvaluesGet, hvaluesAssert⟩ := requireMapping_ok hvalues
  obtain ⟨hsummaryGet, hsummaryAssert⟩ := requireMapping_ok hsummary
  obtain ⟨htrialsGet, hlength⟩ := requireTrials_ok htrials
  rw [hvaluesGet] at hvaluesAssert
  rw [hsummaryGet] at hsummaryAssert
  rw [repeatedProfileSamples, itemOf, hvaluesGet, ok_bind, hvaluesAssert, ok_bind, itemOf, hsummaryGet,
    ok_bind, hsummaryAssert, ok_bind] at h
  obtain ⟨summarySamples, hsummarySamples, h⟩ := (bind_ok_iff _ _ _).mp h
  rw [itemOf, htrialsGet, ok_bind, assertList, ok_bind] at h
  obtain ⟨trialSamples, htrialSamples, h⟩ := (bind_ok_iff _ _ _).mp h
  obtain rfl := Except.ok.inj h
  rw [List.map_append, summarySamples_keys hsummarySamples, trialSamples_keys hvalid htrialSamples,
    repeatedProfileKeys, ← hlength, Int.toNat_natCast]

theorem repeatedSamples_keys {evidence : Value} {samples : List MetricSample}
    (hvalid : validateRepeatedExperimentEvidence evidence = .ok ())
    (h : repeatedSamples evidence = .ok samples) :
    ∃ trials ≤ 30, samples.map MetricSample.key = repeatedKeys trials := by
  obtain ⟨trialCount, hcount, hvalid⟩ := (bind_ok_iff _ _ _).mp hvalid
  obtain ⟨profiles, hprofiles, hvalid⟩ := (bind_ok_iff _ _ _).mp hvalid
  obtain ⟨hget, hassert⟩ := requireMapping_ok hprofiles
  rw [hget] at hassert
  rw [repeatedSamples, itemOf, hget, ok_bind, hassert, ok_bind] at h
  obtain ⟨parts, hparts, h⟩ := (bind_ok_iff _ _ _).mp h
  obtain rfl := Except.ok.inj h
  have hpairs := (List.forall₂_and_left _ _).mpr ⟨(forM_ok_iff _ _).mp hvalid, (mapM_ok_iff _ _ _).mp hparts⟩
  have hkeys := map_eq_map hpairs fun profile part hpart => (repeatedProfileSamples_keys hpart.1 hpart.2).symm
  refine ⟨trialCount.toNat, checkTrialCount_le hcount, ?_⟩
  rw [List.map_flatten, ← hkeys, repeatedKeys, List.flatMap_def]

theorem twoDigits_nodup {trials : ℕ} (h : trials ≤ 30) :
    ((List.range' 1 trials).map fun number : ℕ => twoDigits number).Nodup := by
  have hall : ((List.range' 1 30).map fun number : ℕ => twoDigits number).Nodup := by decide +kernel
  exact hall.sublist ((List.range'_sublist_right.mpr h).map _)

theorem repeatedProfileKeys_head {trials : ℕ} {profile : String} {key : String × List (String × String)}
    (h : key ∈ repeatedProfileKeys trials profile) : key.2.head? = some ("profile", profile) := by
  rcases List.mem_append.mp h with h | h <;> obtain ⟨_, -, rfl⟩ := List.mem_map.mp h <;> rfl

theorem repeatedProfileKeys_nodup {trials : ℕ} (h : trials ≤ 30) (profile : String) :
    (repeatedProfileKeys trials profile).Nodup := by
  have hstats : statNames.Nodup := by decide
  refine List.nodup_append'.mpr ⟨hstats.map fun stat stat' heq => by simpa using heq, ?_, ?_⟩
  · refine Block.nodup_of_key (twoDigits_nodup h) fun number number' heq => ?_
    simpa using heq
  · intro key hsummary htrial
    obtain ⟨stat, -, rfl⟩ := List.mem_map.mp hsummary
    obtain ⟨number, -, heq⟩ := List.mem_map.mp htrial
    simp at heq

theorem repeatedKeys_nodup {trials : ℕ} (h : trials ≤ 30) : (repeatedKeys trials).Nodup := by
  refine List.nodup_flatMap.mpr ⟨fun profile _ => repeatedProfileKeys_nodup h profile, ?_⟩
  have hprofiles : profileNames.Nodup := by decide
  refine hprofiles.imp fun {profile profile'} hne key hkey hkey' => hne ?_
  have hhead := (repeatedProfileKeys_head hkey).symm.trans (repeatedProfileKeys_head hkey')
  simpa using hhead

theorem experimentKeys_nodup : experimentKeys.Nodup := by
  decide +kernel

end Series

section Exposition

def experimentLabelNames (name : String) : List String :=
  if name = "telconet_detection_summary_seconds" then ["profile", "stat"]
  else if name = "telconet_trial_detection_seconds" then ["profile", "trial"] else ["profile"]

structure LabelledKey (families : List Family) (key : String × List (String × String)) : Prop where
  declared : key.1 ∈ families.map Family.name
  named : key.2.map Prod.fst = experimentLabelNames key.1
  plain : ∀ label ∈ key.2, Plain label.2

theorem experimentKeys_labelled : ∀ key ∈ experimentKeys, LabelledKey experimentFamilies key := by
  have hall : ∀ key ∈ experimentKeys, key.1 ∈ experimentFamilies.map Family.name ∧
      key.2.map Prod.fst = experimentLabelNames key.1 ∧ ∀ label ∈ key.2, Plain label.2 := by
    decide +kernel
  exact fun key hkey => ⟨(hall key hkey).1, (hall key hkey).2.1, (hall key hkey).2.2⟩

theorem plain_twoDigits (n : ℤ) : Plain (twoDigits n) := by
  refine plain_of_number fun c hc => ?_
  unfold twoDigits at hc
  split_ifs at hc
  · rw [String.toList_append] at hc
    rcases List.mem_append.mp hc with hc | hc
    · rw [List.mem_singleton.mp hc]
      rfl
    · exact (number_integer n).2 c hc
  · exact (number_integer n).2 c hc

theorem repeatedKeys_labelled (trials : ℕ) : ∀ key ∈ repeatedKeys trials,
    LabelledKey repeatedFamilies key := by
  intro key hkey
  obtain ⟨profile, hprofile, hkey⟩ := List.mem_flatMap.mp hkey
  have hplain : Plain profile :=
    (by decide +kernel : ∀ profile ∈ profileNames, Plain profile) profile hprofile
  rcases List.mem_append.mp hkey with hkey | hkey
  · obtain ⟨stat, hstat, rfl⟩ := List.mem_map.mp hkey
    have hstatPlain : Plain stat := (by decide +kernel : ∀ stat ∈ statNames, Plain stat) stat hstat
    refine ⟨?_, rfl, List.forall_mem_cons.mpr ⟨hplain, List.forall_mem_singleton.mpr hstatPlain⟩⟩
    exact (by decide +kernel : "telconet_detection_summary_seconds" ∈ repeatedFamilies.map Family.name)
  · obtain ⟨number, -, rfl⟩ := List.mem_map.mp hkey
    refine ⟨?_, rfl, List.forall_mem_cons.mpr ⟨hplain, List.forall_mem_singleton.mpr (plain_twoDigits _)⟩⟩
    exact (by decide +kernel : "telconet_trial_detection_seconds" ∈ repeatedFamilies.map Family.name)

theorem Written.isValue_text (written : Written) : IsValue written.text := by
  cases written with
  | float x => exact isValue_general x
  | integer n => exact isValue_integer n

variable {families : List Family} {samples : List MetricSample}
  {keys : List (String × List (String × String))}

theorem block_sound (hkeys : samples.map MetricSample.key = keys) (hunique : keys.Nodup)
    (hlabelled : ∀ key ∈ keys, LabelledKey families key) :
    (⟨families, samples.map MetricSample.meant⟩ : Block).Sound := by
  have hnames : ∀ name, (experimentLabelNames name).Nodup := by
    intro name
    unfold experimentLabelNames
    split_ifs <;> decide
  have hkey : ∀ sample ∈ samples.map MetricSample.meant,
      LabelledKey families (sample.name, sample.labels) := by
    intro sample hsample
    obtain ⟨written, hwritten, rfl⟩ := List.mem_map.mp hsample
    exact hlabelled _ (hkeys ▸ List.mem_map_of_mem hwritten)
  refine ⟨fun sample hsample => (hkey sample hsample).declared, fun sample hsample => ?_,
    Sample.series_nodup (fun sample hsample => (hkey sample hsample).named) hnames ?_⟩
  · have hnamed : sample.labels.map Prod.fst = experimentLabelNames sample.name := (hkey sample hsample).named
    exact hnamed ▸ hnames sample.name
  · rw [List.map_map]
    exact hkeys ▸ hunique

theorem block_writes (hfamilies : ∀ family ∈ families, IsName family.name ∧ '\n' ∉ family.help.toList)
    (hkeys : samples.map MetricSample.key = keys) (hlabelled : ∀ key ∈ keys, LabelledKey families key) :
    WritesBlock ⟨families, samples.map MetricSample.meant⟩ ⟨families, samples.map MetricSample.meant⟩ := by
  refine writes_plain hfamilies fun sample hsample => ?_
  obtain ⟨sample, hmem, rfl⟩ := List.mem_map.mp hsample
  have hkey := hlabelled sample.key (hkeys ▸ List.mem_map_of_mem hmem)
  refine ⟨⟨?_, fun label hlabel => ?_, sample.written.isValue_text⟩, hkey.plain⟩
  · obtain ⟨family, hfamily, hname⟩ := List.mem_map.mp hkey.declared
    have hfamilyName := (hfamilies family hfamily).1
    rwa [hname] at hfamilyName
  · have hname : label.1 ∈ experimentLabelNames sample.name := hkey.named ▸ List.mem_map_of_mem hlabel
    revert hname
    unfold experimentLabelNames
    generalize label.1 = name
    split_ifs <;> revert name <;> decide +kernel

theorem labels_ne_nil (hkeys : samples.map MetricSample.key = keys)
    (hlabelled : ∀ key ∈ keys, LabelledKey families key) :
    ∀ sample ∈ samples, sample.labels ≠ [] := by
  intro sample hsample hnil
  have hnamed : sample.labels.map Prod.fst = experimentLabelNames sample.name :=
    (hlabelled sample.key (hkeys ▸ List.mem_map_of_mem hsample)).named
  rw [hnil, experimentLabelNames] at hnamed
  split_ifs at hnamed <;> cases hnamed

structure ExperimentText (body : String) (repeated : Bool) (blocks : List Block) : Prop where
  renders : Renders body (blocks.flatMap Block.lines)
  sound : ∀ block ∈ blocks, block.Sound
  names : blocks.flatMap Block.names =
    experimentFamilies.map Family.name ++ if repeated then repeatedFamilies.map Family.name else []

theorem experimentFamilies_readable : ∀ family ∈ experimentFamilies ++ repeatedFamilies,
    IsName family.name ∧ '\n' ∉ family.help.toList := by
  intro family hfamily
  fin_cases hfamily <;> exact ⟨isName_ofList (by decide), not_mem_ofList (by decide)⟩

theorem renderExperimentMetrics_text {evidence : Value} {repeated : Option Value}
    (h : validateExperimentEvidence evidence = .ok ())
    (hrepeated : ∀ value ∈ repeated, validateRepeatedExperimentEvidence value = .ok ()) :
    ∃ body blocks, renderExperimentMetrics evidence repeated = .ok body ∧
    ExperimentText body repeated.isSome blocks := by
  obtain ⟨hfirst, hsecond⟩ := List.forall_mem_append.mp experimentFamilies_readable
  obtain ⟨samples, hsamples, -⟩ := experimentSamples_exports h
  have hkeys := experimentSamples_keys hsamples
  have hlabels := labels_ne_nil hkeys experimentKeys_labelled
  have hwrites := block_writes hfirst hkeys experimentKeys_labelled
  have hsound := block_sound hkeys experimentKeys_nodup experimentKeys_labelled
  cases repeated with
  | none =>
    refine ⟨metricsText samples none, experimentBlocks samples none, ?_, ⟨?_, ?_, ?_⟩⟩
    · rw [renderExperimentMetrics, h, ok_bind, hsamples]
      rfl
    · rw [metricsText_eq hlabels (by simp)]
      exact renders_blocks (by simp [experimentBlocks, writtenBlock, experimentFamilies, familyHeader])
        (.cons hwrites .nil)
    · exact List.forall_mem_singleton.mpr hsound
    · rfl
  | some value =>
    have hvalid := hrepeated value rfl
    obtain ⟨trials, htrials, -⟩ := repeatedSamples_exports hvalid
    obtain ⟨count, hcount, htrialKeys⟩ := repeatedSamples_keys hvalid htrials
    have htrialLabels := labels_ne_nil htrialKeys (repeatedKeys_labelled count)
    have htrialWrites := block_writes hsecond htrialKeys (repeatedKeys_labelled count)
    have htrialSound := block_sound htrialKeys (repeatedKeys_nodup hcount) (repeatedKeys_labelled count)
    refine ⟨metricsText samples (some trials), experimentBlocks samples (some trials), ?_, ⟨?_, ?_, ?_⟩⟩
    · rw [renderExperimentMetrics, h, ok_bind]
      simp only [hvalid, hsamples, htrials, ok_bind]
      rfl
    · rw [metricsText_eq hlabels (by simpa using htrialLabels)]
      exact renders_blocks (by simp [experimentBlocks, writtenBlock, experimentFamilies, familyHeader])
        (.cons hwrites (.cons htrialWrites .nil))
    · exact List.forall_mem_cons.mpr ⟨hsound, List.forall_mem_singleton.mpr htrialSound⟩
    · rfl

end Exposition

end TelconetSentinel
