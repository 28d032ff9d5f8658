import TelconetSentinel.ProducedEvidence

namespace TelconetSentinel

open BinaryFloats DocumentValues FallibleLists OrderStatistics

def Number.Measured : Number → Prop
  | .int n => 0 ≤ n
  | .float x => IsDouble x

def Number.Halvable : Number → Prop
  | .int n => n ≤ 2 ^ 53
  | .float x => x = ⊤ ∨ x ≤ (2 ^ 1022 : ℚ)

structure Samples (values : List Number) : Prop where
  same_kind : ∀ x ∈ values, ∀ y ∈ values, x.isInteger = y.isInteger
  measured : ∀ x ∈ values, x.Measured

theorem samples_int {xs : List ℤ} (h : ∀ x ∈ xs, 0 ≤ x) : Samples (xs.map .int) where
  same_kind := by
    simp only [List.forall_mem_map]
    exact fun _ _ _ _ => rfl
  measured := List.forall_mem_map.mpr h

theorem samples_float {xs : List (WithTop ℚ)} (h : ∀ x ∈ xs, IsDouble x) : Samples (xs.map .float) where
  same_kind := by
    simp only [List.forall_mem_map]
    exact fun _ _ _ _ => rfl
  measured := List.forall_mem_map.mpr h

theorem Number.eq_of_extended {x y : Number} (hkind : x.isInteger = y.isInteger)
    (h : x.extended = y.extended) : x = y := by
  cases x with
  | int m =>
    cases y with
    | int n => rw [Int.cast_inj.mp (WithTop.coe_inj.mp h)]
    | float y => cases hkind
  | float x =>
    cases y with
    | int n => cases hkind
    | float y => exact congrArg Number.float h

section Order

variable {values values' : List Number}

theorem sortedNumbers_extended (values : List Number) :
    (sortedNumbers values).map Number.extended = ordered (values.map Number.extended) :=
  List.map_insertionSort (r := fun x y : Number => x.extended ≤ y.extended)
    (s := (· ≤ ·)) Number.extended values fun _ _ _ _ => Iff.rfl

theorem sortedNumbers_get {k : ℕ} (hk : k < (sortedNumbers values).length)
    (hk' : k < (ordered (values.map Number.extended)).length) :
    ((sortedNumbers values)[k]).extended = (ordered (values.map Number.extended))[k] := by
  simp only [← sortedNumbers_extended, List.getElem_map]

theorem sortedNumbers_perm (values : List Number) : (sortedNumbers values).Perm values :=
  List.perm_insertionSort _ _

theorem sortedNumbers_eq_of_perm (h : values.Perm values') (hsamples : Samples values) :
    sortedNumbers values = sortedNumbers values' := by
  have hpairwise : ∀ ns, (sortedNumbers ns).Pairwise fun x y => x.extended ≤ y.extended := by
    intro ns
    have hordered := ordered_pairwise (ns.map Number.extended)
    rwa [← sortedNumbers_extended, List.pairwise_map] at hordered
  have hperm := (sortedNumbers_perm values).trans (h.trans (sortedNumbers_perm values').symm)
  refine hperm.eq_of_pairwise (fun x y hx hy hxy hyx => ?_) (hpairwise values) (hpairwise values')
  have hx' : x ∈ values := (sortedNumbers_perm values).mem_iff.mp hx
  have hy' : y ∈ values := h.mem_iff.mpr ((sortedNumbers_perm values').mem_iff.mp hy)
  exact Number.eq_of_extended (hsamples.same_kind x hx' y hy') (le_antisymm hxy hyx)

theorem minimum_spec {least : Number} (h : minimum values = .ok least) :
    least ∈ values ∧ ∀ x ∈ values, least.extended ≤ x.extended := by
  cases values with
  | nil => cases h
  | cons x xs =>
    obtain rfl := Except.ok.inj h
    refine ⟨foldl_choice_mem (fun x y => ?_) x xs, foldl_best_le Number.extended x xs⟩
    split_ifs
    · exact Or.inr rfl
    · exact Or.inl rfl

theorem maximum_spec {greatest : Number} (h : maximum values = .ok greatest) :
    greatest ∈ values ∧ ∀ x ∈ values, x.extended ≤ greatest.extended := by
  cases values with
  | nil => cases h
  | cons x xs =>
    obtain rfl := Except.ok.inj h
    refine ⟨foldl_choice_mem (fun x y => ?_) x xs, foldl_best_le (fun y => OrderDual.toDual y.extended) x xs⟩
    split_ifs
    · exact Or.inr rfl
    · exact Or.inl rfl

theorem minimum_eq_of_perm (h : values.Perm values') (hsamples : Samples values) :
    minimum values = minimum values' := by
  rcases eq_or_ne values [] with rfl | hne
  · rw [List.nil_perm.mp h]
  obtain ⟨least, hleast⟩ := minimum_ok hne
  have hne' : values' ≠ [] := fun hnil => hne (List.perm_nil.mp (hnil ▸ h))
  obtain ⟨least', hleast'⟩ := minimum_ok hne'
  obtain ⟨hmem, hle⟩ := minimum_spec hleast
  obtain ⟨hmem', hle'⟩ := minimum_spec hleast'
  have heq := Number.eq_of_extended (hsamples.same_kind least hmem least' (h.mem_iff.mpr hmem'))
    (le_antisymm (hle least' (h.mem_iff.mpr hmem')) (hle' least (h.mem_iff.mp hmem)))
  rw [hleast, hleast', heq]

theorem maximum_eq_of_perm (h : values.Perm values') (hsamples : Samples values) :
    maximum values = maximum values' := by
  rcases eq_or_ne values [] with rfl | hne
  · rw [List.nil_perm.mp h]
  obtain ⟨greatest, -, hgreatest⟩ := maximum_mem hne
  have hne' : values' ≠ [] := fun hnil => hne (List.perm_nil.mp (hnil ▸ h))
  obtain ⟨greatest', -, hgreatest'⟩ := maximum_mem hne'
  obtain ⟨hmem, hle⟩ := maximum_spec hgreatest
  obtain ⟨hmem', hle'⟩ := maximum_spec hgreatest'
  have heq := Number.eq_of_extended (hsamples.same_kind greatest hmem greatest' (h.mem_iff.mpr hmem'))
    (le_antisymm (hle' greatest (h.mem_iff.mp hmem)) (hle greatest' (h.mem_iff.mpr hmem')))
  rw [hgreatest, hgreatest', heq]

theorem median_eq_of_perm (h : values.Perm values') (hsamples : Samples values) :
    median values = median values' := by
  simp only [median, sortedNumbers_eq_of_perm h hsamples]

theorem nearestRank_eq_of_perm (h : values.Perm values') (hsamples : Samples values) (percentile : ℚ) :
    nearestRank values percentile = nearestRank values' percentile := by
  simp only [nearestRank, sortedNumbers_eq_of_perm h hsamples]

theorem mean_eq_of_perm (h : values.Perm values') : mean values = mean values' := by
  have hsum : (values.map Number.extended).sum = (values'.map Number.extended).sum := (h.map _).sum_eq
  have hempty : values = [] ↔ values' = [] := by
    rw [← List.length_eq_zero_iff, ← List.length_eq_zero_iff, h.length_eq]
  simp only [mean, hempty, hsum, h.all_eq, h.length_eq]

theorem summary_eq_of_perm (h : values.Perm values') (hsamples : Samples values) :
    summary values = summary values' := by
  simp only [summary, minimum_eq_of_perm h hsamples, median_eq_of_perm h hsamples,
    nearestRank_eq_of_perm h hsamples, maximum_eq_of_perm h hsamples, mean_eq_of_perm h]

end Order

structure Summary.Describes (figures : Summary) (values : List Number) : Prop where
  min_mem : figures.min ∈ values
  min_least : ∀ x ∈ values, figures.min.extended ≤ x.extended
  max_mem : figures.max ∈ values
  max_greatest : ∀ x ∈ values, x.extended ≤ figures.max.extended
  p95_mem : figures.p95 ∈ values
  enough_le : 95 * values.length ≤ 100 * values.countP fun x => x.extended ≤ figures.p95.extended
  fewer_lt : 100 * values.countP (fun x => x.extended < figures.p95.extended) < 95 * values.length
  p50_between : values.length % 2 = 1 ∨ (∀ x ∈ (sortedNumbers values)[values.length / 2]?, x.Halvable) →
    figures.min.extended ≤ figures.p50.extended ∧ figures.p50.extended ≤ figures.p95.extended

theorem trueDivision_between {m n : ℤ} {q : ℚ} (hm : 0 ≤ m) (hmn : m ≤ n) (hn : n ≤ 2 ^ 53)
    (h : trueDivision (m + n) 2 = .ok q) : (m : ℚ) ≤ q ∧ q ≤ n := by
  obtain ⟨-, rfl⟩ := (trueDivision_ok_iff two_ne_zero q).mp h
  have hm' : (0 : ℚ) ≤ m := by exact_mod_cast hm
  have hmn' : (m : ℚ) ≤ n := by exact_mod_cast hmn
  have hlower : Representable (m : ℚ) := by
    have hnat := representable_natCast (n := m.toNat) (by omega)
    rwa [← Int.cast_natCast, Int.toNat_of_nonneg hm] at hnat
  have hupper : Representable (n : ℚ) := by
    have hnat := representable_natCast (n := n.toNat) (by omega)
    rwa [← Int.cast_natCast, Int.toNat_of_nonneg (hm.trans hmn)] at hnat
  have hhalf : (m : ℚ) ≤ ((m + n : ℤ) : ℚ) / (2 : ℤ) ∧ ((m + n : ℤ) : ℚ) / (2 : ℤ) ≤ n := by
    push_cast
    constructor <;> linarith
  constructor
  · calc (m : ℚ) = double m := hlower.double_eq.symm
      _ ≤ double (((m + n : ℤ) : ℚ) / (2 : ℤ)) := double_mono hm' hhalf.1
  · calc double (((m + n : ℤ) : ℚ) / (2 : ℤ)) ≤ double n := double_mono (hm'.trans hhalf.1) hhalf.2
      _ = n := hupper.double_eq

theorem halveFloat_between {x y : WithTop ℚ} (hx : IsDouble x) (hy : IsDouble y) (hxy : x ≤ y)
    (hhalvable : (Number.float y).Halvable) :
    x ≤ halveFloat (addFloats x y) ∧ halveFloat (addFloats x y) ≤ y := by
  cases y with
  | top =>
    have htop : halveFloat (addFloats x ⊤) = ⊤ := by rw [addFloats, WithTop.add_top]; rfl
    rw [htop]
    exact ⟨le_top, le_rfl⟩
  | coe b =>
    obtain ⟨a, rfl⟩ := WithTop.ne_top_iff_exists.mp (ne_top_of_le_ne_top WithTop.coe_ne_top hxy)
    have ha : Representable a := hx a rfl
    have hb : Representable b := hy b rfl
    have hab : a ≤ b := WithTop.coe_le_coe.mp hxy
    have hlimit : ¬ (floatLimit : ℚ) ≤ a + b := by
      have hsmall : b ≤ 2 ^ 1022 := by
        rcases hhalvable with htop | hle
        · exact absurd htop WithTop.coe_ne_top
        · exact WithTop.coe_le_coe.mp hle
      have hlarge : (2 : ℤ) ^ 1022 + 2 ^ 1022 < floatLimit := by decide +kernel
      refine not_le.mpr ((add_le_add (hab.trans hsmall) hsmall).trans_lt ?_)
      simpa only [Int.cast_add, Int.cast_pow, Int.cast_ofNat] using Int.cast_lt (R := ℚ).mpr hlarge
    have hsum : addFloats a b = (double (a + b) : ℚ) := by
      have hadd : ((a : ℚ) : WithTop ℚ) + (b : ℚ) = ((a + b : ℚ) : WithTop ℚ) := (WithTop.coe_add a b).symm
      rw [addFloats, hadd]
      exact if_neg hlimit
    have ha' := ha.nonneg
    have hlower : 2 * a ≤ double (a + b) := by
      rw [← ha.two_mul.double_eq]
      exact double_mono (by linarith) (by linarith)
    have hupper : double (a + b) ≤ 2 * b := by
      rw [← hb.two_mul.double_eq]
      exact double_mono (by linarith) (by linarith)
    rw [hsum]
    constructor
    · refine WithTop.coe_le_coe.mpr ?_
      calc a = double a := ha.double_eq.symm
        _ ≤ double (double (a + b) / 2) := double_mono ha' (by linarith)
    · refine WithTop.coe_le_coe.mpr ?_
      calc double (double (a + b) / 2) ≤ double b := double_mono (by linarith) (by linarith)
        _ = b := hb.double_eq

theorem halfSum_between {x y : Number} {q : WithTop ℚ} (hkind : x.isInteger = y.isInteger) (hx : x.Measured)
    (hy : y.Measured) (hxy : x.extended ≤ y.extended) (hhalvable : y.Halvable) (h : halfSum x y = .ok q) :
    x.extended ≤ q ∧ q ≤ y.extended := by
  cases x with
  | int m =>
    cases y with
    | int n =>
      have hmn : m ≤ n := by exact_mod_cast (WithTop.coe_le_coe.mp hxy : (m : ℚ) ≤ n)
      cases hdivision : trueDivision (m + n) 2 with
      | error e => simp [halfSum, hdivision, Except.map] at h
      | ok half =>
        obtain rfl : (half : WithTop ℚ) = q := by simpa [halfSum, hdivision, Except.map] using h
        obtain ⟨hlower, hupper⟩ := trueDivision_between hx hmn hhalvable hdivision
        exact ⟨WithTop.coe_le_coe.mpr hlower, WithTop.coe_le_coe.mpr hupper⟩
    | float y => cases hkind
  | float x =>
    cases y with
    | int n => cases hkind
    | float y =>
      obtain rfl := Except.ok.inj h
      exact halveFloat_between hx hy hxy hhalvable

section Described

variable {values : List Number}

/-- The median lies between the two middle samples, which are one where their number is odd. -/
theorem median_between (hsamples : Samples values)
    (hk : values.length / 2 < (ordered (values.map Number.extended)).length)
    (hlower : (values.length - 1) / 2 < (ordered (values.map Number.extended)).length)
    (hmiddle : values.length % 2 = 1 ∨ ∀ x ∈ (sortedNumbers values)[values.length / 2]?, x.Halvable)
    {p50 : Number} (h : median values = .ok p50) :
    (ordered (values.map Number.extended))[(values.length - 1) / 2] ≤ p50.extended ∧
      p50.extended ≤ (ordered (values.map Number.extended))[values.length / 2] := by
  have hlength : (ordered (values.map Number.extended)).length = values.length := by
    rw [ordered_length, List.length_map]
  have hsorted : values.length / 2 < (sortedNumbers values).length := by
    rw [sortedNumbers_length]
    omega
  rcases Nat.mod_two_eq_zero_or_one values.length with heven | hodd
  · have hplace : (values.length - 1) / 2 = values.length / 2 - 1 := by omega
    have hbefore : values.length / 2 - 1 < (sortedNumbers values).length := by omega
    have hhalvable : (sortedNumbers values)[values.length / 2].Halvable := by
      rcases hmiddle with hodd | hmiddle
      · omega
      · exact hmiddle _ (List.getElem?_eq_getElem hsorted)
    rw [median_even heven (by omega) hsorted] at h
    cases hsum : halfSum (sortedNumbers values)[values.length / 2 - 1]
      (sortedNumbers values)[values.length / 2] with
    | error e =>
      rw [hsum] at h
      cases h
    | ok q =>
      rw [hsum] at h
      obtain rfl := Except.ok.inj h
      have hx : (sortedNumbers values)[values.length / 2 - 1] ∈ values :=
        (sortedNumbers_perm values).mem_iff.mp (List.getElem_mem hbefore)
      have hy : (sortedNumbers values)[values.length / 2] ∈ values :=
        (sortedNumbers_perm values).mem_iff.mp (List.getElem_mem hsorted)
      have hxy : (sortedNumbers values)[values.length / 2 - 1].extended ≤
          (sortedNumbers values)[values.length / 2].extended := by
        rw [sortedNumbers_get hbefore (by omega), sortedNumbers_get hsorted hk]
        exact ordered_get_mono (by omega) hk
      have hbetween := halfSum_between (hsamples.same_kind _ hx _ hy) (hsamples.measured _ hx)
        (hsamples.measured _ hy) hxy hhalvable hsum
      rw [sortedNumbers_get hbefore (by omega), sortedNumbers_get hsorted hk] at hbetween
      simp only [hplace]
      exact hbetween
  · have hplace : (values.length - 1) / 2 = values.length / 2 := by omega
    have heq := Except.ok.inj ((median_odd hodd hsorted).symm.trans h)
    simp only [hplace, ← heq, sortedNumbers_get hsorted hk, le_refl, and_self]

theorem summary_describes (hsamples : Samples values) (hleast : 20 ≤ values.length)
    (hmost : values.length ≤ 30) {figures : Summary} (h : summary values = .ok figures) :
    figures.Describes values := by
  obtain ⟨least, hminimum, h⟩ := (bind_ok_iff _ _ _).mp h
  obtain ⟨p50, hp50, h⟩ := (bind_ok_iff _ _ _).mp h
  obtain ⟨p95, hp95, h⟩ := (bind_ok_iff _ _ _).mp h
  obtain ⟨greatest, hmaximum, h⟩ := (bind_ok_iff _ _ _).mp h
  obtain ⟨average, -, h⟩ := (bind_ok_iff _ _ _).mp h
  obtain rfl := Except.ok.inj h
  obtain ⟨hminMem, hmin⟩ := minimum_spec hminimum
  obtain ⟨hmaxMem, hmax⟩ := maximum_spec hmaximum
  have hlength : (ordered (values.map Number.extended)).length = values.length := by
    rw [ordered_length, List.length_map]
  have hsorted : values.length - 2 < (sortedNumbers values).length := by
    rw [sortedNumbers_length]
    omega
  have hrank : values.length - 2 < (ordered (values.map Number.extended)).length := by omega
  have hp95Get : p95 = (sortedNumbers values)[values.length - 2] :=
    Except.ok.inj (hp95.symm.trans (nearestRank_eq hleast hmost hsorted))
  have hp95Extended : p95.extended = (ordered (values.map Number.extended))[values.length - 2] := by
    rw [hp95Get, sortedNumbers_get hsorted hrank]
  obtain ⟨hle, hlt⟩ := countP_ordered hrank
  rw [← hp95Extended, List.countP_map] at hle hlt
  refine ⟨hminMem, hmin, hmaxMem, hmax, ?_, ?_, ?_, fun hmiddle => ?_⟩
  · rw [hp95Get]
    exact (sortedNumbers_perm values).mem_iff.mp (List.getElem_mem hsorted)
  · have hcount : values.countP (fun x => x.extended ≤ p95.extended) ≥ values.length - 1 := by
      refine le_trans (by omega) hle
    simp only
    omega
  · have hcount : values.countP (fun x => x.extended < p95.extended) ≤ values.length - 2 := hlt
    simp only
    omega
  · have hk : values.length / 2 < (ordered (values.map Number.extended)).length := by omega
    have hlower : (values.length - 1) / 2 < (ordered (values.map Number.extended)).length := by omega
    obtain ⟨hfrom, hto⟩ := median_between hsamples hk hlower hmiddle hp50
    constructor
    · obtain ⟨x, hx, hxeq⟩ := List.mem_map.mp (mem_ordered_get hlower)
      rw [← hxeq] at hfrom
      exact (hmin x hx).trans hfrom
    · refine hto.trans ?_
      simp only [hp95Extended]
      exact ordered_get_mono (by omega) hrank

end Described

section Runs

variable {profile : String} {logs logs' : List NamedLog}

structure AcceptedTrials (profile sha256 : String) (logs : List NamedLog) (results : List DetectionResult) :
    Prop where
  parsed : List.Forall₂ Parsed logs results
  checked : ∀ result ∈ results, checkTrial profile (some sha256) result = .ok ()

theorem checkTrial_configuration {sha256 : String} {parsed : DetectionResult}
    (h : checkTrial profile (some sha256) parsed = .ok ()) : parsed.configurationSha256 = sha256 := by
  obtain ⟨-, -, -, hsame⟩ := (checkTrial_ok_iff _ _).mp h
  have hsha : sha256 = parsed.configurationSha256 := by simpa using hsame
  exact hsha.symm

theorem checkTrial_own {configurationSha256 : Option String} {parsed : DetectionResult}
    (h : checkTrial profile configurationSha256 parsed = .ok ()) :
    checkTrial profile (some parsed.configurationSha256) parsed = .ok () := by
  obtain ⟨hprofile, hbfd, hospf, -⟩ := (checkTrial_ok_iff _ _).mp h
  exact (checkTrial_ok_iff _ _).mpr ⟨hprofile, hbfd, hospf, by simp⟩

theorem of_addTrial_ok {collected next : Option String × List Trial} {entry : NamedLog × ℕ}
    (h : addTrial profile collected entry = .ok next) : ∃ parsed, Parsed entry.1 parsed ∧
      checkTrial profile collected.1 parsed = .ok () ∧ next.1 = some parsed.configurationSha256 := by
  obtain ⟨parsed, hparsed, h⟩ := (bind_ok_iff _ _ _).mp h
  obtain ⟨hcheck, h⟩ := (then_ok_iff _ _ _).mp h
  obtain rfl := Except.ok.inj h
  exact ⟨parsed, hparsed, hcheck, rfl⟩

theorem acceptedTrials_of_run {sha256 : String} {start : ℕ} {trials : List Trial}
    {final : Option String × List Trial}
    (h : (logs.zipIdx start).foldlM (addTrial profile) (some sha256, trials) = .ok final) :
    ∃ results, AcceptedTrials profile sha256 logs results := by
  induction logs generalizing start trials with
  | nil => exact ⟨[], .nil, by simp⟩
  | cons log logs ih =>
    rw [List.zipIdx_cons, List.foldlM_cons] at h
    obtain ⟨⟨configurationSha256, trials'⟩, hnext, h⟩ := (bind_ok_iff _ _ _).mp h
    obtain ⟨parsed, hparsed, hcheck, hconfiguration⟩ := of_addTrial_ok hnext
    obtain rfl := hconfiguration
    rw [checkTrial_configuration hcheck] at h
    obtain ⟨results, hresults⟩ := ih h
    exact ⟨parsed :: results, .cons hparsed hresults.parsed,
      List.forall_mem_cons.mpr ⟨hcheck, hresults.checked⟩⟩

theorem acceptedTrials_of_profileSummary {figures : ProfileSummary} (hne : logs ≠ [])
    (h : profileSummary profile logs = .ok figures) : ∃ sha256 results,
      AcceptedTrials profile sha256 logs results := by
  obtain ⟨collected, hrun, -⟩ := (bind_ok_iff _ _ _).mp h
  cases logs with
  | nil => exact absurd rfl hne
  | cons log logs =>
    rw [List.zipIdx_cons, List.foldlM_cons] at hrun
    obtain ⟨⟨configurationSha256, trials⟩, hnext, hrun⟩ := (bind_ok_iff _ _ _).mp hrun
    obtain ⟨parsed, hparsed, hcheck, hconfiguration⟩ := of_addTrial_ok hnext
    obtain rfl := hconfiguration
    obtain ⟨results, hresults⟩ := acceptedTrials_of_run hrun
    exact ⟨parsed.configurationSha256, parsed :: results, .cons hparsed hresults.parsed,
      List.forall_mem_cons.mpr ⟨checkTrial_own hcheck, hresults.checked⟩⟩

theorem AcceptedTrials.permute {sha256 : String} {results : List DetectionResult} (hperm : logs.Perm logs')
    (h : AcceptedTrials profile sha256 logs results) :
    ∃ results', AcceptedTrials profile sha256 logs' results' ∧ results.Perm results' := by
  obtain ⟨results', hparsed, hresults⟩ := List.perm_comp_forall₂ hperm.symm h.parsed
  exact ⟨results', ⟨hparsed, fun result hresult => h.checked result (hresults.mem_iff.mp hresult)⟩,
    hresults.symm⟩

/-- The summaries of two profiles agree, though the trials may come in another order. -/
def ProfileSummary.SameFigures (figures figures' : ProfileSummary) : Prop :=
  figures.configurationSha256 = figures'.configurationSha256 ∧ figures.detectionMs = figures'.detectionMs ∧
    figures.lostPackets = figures'.lostPackets ∧ figures.captureLossPercent = figures'.captureLossPercent

def detectionSamples (results : List DetectionResult) : List Number :=
  (results.map DetectionResult.observedDetectionUpperBoundMs).map .int

def lostSamples (results : List DetectionResult) : List Number :=
  (results.map DetectionResult.packetsLostUntilFailover).map .int

def lossSamples (results : List DetectionResult) : List Number :=
  (results.map DetectionResult.capturePacketLossPercent).map .float

/-- The trials of a profile are its logs in their order, and its figures describe what these were parsed
to. -/
structure ProfileSummary.DescribesLogs (figures : ProfileSummary) (logs : List NamedLog)
    (results : List DetectionResult) :
    Prop where
  parsed : List.Forall₂ Parsed logs results
  trials_eq : figures.trials = trialsOf 1 logs results
  detection : figures.detectionMs.Describes (detectionSamples results)
  lost : figures.lostPackets.Describes (lostSamples results)
  loss : figures.captureLossPercent.Describes (lossSamples results)

theorem detectionSamples_samples (results : List DetectionResult) : Samples (detectionSamples results) :=
  samples_int (List.forall_mem_map.mpr fun result _ => result.detection_nonneg)

theorem lostSamples_samples (results : List DetectionResult) : Samples (lostSamples results) :=
  samples_int (List.forall_mem_map.mpr fun result _ => result.lost_nonneg)

theorem lossSamples_samples (results : List DetectionResult) : Samples (lossSamples results) :=
  samples_float (List.forall_mem_map.mpr fun result _ => result.loss_isDouble)

theorem AcceptedTrials.profileSummary_ok_iff {sha256 : String} {results : List DetectionResult}
    (h : AcceptedTrials profile sha256 logs results) (hne : results ≠ []) (figures : ProfileSummary) :
    profileSummary profile logs = .ok figures ↔ summary (detectionSamples results) = .ok figures.detectionMs ∧
      summary (lostSamples results) = .ok figures.lostPackets ∧
      summary (lossSamples results) = .ok figures.captureLossPercent ∧
      figures.configurationSha256 = some sha256 ∧
      figures.trials = trialsOf 1 logs results := by
  rw [profileSummary_eq h.parsed hne h.checked]
  constructor
  · intro hrun
    obtain ⟨detectionMs, hdetection, hrun⟩ := (bind_ok_iff _ _ _).mp hrun
    obtain ⟨lostPackets, hlost, hrun⟩ := (bind_ok_iff _ _ _).mp hrun
    obtain ⟨captureLossPercent, hloss, hrun⟩ := (bind_ok_iff _ _ _).mp hrun
    obtain rfl := Except.ok.inj hrun
    exact ⟨hdetection, hlost, hloss, rfl, rfl⟩
  · obtain ⟨configurationSha256, detectionMs, lostPackets, captureLossPercent, trials⟩ := figures
    rintro ⟨hdetection, hlost, hloss, rfl, rfl⟩
    exact (bind_ok_iff _ _ _).mpr ⟨_, hdetection,
      (bind_ok_iff _ _ _).mpr ⟨_, hlost, (bind_ok_iff _ _ _).mpr ⟨_, hloss, rfl⟩⟩⟩

theorem profileSummary_permute {figures : ProfileSummary} (hperm : logs.Perm logs') (hne : logs ≠ [])
    (h : profileSummary profile logs = .ok figures) :
    ∃ figures', profileSummary profile logs' = .ok figures' ∧ figures.SameFigures figures' := by
  obtain ⟨sha256, results, haccepted⟩ := acceptedTrials_of_profileSummary hne h
  obtain ⟨results', haccepted', hresults⟩ := haccepted.permute hperm
  have hresultsNe : results ≠ [] := fun hnil => hne (List.forall₂_nil_right_iff.mp (hnil ▸ haccepted.parsed))
  have hresultsNe' : results' ≠ [] := fun hnil => hresultsNe (List.perm_nil.mp (hnil ▸ hresults))
  obtain ⟨hdetection, hlost, hloss, hsha, -⟩ := (haccepted.profileSummary_ok_iff hresultsNe figures).mp h
  have hdetectionEq : summary (detectionSamples results) = summary (detectionSamples results') :=
    summary_eq_of_perm ((hresults.map _).map _) (detectionSamples_samples results)
  have hlostEq : summary (lostSamples results) = summary (lostSamples results') :=
    summary_eq_of_perm ((hresults.map _).map _) (lostSamples_samples results)
  have hlossEq : summary (lossSamples results) = summary (lossSamples results') :=
    summary_eq_of_perm ((hresults.map _).map _) (lossSamples_samples results)
  rw [hdetectionEq] at hdetection
  rw [hlostEq] at hlost
  rw [hlossEq] at hloss
  refine ⟨⟨some sha256, figures.detectionMs, figures.lostPackets, figures.captureLossPercent,
    trialsOf 1 logs' results'⟩, (haccepted'.profileSummary_ok_iff hresultsNe' _).mpr ⟨hdetection, hlost,
    hloss, rfl, rfl⟩, hsha, rfl, rfl, rfl⟩

theorem profileSummary_described {figures : ProfileSummary} (hleast : 20 ≤ logs.length)
    (hmost : logs.length ≤ 30) (h : profileSummary profile logs = .ok figures) :
    ∃ results, figures.DescribesLogs logs results := by
  obtain ⟨sha256, results, haccepted⟩ :=
    acceptedTrials_of_profileSummary (List.ne_nil_of_length_pos (by omega)) h
  have hlength := haccepted.parsed.length_eq
  obtain ⟨hdetection, hlost, hloss, -, htrials⟩ :=
    (haccepted.profileSummary_ok_iff (List.ne_nil_of_length_pos (by omega)) figures).mp h
  have hdetectionLength : (detectionSamples results).length = logs.length := by
    simp [detectionSamples, hlength]
  have hlostLength : (lostSamples results).length = logs.length := by simp [lostSamples, hlength]
  have hlossLength : (lossSamples results).length = logs.length := by simp [lossSamples, hlength]
  exact ⟨results, haccepted.parsed, htrials,
    summary_describes (detectionSamples_samples results) (by omega) (by omega) hdetection,
    summary_describes (lostSamples_samples results) (by omega) (by omega) hlost,
    summary_describes (lossSamples_samples results) (by omega) (by omega) hloss⟩

end Runs

theorem compareProfiles_permute {trialCount : ℕ} {ospf bfd ospf' bfd' : ProfileSummary}
    (hospf : ospf.SameFigures ospf') (hbfd : bfd.SameFigures bfd') {document : Value}
    (h : compareProfiles trialCount ospf bfd = .ok document) :
    ∃ p50Reduction p95Reduction, document = repeatedDocument trialCount ospf bfd p50Reduction p95Reduction ∧
      compareProfiles trialCount ospf' bfd' =
        .ok (repeatedDocument trialCount ospf' bfd' p50Reduction p95Reduction) := by
  obtain ⟨ospfP50, hospfP50, h⟩ := (bind_ok_iff _ _ _).mp h
  obtain ⟨ospfP95, hospfP95, h⟩ := (bind_ok_iff _ _ _).mp h
  obtain ⟨bfdP50, hbfdP50, h⟩ := (bind_ok_iff _ _ _).mp h
  obtain ⟨bfdP95, hbfdP95, h⟩ := (bind_ok_iff _ _ _).mp h
  obtain ⟨p50Reduction, hp50, h⟩ := (bind_ok_iff _ _ _).mp h
  obtain ⟨p95Reduction, hp95, h⟩ := (bind_ok_iff _ _ _).mp h
  refine ⟨p50Reduction, p95Reduction, (Except.ok.inj h).symm, ?_⟩
  rw [compareProfiles, ← hospf.2.1, ← hbfd.2.1, hospfP50, ok_bind, hospfP95, ok_bind, hbfdP50, ok_bind,
    hbfdP95, ok_bind, hp50, ok_bind, hp95, ok_bind]
  rfl

structure SameStatistics (ospfLogs bfdLogs ospfLogs' bfdLogs' : List NamedLog)
    (ospf bfd ospf' bfd' : ProfileSummary) (p50Reduction p95Reduction : Float64) : Prop where
  outcome : buildRepeatedEvidence ospfLogs bfdLogs =
    .ok (repeatedDocument ospfLogs.length ospf bfd p50Reduction p95Reduction)
  outcome' : buildRepeatedEvidence ospfLogs' bfdLogs' =
    .ok (repeatedDocument ospfLogs'.length ospf' bfd' p50Reduction p95Reduction)
  ospf_figures : ospf.SameFigures ospf'
  bfd_figures : bfd.SameFigures bfd'
  ospf_described : ∃ results, ospf.DescribesLogs ospfLogs results
  bfd_described : ∃ results, bfd.DescribesLogs bfdLogs results
  ospf_described' : ∃ results, ospf'.DescribesLogs ospfLogs' results
  bfd_described' : ∃ results, bfd'.DescribesLogs bfdLogs' results

theorem buildRepeatedEvidence_permute {ospfLogs bfdLogs ospfLogs' bfdLogs' : List NamedLog}
    (hospfPerm : ospfLogs.Perm ospfLogs') (hbfdPerm : bfdLogs.Perm bfdLogs') {document : Value}
    (h : buildRepeatedEvidence ospfLogs bfdLogs = .ok document) :
    ∃ ospf bfd ospf' bfd' p50Reduction p95Reduction,
      SameStatistics ospfLogs bfdLogs ospfLogs' bfdLogs' ospf bfd ospf' bfd' p50Reduction p95Reduction := by
  have hbuild := h
  obtain ⟨hlengths, h⟩ := (then_ok_iff _ _ _).mp h
  obtain ⟨ospf, hospf, h⟩ := (bind_ok_iff _ _ _).mp h
  obtain ⟨bfd, hbfd, h⟩ := (bind_ok_iff _ _ _).mp h
  obtain ⟨hconfigurations, hcompare⟩ := (then_ok_iff _ _ _).mp h
  have hlengths' : checkLengths ospfLogs' bfdLogs' = .ok () := by
    rw [checkLengths, ← hospfPerm.length_eq, ← hbfdPerm.length_eq]
    exact hlengths
  simp only [checkLengths, check_ok_iff, not_not, not_lt, and_true] at hlengths
  obtain ⟨ospf', hospf', hospfSame⟩ :=
    profileSummary_permute hospfPerm (List.ne_nil_of_length_pos (by omega)) hospf
  obtain ⟨bfd', hbfd', hbfdSame⟩ :=
    profileSummary_permute hbfdPerm (List.ne_nil_of_length_pos (by omega)) hbfd
  have hconfigurations' : checkConfigurations ospf' bfd' = .ok () := by
    rw [checkConfigurations, ← hospfSame.1, ← hbfdSame.1]
    exact hconfigurations
  obtain ⟨p50Reduction, p95Reduction, rfl, hcompare'⟩ := compareProfiles_permute hospfSame hbfdSame hcompare
  have hospfLength := hospfPerm.length_eq
  have hbfdLength := hbfdPerm.length_eq
  refine ⟨ospf, bfd, ospf', bfd', p50Reduction, p95Reduction, hbuild, ?_, hospfSame, hbfdSame,
    profileSummary_described (by omega) (by omega) hospf, profileSummary_described (by omega) (by omega) hbfd,
    profileSummary_described (by omega) (by omega) hospf', profileSummary_described (by omega)
    (by omega) hbfd'⟩
  rw [buildRepeatedEvidence, hlengths', ok_bind, hospf', ok_bind, hbfd', ok_bind, hconfigurations', ok_bind,
    ← hospfPerm.length_eq]
  exact hcompare'

theorem repeated_statistics_order_free {ospfLogs bfdLogs ospfLogs' bfdLogs' : List NamedLog}
    (hospf : ospfLogs.Perm ospfLogs') (hbfd : bfdLogs.Perm bfdLogs') :
    ((∃ e, buildRepeatedEvidence ospfLogs bfdLogs = .error e) ∧
        ∃ e, buildRepeatedEvidence ospfLogs' bfdLogs' = .error e) ∨
      ∃ ospf bfd ospf' bfd' p50Reduction p95Reduction,
        SameStatistics ospfLogs bfdLogs ospfLogs' bfdLogs' ospf bfd ospf' bfd' p50Reduction p95Reduction := by
  by_cases hok : ∃ document, buildRepeatedEvidence ospfLogs bfdLogs = .ok document
  · obtain ⟨document, h⟩ := hok
    exact Or.inr (buildRepeatedEvidence_permute hospf hbfd h)
  · refine Or.inl ⟨(exists_error_iff _).mpr hok, (exists_error_iff _).mpr ?_⟩
    rintro ⟨document, h⟩
    obtain ⟨_, _, _, _, _, _, hsame⟩ := buildRepeatedEvidence_permute hospf.symm hbfd.symm h
    exact hok ⟨_, hsame.outcome'⟩

theorem copies_of_log (source : String) {log : String} {parsed : DetectionResult}
    (h : parseDetectionLog log = .ok parsed) (n : ℕ) :
    ∀ trial ∈ List.replicate n (source, log), Parsed trial parsed :=
  fun _ htrial => List.eq_of_mem_replicate htrial ▸ h

theorem exists_buildRepeatedEvidence {ospfLogs bfdLogs : List NamedLog} {ospf bfd : DetectionResult}
    (h : RepeatedLogs ospfLogs bfdLogs (List.replicate ospfLogs.length ospf)
      (List.replicate bfdLogs.length bfd))
    (hpositive : ospf.observedDetectionUpperBoundMs ≠ 0)
    (hospf : ospf.observedDetectionUpperBoundMs < floatLimit ∧ ospf.packetsLostUntilFailover < floatLimit)
    (hbfd : bfd.observedDetectionUpperBoundMs < floatLimit ∧ bfd.packetsLostUntilFailover < floatLimit) :
    ∃ document, buildRepeatedEvidence ospfLogs bfdLogs = .ok document := by
  obtain ⟨hcount, hsame, hleast, -⟩ := h.length
  have hospfAll : ∀ parsed ∈ List.replicate ospfLogs.length ospf,
      parsed.observedDetectionUpperBoundMs < floatLimit ∧ parsed.packetsLostUntilFailover < floatLimit :=
    fun parsed hparsed => List.eq_of_mem_replicate hparsed ▸ hospf
  have hbfdAll : ∀ parsed ∈ List.replicate bfdLogs.length bfd,
      parsed.observedDetectionUpperBoundMs < floatLimit ∧ parsed.packetsLostUntilFailover < floatLimit :=
    fun parsed hparsed => List.eq_of_mem_replicate hparsed ▸ hbfd
  obtain ⟨document, hdocument, -⟩ := (repeated_feeds_metrics_iff h).mpr
    ⟨by simp [List.countP_replicate, hpositive], ⟨fun parsed hparsed => (hospfAll parsed hparsed).1,
      lostFits_of_range (by omega) fun parsed hparsed => (hospfAll parsed hparsed).2⟩,
    fun parsed hparsed => (hbfdAll parsed hparsed).1,
    lostFits_of_range (by omega) fun parsed hparsed => (hbfdAll parsed hparsed).2⟩
  exact ⟨document, hdocument⟩

theorem repeated_statistics_order_free_rotated : ∃ ospf bfd ospf' bfd' p50Reduction p95Reduction,
    SameStatistics (("first.log", orderedLog) :: List.replicate 19 ("other.log", orderedLog))
      (List.replicate 20 ("bfd.log", bfdLog))
      (List.replicate 19 ("other.log", orderedLog) ++ [("first.log", orderedLog)])
      (List.replicate 20 ("bfd.log", bfdLog)) ospf bfd ospf' bfd' p50Reduction p95Reduction := by
  obtain ⟨ospf, hospf, hospfChecks, hdetection, hlost, -⟩ := readFigures_some orderedLog_figures
  obtain ⟨bfd, hbfd, hbfdChecks, hbfdDetection, hbfdLost, -⟩ := readFigures_some bfdLog_figures
  have hospfLogs : ∀ trial ∈ ("first.log", orderedLog) :: List.replicate 19 ("other.log", orderedLog),
      Parsed trial ospf :=
    List.forall_mem_cons.mpr ⟨hospf, copies_of_log "other.log" hospf 19⟩
  have hlogs := RepeatedLogs.of_copies hospfLogs (copies_of_log "bfd.log" hbfd 20)
    (by simp [checkLengths]) hospfChecks hbfdChecks
  obtain ⟨document, hdocument⟩ := exists_buildRepeatedEvidence hlogs (by rw [hdetection]; decide)
    (by rw [hdetection, hlost]; exact ⟨lt_trans (by decide) floatLimit_large,
      lt_trans (by decide) floatLimit_large⟩)
    (by rw [hbfdDetection, hbfdLost]; exact ⟨lt_trans (by decide) floatLimit_large,
      lt_trans (by decide) floatLimit_large⟩)
  have hrotated : (("first.log", orderedLog) :: List.replicate 19 ("other.log", orderedLog)).Perm
      (List.replicate 19 ("other.log", orderedLog) ++ [("first.log", orderedLog)]) :=
    (List.perm_append_singleton _ _).symm
  rcases repeated_statistics_order_free hrotated (List.Perm.refl (List.replicate 20 ("bfd.log", bfdLog))) with
    ⟨⟨e, he⟩, -⟩ | hsame
  · rw [hdocument] at he
    cases he
  · exact hsame

def slowLog : String := sampleLog "ospf_only" [replyLine "100.2" "2" "61",
    replyLine "9007199254841.093" "3" "60"]

theorem slowLog_figures : readFigures slowLog =
    some (("ospf_only", "abc", false), 9007199254740993, 0, ((50 : ℚ) : WithTop ℚ)) := by
  rw [readFigures, parseDetectionLog, scanLog, slowLog, sampleLog, logOfLines, String.toList_ofList]
  decide +kernel

theorem slow_summary : summary (List.replicate 20 (.int 9007199254740993)) = .ok ⟨.int 9007199254740993,
    .float (9007199254740992 : ℚ), .int 9007199254740993, .int 9007199254740993, .int 9007199254740993⟩ := by
  decide +kernel

theorem slow_median_below_minimum : ∃ ospf bfd p50Reduction p95Reduction,
    buildRepeatedEvidence (List.replicate 20 ("ospf.log", slowLog)) (List.replicate 20 ("bfd.log", bfdLog)) =
      .ok (repeatedDocument 20 ospf bfd p50Reduction p95Reduction) ∧
    ospf.detectionMs.p50.extended < ospf.detectionMs.min.extended := by
  obtain ⟨ospf, hospf, hospfChecks, hdetection, hlost, -⟩ := readFigures_some slowLog_figures
  obtain ⟨bfd, hbfd, hbfdChecks, hbfdDetection, hbfdLost, -⟩ := readFigures_some bfdLog_figures
  have hlogs := RepeatedLogs.of_copies (copies_of_log "ospf.log" hospf 20)
    (copies_of_log "bfd.log" hbfd 20) (by simp [checkLengths]) hospfChecks hbfdChecks
  have hslow : (9007199254740993 : ℤ) < floatLimit := by decide +kernel
  obtain ⟨document, hdocument⟩ := exists_buildRepeatedEvidence hlogs (by rw [hdetection]; decide)
    (by rw [hdetection, hlost]; exact ⟨hslow, lt_trans (by decide) floatLimit_large⟩)
    (by rw [hbfdDetection, hbfdLost]; exact ⟨lt_trans (by decide) floatLimit_large,
      lt_trans (by decide) floatLimit_large⟩)
  obtain ⟨ospfFigures, bfdFigures, hospfFigures, -, hcompare⟩ :=
    (buildRepeatedEvidence_ok_iff hlogs document).mp hdocument
  obtain ⟨p50Reduction, p95Reduction, rfl⟩ := compareProfiles_document hcompare
  refine ⟨ospfFigures, bfdFigures, p50Reduction, p95Reduction, hdocument, ?_⟩
  obtain ⟨hcount, -, hleast, hmost⟩ := hlogs.length
  obtain ⟨sha256, hchecks, -⟩ := hlogs.oneConfiguration
  obtain ⟨hsummary, -⟩ := profileSummary_ok hlogs.ospfParsed hleast hmost hchecks hospfFigures
  rw [List.map_replicate, List.map_replicate, hdetection, List.length_replicate] at hsummary
  rw [Except.ok.inj (hsummary.symm.trans slow_summary)]
  exact WithTop.coe_lt_coe.mpr (by norm_num)

end TelconetSentinel
