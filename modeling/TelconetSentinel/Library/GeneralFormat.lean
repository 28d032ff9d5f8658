import TelconetSentinel.Library.BinaryFloats

namespace TelconetSentinel.GeneralFormat

open BinaryFloats DocumentValues

def lastDigit (precision : ℕ) (x : ℚ) : ℤ := Int.log 10 x + 1 - precision

def significant (precision : ℕ) (x : ℚ) : ℚ :=
  roundHalfEven (x / 10 ^ lastDigit precision x) * 10 ^ lastDigit precision x

/-- The leading digits as an integer of that many digits, with the exponent of the first. -/
def leading (precision : ℕ) (x : ℚ) : ℤ × ℤ :=
  let digits := roundHalfEven (x / 10 ^ lastDigit precision x)
  if digits = 10 ^ precision then (10 ^ (precision - 1), Int.log 10 x + 1) else (digits, Int.log 10 x)

def stripZeros (digits : List Char) : List Char := (digits.reverse.dropWhile (· = '0')).reverse

def withFraction (whole fraction : List Char) : List Char :=
  if fraction = [] then whole else whole ++ '.' :: fraction

def exponentText (exponent : ℤ) : List Char :=
  let digits := Nat.toDigits 10 exponent.natAbs
  (if exponent < 0 then '-' else '+') :: (if digits.length < 2 then '0' :: digits else digits)

def positiveText (precision : ℕ) (x : ℚ) : List Char :=
  let (number, exponent) := leading precision x
  let digits := Nat.toDigits 10 number.toNat
  if exponent < -4 ∨ precision ≤ exponent then
    withFraction (digits.take 1) (stripZeros (digits.drop 1)) ++ 'e' :: exponentText exponent
  else if exponent < 0 then
    withFraction ['0'] (List.replicate (-exponent - 1).toNat '0' ++ stripZeros digits)
  else withFraction (digits.take (exponent.toNat + 1)) (stripZeros (digits.drop (exponent.toNat + 1)))

/-- `format(x, "g")`, with zeros of either sign as 0. -/
def general : Float64 → String
  | .nan => "nan"
  | .infinity negative => if negative then "-inf" else "inf"
  | .finite x =>
    if x = 0 then "0"
    else if x < 0 then String.ofList ('-' :: positiveText 6 (-x))
    else String.ofList (positiveText 6 x)

def generalNumber : Float64 → Option ℚ
  | .finite x => some (if x = 0 then 0 else if x < 0 then -significant 6 (-x) else significant 6 x)
  | _ => none

variable {precision : ℕ} {x : ℚ}

theorem tens_pos (k : ℤ) : (0 : ℚ) < 10 ^ k := zpow_pos (by norm_num) k

theorem significant_nonneg (hx : 0 ≤ x) : 0 ≤ significant precision x := by
  have hquotient : ((0 : ℤ) : ℚ) ≤ x / 10 ^ lastDigit precision x := by
    simpa using div_nonneg hx (tens_pos _).le
  have hrounded : (0 : ℚ) ≤ roundHalfEven (x / 10 ^ lastDigit precision x) := by
    exact_mod_cast le_roundHalfEven hquotient
  exact mul_nonneg hrounded (tens_pos _).le

/-- Rounding to leading digits does not pass a power of ten. -/
theorem significant_le_pow (hprecision : 1 ≤ precision) (hx : 0 < x) {k : ℤ} (h : x ≤ 10 ^ k) :
    significant precision x ≤ 10 ^ k := by
  have hlog : Int.log 10 x ≤ k := by
    have hpower : Int.log 10 ((10 : ℚ) ^ k) = k := Int.log_zpow (by norm_num : 1 < 10) k
    exact hpower ▸ Int.log_mono_right hx h
  have hplace : lastDigit precision x ≤ k := by
    unfold lastDigit
    omega
  have hpow : (10 : ℚ) ^ k = ((10 ^ (k - lastDigit precision x).toNat : ℤ) : ℚ) * 10 ^
      lastDigit precision x := by
    have hexponent : k = ((k - lastDigit precision x).toNat : ℤ) + lastDigit precision x := by omega
    rw [Int.cast_pow, Int.cast_ofNat, ← zpow_natCast, ← zpow_add₀ (by norm_num), ← hexponent]
  rw [hpow] at h ⊢
  have hrounded : roundHalfEven (x / 10 ^ lastDigit precision x) ≤ 10 ^ (k - lastDigit precision x).toNat :=
    roundHalfEven_le ((div_le_iff₀ (tens_pos _)).mpr h)
  exact mul_le_mul_of_nonneg_right (by exact_mod_cast hrounded) (tens_pos _).le

theorem leading_value (hprecision : 1 ≤ precision) (x : ℚ) :
    ((leading precision x).1 : ℚ) * 10 ^ ((leading precision x).2 + 1 - precision) =
      significant precision x := by
  unfold leading significant
  dsimp only
  split_ifs with hcarry
  · have hexponent : Int.log 10 x + 1 + 1 - precision = lastDigit precision x + 1 := by
      unfold lastDigit
      omega
    have hten : (10 : ℚ) ^ precision = 10 ^ (precision - 1) * 10 := by
      rw [← pow_succ, Nat.sub_add_cancel hprecision]
    rw [hcarry, hexponent, zpow_add_one₀ (by norm_num)]
    push_cast
    rw [hten]
    ring
  · rfl

theorem generalNumber_of_nonneg (hx : 0 ≤ x) : ∃ q, generalNumber (.finite x) = some q ∧ 0 ≤ q ∧
    (x ≤ 1 → q ≤ 1) := by
  rcases hx.eq_or_lt with rfl | hpos
  · exact ⟨0, rfl, le_rfl, fun _ => zero_le_one⟩
  · refine ⟨significant 6 x, by simp [generalNumber, hpos.ne', hx.not_gt], significant_nonneg hx,
      fun hone => ?_⟩
    simpa using significant_le_pow (k := 0) (by norm_num : 1 ≤ 6) hpos (by simpa using hone)

section Characters

def isNumberChar (c : Char) : Bool := c.isAlphanum || c == '.' || c == '-' || c == '+'

theorem isNumberChar_of_digit {c : Char} (h : c.isDigit = true) : isNumberChar c = true := by
  simp [isNumberChar, Char.isAlphanum, h]

theorem isNumberChar_toDigits (n : ℕ) : ∀ c ∈ Nat.toDigits 10 n, isNumberChar c = true := fun _ hc =>
  isNumberChar_of_digit (Nat.isDigit_of_mem_toDigits (by decide) (by decide) hc)

theorem mem_of_mem_stripZeros {digits : List Char} {c : Char} (h : c ∈ stripZeros digits) : c ∈ digits := by
  have hmem := (List.dropWhile_sublist _).subset (List.mem_reverse.mp h)
  exact List.mem_reverse.mp hmem

theorem isNumberChar_withFraction {whole fraction : List Char} (hwhole : ∀ c ∈ whole, isNumberChar c = true)
    (hfraction : ∀ c ∈ fraction, isNumberChar c = true) : ∀ c ∈ withFraction whole fraction,
      isNumberChar c = true := by
  unfold withFraction
  split_ifs
  · exact hwhole
  · exact List.forall_mem_append.mpr ⟨hwhole, List.forall_mem_cons.mpr ⟨rfl, hfraction⟩⟩

theorem isNumberChar_exponentText (exponent : ℤ) : ∀ c ∈ exponentText exponent, isNumberChar c = true := by
  have hdigits := isNumberChar_toDigits exponent.natAbs
  unfold exponentText
  dsimp only
  refine List.forall_mem_cons.mpr ⟨?_, ?_⟩
  · split_ifs <;> rfl
  · split_ifs
    · exact List.forall_mem_cons.mpr ⟨rfl, hdigits⟩
    · exact hdigits

theorem isNumberChar_positiveText (precision : ℕ) (x : ℚ) : ∀ c ∈ positiveText precision x,
    isNumberChar c = true := by
  have hdigits := isNumberChar_toDigits (leading precision x).1.toNat
  simp only [positiveText]
  generalize Nat.toDigits 10 (leading precision x).1.toNat = digits at hdigits ⊢
  have htake : ∀ n, ∀ c ∈ digits.take n, isNumberChar c = true :=
    fun n c hc => hdigits c (List.mem_of_mem_take hc)
  have hdrop : ∀ n, ∀ c ∈ stripZeros (digits.drop n), isNumberChar c = true := fun n c hc =>
    hdigits c (List.mem_of_mem_drop (mem_of_mem_stripZeros hc))
  split_ifs
  · refine List.forall_mem_append.mpr ⟨isNumberChar_withFraction (htake 1) (hdrop 1), ?_⟩
    exact List.forall_mem_cons.mpr ⟨rfl, isNumberChar_exponentText _⟩
  · refine isNumberChar_withFraction (List.forall_mem_singleton.mpr rfl) (List.forall_mem_append.mpr ⟨?_, ?_⟩)
    · intro c hc
      rw [List.eq_of_mem_replicate hc]
      rfl
    · exact fun c hc => hdigits c (mem_of_mem_stripZeros hc)
  · exact isNumberChar_withFraction (htake _) (hdrop _)

theorem isNumberChar_general (x : Float64) : ∀ c ∈ (general x).toList, isNumberChar c = true := by
  cases x with
  | nan => exact List.all_eq_true.mp (by decide)
  | infinity negative => cases negative <;> exact List.all_eq_true.mp (by decide)
  | finite x =>
    simp only [general]
    split_ifs
    · exact List.all_eq_true.mp (by decide)
    · rw [String.toList_ofList]
      exact List.forall_mem_cons.mpr ⟨rfl, isNumberChar_positiveText 6 (-x)⟩
    · rw [String.toList_ofList]
      exact isNumberChar_positiveText 6 x

theorem withFraction_ne_nil {whole : List Char} (h : whole ≠ []) (fraction : List Char) :
    withFraction whole fraction ≠ [] := by
  unfold withFraction
  split_ifs
  · exact h
  · simp

theorem positiveText_ne_nil (precision : ℕ) (x : ℚ) : positiveText precision x ≠ [] := by
  have hdigits : Nat.toDigits 10 (leading precision x).1.toNat ≠ [] := Nat.toDigits_ne_nil
  simp only [positiveText]
  generalize Nat.toDigits 10 (leading precision x).1.toNat = digits at hdigits ⊢
  have htake : ∀ n, digits.take (n + 1) ≠ [] := fun n hnil => hdigits (by simpa using hnil)
  split_ifs
  · simp
  · exact withFraction_ne_nil (List.cons_ne_nil _ _) _
  · exact withFraction_ne_nil (htake _) _

theorem general_ne_empty (x : Float64) : general x ≠ "" := by
  have hpositive : ∀ y, String.ofList (positiveText 6 y) ≠ "" := fun y hempty =>
    positiveText_ne_nil 6 y (by simpa using congrArg String.toList hempty)
  cases x with
  | nan => decide
  | infinity negative => cases negative <;> decide
  | finite x =>
    simp only [general]
    split_ifs
    · decide
    · intro hempty
      simpa using congrArg String.toList hempty
    · exact hpositive x

end Characters

example : general (.finite (39 / 10)) = "3.9" ∧ general (.finite (double (1 / 30000))) = "3.33333e-05" ∧
    general (.finite 12345678) = "1.23457e+07" := by decide +kernel

end TelconetSentinel.GeneralFormat
