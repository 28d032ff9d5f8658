import TelconetSentinel.Library.FixedPointText

namespace TelconetSentinel.NumberTexts

open BinaryFloats DocumentValues FixedPointText GeneralFormat

def readDigits (text : List Char) : Option ℕ :=
  if text ≠ [] ∧ text.all Char.isDigit then some (Nat.ofDigitChars 10 text 0) else none

def readExponent : List Char → Option ℤ
  | '+' :: digits => (readDigits digits).map Int.ofNat
  | '-' :: digits => (readDigits digits).map Int.negOfNat
  | _ => none

def readScientific (text : List Char) : Option ℚ :=
  match text.dropWhile (· ≠ 'e') with
  | [] => readUnsigned text
  | _ :: exponent => do
    let mantissa ← readUnsigned (text.takeWhile (· ≠ 'e'))
    let power ← readExponent exponent
    return mantissa * 10 ^ power

def readNumber : List Char → Option ℚ
  | '-' :: text => (readScientific text).map Neg.neg
  | text => readScientific text

section Parts

variable {whole fraction text : List Char} {q : ℚ}

theorem readDigits_some (hne : text ≠ []) (h : ∀ c ∈ text, c.isDigit = true) :
    readDigits text = some (Nat.ofDigitChars 10 text 0) :=
  if_pos ⟨hne, List.all_eq_true.mpr h⟩

theorem readDigits_toDigits (n : ℕ) : readDigits (Nat.toDigits 10 n) = some n := by
  rw [readDigits_some Nat.toDigits_ne_nil (toDigits_digits n), Nat.ofDigitChars_ten_toDigits]

theorem readExponent_text (exponent : ℤ) : readExponent (exponentText exponent) = some exponent := by
  have hread : readDigits (if (Nat.toDigits 10 exponent.natAbs).length < 2 then
      '0' :: Nat.toDigits 10 exponent.natAbs else Nat.toDigits 10 exponent.natAbs) =
        some exponent.natAbs := by
    split_ifs
    · have hdigits : ∀ c ∈ '0' :: Nat.toDigits 10 exponent.natAbs, c.isDigit = true :=
        List.forall_mem_cons.mpr ⟨rfl, toDigits_digits _⟩
      rw [readDigits_some (List.cons_ne_nil _ _) hdigits, ← List.singleton_append, Nat.ofDigitChars_append]
      exact congrArg some Nat.ofDigitChars_ten_toDigits
    · exact readDigits_toDigits _
  unfold exponentText
  dsimp only
  generalize (if (Nat.toDigits 10 exponent.natAbs).length < 2 then '0' :: Nat.toDigits 10 exponent.natAbs
    else Nat.toDigits 10 exponent.natAbs) = digits at hread ⊢
  split_ifs with hneg
  · rw [readExponent, hread, Option.map_some, Int.negOfNat_eq, Int.ofNat_eq_natCast, Option.some.injEq]
    omega
  · rw [readExponent, hread, Option.map_some, Int.ofNat_eq_natCast, Option.some.injEq]
    omega

theorem readScientific_plain (h : ∀ c ∈ text, c ≠ 'e') : readScientific text = readUnsigned text := by
  have hdrop : text.dropWhile (· ≠ 'e') = [] := List.dropWhile_eq_nil_iff.mpr fun c hc =>
    decide_eq_true (h c hc)
  rw [readScientific, hdrop]

theorem readScientific_exponent (h : ∀ c ∈ text, c ≠ 'e') (exponent : ℤ) :
    readScientific (text ++ 'e' :: exponentText exponent) = (readUnsigned text).map (· * 10 ^ exponent) := by
  have hmantissa : ∀ c ∈ text, decide (c ≠ 'e') = true := fun c hc => decide_eq_true (h c hc)
  have hdrop : (text ++ 'e' :: exponentText exponent).dropWhile (· ≠ 'e') = 'e' :: exponentText exponent := by
    rw [List.dropWhile_append_of_pos hmantissa, List.dropWhile_cons_of_neg (by decide)]
  have htake : (text ++ 'e' :: exponentText exponent).takeWhile (· ≠ 'e') = text := by
    rw [List.takeWhile_append_of_pos hmantissa, List.takeWhile_cons_of_neg (by decide), List.append_nil]
  rw [readScientific, hdrop, htake]
  cases hread : readUnsigned text with
  | none => rfl
  | some q => simp [readExponent_text]

theorem readScientific_minus (text : List Char) : readScientific ('-' :: text) = none := by
  have hunsigned : ∀ rest, readUnsigned ('-' :: rest) = none := fun rest => by
    rw [readUnsigned, List.takeWhile_cons_of_neg (by decide)]
    rfl
  have htake : ('-' :: text).takeWhile (· ≠ 'e') = '-' :: text.takeWhile (· ≠ 'e') :=
    List.takeWhile_cons_of_pos (by decide)
  rw [readScientific, htake]
  split
  · exact hunsigned text
  · rw [hunsigned]
    rfl

theorem readNumber_unsigned (h : readScientific text = some q) : readNumber text = some q := by
  unfold readNumber
  split
  · rw [readScientific_minus] at h
    cases h
  · exact h

theorem withFraction_chars (hwhole : ∀ c ∈ whole, c.isDigit = true)
    (hfraction : ∀ c ∈ fraction, c.isDigit = true) :
    ∀ c ∈ withFraction whole (stripZeros fraction), c ≠ 'e' := by
  have hdigit : ∀ c, c.isDigit = true → c ≠ 'e' := by
    rintro c hc rfl
    exact absurd hc (by decide)
  unfold withFraction
  split_ifs
  · exact fun c hc => hdigit c (hwhole c hc)
  · refine List.forall_mem_append.mpr ⟨fun c hc => hdigit c (hwhole c hc),
      List.forall_mem_cons.mpr ⟨by decide, ?_⟩⟩
    exact fun c hc => hdigit c (hfraction c (mem_of_mem_stripZeros hc))

theorem readUnsigned_withFraction (hne : whole ≠ []) (hwhole : ∀ c ∈ whole, c.isDigit = true)
    (hfraction : ∀ c ∈ fraction, c.isDigit = true) :
    readUnsigned (withFraction whole (stripZeros fraction)) =
      some (digitsValue (whole ++ fraction) / 10 ^ fraction.length) := by
  have hstrip : stripZeros fraction = rstrip '0' fraction := rfl
  obtain ⟨zeros, hzeros⟩ := exists_rstrip '0' fraction
  have hdigits : ∀ c ∈ stripZeros fraction, c.isDigit = true :=
    fun c hc => hfraction c (mem_of_mem_stripZeros hc)
  rw [← hstrip] at hzeros
  generalize stripZeros fraction = stripped at hzeros hdigits ⊢
  rw [hzeros, digitsValue_zeros]
  unfold withFraction
  split_ifs with hnil
  · subst hnil
    rw [readUnsigned_whole hne hwhole]
    simp
  · exact readUnsigned_point hne hwhole hnil hdigits

theorem stripZeros_append {digits : List Char} (h : ∃ c ∈ digits, c ≠ '0') (before : List Char) :
    stripZeros (before ++ digits) = before ++ stripZeros digits := by
  obtain ⟨c, hmem, hc⟩ := h
  exact rstrip_append hmem hc before

end Parts

section Digits

variable {precision : ℕ} {x : ℚ}

theorem leading_bounds (hprecision : 1 ≤ precision) (hx : 0 < x) :
    10 ^ (precision - 1) ≤ (leading precision x).1 ∧ (leading precision x).1 < 10 ^ precision := by
  have hplace := tens_pos (lastDigit precision x)
  have hpower : ∀ {k : ℤ} {n : ℕ}, k = lastDigit precision x + n →
      (10 : ℚ) ^ k = ((10 ^ n : ℤ) : ℚ) * 10 ^ lastDigit precision x := by
    rintro k n rfl
    rw [zpow_add₀ (by norm_num), zpow_natCast, mul_comm]
    push_cast
    rfl
  have hlow : 10 ^ (precision - 1) ≤ roundHalfEven (x / 10 ^ lastDigit precision x) := by
    have hlog : (10 : ℚ) ^ Int.log 10 x ≤ x := by
      exact_mod_cast Int.zpow_log_le_self (b := 10) (by norm_num) hx
    have hsplit : Int.log 10 x = lastDigit precision x + ((precision - 1 : ℕ) : ℤ) := by
      unfold lastDigit
      omega
    rw [hpower hsplit] at hlog
    exact le_roundHalfEven ((le_div_iff₀ hplace).mpr hlog)
  have hhigh : roundHalfEven (x / 10 ^ lastDigit precision x) ≤ 10 ^ precision := by
    have hlog : x ≤ (10 : ℚ) ^ (Int.log 10 x + 1) := by
      exact_mod_cast (Int.lt_zpow_succ_log_self (b := 10) (by norm_num) x).le
    have hsplit : Int.log 10 x + 1 = lastDigit precision x + (precision : ℤ) := by
      unfold lastDigit
      omega
    rw [hpower hsplit] at hlog
    exact roundHalfEven_le ((div_le_iff₀ hplace).mpr hlog)
  unfold leading
  dsimp only
  split_ifs with hcarry
  · exact ⟨le_rfl, pow_lt_pow_right₀ (by norm_num) (by omega)⟩
  · exact ⟨hlow, lt_of_le_of_ne hhigh hcarry⟩

theorem length_leading {n : ℕ} (hprecision : 1 ≤ precision) (hlow : (10 : ℤ) ^ (precision - 1) ≤ n)
    (hhigh : (n : ℤ) < 10 ^ precision) : (Nat.toDigits 10 n).length = precision := by
  refine le_antisymm ((Nat.length_toDigits_le_iff (by norm_num) hprecision).mpr (by exact_mod_cast hhigh)) ?_
  rcases hprecision.eq_or_lt with rfl | hlarge
  · exact Nat.length_toDigits_pos
  · by_contra hshort
    have hfew : (Nat.toDigits 10 n).length ≤ precision - 1 := by omega
    rw [Nat.length_toDigits_le_iff (by norm_num) (by omega)] at hfew
    have hlow' : 10 ^ (precision - 1) ≤ n := by exact_mod_cast hlow
    omega

/-- The text of a positive number is that of the number rounded to its leading digits, in each of the three
layouts. -/
theorem readScientific_positiveText (hprecision : 1 ≤ precision) (hx : 0 < x) :
    readScientific (positiveText precision x) = some (significant precision x) := by
  obtain ⟨hlow, hhigh⟩ := leading_bounds hprecision hx
  rw [← leading_value hprecision x]
  simp only [positiveText]
  generalize leading precision x = result at hlow hhigh ⊢
  obtain ⟨number, exponent⟩ := result
  dsimp only at hlow hhigh ⊢
  have hpositive : (0 : ℤ) < number := lt_of_lt_of_le (by positivity) hlow
  obtain ⟨n, rfl⟩ := Int.eq_ofNat_of_zero_le hpositive.le
  have hlength := length_leading hprecision hlow hhigh
  have hdigits := toDigits_digits n
  have hvalue : digitsValue (Nat.toDigits 10 n) = n := congrArg Nat.cast Nat.ofDigitChars_ten_toDigits
  have hnonzero : ∃ c ∈ Nat.toDigits 10 n, c ≠ '0' := by
    by_contra hzeros
    push Not at hzeros
    have hn : Nat.ofDigitChars 10 (Nat.toDigits 10 n) 0 = n := Nat.ofDigitChars_ten_toDigits
    rw [List.eq_replicate_of_mem hzeros, Nat.ofDigitChars_replicate_zero] at hn
    omega
  rw [Int.toNat_natCast, Int.cast_natCast, ← hvalue]
  generalize Nat.toDigits 10 n = digits at hlength hdigits hnonzero ⊢
  have htake : ∀ k, ∀ c ∈ digits.take k, c.isDigit = true := fun k c hc => hdigits c (List.mem_of_mem_take hc)
  have hdrop : ∀ k, ∀ c ∈ digits.drop k, c.isDigit = true := fun k c hc => hdigits c (List.mem_of_mem_drop hc)
  have hne : ∀ k, digits.take (k + 1) ≠ [] := fun k hnil => by
    rw [List.take_eq_nil_iff] at hnil
    rcases hnil with hk | rfl
    · omega
    · rw [List.length_nil] at hlength
      omega
  split_ifs with hscientific hsmall
  · rw [readScientific_exponent (withFraction_chars (htake 1) (hdrop 1)),
      readUnsigned_withFraction (hne 0) (htake 1) (hdrop 1), Option.map_some, List.take_append_drop,
      List.length_drop, hlength, div_mul_eq_mul_div, mul_div_assoc, ← zpow_natCast, ← zpow_sub₀ (by norm_num)]
    congr 3
    omega
  · have hzeros : ∀ c ∈ List.replicate (-exponent - 1).toNat '0' ++ digits, c.isDigit = true :=
      List.forall_mem_append.mpr ⟨fun c hc => List.eq_of_mem_replicate hc ▸ rfl, hdigits⟩
    have hzero : ∀ c ∈ ['0'], c.isDigit = true := List.forall_mem_singleton.mpr rfl
    have hleading : digitsValue (['0'] ++ (List.replicate (-exponent - 1).toNat '0' ++ digits)) =
        digitsValue digits := by
      simp only [digitsValue, Nat.ofDigitChars_append, Nat.ofDigitChars_replicate_zero]
      rfl
    rw [← stripZeros_append hnonzero, readScientific_plain (withFraction_chars hzero hzeros),
      readUnsigned_withFraction (List.cons_ne_nil _ _) hzero hzeros, hleading, List.length_append,
      List.length_replicate, hlength, div_eq_mul_inv, ← zpow_natCast, ← zpow_neg]
    congr 3
    omega
  · rw [readScientific_plain (withFraction_chars (htake _) (hdrop _)),
      readUnsigned_withFraction (hne _) (htake _) (hdrop _), List.take_append_drop, List.length_drop, hlength,
      div_eq_mul_inv, ← zpow_natCast, ← zpow_neg]
    congr 3
    omega

end Digits

theorem readNumber_general (x : Float64) : readNumber (general x).toList = generalNumber x := by
  cases x with
  | nan => decide
  | infinity negative => cases negative <;> decide
  | finite x =>
    simp only [general, generalNumber]
    split_ifs with hzero hneg
    · decide +kernel
    · rw [String.toList_ofList, readNumber, readScientific_positiveText (by norm_num) (neg_pos.mpr hneg)]
      rfl
    · have hpos : 0 < x := lt_of_le_of_ne (not_lt.mp hneg) (Ne.symm hzero)
      rw [String.toList_ofList]
      exact readNumber_unsigned (readScientific_positiveText (by norm_num) hpos)

theorem readNumber_integer (n : ℤ) : readNumber (toString n).toList = some (n : ℚ) := by
  have hnatural : ∀ m : ℕ, readScientific (toString m).toList = some (m : ℚ) := by
    intro m
    have hchars : (toString m).toList = Nat.toDigits 10 m := Nat.toList_repr
    have hplain : ∀ c ∈ Nat.toDigits 10 m, c ≠ 'e' := by
      rintro c hc rfl
      exact absurd (toDigits_digits m _ hc) (by decide)
    rw [hchars, readScientific_plain hplain, readUnsigned_whole Nat.toDigits_ne_nil (toDigits_digits m),
      digitsValue, Nat.ofDigitChars_ten_toDigits]
  cases n with
  | ofNat m => exact readNumber_unsigned (hnatural m)
  | negSucc m =>
    have hchars : (toString (Int.negSucc m)).toList = '-' :: (toString (m + 1)).toList := by
      have htext : toString (Int.negSucc m) = "-" ++ toString (m + 1) := rfl
      rw [htext, String.toList_append]
      rfl
    rw [hchars, readNumber, hnatural, Int.cast_negSucc]
    rfl

end TelconetSentinel.NumberTexts
