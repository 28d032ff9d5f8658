import Mathlib.Data.List.DropRight
import TelconetSentinel.Library.FixedWidthText
import TelconetSentinel.Library.GeneralFormat

namespace TelconetSentinel.FixedPointText

open BinaryFloats FixedWidthText GeneralFormat

def scaledText (places units : ℕ) : List Char :=
  Nat.toDigits 10 (units / 10 ^ places) ++ '.' :: numeral Nat.digitChar 10 places (units % 10 ^ places)

def unitsOf (places : ℕ) (x : ℚ) : ℕ := (roundHalfEven (|x| * 10 ^ places)).toNat

/-- `f"{x:.nf}"` of a finite float, for `n` places of which there is one at least. -/
def fixed (places : ℕ) (x : ℚ) : List Char := (if x < 0 then ['-'] else []) ++
    scaledText places (unitsOf places x)

def rstrip (c : Char) (text : List Char) : List Char := text.rdropWhile (· = c)

def digitsValue (digits : List Char) : ℚ := (Nat.ofDigitChars 10 digits 0 : ℕ)

def readUnsigned (text : List Char) : Option ℚ :=
  let whole := text.takeWhile Char.isDigit
  if whole = [] then none
  else
    match text.dropWhile Char.isDigit with
    | [] => some (digitsValue whole)
    | '.' :: fraction =>
      if fraction ≠ [] ∧ fraction.all Char.isDigit then
        some (digitsValue (whole ++ fraction) / 10 ^ fraction.length)
      else none
    | _ => none

def readDecimal : List Char → Option ℚ
  | '-' :: text => (readUnsigned text).map Neg.neg
  | text => readUnsigned text

section Digits

variable {places units : ℕ}

theorem numeral_digits (places units : ℕ) : ∀ c ∈ numeral Nat.digitChar 10 places units,
    c.isDigit = true := by
  induction places generalizing units with
  | zero => exact fun _ h => absurd h List.not_mem_nil
  | succ places ih =>
    intro c hc
    rcases List.mem_append.mp hc with hc | hc
    · exact ih _ c hc
    · obtain rfl := List.mem_singleton.mp hc
      exact Nat.isDigit_digitChar.trans (decide_eq_true (Nat.mod_lt _ (by norm_num)))

theorem toDigits_digits (n : ℕ) : ∀ c ∈ Nat.toDigits 10 n, c.isDigit = true := fun _ hc =>
  Nat.isDigit_of_mem_toDigits (by decide) (by decide) hc

theorem ofDigitChars_numeral (h : units < 10 ^ places) (start : ℕ) :
    Nat.ofDigitChars 10 (numeral Nat.digitChar 10 places units) start = 10 ^ places * start + units := by
  induction places generalizing units with
  | zero =>
    have hzero : units = 0 := by simpa using h
    simp [numeral, hzero]
  | succ places ih =>
    have hdiv : units / 10 < 10 ^ places := by
      rw [pow_succ] at h
      exact Nat.div_lt_of_lt_mul (by rwa [mul_comm])
    rw [numeral, Nat.ofDigitChars_append, ih hdiv,
      Nat.ofDigitChars_cons_digitChar_of_lt_ten (Nat.mod_lt _ (by norm_num)), Nat.ofDigitChars_nil, pow_succ]
    have hunits := Nat.div_add_mod units 10
    linarith only [hunits]

theorem ofDigitChars_scaled (places units : ℕ) : Nat.ofDigitChars 10 (Nat.toDigits 10 (units / 10 ^ places) ++
    numeral Nat.digitChar 10 places (units % 10 ^ places)) 0 = units := by
  have hmod : units % 10 ^ places < 10 ^ places := Nat.mod_lt _ (by positivity)
  rw [Nat.ofDigitChars_append, Nat.ofDigitChars_ten_toDigits, ofDigitChars_numeral hmod]
  exact Nat.div_add_mod units (10 ^ places)

end Digits

section Stripping

theorem rstrip_append_cons {c d : Char} (h : d ≠ c) (before after : List Char) :
    rstrip c (before ++ d :: after) = before ++ d :: rstrip c after := by
  induction after using List.reverseRecOn with
  | nil =>
    rw [rstrip, List.rdropWhile_concat_neg _ _ _ (by simpa using h)]
    rfl
  | append_singleton after e ih =>
    have hsplit : before ++ d :: (after ++ [e]) = (before ++ d :: after) ++ [e] := by simp
    by_cases he : e = c
    · rw [hsplit, rstrip, List.rdropWhile_concat_pos _ _ _ (by simpa using he), ← rstrip, ih, rstrip, rstrip,
        List.rdropWhile_concat_pos _ _ _ (by simpa using he)]
    · rw [hsplit, rstrip, List.rdropWhile_concat_neg _ _ _ (by simpa using he), rstrip,
        List.rdropWhile_concat_neg _ _ _ (by simpa using he), ← hsplit]

theorem exists_rstrip (c : Char) (text : List Char) : ∃ n, text = rstrip c text ++ List.replicate n c := by
  refine ⟨(text.rtakeWhile (· = c)).length, ?_⟩
  have hall : text.rtakeWhile (· = c) = List.replicate (text.rtakeWhile (· = c)).length c :=
    List.eq_replicate_of_mem fun d hd => by simpa using List.mem_rtakeWhile_imp hd
  rw [← hall, rstrip, List.rdropWhile_append_rtakeWhile]

theorem rstrip_eq_self {c : Char} {text : List Char} (h : c ∉ text) (before : List Char) (hne : text ≠ []) :
    rstrip c (before ++ text) = before ++ text := by
  obtain ⟨front, d, rfl⟩ := (List.eq_nil_or_concat' text).resolve_left hne
  have hd : d ≠ c := by
    rintro rfl
    exact h (List.mem_append_right _ List.mem_cons_self)
  rw [rstrip, ← List.append_assoc, List.rdropWhile_concat_neg _ _ _ (by simpa using hd)]

theorem rstrip_append {c d : Char} {text : List Char} (hd : d ∈ text) (h : d ≠ c) (before : List Char) :
    rstrip c (before ++ text) = before ++ rstrip c text := by
  obtain ⟨front, back, rfl⟩ := List.append_of_mem hd
  rw [rstrip_append_cons h, ← List.append_assoc, rstrip_append_cons h, List.append_assoc]

theorem mem_of_mem_rstrip {c d : Char} {text : List Char} (h : d ∈ rstrip c text) : d ∈ text :=
  (List.rdropWhile_prefix _ _).subset h

end Stripping

section Reading

variable {whole fraction : List Char}

theorem readUnsigned_whole (hne : whole ≠ []) (hwhole : ∀ c ∈ whole, c.isDigit = true) :
    readUnsigned whole = some (digitsValue whole) := by
  have htake : whole.takeWhile Char.isDigit = whole := List.takeWhile_eq_self_iff.mpr hwhole
  have hdrop : whole.dropWhile Char.isDigit = [] := List.dropWhile_eq_nil_iff.mpr hwhole
  rw [readUnsigned, htake, hdrop]
  simp only [if_neg hne]

theorem readUnsigned_point (hne : whole ≠ []) (hwhole : ∀ c ∈ whole, c.isDigit = true)
    (hfractionNe : fraction ≠ []) (hfraction : ∀ c ∈ fraction, c.isDigit = true) :
    readUnsigned (whole ++ '.' :: fraction) =
      some (digitsValue (whole ++ fraction) / 10 ^ fraction.length) := by
  have hpoint : ¬ '.'.isDigit = true := by decide
  have htake : (whole ++ '.' :: fraction).takeWhile Char.isDigit = whole := by
    rw [List.takeWhile_append_of_pos hwhole, List.takeWhile_cons_of_neg hpoint, List.append_nil]
  have hdrop : (whole ++ '.' :: fraction).dropWhile Char.isDigit = '.' :: fraction := by
    rw [List.dropWhile_append_of_pos hwhole, List.dropWhile_cons_of_neg hpoint]
  rw [readUnsigned, htake, hdrop]
  simp only [if_neg hne, if_pos (⟨hfractionNe, List.all_eq_true.mpr hfraction⟩ :
    fraction ≠ [] ∧ fraction.all Char.isDigit = true)]

theorem digitsValue_zeros (whole fraction : List Char) (zeros : ℕ) :
    digitsValue (whole ++ (fraction ++ List.replicate zeros '0')) / 10 ^
      (fraction ++ List.replicate zeros '0').length =
      digitsValue (whole ++ fraction) / 10 ^ fraction.length := by
  rw [digitsValue, digitsValue, ← List.append_assoc, Nat.ofDigitChars_append, Nat.ofDigitChars_replicate_zero,
    List.length_append, List.length_replicate, pow_add]
  push_cast
  rw [mul_comm (10 ^ fraction.length : ℚ), mul_div_mul_left _ _ (by positivity)]

/-- Trailing zeros and a point at the end do not change the number. -/
theorem readUnsigned_stripped (places units : ℕ) :
    readUnsigned (rstrip '.' (rstrip '0' (scaledText places units))) = some ((units : ℚ) / 10 ^ places) := by
  have hwhole := toDigits_digits (units / 10 ^ places)
  have hne : Nat.toDigits 10 (units / 10 ^ places) ≠ [] := Nat.toDigits_ne_nil
  have hvalue := ofDigitChars_scaled places units
  have hfraction := numeral_digits places (units % 10 ^ places)
  have hlength := length_numeral Nat.digitChar 10 places (units % 10 ^ places)
  rw [scaledText, rstrip_append_cons (by decide : '.' ≠ '0')]
  obtain ⟨zeros, hzeros⟩ := exists_rstrip '0' (numeral Nat.digitChar 10 places (units % 10 ^ places))
  generalize rstrip '0' (numeral Nat.digitChar 10 places (units % 10 ^ places)) = fraction at hzeros ⊢
  generalize Nat.toDigits 10 (units / 10 ^ places) = whole at hwhole hne hvalue ⊢
  rw [hzeros] at hvalue hfraction hlength
  have hunits : (units : ℚ) / 10 ^ places = digitsValue (whole ++ fraction) / 10 ^ fraction.length := by
    rw [← digitsValue_zeros whole fraction zeros, digitsValue, hvalue, hlength]
  have hdigits : ∀ c ∈ fraction, c.isDigit = true := fun c hc => hfraction c (List.mem_append_left _ hc)
  have hpoint : ∀ {text : List Char}, (∀ c ∈ text, c.isDigit = true) → '.' ∉ text := fun h hmem =>
    absurd (h _ hmem) (by decide)
  by_cases hnil : fraction = []
  · subst hnil
    have hstrip : rstrip '.' (whole ++ ['.']) = whole := by
      rw [rstrip, List.rdropWhile_concat_pos _ _ _ (by decide)]
      exact rstrip_eq_self (hpoint hwhole) [] hne
    rw [hstrip, readUnsigned_whole hne hwhole, hunits]
    simp
  · have hstrip : rstrip '.' (whole ++ '.' :: fraction) = whole ++ '.' :: fraction := by
      rw [← List.singleton_append, ← List.append_assoc]
      exact rstrip_eq_self (hpoint hdigits) _ hnil
    rw [hstrip, readUnsigned_point hne hwhole hnil hdigits, hunits]

end Reading

def shortText (places : ℕ) (x : ℚ) : List Char := rstrip '.' (rstrip '0' (fixed places x))

theorem scaledText_chars (places units : ℕ) : ∀ c ∈ scaledText places units, c.isDigit = true ∨ c = '.' := by
  intro c hc
  rcases List.mem_append.mp hc with hc | hc
  · exact Or.inl (toDigits_digits _ c hc)
  · rcases List.mem_cons.mp hc with rfl | hc
    · exact Or.inr rfl
    · exact Or.inl (numeral_digits _ _ c hc)

theorem shortText_eq (places : ℕ) (x : ℚ) : shortText places x =
    (if x < 0 then ['-'] else []) ++ rstrip '.' (rstrip '0' (scaledText places (unitsOf places x))) := by
  have hpoint : '.' ∈ scaledText places (unitsOf places x) := List.mem_append_right _ List.mem_cons_self
  obtain ⟨d, whole, hwhole⟩ :=
    List.exists_cons_of_ne_nil (Nat.toDigits_ne_nil (b := 10) (n := unitsOf places x / 10 ^ places))
  have hd : d.isDigit = true := toDigits_digits _ d (hwhole ▸ List.mem_cons_self)
  have hmem : d ∈ rstrip '0' (scaledText places (unitsOf places x)) := by
    rw [scaledText, rstrip_append_cons (by decide), hwhole]
    exact List.mem_cons_self
  have hne : d ≠ '.' := by
    rintro rfl
    exact absurd hd (by decide)
  rw [shortText, fixed, rstrip_append hpoint (by decide), rstrip_append hmem hne]

theorem readDecimal_unsigned {text : List Char} (h : '-' ∉ text) : readDecimal text = readUnsigned text := by
  unfold readDecimal
  split
  · exact absurd List.mem_cons_self h
  · rfl

theorem readDecimal_shortText (places : ℕ) (x : ℚ) : readDecimal (shortText places x) =
    some (if x < 0 then -(unitsOf places x / 10 ^ places : ℚ) else unitsOf places x / 10 ^ places) := by
  have hread := readUnsigned_stripped places (unitsOf places x)
  have hchars := scaledText_chars places (unitsOf places x)
  rw [shortText_eq]
  split_ifs with hneg
  · rw [List.singleton_append, readDecimal, hread]
    rfl
  · rw [List.nil_append, readDecimal_unsigned, hread]
    intro hmem
    rcases hchars _ (mem_of_mem_rstrip (mem_of_mem_rstrip hmem)) with hdigit | hpoint
    · exact absurd hdigit (by decide)
    · cases hpoint

theorem isNumberChar_shortText (places : ℕ) (x : ℚ) : ∀ c ∈ shortText places x, isNumberChar c = true := by
  intro c hc
  rcases List.mem_append.mp (mem_of_mem_rstrip (mem_of_mem_rstrip hc)) with hsign | hc
  · split_ifs at hsign
    · rw [List.mem_singleton.mp hsign]
      rfl
    · exact absurd hsign List.not_mem_nil
  · rcases scaledText_chars _ _ c hc with hdigit | rfl
    · exact isNumberChar_of_digit hdigit
    · rfl

theorem shortText_ne_nil (places : ℕ) (x : ℚ) : shortText places x ≠ [] := by
  intro hnil
  have hread := readDecimal_shortText places x
  rw [hnil] at hread
  cases hread

end TelconetSentinel.FixedPointText
