import Mathlib.Data.List.GetD
import TelconetSentinel.Library.BinaryFloats
import TelconetSentinel.Library.FallibleLists
import TelconetSentinel.Library.OrderStatistics
import TelconetSentinel.Models

namespace TelconetSentinel

open BinaryFloats DocumentValues FallibleLists OrderStatistics

/-- A number of the evidence. Its floats are neither NaN nor negative infinity; top is infinity. -/
inductive Number
  | int (value : ℤ)
  | float (value : WithTop ℚ)
  deriving DecidableEq

def trueDivision (a b : ℤ) : Result ℚ :=
  if b = 0 then .error (.zeroDivisionError "division by zero")
  else if floatLimit ≤ |(a : ℚ) / b| then
    .error (.overflowError "integer division result too large for a float")
  else .ok (double (a / b))

def floatDivision (x y : Float64) : Result Float64 :=
  if y = .finite 0 then .error (.zeroDivisionError "float division by zero") else .ok (x.div y)

def floatOfInteger (n : ℤ) : Result ℚ :=
  if floatLimit ≤ |n| then .error (.overflowError "int too large to convert to float") else .ok (double n)

namespace Number

def extended : Number → WithTop ℚ
  | int n => (n : ℚ)
  | float x => x

def value : Number → Value
  | int n => .int n
  | float x => .float (.ofExtended x)

def isInteger : Number → Bool
  | int _ => true
  | float _ => false

def toFloat : Number → Result Float64
  | int n => (floatOfInteger n).map .finite
  | float x => .ok (.ofExtended x)

/-- `round(number, 2)` -/
def rounded : Number → Number
  | int n => int n
  | float x => float (x.map fun q => double (roundHalfEven (q * 100) / 100))

/-- The numbers that have a float. A float always has one. -/
def Fits : Number → Prop
  | int n => |n| < floatLimit
  | float _ => True

end Number

section Statistics

def minimum : List Number → Result Number
  | [] => .error (.valueError "min() arg is an empty sequence")
  | x :: xs => .ok (xs.foldl (fun least y => if y.extended < least.extended then y else least) x)

def maximum : List Number → Result Number
  | [] => .error (.valueError "max() arg is an empty sequence")
  | x :: xs => .ok (xs.foldl (fun greatest y => if greatest.extended < y.extended then y else greatest) x)

def sortedNumbers (values : List Number) : List Number := values.insertionSort fun x y =>
    x.extended ≤ y.extended

/-- `values[index]`, where negative indexes count from the end. -/
def atIndex (values : List Number) (index : ℤ) : Result Number :=
  let place := if index < 0 then index + values.length else index
  if place < 0 then .error (.indexError "list index out of range")
  else match values[place.toNat]? with
    | some x => .ok x
    | none => .error (.indexError "list index out of range")

def halfSum : Number → Number → Result (WithTop ℚ)
  | .int m, .int n => (trueDivision (m + n) 2).map WithTop.some
  | x, y => .ok (halveFloat (addFloats x.extended y.extended))

/-- `statistics.median` -/
def median (values : List Number) : Result Number :=
  let data := sortedNumbers values
  let n := data.length
  if n = 0 then .error (.valueError "no median for empty data")
  else if n % 2 = 1 then atIndex data (n / 2 : ℕ)
  else do return .float (← halfSum (← atIndex data (n / 2 - 1 : ℕ)) (← atIndex data (n / 2 : ℕ)))

/-- The exact mean as the type of the values has it. -/
def convertMean (integers : Bool) (exact : ℚ) : Result Number :=
  if integers then
    if exact.den = 1 then .ok (.int exact.num) else (trueDivision exact.num exact.den).map fun x : ℚ =>
      .float x
  else .ok (.float (double exact))

def mean (values : List Number) : Result Number :=
  if values = [] then .error (.valueError "mean requires at least one data point")
  else match (values.map Number.extended).sum with
    | ⊤ => .ok (.float ⊤)
    | (total : ℚ) => convertMean (values.all Number.isInteger) (total / values.length)

end Statistics

theorem double_eq_zero_iff {x : ℚ} (h : x = 0 ∨ 1 / 2 ≤ x) : double x = 0 ↔ x = 0 := by
  rcases h with rfl | h
  · exact iff_of_true (representable_natCast (n := 0) (by norm_num)).double_eq rfl
  · have hhalf := double_mono (by norm_num) h
    rw [representable_half.double_eq] at hhalf
    refine iff_of_false (fun hzero => ?_) (fun hzero => ?_)
    · rw [hzero] at hhalf
      norm_num at hhalf
    · rw [hzero] at h
      norm_num at h

theorem toFloat_ok {number : Number} (h : number.Fits) (hnonneg : 0 ≤ number.extended) :
    ∃ x, number.toFloat = .ok x ∧ (x = .finite 0 ↔ number.extended = 0) := by
  cases number with
  | int n =>
    have hn : (0 : ℚ) ≤ n := WithTop.coe_nonneg.mp hnonneg
    have hinteger : (n : ℚ) = 0 ∨ 1 / 2 ≤ (n : ℚ) := by
      rcases (Int.cast_nonneg_iff.mp hn).eq_or_lt with heq | hlt
      · exact Or.inl (by rw [← heq]; rfl)
      · have hone : (1 : ℚ) ≤ n := by exact_mod_cast hlt
        exact Or.inr (le_trans (by norm_num) hone)
    refine ⟨.finite (double n), ?_, ?_⟩
    · rw [Number.toFloat, floatOfInteger, if_neg (not_le.mpr h)]
      rfl
    · rw [Float64.finite.injEq, double_eq_zero_iff hinteger]
      exact WithTop.coe_eq_zero.symm
  | float x =>
    refine ⟨.ofExtended x, rfl, ?_⟩
    cases x with
    | top => exact iff_of_false nofun WithTop.top_ne_zero
    | coe q =>
      rw [Float64.ofExtended_coe, Float64.finite.injEq]
      exact WithTop.coe_eq_zero.symm

theorem atIndex_get {values : List Number} {k : ℕ} (hk : k < values.length) :
    atIndex values k = .ok values[k] := by
  have hindex : ¬ (k : ℤ) < 0 := by omega
  unfold atIndex
  dsimp only
  rw [if_neg hindex, if_neg hindex, Int.toNat_natCast, List.getElem?_eq_getElem hk]

theorem sortedNumbers_length (values : List Number) : (sortedNumbers values).length = values.length :=
  List.length_insertionSort _ values

theorem median_odd {values : List Number} (hodd : values.length % 2 = 1)
    (hk : values.length / 2 < (sortedNumbers values).length) :
    median values = .ok (sortedNumbers values)[values.length / 2] := by
  unfold median
  dsimp only
  rw [sortedNumbers_length, if_neg (by omega), if_pos hodd, atIndex_get hk]

theorem median_even {values : List Number} (heven : values.length % 2 = 0) (hpos : 0 < values.length)
    (hk : values.length / 2 < (sortedNumbers values).length) :
    median values =
      (halfSum (sortedNumbers values)[values.length / 2 - 1] (sortedNumbers values)[values.length / 2]).map
        .float := by
  have hlength := sortedNumbers_length values
  have hmiddle : (sortedNumbers values).length / 2 = values.length / 2 := by rw [hlength]
  have hlower : values.length / 2 - 1 < (sortedNumbers values).length := by omega
  unfold median
  dsimp only
  rw [if_neg (by omega), if_neg (by omega), hmiddle, atIndex_get hlower, ok_bind, atIndex_get hk, ok_bind]
  cases halfSum (sortedNumbers values)[values.length / 2 - 1]
    (sortedNumbers values)[values.length / 2] <;> rfl

theorem sortedNumbers_float (xs : List (WithTop ℚ)) :
    sortedNumbers (xs.map .float) = (ordered xs).map .float := by
  refine (List.map_insertionSort (r := (· ≤ ·)) (s := fun x y => x.extended ≤ y.extended) Number.float xs
    ?_).symm
  intro x _ y _
  exact Iff.rfl

theorem median_float_ok {xs : List (WithTop ℚ)} (hpos : 0 < xs.length) :
    ∃ number, median (xs.map .float) = .ok number := by
  have hk : (xs.map Number.float).length / 2 < (sortedNumbers (xs.map .float)).length := by
    rw [sortedNumbers_length, List.length_map]
    omega
  rcases Nat.mod_two_eq_zero_or_one (xs.map Number.float).length with heven | hodd
  · rw [median_even heven (by simpa using hpos) hk]
    simp only [sortedNumbers_float, List.getElem_map, halfSum]
    exact ⟨_, rfl⟩
  · exact ⟨_, median_odd hodd hk⟩

theorem mean_float_ok {xs : List (WithTop ℚ)} (hpos : 0 < xs.length) :
    ∃ number, mean (xs.map .float) = .ok number := by
  have hne : xs.map Number.float ≠ [] := by simpa using List.ne_nil_of_length_pos hpos
  have hfloats : (xs.map Number.float).all Number.isInteger = false := by
    obtain ⟨x, xs, rfl⟩ := List.exists_cons_of_length_pos hpos
    rfl
  rw [mean, if_neg hne, hfloats]
  split
  · exact ⟨_, rfl⟩
  · exact ⟨_, rfl⟩

section Integers

variable {xs : List ℤ}

theorem sortedNumbers_int (xs : List ℤ) : sortedNumbers (xs.map .int) = (ordered xs).map .int := by
  refine (List.map_insertionSort (r := (· ≤ ·)) (s := fun x y => x.extended ≤ y.extended) Number.int xs
    ?_).symm
  intro m _ n _
  exact (WithTop.coe_le_coe.trans (Int.cast_le (R := ℚ))).symm

theorem median_odd_int (hodd : xs.length % 2 = 1) (hk : xs.length / 2 < (ordered xs).length) :
    median (xs.map .int) = .ok (.int (ordered xs)[xs.length / 2]) := by
  have hlength : (xs.map Number.int).length = xs.length := List.length_map _
  have hsorted : (xs.map Number.int).length / 2 < (sortedNumbers (xs.map .int)).length := by
    rw [sortedNumbers_length]
    omega
  rw [median_odd (hlength ▸ hodd) hsorted]
  simp [sortedNumbers_int]

theorem median_even_int (heven : xs.length % 2 = 0) (hpos : 0 < xs.length)
    (hk : xs.length / 2 < (ordered xs).length) :
    median (xs.map .int) =
      (trueDivision ((ordered xs)[xs.length / 2 - 1] + (ordered xs)[xs.length / 2]) 2).map fun x : ℚ =>
      .float x := by
  have hlength : (xs.map Number.int).length = xs.length := List.length_map _
  have hsorted : (xs.map Number.int).length / 2 < (sortedNumbers (xs.map .int)).length := by
    rw [sortedNumbers_length]
    omega
  rw [median_even (hlength ▸ heven) (hlength ▸ hpos) hsorted]
  simp only [sortedNumbers_int, List.getElem_map, halfSum, List.length_map]
  cases trueDivision ((ordered xs)[xs.length / 2 - 1] + (ordered xs)[xs.length / 2]) 2 <;> rfl

theorem abs_div_lt_limit_iff {a b : ℤ} (hb : 0 < b) : |(a : ℚ) / b| < floatLimit ↔ |a| < floatLimit * b := by
  have hb' : (0 : ℚ) < b := Int.cast_pos.mpr hb
  rw [abs_div, abs_of_pos hb', div_lt_iff₀ hb']
  exact_mod_cast Iff.rfl

theorem trueDivision_ok_iff {a b : ℤ} (hb : b ≠ 0) (x : ℚ) :
    trueDivision a b = .ok x ↔ |(a : ℚ) / b| < floatLimit ∧ double (a / b) = x := by
  rw [trueDivision, if_neg hb, check_ok_iff, not_le, Except.ok.injEq]

theorem exists_trueDivision_iff {a b : ℤ} (hb : b ≠ 0) :
    (∃ x, trueDivision a b = .ok x) ↔ |(a : ℚ) / b| < floatLimit := by
  simp [trueDivision_ok_iff hb]

def MedianFits (xs : List ℤ) : Prop :=
  xs.length % 2 = 0 → |(ordered xs).getD (xs.length / 2 - 1) 0 + (ordered xs).getD (xs.length / 2) 0| <
    floatLimit * 2

def MeanFits (xs : List ℤ) : Prop := (xs.length : ℤ) ∣ xs.sum ∨ |xs.sum| < floatLimit * xs.length

theorem median_ok_iff (hpos : 0 < xs.length) : (∃ number, median (xs.map .int) = .ok number) ↔
    MedianFits xs := by
  have hk : xs.length / 2 < (ordered xs).length := by
    rw [ordered_length]
    omega
  rcases Nat.mod_two_eq_zero_or_one xs.length with heven | hodd
  · have hlower : xs.length / 2 - 1 < (ordered xs).length := by omega
    rw [median_even_int heven hpos hk, exists_map_ok_iff, exists_trueDivision_iff two_ne_zero, MedianFits,
      List.getD_eq_getElem _ _ hk, List.getD_eq_getElem _ _ hlower, abs_div_lt_limit_iff two_pos]
    exact ⟨fun h _ => h, fun h => h heven⟩
  · rw [median_odd_int hodd hk]
    exact iff_of_true ⟨_, rfl⟩ fun heven => by omega

theorem convertMean_ok_iff (exact : ℚ) :
    (∃ number, convertMean true exact = .ok number) ↔ exact.den = 1 ∨ |exact| < floatLimit := by
  unfold convertMean
  rw [if_pos rfl]
  split_ifs with hwhole
  · exact iff_of_true ⟨_, rfl⟩ (Or.inl hwhole)
  · have hden : (exact.den : ℤ) ≠ 0 := Int.natCast_ne_zero.mpr exact.den_ne_zero
    rw [exists_map_ok_iff, exists_trueDivision_iff hden, Int.cast_natCast, Rat.num_div_den,
      or_iff_right hwhole]

theorem sum_extended_int (xs : List ℤ) : ((xs.map Number.int).map Number.extended).sum =
    ((xs.sum : ℚ) : WithTop ℚ) := by
  induction xs with
  | nil => rfl
  | cons x xs ih =>
    rw [List.map_cons, List.map_cons, List.sum_cons, ih, List.sum_cons, Int.cast_add, WithTop.coe_add]
    rfl

theorem mean_int (hpos : 0 < xs.length) :
    mean (xs.map .int) = convertMean true ((xs.sum : ℚ) / (xs.length : ℤ)) := by
  have hintegers : (xs.map Number.int).all Number.isInteger = true := by simp [Number.isInteger]
  have hne : xs.map Number.int ≠ [] := by simpa using List.ne_nil_of_length_pos hpos
  rw [mean, if_neg hne, sum_extended_int, hintegers, List.length_map, Int.cast_natCast]

theorem mean_ok_iff (hpos : 0 < xs.length) : (∃ number, mean (xs.map .int) = .ok number) ↔ MeanFits xs := by
  have hlength : (0 : ℤ) < xs.length := by exact_mod_cast hpos
  rw [mean_int hpos, convertMean_ok_iff, Rat.den_div_intCast_eq_one_iff _ _ hlength.ne',
    abs_div_lt_limit_iff hlength]
  rfl

/-- The median of counts that have floats has one too, and it is zero where more than half of them are. -/
theorem median_spec (hpos : 0 < xs.length) (h : ∀ x ∈ xs, 0 ≤ x ∧ x < floatLimit) :
    ∃ number, median (xs.map .int) = .ok number ∧ number.Fits ∧ 0 ≤ number.extended ∧
      (number.extended = 0 ↔ xs.length / 2 < xs.count 0) := by
  have hk : xs.length / 2 < (ordered xs).length := by
    rw [ordered_length]
    omega
  obtain ⟨hupper, hupperLimit⟩ := h _ (mem_ordered_get hk)
  have hzero := ordered_get_eq_least_iff (fun x hx => (h x hx).1) hk
  rcases Nat.mod_two_eq_zero_or_one xs.length with heven | hodd
  · have hlower : xs.length / 2 - 1 < (ordered xs).length := by omega
    obtain ⟨hlowerNonneg, hlowerLimit⟩ := h _ (mem_ordered_get hlower)
    have hle : (ordered xs)[xs.length / 2 - 1] ≤ (ordered xs)[xs.length / 2] := ordered_get_le (by omega) hk
    rw [median_even_int heven hpos hk, ← hzero]
    generalize (ordered xs)[xs.length / 2 - 1] = a at *
    generalize (ordered xs)[xs.length / 2] = b at *
    have hfits : |((a + b : ℤ) : ℚ) / (2 : ℤ)| < floatLimit := by
      rw [abs_div_lt_limit_iff two_pos, abs_of_nonneg (by omega)]
      omega
    have hsum : (0 : ℚ) ≤ (a + b : ℤ) := by exact_mod_cast add_nonneg hlowerNonneg hupper
    have hhalf : ((a + b : ℤ) : ℚ) / (2 : ℤ) = 0 ∨ 1 / 2 ≤ ((a + b : ℤ) : ℚ) / (2 : ℤ) := by
      rcases (add_nonneg hlowerNonneg hupper).eq_or_lt with heq | hlt
      · exact Or.inl (by rw [← heq]; simp)
      · have hone : (1 : ℚ) ≤ (a + b : ℤ) := by exact_mod_cast hlt
        exact Or.inr (div_le_div_of_nonneg_right hone (by norm_num))
    refine ⟨.float (double (((a + b : ℤ) : ℚ) / (2 : ℤ))), ?_, trivial, ?_, ?_⟩
    · rw [(trueDivision_ok_iff two_ne_zero _).mpr ⟨hfits, rfl⟩]
      rfl
    · exact WithTop.coe_nonneg.mpr (double_nonneg (div_nonneg hsum (by norm_num)))
    · have hboth : ((a + b : ℤ) : ℚ) / (2 : ℤ) = 0 ↔ a + b = 0 := by
        rw [div_eq_zero_iff, Int.cast_eq_zero]
        norm_num
      rw [Number.extended, WithTop.coe_eq_zero, double_eq_zero_iff hhalf, hboth]
      omega
  · refine ⟨_, median_odd_int hodd hk, ?_, ?_, ?_⟩
    · rw [Number.Fits, abs_of_nonneg hupper]
      exact hupperLimit
    · exact WithTop.coe_nonneg.mpr (Int.cast_nonneg hupper)
    · rw [← hzero, Number.extended, WithTop.coe_eq_zero, Int.cast_eq_zero]

end Integers

example : Float64.roundTwo (.finite (1 / 8)) = .finite (double (12 / 100)) := by decide +kernel

end TelconetSentinel
