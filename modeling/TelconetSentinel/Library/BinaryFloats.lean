import Mathlib.Data.Int.Log
import Mathlib.Data.Rat.Floor
import Mathlib.Tactic
import TelconetSentinel.Library.DocumentValues

namespace TelconetSentinel.BinaryFloats

open DocumentValues

/-- The nearest integer, of two the even one. -/
def roundHalfEven (x : ℚ) : ℤ :=
  if x - ⌊x⌋ < 1 / 2 ∨ x - ⌊x⌋ = 1 / 2 ∧ ⌊x⌋ % 2 = 0 then ⌊x⌋ else ⌊x⌋ + 1

theorem le_roundHalfEven {x : ℚ} {n : ℤ} (h : (n : ℚ) ≤ x) : n ≤ roundHalfEven x := by
  have hfloor : n ≤ ⌊x⌋ := Int.le_floor.mpr h
  unfold roundHalfEven
  split_ifs <;> omega

theorem roundHalfEven_le {x : ℚ} {n : ℤ} (h : x ≤ n) : roundHalfEven x ≤ n := by
  have hfloor : ⌊x⌋ ≤ n := Int.floor_le_iff.mpr (h.trans_lt (lt_add_one _))
  unfold roundHalfEven
  split_ifs with hdown
  · exact hfloor
  · rcases hfloor.eq_or_lt with heq | hlt
    · have hx : x - ⌊x⌋ ≤ 0 := by rw [heq]; exact sub_nonpos.mpr h
      exact absurd (Or.inl (hx.trans_lt (by norm_num))) hdown
    · omega

theorem roundHalfEven_mono {x y : ℚ} (h : x ≤ y) : roundHalfEven x ≤ roundHalfEven y := by
  rcases (Int.floor_le_floor h).eq_or_lt with heq | hlt
  · unfold roundHalfEven
    rw [← heq]
    split_ifs with hx hy hy
    · rfl
    · omega
    · refine absurd ?_ hx
      have hle : x - ⌊x⌋ ≤ y - ⌊x⌋ := sub_le_sub_right h _
      rcases hy with hy | ⟨hy, heven⟩
      · exact Or.inl (hle.trans_lt hy)
      · exact (hle.trans_eq hy).lt_or_eq.imp_right fun heq => ⟨heq, heven⟩
    · rfl
  · have hnext : x ≤ (⌊y⌋ : ℤ) :=
      (Int.lt_floor_add_one x).le.trans (by exact_mod_cast Int.add_one_le_of_lt hlt)
    exact (roundHalfEven_le hnext).trans (le_roundHalfEven (Int.floor_le y))

def lastPlace (x : ℚ) : ℤ := max (Int.log 2 x - 52) (-1074)

/-- The double that is nearest to a number that is not negative, where there is no largest exponent. -/
def magnitude (x : ℚ) : ℚ := roundHalfEven (x / 2 ^ lastPlace x) * 2 ^ lastPlace x

def double (x : ℚ) : ℚ := if x < 0 then -magnitude (-x) else magnitude x

/-- From here on the nearest double is infinite. -/
def floatLimit : ℤ := 2 ^ 1024 - 2 ^ 970

def Representable (x : ℚ) : Prop := ∃ (m : ℕ) (e : ℤ), m ≤ 2 ^ 53 ∧ -1074 ≤ e ∧ x = m * 2 ^ e

section Rounding

variable {x y : ℚ}

theorem double_of_nonneg (hx : 0 ≤ x) : double x = magnitude x := if_neg hx.not_gt

theorem place_pos (e : ℤ) : (0 : ℚ) < 2 ^ e := zpow_pos two_pos e

theorem magnitude_le {n : ℤ} (h : x ≤ n * 2 ^ lastPlace x) : magnitude x ≤ n * 2 ^ lastPlace x := by
  have hrounded : roundHalfEven (x / 2 ^ lastPlace x) ≤ n :=
    roundHalfEven_le ((div_le_iff₀ (place_pos _)).mpr h)
  exact mul_le_mul_of_nonneg_right (by exact_mod_cast hrounded) (place_pos _).le

theorem le_magnitude {n : ℤ} (h : n * 2 ^ lastPlace x ≤ x) : n * 2 ^ lastPlace x ≤ magnitude x := by
  have hrounded : n ≤ roundHalfEven (x / 2 ^ lastPlace x) :=
    le_roundHalfEven ((le_div_iff₀ (place_pos _)).mpr h)
  exact mul_le_mul_of_nonneg_right (by exact_mod_cast hrounded) (place_pos _).le

theorem magnitude_nonneg (hx : 0 ≤ x) : 0 ≤ magnitude x := by
  have h := le_magnitude (x := x) (n := 0) (by simpa using hx)
  simpa using h

theorem pow_eq_places {k : ℤ} (h : lastPlace x ≤ k) : (2 : ℚ) ^ k = ((2 ^ (k - lastPlace x).toNat : ℤ) : ℚ) *
    2 ^ lastPlace x := by
  have hexponent : k = ((k - lastPlace x).toNat : ℤ) + lastPlace x := by omega
  rw [Int.cast_pow, Int.cast_ofNat, ← zpow_natCast, ← zpow_add₀ two_ne_zero, ← hexponent]

theorem magnitude_mono (hx : 0 ≤ x) (h : x ≤ y) : magnitude x ≤ magnitude y := by
  rcases hx.eq_or_lt with rfl | hpos
  · refine le_trans ?_ (magnitude_nonneg h)
    have hzero := magnitude_le (x := 0) (n := 0) (by simp)
    simpa using hzero
  have hlog : Int.log 2 x ≤ Int.log 2 y := Int.log_mono_right hpos h
  have hplace : lastPlace x ≤ lastPlace y := max_le_max (by omega) le_rfl
  rcases hplace.eq_or_lt with heq | hlt
  · -- Both are rounded to the same place.
    unfold magnitude
    rw [← heq]
    refine mul_le_mul_of_nonneg_right ?_ (place_pos _).le
    exact_mod_cast roundHalfEven_mono (div_le_div_of_nonneg_right h (place_pos _).le)
  · -- A power of two lies between the two.
    have hbetween : lastPlace y = Int.log 2 y - 52 := by
      unfold lastPlace at hlt ⊢
      omega
    have hupper : Int.log 2 x + 1 ≤ Int.log 2 y := by
      unfold lastPlace at hlt
      omega
    have hxPower : x ≤ 2 ^ Int.log 2 y :=
      (Int.lt_zpow_succ_log_self (by norm_num) x).le.trans (zpow_le_zpow_right₀ one_le_two hupper)
    have hyPower : (2 : ℚ) ^ Int.log 2 y ≤ y := Int.zpow_log_le_self (by norm_num) (hpos.trans_le h)
    have hxPlaces := pow_eq_places (x := x) (k := Int.log 2 y) (by omega)
    have hyPlaces := pow_eq_places (x := y) (k := Int.log 2 y) (by omega)
    calc magnitude x ≤ 2 ^ Int.log 2 y := by
          rw [hxPlaces] at hxPower ⊢
          exact magnitude_le hxPower
      _ ≤ magnitude y := by
          rw [hyPlaces] at hyPower ⊢
          exact le_magnitude hyPower

theorem magnitude_of_places {n : ℤ} (h : x = n * 2 ^ lastPlace x) : magnitude x = x := by
  have hupper := magnitude_le h.le
  have hlower := le_magnitude h.ge
  rw [← h] at hupper hlower
  exact le_antisymm hupper hlower

theorem magnitude_of_significand {m : ℕ} {e : ℤ} (hm : m < 2 ^ 53) (he : -1074 ≤ e) :
    magnitude (m * 2 ^ e) = m * 2 ^ e := by
  rcases m.eq_zero_or_pos with rfl | hpos
  · have hzero : ((0 : ℕ) : ℚ) * 2 ^ e = ((0 : ℤ) : ℚ) * 2 ^ lastPlace ((0 : ℕ) * 2 ^ e) := by simp
    exact magnitude_of_places hzero
  have hx : (0 : ℚ) < m * 2 ^ e := mul_pos (Nat.cast_pos.mpr hpos) (place_pos e)
  have hsmall : (m : ℚ) * 2 ^ e < 2 ^ (53 + e) := by
    rw [zpow_add₀ two_ne_zero]
    exact mul_lt_mul_of_pos_right (by exact_mod_cast hm) (place_pos e)
  have hlog : Int.log 2 ((m : ℚ) * 2 ^ e) < 53 + e :=
    (Int.lt_zpow_iff_log_lt (by norm_num) hx).mp (by exact_mod_cast hsmall)
  have hplace : lastPlace ((m : ℚ) * 2 ^ e) ≤ e := max_le (by omega) he
  refine magnitude_of_places (n := m * 2 ^ (e - lastPlace ((m : ℚ) * 2 ^ e)).toNat) ?_
  rw [Int.cast_mul, mul_assoc, ← pow_eq_places hplace, Int.cast_natCast]

theorem magnitude_of_representable (h : Representable x) : magnitude x = x := by
  obtain ⟨m, e, hm, he, rfl⟩ := h
  rcases hm.eq_or_lt with rfl | hlt
  · have hhalf : ((2 ^ 53 : ℕ) : ℚ) * 2 ^ e = ((2 ^ 52 : ℕ) : ℚ) * 2 ^ (e + 1) := by
      rw [zpow_add_one₀ two_ne_zero]
      push_cast
      ring
    rw [hhalf]
    exact magnitude_of_significand (by norm_num) (by omega)
  · exact magnitude_of_significand hlt he

theorem representable_magnitude (hx : 0 ≤ x) : Representable (magnitude x) := by
  have hquotient : 0 ≤ x / 2 ^ lastPlace x := div_nonneg hx (place_pos _).le
  have hnonneg : 0 ≤ roundHalfEven (x / 2 ^ lastPlace x) := le_roundHalfEven (by simpa using hquotient)
  have hle : roundHalfEven (x / 2 ^ lastPlace x) ≤ (2 ^ 53 : ℕ) := by
    refine roundHalfEven_le ((div_le_iff₀ (place_pos _)).mpr ?_)
    have hexponent : Int.log 2 x + 1 ≤ 53 + lastPlace x := by
      unfold lastPlace
      omega
    calc x ≤ 2 ^ (Int.log 2 x + 1) := (Int.lt_zpow_succ_log_self (by norm_num) x).le
      _ ≤ 2 ^ (53 + lastPlace x) := zpow_le_zpow_right₀ one_le_two hexponent
      _ = ((2 ^ 53 : ℕ) : ℤ) * 2 ^ lastPlace x := by
        rw [zpow_add₀ two_ne_zero]
        norm_num
  refine ⟨(roundHalfEven (x / 2 ^ lastPlace x)).toNat, lastPlace x, by omega, le_max_right _ _, ?_⟩
  rw [magnitude, ← Int.cast_natCast, Int.toNat_of_nonneg hnonneg]

theorem double_nonneg (hx : 0 ≤ x) : 0 ≤ double x := by
  rw [double_of_nonneg hx]
  exact magnitude_nonneg hx

theorem double_mono (hx : 0 ≤ x) (h : x ≤ y) : double x ≤ double y := by
  rw [double_of_nonneg hx, double_of_nonneg (hx.trans h)]
  exact magnitude_mono hx h

theorem representable_double (hx : 0 ≤ x) : Representable (double x) := by
  rw [double_of_nonneg hx]
  exact representable_magnitude hx

theorem Representable.nonneg (h : Representable x) : 0 ≤ x := by
  obtain ⟨m, e, -, -, rfl⟩ := h
  exact mul_nonneg (Nat.cast_nonneg m) (place_pos e).le

theorem Representable.double_eq (h : Representable x) : double x = x := by
  rw [double_of_nonneg h.nonneg, magnitude_of_representable h]

theorem Representable.two_mul (h : Representable x) : Representable (2 * x) := by
  obtain ⟨m, e, hm, he, rfl⟩ := h
  refine ⟨m, e + 1, hm, by omega, ?_⟩
  rw [zpow_add_one₀ two_ne_zero]
  ring

theorem representable_natCast {n : ℕ} (h : n ≤ 2 ^ 53) : Representable n := ⟨n, 0, h, by norm_num, by simp⟩

theorem representable_half : Representable (1 / 2) := ⟨1, -1, by norm_num, by norm_num, by norm_num⟩

end Rounding

/-- The floats that texts of digits, sums and halves give: top is infinity. -/
def IsDouble (x : WithTop ℚ) : Prop := ∀ q : ℚ, x = q → Representable q

def nonnegativeFloat (x : ℚ) : WithTop ℚ := if floatLimit ≤ x then ⊤ else double x

theorem isDouble_nonnegativeFloat {x : ℚ} (hx : 0 ≤ x) : IsDouble (nonnegativeFloat x) := by
  intro q hq
  unfold nonnegativeFloat at hq
  split_ifs at hq with hlimit
  · exact absurd hq WithTop.top_ne_coe
  · rw [← WithTop.coe_inj.mp hq]
    exact representable_double hx

theorem IsDouble.nonneg {x : WithTop ℚ} (h : IsDouble x) : 0 ≤ x := by
  cases x with
  | top => exact le_top
  | coe q => exact WithTop.coe_nonneg.mpr (h q rfl).nonneg

def addFloats (x y : WithTop ℚ) : WithTop ℚ :=
  match x + y with
  | ⊤ => ⊤
  | (sum : ℚ) => nonnegativeFloat sum

def halveFloat (x : WithTop ℚ) : WithTop ℚ := x.map fun q => double (q / 2)

end TelconetSentinel.BinaryFloats

namespace TelconetSentinel.DocumentValues.Float64

open BinaryFloats

def ofRat (x : ℚ) : Float64 := if floatLimit ≤ |x| then infinity (x < 0) else finite (double x)

def ofExtended : WithTop ℚ → Float64
  | ⊤ => infinity false
  | (x : ℚ) => finite x

theorem ofExtended_coe (x : ℚ) : ofExtended x = finite x := rfl

def sub : Float64 → Float64 → Float64
  | finite x, finite y => ofRat (x - y)
  | infinity s, finite _ => infinity s
  | finite _, infinity t => infinity (!t)
  | infinity s, infinity t => if s = t then nan else infinity s
  | _, _ => nan

def div : Float64 → Float64 → Float64
  | finite x, finite y => ofRat (x / y)
  | infinity s, finite y => infinity (s != decide (y < 0))
  | finite _, infinity _ => finite 0
  | _, _ => nan

def percent : Float64 → Float64
  | finite x => ofRat (x * 100)
  | x => x

def roundTwo : Float64 → Float64
  | finite x => finite (double (roundHalfEven (x * 100) / 100))
  | x => x

end TelconetSentinel.DocumentValues.Float64
