import Mathlib.Data.Char
import Mathlib.Data.List.Lex
import Mathlib.Data.Nat.Digits.Defs
import Mathlib.Order.Monotone.Basic
import Mathlib.Tactic

namespace TelconetSentinel.FixedWidthText

variable {α : Type*} [LinearOrder α]

theorem cons_lt_cons_same (a : α) (x y : List α) : a :: x < a :: y ↔ x < y := by
  rw [List.cons_lt_cons_iff]
  simp

theorem append_lt_append_iff {a b : List α} (h : a.length = b.length) (x y : List α) :
    a ++ x < b ++ y ↔ a < b ∨ a = b ∧ x < y := by
  induction a generalizing b with
  | nil =>
    obtain rfl := List.length_eq_zero_iff.mp h.symm
    simp
  | cons c a ih =>
    cases b with
    | nil => simp at h
    | cons d b =>
      have hlen : a.length = b.length := by simpa using h
      rw [List.cons_append, List.cons_append, List.cons_lt_cons_iff, List.cons_lt_cons_iff, ih hlen]
      simp only [List.cons.injEq]
      constructor
      · rintro (hlt | ⟨rfl, hlt | ⟨rfl, hxy⟩⟩)
        · exact Or.inl (Or.inl hlt)
        · exact Or.inl (Or.inr ⟨rfl, hlt⟩)
        · exact Or.inr ⟨⟨rfl, rfl⟩, hxy⟩
      · rintro ((hlt | ⟨rfl, hlt⟩) | ⟨⟨rfl, rfl⟩, hxy⟩)
        · exact Or.inl hlt
        · exact Or.inr ⟨rfl, Or.inl hlt⟩
        · exact Or.inr ⟨rfl, Or.inr ⟨rfl, hxy⟩⟩

section Numerals

variable (digit : ℕ → α) (base : ℕ)

/-- The `width` least significant digits of a number, the most significant one first. -/
def numeral : ℕ → ℕ → List α
  | 0, _ => []
  | width + 1, n => numeral width (n / base) ++ [digit (n % base)]

omit [LinearOrder α] in
theorem length_numeral (width n : ℕ) : (numeral digit base width n).length = width := by
  induction width generalizing n with
  | zero => rfl
  | succ width ih => rw [numeral, List.length_append, ih, List.length_singleton]

variable {digit base}

omit [LinearOrder α] in
theorem numeral_injOn (hdigit : Set.InjOn digit (Set.Iio base)) (hbase : 0 < base) {width n m : ℕ}
    (hn : n < base ^ width) (hm : m < base ^ width)
    (h : numeral digit base width n = numeral digit base width m) :
    n = m := by
  induction width generalizing n m with
  | zero =>
    rw [pow_zero] at hn hm
    omega
  | succ width ih =>
    rw [pow_succ] at hn hm
    obtain ⟨hhigh, hlow⟩ := List.append_inj h (by rw [length_numeral, length_numeral])
    have hdiv := ih (Nat.div_lt_of_lt_mul (by rwa [mul_comm]))
      (Nat.div_lt_of_lt_mul (by rwa [mul_comm])) hhigh
    have hmod := hdigit (Nat.mod_lt n hbase) (Nat.mod_lt m hbase) (List.singleton_inj.mp hlow)
    rw [← Nat.div_add_mod n base, ← Nat.div_add_mod m base, hdiv, hmod]

theorem numeral_lt_iff (hdigit : StrictMonoOn digit (Set.Iio base)) (hbase : 0 < base) {width n m : ℕ}
    (hn : n < base ^ width) (hm : m < base ^ width) :
    numeral digit base width n < numeral digit base width m ↔ n < m := by
  induction width generalizing n m with
  | zero =>
    rw [pow_zero] at hn hm
    simp only [numeral, lt_self_iff_false, false_iff]
    omega
  | succ width ih =>
    rw [pow_succ] at hn hm
    have hdn : n / base < base ^ width := Nat.div_lt_of_lt_mul (by rwa [mul_comm])
    have hdm : m / base < base ^ width := Nat.div_lt_of_lt_mul (by rwa [mul_comm])
    have hlast : [digit (n % base)] < [digit (m % base)] ↔ n % base < m % base := by
      rw [List.cons_lt_cons_iff]
      simpa using hdigit.lt_iff_lt (Nat.mod_lt n hbase) (Nat.mod_lt m hbase)
    have hhigh : numeral digit base width (n / base) = numeral digit base width (m / base) ↔
        n / base = m / base :=
      ⟨numeral_injOn hdigit.injOn hbase hdn hdm, fun h => by rw [h]⟩
    rw [numeral, numeral, append_lt_append_iff (by rw [length_numeral, length_numeral]), ih hdn hdm, hhigh,
      hlast]
    have hsplitn := Nat.div_add_mod n base
    have hsplitm := Nat.div_add_mod m base
    have hmodn := Nat.mod_lt n hbase
    have hmodm := Nat.mod_lt m hbase
    constructor
    · rintro (hlt | ⟨heq, hlt⟩)
      · have hmul := Nat.mul_le_mul_left base (Nat.succ_le_of_lt hlt)
        rw [Nat.succ_eq_add_one, mul_add, mul_one] at hmul
        omega
      · rw [heq] at hsplitn
        omega
    · intro hlt
      rcases Nat.lt_or_ge (n / base) (m / base) with hd | hd
      · exact Or.inl hd
      · have heq : n / base = m / base := le_antisymm (Nat.div_le_div_right hlt.le) hd
        rw [heq] at hsplitn
        exact Or.inr ⟨heq, by omega⟩

theorem numeral_append_lt_iff (hdigit : StrictMonoOn digit (Set.Iio base)) (hbase : 0 < base) {width n m : ℕ}
    (hn : n < base ^ width) (hm : m < base ^ width) (x y : List α) :
    numeral digit base width n ++ x < numeral digit base width m ++ y ↔ n < m ∨ n = m ∧ x < y := by
  have heq : numeral digit base width n = numeral digit base width m ↔ n = m :=
    ⟨numeral_injOn hdigit.injOn hbase hn hm, fun h => by rw [h]⟩
  rw [append_lt_append_iff (by rw [length_numeral, length_numeral]), numeral_lt_iff hdigit hbase hn hm, heq]

end Numerals

theorem digitChar_strictMonoOn : StrictMonoOn Nat.digitChar (Set.Iio 10) := by
  have h : ∀ a < 10, ∀ b < 10, a < b → Nat.digitChar a < Nat.digitChar b := by decide
  exact fun a ha b hb hab => h a ha b hb hab

end TelconetSentinel.FixedWidthText
