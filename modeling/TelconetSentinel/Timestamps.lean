import TelconetSentinel.Library.FixedWidthText
import TelconetSentinel.Models
import Mathlib.Algebra.BigOperators.Intervals
import Mathlib.Data.Prod.Lex

namespace TelconetSentinel

open FixedWidthText

def isLeap (year : ℕ) : Bool := year % 4 = 0 ∧ (year % 100 ≠ 0 ∨ year % 400 = 0)

def daysInMonth (year month : ℕ) : ℕ :=
  if month = 2 then (if isLeap year then 29 else 28) else if month ∈ [4, 6, 9, 11] then 30 else 31

structure DateTime where
  year : ℕ
  month : ℕ
  day : ℕ
  hour : ℕ
  minute : ℕ
  second : ℕ
  microsecond : ℕ := 0
  year_valid : 1 ≤ year ∧ year ≤ 9999
  month_valid : 1 ≤ month ∧ month ≤ 12
  day_valid : 1 ≤ day ∧ day ≤ daysInMonth year month
  hour_lt : hour < 24
  minute_lt : minute < 60
  second_lt : second < 60
  microsecond_lt : microsecond < 1000000
  deriving DecidableEq

namespace DateTime

def fields (d : DateTime) : ℕ ×ₗ ℕ ×ₗ ℕ ×ₗ ℕ ×ₗ ℕ ×ₗ ℕ ×ₗ ℕ :=
  toLex (d.year, toLex (d.month, toLex (d.day, toLex (d.hour, toLex (d.minute,
    toLex (d.second, d.microsecond))))))

theorem fields_injective : Function.Injective fields := by
  intro d e h
  cases d
  cases e
  simp only [fields, EmbeddingLike.apply_eq_iff_eq, Prod.mk.injEq] at h
  simp only [mk.injEq]
  exact h

instance : LinearOrder DateTime := LinearOrder.lift' fields fields_injective

theorem lt_iff (d e : DateTime) : d < e ↔
    d.year < e.year ∨ d.year = e.year ∧
    (d.month < e.month ∨ d.month = e.month ∧ (d.day < e.day ∨ d.day = e.day ∧
      (d.hour < e.hour ∨ d.hour = e.hour ∧ (d.minute < e.minute ∨ d.minute = e.minute ∧
        (d.second < e.second ∨ d.second = e.second ∧ d.microsecond < e.microsecond))))) := by
  change d.fields < e.fields ↔ _
  simp only [fields, Prod.Lex.toLex_lt_toLex]

def decimal (width n : ℕ) : List Char := numeral Nat.digitChar 10 width n

/-- The fraction is left out when it is zero. -/
def fractionText (microsecond : ℕ) (offset : List Char) : List Char :=
  if microsecond = 0 then offset else '.' :: (decimal 6 microsecond ++ offset)

def isoformatText (d : DateTime) (offset : List Char) : List Char :=
  decimal 4 d.year ++ '-' :: (decimal 2 d.month ++ '-' :: (decimal 2 d.day ++ 'T' ::
    (decimal 2 d.hour ++ ':' :: (decimal 2 d.minute ++ ':' ::
      (decimal 2 d.second ++ fractionText d.microsecond offset)))))

def utcText : List Char := ['+', '0', '0', ':', '0', '0']

def isoformat (d : DateTime) : String := String.ofList (d.isoformatText utcText)

theorem decimal_append_lt_iff {width n m : ℕ} (hn : n < 10 ^ width) (hm : m < 10 ^ width) (x y : List Char) :
    decimal width n ++ x < decimal width m ++ y ↔ n < m ∨ n = m ∧ x < y :=
  numeral_append_lt_iff digitChar_strictMonoOn (by norm_num) hn hm x y

/-- The sign of the offset comes before the point of the fraction. -/
theorem fractionText_lt_iff {n m : ℕ} (hn : n < 1000000) (hm : m < 1000000) :
    fractionText n utcText < fractionText m utcText ↔ n < m := by
  have hsign : ∀ x : List Char, utcText < '.' :: x := fun x => List.Lex.rel (by decide)
  have hpoint : ∀ x : List Char, ¬ '.' :: x < utcText := fun x => (hsign x).asymm
  unfold fractionText
  split_ifs with h0 h1 h1
  · simp [h0, h1]
  · simp only [h0, hsign, true_iff]
    omega
  · simp only [h1, hpoint, false_iff]
    omega
  · rw [cons_lt_cons_same, decimal_append_lt_iff (by omega) (by omega)]
    simp

theorem two_digits (d : DateTime) : d.month < 10 ^ 2 ∧ d.day < 10 ^ 2 ∧ d.hour < 10 ^ 2 ∧ d.minute < 10 ^ 2 ∧
    d.second < 10 ^ 2 := by
  have hday : daysInMonth d.year d.month ≤ 31 := by
    unfold daysInMonth
    split_ifs <;> omega
  have := d.month_valid
  have := d.day_valid
  have := d.hour_lt
  have := d.minute_lt
  have := d.second_lt
  omega

theorem isoformat_lt_iff (d e : DateTime) : d.isoformat < e.isoformat ↔ d < e := by
  have hyear : ∀ x : DateTime, x.year < 10 ^ 4 := by
    intro x
    have := x.year_valid
    omega
  obtain ⟨hmonth, hday, hhour, hminute, hsecond⟩ := d.two_digits
  obtain ⟨hmonth', hday', hhour', hminute', hsecond'⟩ := e.two_digits
  have htext : d.isoformatText utcText < e.isoformatText utcText ↔ d < e := by
    rw [lt_iff, isoformatText, isoformatText, decimal_append_lt_iff (hyear d) (hyear e), cons_lt_cons_same,
      decimal_append_lt_iff hmonth hmonth', cons_lt_cons_same, decimal_append_lt_iff hday hday',
      cons_lt_cons_same, decimal_append_lt_iff hhour hhour', cons_lt_cons_same,
      decimal_append_lt_iff hminute hminute', cons_lt_cons_same, decimal_append_lt_iff hsecond hsecond',
      fractionText_lt_iff d.microsecond_lt e.microsecond_lt]
  rw [String.lt_iff_toList_lt, isoformat, isoformat, String.toList_ofList, String.toList_ofList, htext]

theorem isoformat_strictMono : StrictMono isoformat := fun d e h => (isoformat_lt_iff d e).mpr h

example : (DateTime.mk 2026 10 25 1 2 3 0 (by decide) (by decide) (by decide) (by decide) (by decide)
    (by decide)
    (by decide)).isoformat = "2026-10-25T01:02:03+00:00" := by decide

def daysBeforeYear (year : ℕ) : ℕ := (year - 1) * 365 + (year - 1) / 4 - (year - 1) / 100 + (year - 1) / 400

def daysBeforeMonth (year month : ℕ) : ℕ := ∑ m ∈ Finset.Ico 1 month, daysInMonth year m

def toordinal (d : DateTime) : ℕ := daysBeforeYear d.year + daysBeforeMonth d.year d.month + d.day

def microseconds (d : DateTime) : ℕ :=
  (((d.toordinal * 24 + d.hour) * 60 + d.minute) * 60 + d.second) * 1000000 + d.microsecond

def max : DateTime := ⟨9999, 12, 31, 23, 59, 59,
    999999, by decide, by decide, by decide, by decide, by decide,
  by decide, by decide⟩

/-- `self + timedelta(seconds=…)`, as microseconds. -/
def plusSeconds (d : DateTime) (seconds : ℕ) : Result ℕ :=
  if max.microseconds < seconds * 1000000 + d.microseconds then
    .error (.overflowError "date value out of range")
  else .ok (seconds * 1000000 + d.microseconds)

end DateTime

structure OffsetDateTime where
  wall : DateTime
  utcoffset : Option ℤ
  utcoffset_lt : ∀ seconds ∈ utcoffset, -86400 < seconds ∧ seconds < 86400
  deriving DecidableEq

namespace OffsetDateTime

open DateTime

def Aware (d : OffsetDateTime) : Prop := d.utcoffset.isSome

instance (d : OffsetDateTime) : Decidable d.Aware := inferInstanceAs (Decidable (d.utcoffset.isSome = true))

def utc (wall : DateTime) : OffsetDateTime := ⟨wall, some 0, by simp⟩

/-- The seconds of an offset are left out when they are zero. -/
def offsetText : Option ℤ → List Char
  | none => []
  | some seconds =>
    let size := seconds.natAbs
    (if seconds < 0 then '-' else '+') :: (decimal 2 (size / 3600) ++ ':' :: (decimal 2 (size / 60 % 60) ++
      if size % 60 = 0 then [] else ':' :: decimal 2 (size % 60)))

def isoformat (d : OffsetDateTime) : String := String.ofList (d.wall.isoformatText (offsetText d.utcoffset))

end OffsetDateTime

end TelconetSentinel
