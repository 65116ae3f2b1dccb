import Mathlib.Algebra.BigOperators.Intervals
import Mathlib.Algebra.Order.BigOperators.Group.Finset
import Mathlib.Data.Prod.Lex
import Mathlib.Order.Cover
import Mathlib.Tactic.IntervalCases

/-!
# The Gregorian calendar

Dates from the year 1 on, numbered one after the other from 1 January 1, a Monday; the numbers are
counted from the lengths of the years and months, not calculated. Easter Sunday is the Sunday after
the paschal full moon, which the epact of the year gives.
-/

namespace Gregorian

open Finset

def IsLeap (year : Nat) : Prop := 4 ∣ year ∧ (¬ 100 ∣ year ∨ 400 ∣ year)

instance (year : Nat) : Decidable (IsLeap year) :=
  inferInstanceAs (Decidable (4 ∣ year ∧ (¬ 100 ∣ year ∨ 400 ∣ year)))

def yearLength (year : Nat) : Nat := if IsLeap year then 366 else 365

def monthLength (year : Nat) : Nat → Nat
  | 2 => if IsLeap year then 29 else 28
  | 4 | 6 | 9 | 11 => 30
  | _ => 31

theorem monthLength_pos (year month : Nat) : 1 ≤ monthLength year month := by
  unfold monthLength
  split
  · split <;> decide
  all_goals decide

theorem monthLength_le (year month : Nat) : monthLength year month ≤ 31 := by
  unfold monthLength
  split
  · split <;> decide
  all_goals decide

@[ext] structure CivilDate where
  year : Nat
  month : Nat
  day : Nat
  year_pos : 1 ≤ year
  month_pos : 1 ≤ month
  month_le : month ≤ 12
  day_pos : 1 ≤ day
  day_le : day ≤ monthLength year month
deriving DecidableEq

/-- The days of the years before. -/
def daysBefore (year : Nat) : Nat := ∑ y ∈ Ico 1 year, yearLength y

/-- The days of the months of the year before. -/
def daysBeforeMonth (year month : Nat) : Nat := ∑ m ∈ Ico 1 month, monthLength year m

theorem daysBefore_succ {year : Nat} (h : 1 ≤ year) :
    daysBefore (year + 1) = daysBefore year + yearLength year :=
  sum_Ico_succ_top h _

theorem daysBeforeMonth_succ (year : Nat) {month : Nat} (h : 1 ≤ month) :
    daysBeforeMonth year (month + 1) = daysBeforeMonth year month + monthLength year month :=
  sum_Ico_succ_top h _

theorem daysBefore_mono {a b : Nat} (h : a ≤ b) : daysBefore a ≤ daysBefore b :=
  sum_le_sum_of_subset_of_nonneg (Ico_subset_Ico_right h) fun _ _ _ => Nat.zero_le _

theorem daysBeforeMonth_mono (year : Nat) {a b : Nat} (h : a ≤ b) :
    daysBeforeMonth year a ≤ daysBeforeMonth year b :=
  sum_le_sum_of_subset_of_nonneg (Ico_subset_Ico_right h) fun _ _ _ => Nat.zero_le _

/-- The months make up the year. -/
theorem daysBeforeMonth_year (year : Nat) : daysBeforeMonth year 13 = yearLength year := by
  unfold yearLength
  by_cases h : IsLeap year <;> simp [daysBeforeMonth, sum_Ico_succ_top, monthLength, h]

/-- Leap years counted. -/
theorem daysBefore_eq (year : Nat) :
    daysBefore (year + 1) + year / 100 = 365 * year + year / 4 + year / 400 := by
  induction year with
  | zero => rfl
  | succ year ih =>
    rw [daysBefore_succ (Nat.le_add_left 1 year), yearLength]
    by_cases h : IsLeap (year + 1)
    · rw [if_pos h]
      unfold IsLeap at h
      omega
    · rw [if_neg h]
      unfold IsLeap at h
      omega

namespace CivilDate

/-! ## The calendar order -/

def key (d : CivilDate) : Nat ×ₗ (Nat ×ₗ Nat) := toLex (d.year, toLex (d.month, d.day))

theorem key_injective : Function.Injective key := by
  intro a b h
  have hkey := (toLex_inj.1 h)
  rw [Prod.mk.injEq, toLex_inj, Prod.mk.injEq] at hkey
  exact CivilDate.ext hkey.1 hkey.2.1 hkey.2.2

instance : LinearOrder CivilDate := LinearOrder.lift' key key_injective

theorem lt_iff {a b : CivilDate} : a < b ↔
    a.year < b.year ∨ a.year = b.year ∧
      (a.month < b.month ∨ a.month = b.month ∧ a.day < b.day) := by
  show a.key < b.key ↔ _
  rw [key, key, Prod.Lex.toLex_lt_toLex, Prod.Lex.toLex_lt_toLex]

/-- 1 January 1. -/
def first : CivilDate := ⟨1, 1, 1, le_rfl, le_rfl, by decide, le_rfl, by decide⟩

/-- The day after. -/
def next (d : CivilDate) : CivilDate :=
  if h : d.day < monthLength d.year d.month then
    { d with day := d.day + 1, day_pos := Nat.le_add_left _ _, day_le := h }
  else if hm : d.month < 12 then
    { d with
      month := d.month + 1
      day := 1
      month_pos := Nat.le_add_left _ _
      month_le := hm
      day_pos := le_rfl
      day_le := monthLength_pos _ _ }
  else ⟨d.year + 1, 1, 1, Nat.le_add_left _ _, le_rfl, by decide, le_rfl,
    monthLength_pos _ _⟩

/-! ## Days numbered -/

/-- The days from 1 January 1. -/
def ordinal (d : CivilDate) : Nat := daysBefore d.year + daysBeforeMonth d.year d.month + (d.day - 1)

@[simp] theorem ordinal_first : first.ordinal = 0 := rfl

theorem ordinal_next (d : CivilDate) : d.next.ordinal = d.ordinal + 1 := by
  have hpos := d.day_pos
  have hle := d.day_le
  unfold next
  split
  · simp only [ordinal]
    omega
  · rename_i h
    have hlast : d.day = monthLength d.year d.month := by omega
    split
    · simp only [ordinal, daysBeforeMonth_succ _ d.month_pos]
      omega
    · rename_i hm
      have hdecember : d.month = 12 := le_antisymm d.month_le (not_lt.1 hm)
      have hyear := daysBeforeMonth_year d.year
      rw [daysBeforeMonth_succ _ (by decide : 1 ≤ 12)] at hyear
      simp only [ordinal, daysBefore_succ d.year_pos, ← hyear]
      rw [hdecember] at hlast ⊢
      have hjanuary : daysBeforeMonth (d.year + 1) 1 = 0 := rfl
      omega

theorem ordinal_lt_month (d : CivilDate) :
    d.ordinal < daysBefore d.year + daysBeforeMonth d.year (d.month + 1) := by
  have hpos := d.day_pos
  have hle := d.day_le
  rw [ordinal, daysBeforeMonth_succ _ d.month_pos]
  omega

theorem ordinal_lt_year (d : CivilDate) : d.ordinal < daysBefore (d.year + 1) := by
  have hmonth : daysBeforeMonth d.year (d.month + 1) ≤ yearLength d.year := by
    rw [← daysBeforeMonth_year]
    exact daysBeforeMonth_mono d.year (Nat.succ_le_succ d.month_le)
  rw [daysBefore_succ d.year_pos]
  exact d.ordinal_lt_month.trans_le (Nat.add_le_add_left hmonth _)

theorem ordinal_strictMono : StrictMono ordinal := by
  intro a b h
  rcases lt_iff.1 h with hyear | ⟨hyear, hmonth | ⟨hmonth, hday⟩⟩
  · calc a.ordinal < daysBefore (a.year + 1) := a.ordinal_lt_year
      _ ≤ daysBefore b.year := daysBefore_mono hyear
      _ ≤ b.ordinal := by rw [ordinal]; omega
  · calc a.ordinal < daysBefore a.year + daysBeforeMonth a.year (a.month + 1) := a.ordinal_lt_month
      _ ≤ daysBefore b.year + daysBeforeMonth b.year b.month := by
        rw [hyear]
        exact Nat.add_le_add_left (daysBeforeMonth_mono _ hmonth) _
      _ ≤ b.ordinal := by rw [ordinal]; omega
  · have hpos := a.day_pos
    rw [ordinal, ordinal, hyear, hmonth]
    omega

theorem ordinal_injective : Function.Injective ordinal := ordinal_strictMono.injective

theorem ordinal_lt {a b : CivilDate} : a.ordinal < b.ordinal ↔ a < b := ordinal_strictMono.lt_iff_lt

theorem ordinal_le {a b : CivilDate} : a.ordinal ≤ b.ordinal ↔ a ≤ b := ordinal_strictMono.le_iff_le

/-- **No day lies between a day and the next.** -/
theorem covBy_next (d : CivilDate) : d ⋖ d.next := by
  constructor
  · rw [← ordinal_lt, ordinal_next]
    exact Nat.lt_succ_self _
  · intro e hlo hhi
    rw [← ordinal_lt] at hlo hhi
    rw [ordinal_next] at hhi
    omega

/-- The day of a number. -/
def ofOrdinal : Nat → CivilDate
  | 0 => first
  | n + 1 => (ofOrdinal n).next

@[simp] theorem ordinal_ofOrdinal (n : Nat) : (ofOrdinal n).ordinal = n := by
  induction n with
  | zero => rfl
  | succ n ih => rw [ofOrdinal, ordinal_next, ih]

@[simp] theorem ofOrdinal_ordinal (d : CivilDate) : ofOrdinal d.ordinal = d :=
  ordinal_injective (ordinal_ofOrdinal _)

/-! ## Weekdays -/

/-- Counted from Monday, which 1 January 1 was. -/
def weekday (d : CivilDate) : Nat := d.ordinal % 7

end CivilDate

/-! ## Easter -/

/-- The age of the moon at the beginning of the year, with the solar and the lunar correction of the
century. -/
def epact (year : Nat) : Nat :=
  let century := year / 100
  let corrections : Int := century / 4 + (8 * century + 13) / 25 - century
  ((11 * (year % 19) + 8 + corrections) % 30).toNat

/-- 21 March. -/
def equinox (year : Nat) (h : 1 ≤ year) : CivilDate :=
  ⟨year, 3, 21, h, by decide, by decide, by decide, by show 21 ≤ 31; decide⟩

/-- The days from 21 March to the paschal full moon; the epacts 24 and, late in the cycle of nineteen
years, 25 are brought forward by a day. -/
def moonAfterEquinox (year : Nat) : Nat :=
  let days := (53 - epact year) % 30
  if epact year = 24 ∨ (epact year = 25 ∧ 10 < year % 19) then days - 1 else days

/-- The Sunday after the paschal full moon. -/
def CivilDate.IsEaster (d : CivilDate) : Prop :=
  d.weekday = 6 ∧
    (equinox d.year d.year_pos).ordinal + moonAfterEquinox d.year < d.ordinal ∧
    d.ordinal ≤ (equinox d.year d.year_pos).ordinal + moonAfterEquinox d.year + 7

/-- A year has one Easter Sunday. -/
theorem CivilDate.IsEaster.unique {a b : CivilDate} (ha : a.IsEaster) (hb : b.IsEaster)
    (h : a.year = b.year) :
    a = b := by
  obtain ⟨hasun, halo, hahi⟩ := ha
  obtain ⟨hbsun, hblo, hbhi⟩ := hb
  have heq : equinox a.year a.year_pos = equinox b.year b.year_pos := by
    simp only [equinox, h]
  rw [heq, h] at halo hahi
  unfold weekday at hasun hbsun
  apply ordinal_injective
  omega

end Gregorian
