import Mathlib.Data.Set.Card
import Presto.Lib.Fallible
import Presto.Lib.Gregorian
import Presto.Lib.Text

/-!
# TARGET operating days (`finance_model.rs:330-426`)

| source (`finance_model.rs`)               | model                       |
|-------------------------------------------|-----------------------------|
| `parse_date` (`:395`)                     | `parseDate`                 |
| `weekday` (`:424`)                        | `weekday`                   |
| `civil_date_from_days` (`:363`)           | `civilDateFromDays`         |
| `gregorian_easter` (`:378`)               | `gregorianEaster`           |
| `is_target_operating_day` (`:347`)        | `isTargetOperatingDay`      |
| `target_business_days_between` (`:330`)   | `targetBusinessDaysBetween` |

Days are counted from 1 January 1970. Integers are `i64` and wrap around, as in the release build;
`i64` stands where they can leave the range.
-/

namespace TargetDays

def i64 (n : Int) : Int := n.bmod (2 ^ 64)

/-- The arithmetic of `parse_date`, with the year beginning in March. -/
def daysFromCivil (year month day : Int) : Int :=
  let year := i64 (year - if month ≤ 2 then 1 else 0)
  let era := year / 400
  let yearOfEra := year - era * 400
  let monthPrime := month + if month > 2 then -3 else 9
  let dayOfYear := (153 * monthPrime + 2) / 5 + day - 1
  let dayOfEra := yearOfEra * 365 + yearOfEra / 4 - yearOfEra / 100 + dayOfYear
  i64 (era * 146097 + dayOfEra - 719468)

def maxDay (year month : Int) : Int :=
  let leapYear := year % 4 = 0 ∧ (year % 100 ≠ 0 ∨ year % 400 = 0)
  if month = 2 then if leapYear then 29 else 28
  else if month = 4 ∨ month = 6 ∨ month = 9 ∨ month = 11 then 30
  else 31

def parseDate (value : String) : Except String Int :=
  match (value.toList.splitOn '-').mapM (Text.parseSigned (2 ^ 63)) with
  | some [year, month, day] => do
    Except.ensure (1 ≤ month ∧ month ≤ 12) "invalid date"
    Except.ensure (1 ≤ day ∧ day ≤ maxDay year month) "invalid date"
    return daysFromCivil year month day
  | _ => .error "invalid date"

/-- `weekday`: 0 is Monday. -/
def weekday (daysSinceEpoch : Int) : Int := i64 (daysSinceEpoch + 3) % 7

def civilDateFromDays (daysSinceEpoch : Int) : Int × Int × Int :=
  let days := i64 (daysSinceEpoch + 719468)
  let era := days / 146097
  let dayOfEra := days - era * 146097
  let yearOfEra := (dayOfEra - dayOfEra / 1460 + dayOfEra / 36524 - dayOfEra / 146096) / 365
  let year := yearOfEra + era * 400
  let dayOfYear := dayOfEra - (365 * yearOfEra + yearOfEra / 4 - yearOfEra / 100)
  let monthPrime := (5 * dayOfYear + 2) / 153
  let day := dayOfYear - (153 * monthPrime + 2) / 5 + 1
  let month := monthPrime + if monthPrime < 10 then 3 else -9
  (year + if month ≤ 2 then 1 else 0, month, day)

def gregorianEaster (year : Int) : Int × Int :=
  let a := year.tmod 19
  let b := year.tdiv 100
  let c := year.tmod 100
  let d := b.tdiv 4
  let e := b.tmod 4
  let f := (b + 8).tdiv 25
  let g := (b - f + 1).tdiv 3
  let h := (19 * a + b - d - g + 15).tmod 30
  let i := c.tdiv 4
  let k := c.tmod 4
  let l := (32 + 2 * e + 2 * i - h - k).tmod 7
  let m := (a + 11 * h + 22 * l).tdiv 451
  let value := h + l - 7 * m + 114
  (value.tdiv 31, value.tmod 31 + 1)

/-- `{n:0width}`: padded with zeros, the sign counted. -/
def padded (width : Nat) (n : Int) : List Char :=
  if n < 0 then '-' :: (Nat.toDigits 10 n.natAbs).leftpad (width - 1) '0'
  else (Nat.toDigits 10 n.natAbs).leftpad width '0'

/-- `{year:04}-{month:02}-{day:02}`. -/
def dateText (year month day : Int) : String :=
  String.ofList (padded 4 year ++ '-' :: (padded 2 month ++ '-' :: padded 2 day))

def isTargetOperatingDay (daysSinceEpoch : Int) : Except String Bool :=
  if 5 ≤ weekday daysSinceEpoch then .ok false
  else
    let (year, month, day) := civilDateFromDays daysSinceEpoch
    if (month = 1 ∧ day = 1) ∨ (month = 5 ∧ day = 1) ∨ (month = 12 ∧ (day = 25 ∨ day = 26)) then
      .ok false
    else do
      let (easterMonth, easterDay) := gregorianEaster year
      let easterSunday ← parseDate (dateText year easterMonth easterDay)
      return daysSinceEpoch ≠ easterSunday - 2 && daysSinceEpoch ≠ easterSunday + 1

/-- The loop of `target_business_days_between` over the `days` days from `date` on; the count is an
`u32`. -/
def countOperatingDays (date : Int) : Nat → Nat → Except String Nat
  | 0, count => .ok count
  | days + 1, count => do
    let operating ← isTargetOperatingDay date
    countOperatingDays (date + 1) days (if operating then (count + 1) % 2 ^ 32 else count)

def targetBusinessDaysBetween (start through : String) : Except String Nat := do
  let start ← parseDate start
  let through ← parseDate through
  if through ≤ start then return 0
  else countOperatingDays (start + 1) (through - start).toNat 0

/-! ## What the functions are for -/

open Gregorian

/-- The ISO text of a date. -/
def text (d : CivilDate) : String := dateText d.year d.month d.day

/-- The days to the end of the year, counted as `parse_date` counts them, are within `i64`. -/
def Representable (d : CivilDate) : Prop := daysBefore (d.year + 1) + 306 < 2 ^ 63

/-- The holidays of TARGET: New Year, Good Friday, Easter Monday, 1 May, Christmas. -/
def Holiday (d : CivilDate) : Prop :=
  (d.month = 1 ∧ d.day = 1) ∨ (d.month = 5 ∧ d.day = 1) ∨
    (d.month = 12 ∧ (d.day = 25 ∨ d.day = 26)) ∨
    ∃ easter : CivilDate, easter.year = d.year ∧ easter.IsEaster ∧
      (d.ordinal + 2 = easter.ordinal ∨ d.ordinal = easter.ordinal + 1)

def Operating (d : CivilDate) : Prop := d.weekday < 5 ∧ ¬ Holiday d

/-- The operating days after `a` up to `b`. -/
noncomputable def operatingDays (a b : CivilDate) : Nat := {d ∈ Set.Ioc a b | Operating d}.ncard

/-- The number of a date from 1 January 1970. -/
def dayNumber (d : CivilDate) : Int := d.ordinal - 719162

/-! ## The number of a date -/

theorem i64_self {n : Int} (hlo : -2 ^ 63 ≤ n) (hhi : n < 2 ^ 63) : i64 n = n :=
  Int.bmod_eq_of_le hlo hhi

theorem daysBeforeMonth_eq (d : CivilDate) :
    (daysBeforeMonth d.year d.month : Int)
      = if d.month ≤ 2 then 31 * (d.month - 1)
        else (153 * (d.month - 3) + 2) / 5 + 59 + if IsLeap d.year then 1 else 0 := by
  have hlo := d.month_pos
  have hhi := d.month_le
  generalize d.month = m at hlo hhi ⊢
  generalize d.year = y
  by_cases h : IsLeap y <;> interval_cases m <;>
    simp [daysBeforeMonth, Finset.sum_Ico_succ_top, monthLength, h]

/-- The days of the years before, March years. -/
theorem ordinal_eq (d : CivilDate) :
    (d.ordinal : Int) =
      let year : Int := d.year - if d.month ≤ 2 then 1 else 0
      let monthPrime : Int := d.month + if d.month ≤ 2 then 9 else -3
      365 * year + year / 4 - year / 100 + year / 400 + (153 * monthPrime + 2) / 5 + d.day - 307 := by
  obtain ⟨y, hy⟩ := Nat.exists_eq_add_of_le d.year_pos
  have hyears := daysBefore_eq y
  have hmonths := daysBeforeMonth_eq d
  have hday := d.day_pos
  have hlo := d.month_pos
  have hhi := d.month_le
  rw [show y + 1 = d.year by omega] at hyears
  unfold CivilDate.ordinal
  push_cast [Nat.cast_sub hday]
  rw [hmonths]
  generalize daysBefore d.year = n at hyears ⊢
  generalize d.year = year at *
  generalize d.month = m at *
  subst hy
  by_cases hleap : IsLeap (1 + y)
  · rw [if_pos hleap]
    unfold IsLeap at hleap
    by_cases h : m ≤ 2
    · simp only [if_pos h]
      interval_cases m <;> push_cast <;> omega
    · simp only [if_neg h]
      push_cast
      omega
  · rw [if_neg hleap]
    unfold IsLeap at hleap
    by_cases h : m ≤ 2
    · simp only [if_pos h]
      interval_cases m <;> push_cast <;> omega
    · have hcommon : (1 + y : Int) / 4 - (1 + y : Int) / 100 + (1 + y : Int) / 400
          = (y : Int) / 4 - (y : Int) / 100 + (y : Int) / 400 := by
        clear hmonths hyears
        omega
      clear hleap
      simp only [if_neg h]
      push_cast
      omega

/-- The years of representable dates are small. -/
theorem Representable.year_lt {d : CivilDate} (h : Representable d) : d.year * 365 < 2 ^ 63 := by
  have hyears := daysBefore_eq d.year
  unfold Representable at h
  omega

theorem Representable.ordinal_lt {d : CivilDate} (h : Representable d) : d.ordinal + 306 < 2 ^ 63 := by
  have hlt := d.ordinal_lt_year
  unfold Representable at h
  omega

theorem daysFromCivil_eq {d : CivilDate} (h : Representable d) :
    daysFromCivil d.year d.month d.day = dayNumber d := by
  have hordinal := ordinal_eq d
  have hyear := h.year_lt
  have hlt := h.ordinal_lt
  have hpos := d.year_pos
  unfold daysFromCivil dayNumber
  simp only at hordinal ⊢
  by_cases hm : d.month ≤ 2
  · have hm' : (d.month : Int) ≤ 2 := by exact_mod_cast hm
    have hm'' : ¬ (d.month : Int) > 2 := not_lt.2 hm'
    simp only [if_pos hm] at hordinal
    have hmarch : i64 ((d.year : Int) - 1) = d.year - 1 := i64_self (by omega) (by omega)
    rw [if_pos hm', if_neg hm'', hmarch, i64_self (by omega) (by omega)]
    omega
  · have hm' : ¬ (d.month : Int) ≤ 2 := by exact_mod_cast hm
    have hm'' : (d.month : Int) > 2 := not_le.1 hm'
    simp only [if_neg hm] at hordinal
    have hmarch : i64 ((d.year : Int) - 0) = d.year - 0 := i64_self (by omega) (by omega)
    rw [if_neg hm', if_pos hm'', hmarch, i64_self (by omega) (by omega)]
    omega

/-! ## The text of a date -/

theorem padded_natCast (width n : Nat) :
    padded width n = List.replicate (width - (Nat.toDigits 10 n).length) '0' ++ Nat.toDigits 10 n := by
  rw [padded, if_neg (by omega), Int.natAbs_natCast, List.leftpad]

theorem all_isDigit_padded (width n : Nat) : (padded width n).all Char.isDigit = true := by
  rw [padded_natCast, List.all_append, Text.all_isDigit_replicate, Text.all_isDigit_toDigits]
  rfl

theorem padded_ne_nil (width n : Nat) : padded width n ≠ [] := by
  rw [padded_natCast]
  simp [Nat.toDigits_ne_nil]

theorem ofDigitChars_padded (width n : Nat) : Nat.ofDigitChars 10 (padded width n) 0 = n := by
  rw [padded_natCast, Nat.ofDigitChars_append, Nat.ofDigitChars_replicate_zero, Nat.mul_zero,
    Nat.ofDigitChars_ten_toDigits]

theorem parseSigned_padded (width : Nat) {n : Nat} (h : n < 2 ^ 63) :
    Text.parseSigned (2 ^ 63) (padded width n) = some (n : Int) := by
  rw [Text.parseSigned_digits (padded_ne_nil _ _) (all_isDigit_padded _ _), ofDigitChars_padded,
    if_pos h]

theorem not_dash_of_digits {digits : List Char} (h : digits.all Char.isDigit = true) :
    '-' ∉ digits := by
  intro hmem
  exact absurd (List.all_eq_true.1 h _ hmem) (by decide)

/-- The text splits into its three parts. -/
theorem splitOn_dateText (year month day : Nat) :
    (dateText year month day).toList.splitOn '-' = [padded 4 year, padded 2 month, padded 2 day] := by
  rw [dateText, String.toList_ofList,
    List.splitOn_append_cons_self_of_not_mem (not_dash_of_digits (all_isDigit_padded 4 year)),
    List.splitOn_append_cons_self_of_not_mem (not_dash_of_digits (all_isDigit_padded 2 month)),
    List.splitOn_eq_singleton (not_dash_of_digits (all_isDigit_padded 2 day))]

theorem maxDay_eq (d : CivilDate) : maxDay d.year d.month = monthLength d.year d.month := by
  have hlo := d.month_pos
  have hhi := d.month_le
  have hleap : ((d.year : Int) % 4 = 0 ∧ ((d.year : Int) % 100 ≠ 0 ∨ (d.year : Int) % 400 = 0))
      ↔ IsLeap d.year := by
    unfold IsLeap
    omega
  unfold maxDay
  simp only [hleap]
  generalize d.month = m at *
  by_cases h : IsLeap d.year <;> interval_cases m <;> simp [monthLength, h]

/-- A text of which the parts are read as those of a date is read as its number. -/
theorem parseDate_of_parts {value : String} {d : CivilDate} (h : Representable d)
    (hparts : (value.toList.splitOn '-').mapM (Text.parseSigned (2 ^ 63))
      = some [(d.year : Int), (d.month : Int), (d.day : Int)]) :
    parseDate value = .ok (dayNumber d) := by
  have hmonths : 1 ≤ (d.month : Int) ∧ (d.month : Int) ≤ 12 := by
    exact_mod_cast And.intro d.month_pos d.month_le
  have hdays : 1 ≤ (d.day : Int) ∧ (d.day : Int) ≤ maxDay d.year d.month := by
    rw [maxDay_eq]
    exact_mod_cast And.intro d.day_pos d.day_le
  unfold parseDate
  rw [hparts]
  simp only [Except.bind_eq_ok, Except.ensure_eq_ok, Except.pure_eq_ok, exists_const]
  exact ⟨hmonths, hdays, daysFromCivil_eq h⟩

theorem Representable.parts_lt {d : CivilDate} (h : Representable d) :
    d.year < 2 ^ 63 ∧ d.month < 2 ^ 63 ∧ d.day < 2 ^ 63 := by
  have hyear := h.year_lt
  have hmonth := d.month_le
  have hday := d.day_le.trans (monthLength_le _ _)
  omega

/-- **A date is read as its number.** -/
theorem parseDate_text {d : CivilDate} (h : Representable d) :
    parseDate (text d) = .ok (dayNumber d) := by
  obtain ⟨hyear, hmonth, hday⟩ := h.parts_lt
  apply parseDate_of_parts h
  rw [text, splitOn_dateText]
  simp only [List.mapM_cons, List.mapM_nil, parseSigned_padded 4 hyear, parseSigned_padded 2 hmonth,
    parseSigned_padded 2 hday]
  rfl

/-! ## The date of a number -/

/-- The year of a cycle of 400 March years, back from the day. The leap day ends the last year of four,
and of a century only in its fourth. -/
theorem yearOfEra_eq {r doy : Int} (hr : 0 ≤ r) (hr' : r < 400) (hdoy : 0 ≤ doy) (hdoy' : doy ≤ 365)
    (hleap : doy = 365 → (r + 1) % 4 = 0 ∧ ((r + 1) % 100 ≠ 0 ∨ (r + 1) % 400 = 0)) :
    let doe := 365 * r + r / 4 - r / 100 + doy
    0 ≤ doe ∧ doe < 146097 ∧ (doe - doe / 1460 + doe / 36524 - doe / 146096) / 365 = r := by
  intro doe
  obtain ⟨c, s, hc, hc', hs, hs', rfl⟩ : ∃ c s : Int, 0 ≤ c ∧ c ≤ 3 ∧ 0 ≤ s ∧ s < 100 ∧ r = 100 * c + s :=
    ⟨r / 100, r % 100, by omega, by omega, by omega, by omega, by omega⟩
  obtain ⟨q, t, hq, hq', ht, ht', rfl⟩ : ∃ q t : Int, 0 ≤ q ∧ q ≤ 24 ∧ 0 ≤ t ∧ t < 4 ∧ s = 4 * q + t :=
    ⟨s / 4, s % 4, by omega, by omega, by omega, by omega, by omega⟩
  have hdoe : doe = 36524 * c + 1461 * q + 365 * t + doy := by
    simp only [doe]
    omega
  clear_value doe
  have hleap' : doy = 365 → t = 3 ∧ (q = 24 → c = 3) := by
    intro h
    have := hleap h
    omega
  clear hleap
  have h36524 : doe / 36524 = if q = 24 ∧ t = 3 ∧ doy = 365 then 4 else c := by
    split <;> omega
  have h146096 : doe / 146096 = if q = 24 ∧ t = 3 ∧ doy = 365 then 1 else 0 := by
    split <;> omega
  have h1460 : doe / 1460 = 25 * c + q + if 1460 ≤ 24 * c + q + 365 * t + doy then 1 else 0 := by
    split <;> omega
  refine ⟨by omega, by omega, ?_⟩
  rw [h36524, h146096, h1460]
  split <;> split <;> omega

/-- The month, back from the day of the March year; `length` is that of the month. -/
theorem monthPrime_eq {monthPrime day length : Int} (hlo : 0 ≤ monthPrime)
    (hday : 1 ≤ day) (hlength : day ≤ length)
    (hmonth : (monthPrime = 11 ∧ length ≤ 29) ∨
      (monthPrime ≤ 10 ∧ (153 * monthPrime + 2) / 5 + length = (153 * (monthPrime + 1) + 2) / 5)) :
    (5 * ((153 * monthPrime + 2) / 5 + day - 1) + 2) / 153 = monthPrime := by
  rcases hmonth with ⟨rfl, hfebruary⟩ | ⟨hhi, hsum⟩
  · omega
  · interval_cases monthPrime <;> omega

/-- The months of the March year follow each other by the rule of 153 days in five months. -/
theorem monthLength_march (d : CivilDate) {mp : Int}
    (hmp : mp = d.month + if d.month ≤ 2 then 9 else -3) :
    (mp = 11 ∧ (monthLength d.year d.month : Int) = if IsLeap d.year then 29 else 28) ∨
      (mp ≤ 10 ∧ (153 * mp + 2) / 5 + (monthLength d.year d.month : Int)
        = (153 * (mp + 1) + 2) / 5) := by
  have hlo := d.month_pos
  have hhi := d.month_le
  generalize d.year = y
  generalize d.month = m at *
  subst hmp
  by_cases hleap : IsLeap y <;> interval_cases m <;> simp [monthLength, hleap]

/-- Cycles of 400 March years have 146097 days. -/
theorem cycle_eq (year : Int) : 365 * year + year / 4 - year / 100 + year / 400
    = year / 400 * 146097 + (365 * (year % 400) + year % 400 / 4 - year % 400 / 100) := by
  obtain ⟨era, r, hr, hr', rfl⟩ : ∃ era r : Int, 0 ≤ r ∧ r < 400 ∧ year = 400 * era + r :=
    ⟨year / 400, year % 400, by omega, by omega, by omega⟩
  have hera : (400 * era + r) / 400 = era := by omega
  have hrest : (400 * era + r) % 400 = r := by omega
  rw [hera, hrest]
  omega

theorem civilDateFromDays_march {n year mp doy : Int} (hdoy : 0 ≤ doy) (hdoy' : doy ≤ 365)
    (hleap : doy = 365 → (year + 1) % 4 = 0 ∧ ((year + 1) % 100 ≠ 0 ∨ (year + 1) % 400 = 0))
    (hprime : (5 * doy + 2) / 153 = mp)
    (hn : i64 (n + 719468) = 365 * year + year / 4 - year / 100 + year / 400 + doy) :
    civilDateFromDays n = (year + (if mp + (if mp < 10 then 3 else -9 : Int) ≤ 2 then 1 else 0 : Int),
      mp + (if mp < 10 then 3 else -9 : Int), doy - (153 * mp + 2) / 5 + 1) := by
  have hleap' : doy = 365 → (year % 400 + 1) % 4 = 0 ∧
      ((year % 400 + 1) % 100 ≠ 0 ∨ (year % 400 + 1) % 400 = 0) := by
    intro h
    have := hleap h
    omega
  obtain ⟨hdoe, hdoe', hyoe⟩ := yearOfEra_eq (Int.emod_nonneg year (by decide))
    (Int.emod_lt_of_pos year (by decide)) hdoy hdoy' hleap'
  rw [cycle_eq, add_assoc] at hn
  have hera : i64 (n + 719468) / 146097 = year / 400 := by
    rw [hn]
    omega
  have hrest : i64 (n + 719468) - year / 400 * 146097
      = 365 * (year % 400) + year % 400 / 4 - year % 400 / 100 + doy := by
    rw [hn, add_sub_cancel_left]
  have hback : 365 * (year % 400) + year % 400 / 4 - year % 400 / 100 + doy
      - (365 * (year % 400) + year % 400 / 4 - year % 400 / 100) = doy :=
    add_sub_cancel_left _ _
  have hyear : year % 400 + year / 400 * 400 = year := by omega
  unfold civilDateFromDays
  simp only [hera, hrest, hyoe, hback, hprime, hyear]

/-- The days from 1 March of the year 0. -/
theorem i64_dayNumber {d : CivilDate} (h : Representable d) :
    i64 (dayNumber d + 719468) = d.ordinal + 306 := by
  have hlt := h.ordinal_lt
  unfold dayNumber
  rw [i64_self (by omega) (by omega)]
  omega

theorem civilDateFromDays_dayNumber {d : CivilDate} (h : Representable d) :
    civilDateFromDays (dayNumber d) = ((d.year : Int), (d.month : Int), (d.day : Int)) := by
  have hordinal := ordinal_eq d
  have hday : 1 ≤ (d.day : Int) := by exact_mod_cast d.day_pos
  have hday' : (d.day : Int) ≤ monthLength d.year d.month := by exact_mod_cast d.day_le
  have hlo := d.month_pos
  have hhi := d.month_le
  simp only at hordinal
  obtain ⟨year, hyear⟩ : ∃ year : Int, year = d.year - (if d.month ≤ 2 then 1 else 0 : Int) :=
    ⟨_, rfl⟩
  obtain ⟨mp, hmp⟩ : ∃ mp : Int, mp = d.month + (if d.month ≤ 2 then 9 else -3 : Int) := ⟨_, rfl⟩
  rw [← hyear, ← hmp] at hordinal
  have hmplo : 0 ≤ mp := by
    split at hmp <;> omega
  obtain ⟨doy, hdoy⟩ : ∃ doy : Int, doy = (153 * mp + 2) / 5 + d.day - 1 := ⟨_, rfl⟩
  have hdays : i64 (dayNumber d + 719468)
      = 365 * year + year / 4 - year / 100 + year / 400 + doy := by
    rw [i64_dayNumber h, hordinal, hdoy]
    omega
  have hlength := monthLength_march d hmp
  have hprime : (5 * doy + 2) / 153 = mp := by
    rw [hdoy]
    refine monthPrime_eq hmplo hday hday' (hlength.imp (fun h => ⟨h.1, ?_⟩) id)
    rw [h.2]
    split <;> decide
  have hdoyhi : doy ≤ 365 := by
    rcases hlength with ⟨hmp11, hlen⟩ | ⟨hmp10, hlen⟩
    · split at hlen <;> omega
    · omega
  -- the day 365 is 29 February
  have hleap : doy = 365 → (year + 1) % 4 = 0 ∧
      ((year + 1) % 100 ≠ 0 ∨ (year + 1) % 400 = 0) := by
    intro hlast
    rcases hlength with ⟨hmp11, hlen⟩ | ⟨hmp10, hlen⟩
    · have hfebruary : d.month ≤ 2 := by
        by_contra hm
        rw [if_neg hm] at hmp
        omega
      rw [if_pos hfebruary] at hyear
      split at hlen
      · rename_i hl
        unfold IsLeap at hl
        omega
      · omega
    · omega
  rw [civilDateFromDays_march (by omega) hdoyhi hleap hprime hdays]
  have hmonth : mp + (if mp < 10 then 3 else -9 : Int) = d.month := by
    split at hmp <;> split <;> omega
  rw [hmonth, Prod.mk.injEq, Prod.mk.injEq]
  refine ⟨?_, rfl, by omega⟩
  rw [hyear]
  by_cases hm : d.month ≤ 2
  · rw [if_pos hm, if_pos (by exact_mod_cast hm), sub_add_cancel]
  · rw [if_neg hm, if_neg (by exact_mod_cast hm), sub_zero, add_zero]

theorem weekday_dayNumber {d : CivilDate} (h : Representable d) :
    weekday (dayNumber d) = d.weekday := by
  have hlt := h.ordinal_lt
  unfold weekday dayNumber CivilDate.weekday
  rw [i64_self (by omega) (by omega)]
  omega

/-! ## Easter -/

/-- The steps of `gregorian_easter` in a year from 1 on, where no operand is negative. -/
theorem gregorianEaster_eq {year : Int} (hyear : 0 ≤ year) :
    ∃ d e i k h l m : Int,
      year = 400 * d + 100 * e + 4 * i + k ∧ 0 ≤ d ∧ 0 ≤ e ∧ e < 4 ∧ 0 ≤ i ∧ i < 25 ∧ 0 ≤ k ∧ k < 4 ∧
      h = (19 * (year % 19) + (4 * d + e) - d - (8 * (4 * d + e) + 13) / 25 + 15) % 30 ∧
      l = (32 + 2 * e + 2 * i - h - k) % 7 ∧
      m = (year % 19 + 11 * h + 22 * l) / 451 ∧
      (0 ≤ h + l - 7 * m + 114 →
        gregorianEaster year = ((h + l - 7 * m + 114) / 31, (h + l - 7 * m + 114) % 31 + 1)) := by
  refine ⟨year / 100 / 4, year / 100 % 4, year % 100 / 4, year % 100 % 4, _, _, _, by omega, by omega,
    by omega, by omega, by omega, by omega, by omega, by omega, rfl, rfl, rfl, ?_⟩
  have hb : 4 * (year / 100 / 4) + year / 100 % 4 = year / 100 := by omega
  have hg : (year / 100 - (year / 100 + 8) / 25 + 1) / 3 = (8 * (year / 100) + 13) / 25 := by omega
  rw [hb, ← hg]
  have hb0 : 0 ≤ year / 100 := by omega
  have ha0 : 0 ≤ year % 19 := by omega
  generalize hh : (19 * (year % 19) + year / 100 - year / 100 / 4 -
    (year / 100 - (year / 100 + 8) / 25 + 1) / 3 + 15) % 30 = h
  have hh0 : 0 ≤ h ∧ h ≤ 29 := by omega
  generalize hl : (32 + 2 * (year / 100 % 4) + 2 * (year % 100 / 4) - h - year % 100 % 4) % 7 = l
  have hl0 : 0 ≤ l := by omega
  intro hvalue
  unfold gregorianEaster
  simp only
  rw [Int.tmod_eq_emod_of_nonneg hyear, Int.tdiv_eq_ediv_of_nonneg hyear,
    Int.tmod_eq_emod_of_nonneg hyear, Int.tdiv_eq_ediv_of_nonneg hb0, Int.tmod_eq_emod_of_nonneg hb0,
    Int.tdiv_eq_ediv_of_nonneg (show 0 ≤ year / 100 + 8 by omega),
    Int.tdiv_eq_ediv_of_nonneg (show 0 ≤ year / 100 - (year / 100 + 8) / 25 + 1 by omega),
    Int.tmod_eq_emod_of_nonneg (show 0 ≤ 19 * (year % 19) + year / 100 - year / 100 / 4 -
      (year / 100 - (year / 100 + 8) / 25 + 1) / 3 + 15 by omega), hh,
    Int.tdiv_eq_ediv_of_nonneg (show 0 ≤ year % 100 by omega),
    Int.tmod_eq_emod_of_nonneg (show 0 ≤ year % 100 by omega),
    Int.tmod_eq_emod_of_nonneg (show 0 ≤ 32 + 2 * (year / 100 % 4) + 2 * (year % 100 / 4) - h -
      year % 100 % 4 by omega), hl,
    Int.tdiv_eq_ediv_of_nonneg (show 0 ≤ year % 19 + 11 * h + 22 * l by omega),
    Int.tdiv_eq_ediv_of_nonneg hvalue, Int.tmod_eq_emod_of_nonneg hvalue]

/-- The day `n` days after 22 March. -/
theorem exists_springDate (year : Nat) (hyear : 1 ≤ year) {n : Nat} (hn : n ≤ 34) :
    ∃ d : CivilDate, d.year = year ∧ d.ordinal = (equinox year hyear).ordinal + 1 + n ∧
      ((n ≤ 9 ∧ d.month = 3 ∧ d.day = 22 + n) ∨ (10 ≤ n ∧ d.month = 4 ∧ d.day = n - 9)) := by
  have hmarch : daysBeforeMonth year 4 = daysBeforeMonth year 3 + 31 :=
    daysBeforeMonth_succ year (by decide)
  by_cases h : n ≤ 9
  · refine ⟨⟨year, 3, 22 + n, hyear, by decide, by decide, by omega, show 22 + n ≤ 31 by omega⟩,
      rfl, ?_, .inl ⟨h, rfl, rfl⟩⟩
    unfold CivilDate.ordinal equinox
    simp only
    omega
  · refine ⟨⟨year, 4, n - 9, hyear, by decide, by decide, by omega, show n - 9 ≤ 30 by omega⟩,
      rfl, ?_, .inr ⟨by omega, rfl, rfl⟩⟩
    unfold CivilDate.ordinal equinox
    simp only [hmarch]
    omega

theorem ordinal_equinox (year : Nat) (hyear : 1 ≤ year) :
    ((equinox year hyear).ordinal : Int)
      = 365 * year + (year : Int) / 4 - (year : Int) / 100 + (year : Int) / 400 - 286 := by
  rw [ordinal_eq]
  simp only [equinox]
  norm_num
  omega

/-- `h` of `gregorian_easter` is the age of the moon the other way round. -/
theorem moonAfterEquinox_eq {year : Nat} {d e h : Int} (hc : ((year / 100 : Nat) : Int) = 4 * d + e)
    (he : 0 ≤ e) (he' : e < 4)
    (hh : h = (19 * ((year % 19 : Nat) : Int) + (4 * d + e) - d - (8 * (4 * d + e) + 13) / 25 + 15) % 30) :
    (moonAfterEquinox year : Int) = if h = 29 ∨ (h = 28 ∧ 10 < year % 19) then h - 1 else h := by
  have hepact : (epact year : Int)
      = (11 * ((year % 19 : Nat) : Int) + 8 + (d + (8 * (4 * d + e) + 13) / 25 - (4 * d + e))) % 30 := by
    have hd : (4 * d + e) / 4 = d := by omega
    unfold epact
    simp only
    rw [Int.toNat_of_nonneg (Int.emod_nonneg _ (by decide)), hc, hd]
    push_cast
    rfl
  have hsum : (epact year : Int) = if h ≤ 23 then 23 - h else 53 - h := by
    rw [hepact, hh]
    split <;> omega
  have hh0 : 0 ≤ h ∧ h ≤ 29 := by omega
  unfold moonAfterEquinox
  simp only
  clear hepact hh hc
  generalize epact year = E at hsum ⊢
  split at hsum <;> split <;> split <;> omega

theorem year_parts {year d e i k : Int} (hyear : year = 400 * d + 100 * e + 4 * i + k) (he : 0 ≤ e)
    (he' : e < 4) (hi : 0 ≤ i) (hi' : i < 25) (hk : 0 ≤ k) (hk' : k < 4) :
    year / 4 = 100 * d + 25 * e + i ∧ year / 100 = 4 * d + e ∧ year / 400 = d := by
  refine ⟨?_, ?_, ?_⟩ <;> omega

/-- `l` leads from the day after `h` to a Sunday. -/
theorem sunday_eq {year d e i k h l m equinox n : Int} (hyear : year = 400 * d + 100 * e + 4 * i + k)
    (hl : l = (32 + 2 * e + 2 * i - h - k) % 7)
    (hequinox : equinox = 365 * year + (100 * d + 25 * e + i) - (4 * d + e) + d - 286)
    (hn : n = h + l - 7 * m) : (equinox + 1 + n) % 7 = 6 := by
  omega

/-- `m` of `gregorian_easter` takes a week off the latest Sundays. -/
theorem correction_eq {golden : Nat} {h l m : Int} (hgolden : golden < 19) (hh : 0 ≤ h ∧ h ≤ 29)
    (hl : 0 ≤ l ∧ l ≤ 6) (hm : m = ((golden : Int) + 11 * h + 22 * l) / 451) :
    m = if (h = 29 ∧ l = 6) ∨ (h = 28 ∧ l = 6 ∧ 10 < golden) then 1 else 0 := by
  split <;> omega

/-- That Sunday is within a week of the full moon, and in March or April. -/
theorem sunday_near {golden : Nat} {h l m moon n : Int} (hh : 0 ≤ h ∧ h ≤ 29) (hl : 0 ≤ l ∧ l ≤ 6)
    (hmoon : moon = if h = 29 ∨ (h = 28 ∧ 10 < golden) then h - 1 else h)
    (hm : m = if (h = 29 ∧ l = 6) ∨ (h = 28 ∧ l = 6 ∧ 10 < golden) then 1 else 0)
    (hn : n = h + l - 7 * m) : moon ≤ n ∧ n ≤ moon + 6 ∧ 0 ≤ n ∧ n ≤ 34 := by
  split at hmoon <;> split at hm <;> omega

theorem after_moon (equinox : Nat) {moon n : Nat} (hlo : (moon : Int) ≤ n) (hhi : (n : Int) ≤ moon + 6) :
    equinox + moon < equinox + 1 + n ∧ equinox + 1 + n ≤ equinox + moon + 7 := by
  omega

/-- **The date of Easter.** It is the Sunday after the paschal full moon. -/
theorem gregorianEaster_spec (year : Nat) (hyear : 1 ≤ year) :
    ∃ easter : CivilDate, easter.year = year ∧
      gregorianEaster year = ((easter.month : Int), (easter.day : Int)) ∧ easter.IsEaster ∧
      ((easter.month = 3 ∧ 22 ≤ easter.day) ∨ (easter.month = 4 ∧ easter.day ≤ 25)) := by
  obtain ⟨d, e, i, k, h, l, m, hY, hd, he, he', hi, hi', hk, hk', hh, hl, hm, heaster⟩ :=
    @gregorianEaster_eq year (by omega)
  obtain ⟨hquarter, hcentury, hcycle⟩ := year_parts hY he he' hi hi' hk hk'
  have hh0 : 0 ≤ h ∧ h ≤ 29 := by
    clear hm hl hY
    omega
  have hl0 : 0 ≤ l ∧ l ≤ 6 := by
    clear hm hh hY
    omega
  have hmoon : (moonAfterEquinox year : Int)
      = if h = 29 ∨ (h = 28 ∧ 10 < year % 19) then h - 1 else h :=
    moonAfterEquinox_eq (by push_cast; exact hcentury) he he' (by push_cast; exact hh)
  have hm' : m = if (h = 29 ∧ l = 6) ∨ (h = 28 ∧ l = 6 ∧ 10 < year % 19) then 1 else 0 :=
    correction_eq (Nat.mod_lt year (by decide)) hh0 hl0 (by push_cast; exact hm)
  obtain ⟨hlo, hhi, hn0, hn34⟩ := sunday_near hh0 hl0 hmoon hm' rfl
  obtain ⟨n, hn⟩ := Int.eq_ofNat_of_zero_le hn0
  rw [hn] at hlo hhi hn34
  obtain ⟨easter, hyear', hordinal, hspring⟩ := exists_springDate year hyear (Int.ofNat_le.1 hn34)
  have hequinox := ordinal_equinox year hyear
  refine ⟨easter, hyear', ?_, ?_, ?_⟩
  · clear hh hl hm hm' hmoon hY hequinox
    rw [heaster (by omega), hn]
    rcases hspring with ⟨h9, hmonth, hday⟩ | ⟨h10, hmonth, hday⟩
    · rw [hmonth, hday, Prod.mk.injEq]
      push_cast
      omega
    · rw [hmonth, hday, Prod.mk.injEq]
      push_cast
      omega
  · have hdate : easter.IsEaster ↔ easter.ordinal % 7 = 6 ∧
        (equinox year hyear).ordinal + moonAfterEquinox year < easter.ordinal ∧
        easter.ordinal ≤ (equinox year hyear).ordinal + moonAfterEquinox year + 7 := by
      unfold CivilDate.IsEaster CivilDate.weekday
      simp only [hyear']
    rw [hdate, hordinal]
    refine ⟨?_, after_moon _ hlo hhi⟩
    · rw [hquarter, hcentury, hcycle] at hequinox
      have hsunday := sunday_eq hY hl hequinox hn.symm
      exact Int.ofNat_inj.1 (by push_cast; exact hsunday)
  · clear hh hl hm hm' hmoon hY hequinox
    rcases hspring with ⟨h9, hmonth, hday⟩ | ⟨h10, hmonth, hday⟩
    · exact .inl ⟨hmonth, by omega⟩
    · exact .inr ⟨hmonth, by omega⟩

/-! ## Operating days -/

theorem Representable.mono {a b : CivilDate} (hb : Representable b) (h : a ≤ b) : Representable a := by
  have hyear : a.year ≤ b.year := by
    by_contra hlt
    exact absurd (CivilDate.lt_iff.2 (.inl (not_le.1 hlt))) (not_lt.2 h)
  have hdays := daysBefore_mono (Nat.succ_le_succ hyear)
  unfold Representable at *
  exact lt_of_le_of_lt (Nat.add_le_add_right hdays _) hb

/-- The dates of one year are representable together. -/
theorem Representable.of_year {a b : CivilDate} (hb : Representable b) (h : a.year = b.year) :
    Representable a := by
  unfold Representable at *
  rwa [h]

theorem dayNumber_next (d : CivilDate) : dayNumber d.next = dayNumber d + 1 := by
  unfold dayNumber
  rw [CivilDate.ordinal_next]
  omega

theorem dayNumber_lt {a b : CivilDate} : dayNumber a < dayNumber b ↔ a < b := by
  rw [← CivilDate.ordinal_lt]
  unfold dayNumber
  omega

/-- A date of the year lies two days before, or one after, the Easter Sunday of the code. -/
theorem holiday_iff {d easter : CivilDate} (hyear : easter.year = d.year) (heaster : easter.IsEaster) :
    Holiday d ↔ ((d.month = 1 ∧ d.day = 1) ∨ (d.month = 5 ∧ d.day = 1) ∨
      (d.month = 12 ∧ (d.day = 25 ∨ d.day = 26))) ∨
      d.ordinal + 2 = easter.ordinal ∨ d.ordinal = easter.ordinal + 1 := by
  have hunique : (∃ e : CivilDate, e.year = d.year ∧ e.IsEaster ∧
      (d.ordinal + 2 = e.ordinal ∨ d.ordinal = e.ordinal + 1)) ↔
      d.ordinal + 2 = easter.ordinal ∨ d.ordinal = easter.ordinal + 1 := by
    constructor
    · rintro ⟨e, he, hsunday, h⟩
      rwa [hsunday.unique heaster (he.trans hyear.symm)] at h
    · exact fun h => ⟨easter, hyear, heaster, h⟩
  unfold Holiday
  rw [hunique, or_assoc, or_assoc]

theorem isTargetOperatingDay_dayNumber {d : CivilDate} (h : Representable d) :
    ∃ operating, isTargetOperatingDay (dayNumber d) = .ok operating ∧
      (operating = true ↔ Operating d) := by
  obtain ⟨easter, hyear, hdate, hsunday, -⟩ := gregorianEaster_spec d.year d.year_pos
  have hparse : parseDate (dateText d.year easter.month easter.day) = .ok (dayNumber easter) := by
    rw [← hyear]
    exact parseDate_text (h.of_year hyear)
  unfold isTargetOperatingDay Operating
  rw [weekday_dayNumber h, holiday_iff hyear hsunday, civilDateFromDays_dayNumber h]
  by_cases hweekend : 5 ≤ d.weekday
  · rw [if_pos (by exact_mod_cast hweekend)]
    exact ⟨false, rfl, by simp; omega⟩
  · rw [if_neg (by exact_mod_cast hweekend)]
    simp only [hdate]
    by_cases hfixed : (d.month = 1 ∧ d.day = 1) ∨ (d.month = 5 ∧ d.day = 1) ∨
        (d.month = 12 ∧ (d.day = 25 ∨ d.day = 26))
    · rw [if_pos (by exact_mod_cast hfixed)]
      exact ⟨false, rfl, by simp [hfixed]⟩
    · rw [if_neg (by exact_mod_cast hfixed), hparse]
      refine ⟨_, rfl, ?_⟩
      unfold dayNumber
      simp only [Bool.and_eq_true, decide_eq_true_eq]
      have hweek : d.weekday < 5 := not_le.1 hweekend
      constructor
      · rintro ⟨hfriday, hmonday⟩
        refine ⟨hweek, ?_⟩
        rintro (hf | hf | hf)
        · exact hfixed hf
        · omega
        · omega
      · rintro ⟨-, hnot⟩
        rw [not_or, not_or] at hnot
        omega

theorem finite_operatingDays (a b : CivilDate) : {d ∈ Set.Ioc a b | Operating d}.Finite := by
  apply Set.Finite.subset _ (Set.sep_subset _ _)
  apply Set.Finite.of_finite_image _ CivilDate.ordinal_injective.injOn
  apply (Set.finite_Ioc a.ordinal b.ordinal).subset
  rintro _ ⟨d, ⟨hlo, hhi⟩, rfl⟩
  exact ⟨CivilDate.ordinal_lt.2 hlo, CivilDate.ordinal_le.2 hhi⟩

theorem operatingDays_of_le {a b : CivilDate} (h : b ≤ a) : operatingDays a b = 0 := by
  unfold operatingDays
  rw [Set.Ioc_eq_empty (not_lt.2 h), Set.sep_empty, Set.ncard_empty]

/-- **Consecutive intervals add up.** -/
theorem operatingDays_add {a b c : CivilDate} (hab : a ≤ b) (hbc : b ≤ c) :
    operatingDays a b + operatingDays b c = operatingDays a c := by
  unfold operatingDays
  rw [← Set.ncard_union_eq _ (finite_operatingDays a b) (finite_operatingDays b c)]
  · congr 1
    ext d
    rw [Set.mem_union, Set.mem_sep_iff, Set.mem_sep_iff, Set.mem_sep_iff,
      ← Set.Ioc_union_Ioc_eq_Ioc hab hbc, Set.mem_union]
    tauto
  · rw [Set.disjoint_left]
    rintro d ⟨⟨-, hd⟩, -⟩ ⟨⟨hd', -⟩, -⟩
    exact absurd hd' (not_lt.2 hd)

theorem operatingDays_le (a b : CivilDate) : operatingDays a b ≤ b.ordinal - a.ordinal := by
  have himage : Set.image CivilDate.ordinal {d ∈ Set.Ioc a b | Operating d}
      ⊆ Set.Ioc a.ordinal b.ordinal := by
    rintro _ ⟨d, ⟨⟨hlo, hhi⟩, -⟩, rfl⟩
    exact ⟨CivilDate.ordinal_lt.2 hlo, CivilDate.ordinal_le.2 hhi⟩
  have hdays : (Set.Ioc a.ordinal b.ordinal).ncard = b.ordinal - a.ordinal := by
    rw [Set.ncard_eq_toFinset_card', Set.toFinset_Ioc, Nat.card_Ioc]
  have hcard := Set.ncard_le_ncard himage (Set.finite_Ioc _ _)
  rw [Set.ncard_image_of_injective _ CivilDate.ordinal_injective, hdays] at hcard
  exact hcard

open Classical in
theorem operatingDays_next (a : CivilDate) :
    operatingDays a a.next = if Operating a.next then 1 else 0 := by
  have hsingle : Set.Ioc a a.next = {a.next} := by
    ext d
    rw [Set.mem_Ioc, Set.mem_singleton_iff]
    constructor
    · rintro ⟨hlo, hhi⟩
      exact hhi.eq_of_not_lt fun hlt => (CivilDate.covBy_next a).2 hlo hlt
    · rintro rfl
      exact ⟨(CivilDate.covBy_next a).1, le_rfl⟩
  unfold operatingDays
  rw [hsingle]
  split
  · rename_i h
    have hsep : {d ∈ ({a.next} : Set CivilDate) | Operating d} = {a.next} := by
      ext d
      simp only [Set.mem_singleton_iff]
      exact ⟨And.left, fun hd => ⟨hd, hd ▸ h⟩⟩
    rw [hsep, Set.ncard_singleton]
  · rename_i h
    have hsep : {d ∈ ({a.next} : Set CivilDate) | Operating d} = ∅ := by
      ext d
      simp only [Set.mem_singleton_iff, Set.mem_empty_iff_false, iff_false]
      exact fun hd => h (hd.1 ▸ hd.2)
    rw [hsep, Set.ncard_empty]

/-- The loop, one day after the other. -/
theorem countOperatingDays_eq {b : CivilDate} (hb : Representable b) (days : Nat) :
    ∀ (a : CivilDate) (count : Nat), a.ordinal + days = b.ordinal → count < 2 ^ 32 →
      countOperatingDays (dayNumber a + 1) days count
        = .ok ((count + operatingDays a b) % 2 ^ 32) := by
  induction days with
  | zero =>
    intro a count hab hcount
    obtain rfl : a = b := CivilDate.ordinal_injective hab
    rw [countOperatingDays, operatingDays_of_le le_rfl, Nat.add_zero, Nat.mod_eq_of_lt hcount]
  | succ days ih =>
    intro a count hab hcount
    have hnext : a.next.ordinal + days = b.ordinal := by
      rw [CivilDate.ordinal_next]
      omega
    have hle : a.next ≤ b := by
      rw [← CivilDate.ordinal_le]
      omega
    obtain ⟨operating, hday, hiff⟩ := isTargetOperatingDay_dayNumber (hb.mono hle)
    rw [dayNumber_next] at hday
    have hstep : countOperatingDays (dayNumber a + 1) (days + 1) count
        = countOperatingDays (dayNumber a.next + 1) days
            (if operating then (count + 1) % 2 ^ 32 else count) := by
      rw [countOperatingDays, hday, dayNumber_next]
      rfl
    rw [hstep, ih a.next _ hnext (by split <;> omega),
      ← operatingDays_add (CivilDate.covBy_next a).1.le hle, operatingDays_next]
    by_cases hop : Operating a.next
    · rw [if_pos (hiff.2 hop), if_pos hop]
      congr 1
      omega
    · rw [if_neg fun h => hop (hiff.1 h), if_neg hop, Nat.zero_add]

/-- **The operating days are counted**, whatever texts the dates are read from. -/
theorem targetBusinessDaysBetween_of_parseDate {s t : String} {a b : CivilDate}
    (hs : parseDate s = .ok (dayNumber a)) (ht : parseDate t = .ok (dayNumber b))
    (hb : Representable b) : targetBusinessDaysBetween s t = .ok (operatingDays a b % 2 ^ 32) := by
  have hparsed : targetBusinessDaysBetween s t
      = if dayNumber b ≤ dayNumber a then .ok 0
        else countOperatingDays (dayNumber a + 1) (dayNumber b - dayNumber a).toNat 0 := by
    rw [targetBusinessDaysBetween, hs, ht]
    rfl
  rw [hparsed]
  by_cases h : b ≤ a
  · rw [if_pos (by rw [← not_lt, dayNumber_lt]; exact not_lt.2 h), operatingDays_of_le h]
    rfl
  · have hlt := CivilDate.ordinal_lt.2 (not_le.1 h)
    rw [if_neg (by rw [not_le, dayNumber_lt]; exact not_le.1 h),
      countOperatingDays_eq hb _ a 0 (by unfold dayNumber; omega) (by decide), Nat.zero_add]

theorem targetBusinessDaysBetween_text {a b : CivilDate} (ha : Representable a) (hb : Representable b) :
    targetBusinessDaysBetween (text a) (text b) = .ok (operatingDays a b % 2 ^ 32) :=
  targetBusinessDaysBetween_of_parseDate (parseDate_text ha) (parseDate_text hb) hb

/-! ## The calendar as a whole -/

/-- **Calendar arithmetic.** -/
theorem calendar_arithmetic {a b c : CivilDate} (ha : Representable a) (hb : Representable b)
    (hc : Representable c) :
    (∃ m n, parseDate (text a) = .ok m ∧ parseDate (text b) = .ok n ∧ (m < n ↔ a < b) ∧
      (a ⋖ b → n = m + 1) ∧
      civilDateFromDays m = ((a.year : Int), (a.month : Int), (a.day : Int)) ∧
      weekday m = a.weekday) ∧
    (∃ easter : CivilDate, easter.year = a.year ∧
      gregorianEaster a.year = ((easter.month : Int), (easter.day : Int)) ∧
      easter.IsEaster ∧ easter.weekday = 6 ∧
      ((easter.month = 3 ∧ 22 ≤ easter.day) ∨ (easter.month = 4 ∧ easter.day ≤ 25))) ∧
    targetBusinessDaysBetween (text a) (text b) = .ok (operatingDays a b % 2 ^ 32) ∧
    (b ≤ a → targetBusinessDaysBetween (text a) (text b) = .ok 0) ∧
    (a ≤ b → b ≤ c → operatingDays a b + operatingDays b c = operatingDays a c ∧
      ∃ x y, targetBusinessDaysBetween (text a) (text b) = .ok x ∧
        targetBusinessDaysBetween (text b) (text c) = .ok y ∧
        targetBusinessDaysBetween (text a) (text c) = .ok ((x + y) % 2 ^ 32)) := by
  refine ⟨⟨dayNumber a, dayNumber b, parseDate_text ha, parseDate_text hb, dayNumber_lt, ?_,
    civilDateFromDays_dayNumber ha, weekday_dayNumber ha⟩, ?_, targetBusinessDaysBetween_text ha hb,
    ?_, ?_⟩
  · intro h
    obtain rfl : a.next = b := by
      by_contra hne
      have hle : a.next ≤ b := by
        rw [← CivilDate.ordinal_le, CivilDate.ordinal_next]
        exact CivilDate.ordinal_lt.2 h.1
      exact h.2 (CivilDate.covBy_next a).1 (lt_of_le_of_ne hle hne)
    exact dayNumber_next a
  · obtain ⟨easter, hyear, hdate, hsunday, hrange⟩ := gregorianEaster_spec a.year a.year_pos
    exact ⟨easter, hyear, hdate, hsunday, hsunday.1, hrange⟩
  · intro h
    rw [targetBusinessDaysBetween_text ha hb, operatingDays_of_le h]
    rfl
  · intro hab hbc
    have hsum := operatingDays_add hab hbc
    refine ⟨hsum, _, _, targetBusinessDaysBetween_text ha hb, targetBusinessDaysBetween_text hb hc, ?_⟩
    rw [targetBusinessDaysBetween_text ha hc, ← hsum, Nat.add_mod]

theorem representable_of_year {d : CivilDate} (h : d.year < 2 ^ 54) : Representable d := by
  have hyears := daysBefore_eq d.year
  unfold Representable
  omega

/-- Within four digits of year the count does not wrap around. -/
theorem targetBusinessDaysBetween_of_year {s t : String} {a b : CivilDate}
    (hs : parseDate s = .ok (dayNumber a)) (ht : parseDate t = .ok (dayNumber b))
    (hb : b.year ≤ 9999) : targetBusinessDaysBetween s t = .ok (operatingDays a b) := by
  have hdays : operatingDays a b < 2 ^ 32 := by
    have hle := operatingDays_le a b
    have hlt := b.ordinal_lt_year
    have hyears := daysBefore_eq b.year
    omega
  rw [targetBusinessDaysBetween_of_parseDate hs ht (representable_of_year (by omega)),
    Nat.mod_eq_of_lt hdays]

/-- 29 February 2024. -/
def leapDay : CivilDate := ⟨2024, 2, 29, by decide, by decide, by decide, by decide, by decide⟩

/-- The days around a leap day. -/
theorem calendar_arithmetic_leapDay : ∃ m, parseDate "2024-02-29" = .ok m ∧
    parseDate "2024-03-01" = .ok (m + 1) ∧ civilDateFromDays m = (2024, 2, 29) := by
  have hday : Representable leapDay := representable_of_year (by decide)
  have hnext : Representable leapDay.next := representable_of_year (by decide)
  obtain ⟨⟨m, n, hm, hn, -, hcov, hcivil, -⟩, -⟩ := calendar_arithmetic hday hnext hnext
  rw [hcov (CivilDate.covBy_next leapDay)] at hn
  exact ⟨m, hm, hn, hcivil⟩

/-- A year beyond `i64` is refused, and before it the numbers wrap around. -/
theorem parseDate_overflow :
    parseDate (text (equinox 9223372036854775808 (by decide))) = .error "invalid date" ∧
    equinox 20000000000000000 (by decide) < equinox 30000000000000000 (by decide) ∧
    ∃ m n, parseDate (text (equinox 20000000000000000 (by decide))) = .ok m ∧
      parseDate (text (equinox 30000000000000000 (by decide))) = .ok n ∧ n < m := by
  refine ⟨by decide +kernel, CivilDate.lt_iff.2 (.inl (by decide)), 7304849999999280552,
    daysFromCivil 30000000000000000 3 21, by decide +kernel, by decide +kernel, by decide +kernel⟩

end TargetDays
