import Presto.TargetDays

/-!
# Months and dates as text (`server.rs:5937-5991`)

| source (`server.rs`)             | model            |
|----------------------------------|------------------|
| `valid_month` (`:5937`)          | `validMonth`     |
| `last_day_of_month` (`:5950`)    | `lastDayOfMonth` |
| `valid_date` (`:5966`)           | `validDate`      |

The parts are read by `parse::<u32>`, which takes a plus sign: besides `2026-09` these accept `2026-+9`.
What is accepted is a real month or date, each part of it with leading zeros or with a sign.
-/

namespace MonthText

open Gregorian TargetDays

def readU32 (part : List Char) : Option Nat := Text.parseUnsigned (2 ^ 32) part

def validMonth (value : String) : Bool :=
  match value.toList.splitOn '-' with
  | [year, month] =>
    if year.length ≠ 4 ∨ month.length ≠ 2 then false
    else match readU32 year, readU32 month with
      | some year, some month => decide (0 < year ∧ 1 ≤ month ∧ month ≤ 12)
      | _, _ => false
  | _ => false

/-- The `match` on the month in `last_day_of_month` and in `valid_date`. -/
def daysInMonth (year : Nat) : Nat → Option Nat
  | 1 | 3 | 5 | 7 | 8 | 10 | 12 => some 31
  | 4 | 6 | 9 | 11 => some 30
  | 2 => if year % 400 = 0 ∨ (year % 4 = 0 ∧ year % 100 ≠ 0) then some 29 else some 28
  | _ => none

def lastDayOfMonth (value : String) : Option Nat :=
  if validMonth value then
    (readU32 (value.toList.take 4)).bind fun year =>
      (readU32 (value.toList.drop 5)).bind fun month => daysInMonth year month
  else none

def validDate (value : String) : Bool :=
  match value.toList.splitOn '-' with
  | [year, month, day] =>
    if year.length ≠ 4 ∨ month.length ≠ 2 ∨ day.length ≠ 2 then false
    else match readU32 year, readU32 month, readU32 day with
      | some year, some month, some day =>
        match daysInMonth year month with
        | some days => decide (0 < year ∧ 0 < day ∧ day ≤ days)
        | none => false
      | _, _, _ => false
  | _ => false

/-! ## Spellings -/

/-- A number in `width` characters: with zeros before it, or with a sign and one zero less. -/
def spell (sign : Bool) (width n : Nat) : List Char :=
  if sign then '+' :: padded (width - 1) n else padded width n

/-- The number fits into the characters that are left for it. -/
def Fits (sign : Bool) (width n : Nat) : Prop := n < 10 ^ (width - sign.toNat)

instance (sign : Bool) (width n : Nat) : Decidable (Fits sign width n) :=
  inferInstanceAs (Decidable (_ < _))

/-- A real month, spelled. -/
def SpellsMonth (yearSign monthSign : Bool) (value : String) (year month : Nat) : Prop :=
  1 ≤ year ∧ 1 ≤ month ∧ month ≤ 12 ∧ Fits yearSign 4 year ∧ Fits monthSign 2 month ∧
    value = String.ofList (spell yearSign 4 year ++ '-' :: spell monthSign 2 month)

def MonthSpelled (yearSign monthSign : Bool) (value : String) : Prop :=
  ∃ year month, SpellsMonth yearSign monthSign value year month

/-- A real date, spelled. -/
def DateSpelled (yearSign monthSign daySign : Bool) (value : String) (d : CivilDate) : Prop :=
  Fits yearSign 4 d.year ∧ Fits monthSign 2 d.month ∧ Fits daySign 2 d.day ∧
    value = String.ofList (spell yearSign 4 d.year ++ '-' :: (spell monthSign 2 d.month ++
      '-' :: spell daySign 2 d.day))

def monthText (year month : Nat) : String :=
  String.ofList (padded 4 year ++ '-' :: padded 2 month)

/-- `YYYY-MM` in digits, of a real month. -/
def CanonicalMonth (value : String) : Prop :=
  ∃ year month : Nat, 1 ≤ year ∧ year ≤ 9999 ∧ 1 ≤ month ∧ month ≤ 12 ∧ value = monthText year month

/-- `YYYY-MM-DD` in digits, of a real date. -/
def CanonicalDate (value : String) : Prop := ∃ d : CivilDate, d.year ≤ 9999 ∧ value = text d

/-- A real month of which some part has a sign. -/
def SignedMonth (value : String) : Prop :=
  ∃ yearSign monthSign : Bool, (yearSign || monthSign) = true ∧ MonthSpelled yearSign monthSign value

/-- A real date of which some part has a sign. -/
def SignedDate (value : String) : Prop :=
  ∃ (yearSign monthSign daySign : Bool) (d : CivilDate), (yearSign || monthSign || daySign) = true ∧
    DateSpelled yearSign monthSign daySign value d

/-- Digits are the number they write, padded. -/
theorem padded_ofDigitChars {digits : List Char} (hne : digits ≠ [])
    (h : digits.all Char.isDigit = true) :
    padded digits.length (Nat.ofDigitChars 10 digits 0) = digits := by
  rw [padded_natCast, Text.toDigits_ofDigitChars h, Text.replicate_stripZeros hne]

theorem length_padded {width n : Nat} (hwidth : 0 < width) (h : n < 10 ^ width) :
    (padded width n).length = width := by
  have hlen := (Nat.length_toDigits_le_iff (by decide) hwidth).2 h
  rw [padded_natCast, List.length_append, List.length_replicate]
  omega

theorem readU32_spell {sign : Bool} {width n : Nat} (h : n < 2 ^ 32) :
    readU32 (spell sign width n) = some n := by
  have hread : ∀ w, (some (Nat.ofDigitChars 10 (padded w n) 0)).filter (· < 2 ^ 32) = some n := by
    intro w
    rw [ofDigitChars_padded]
    exact Option.filter_eq_some_iff.2 ⟨rfl, decide_eq_true h⟩
  unfold spell readU32
  split
  · rw [Text.parseUnsigned_plus (padded_ne_nil _ _) (all_isDigit_padded _ _), hread]
  · rw [Text.parseUnsigned_digits (padded_ne_nil _ _) (all_isDigit_padded _ _), hread]

theorem length_spell {sign : Bool} {width n : Nat} (hwidth : 1 < width) (h : Fits sign width n) :
    (spell sign width n).length = width := by
  unfold spell Fits at *
  cases sign with
  | true =>
    have hlen : (padded (width - 1) n).length = width - 1 := length_padded (by omega) h
    rw [if_pos rfl, List.length_cons, hlen]
    omega
  | false => exact length_padded (by omega) h

/-- **A part that is read is a spelling of its number.** -/
theorem spell_of_readU32 {width n : Nat} {part : List Char} (hlen : part.length = width)
    (h : readU32 part = some n) : ∃ sign, Fits sign width n ∧ part = spell sign width n := by
  obtain ⟨digits, hne, hall, rfl, -, rfl | rfl⟩ := Text.parseUnsigned_eq_some h
  · refine ⟨false, ?_, ?_⟩
    · unfold Fits
      rw [← hlen]
      exact Text.ofDigitChars_lt hall
    · rw [← hlen]
      exact (padded_ofDigitChars hne hall).symm
  · rw [List.length_cons] at hlen
    have hwidth : width - 1 = digits.length := by omega
    refine ⟨true, ?_, ?_⟩
    · show _ < 10 ^ (width - 1)
      rw [hwidth]
      exact Text.ofDigitChars_lt hall
    · show _ = '+' :: padded (width - 1) _
      rw [hwidth, padded_ofDigitChars hne hall]

theorem dash_not_mem_spell (sign : Bool) (width n : Nat) : '-' ∉ spell sign width n := by
  have hdigits := not_dash_of_digits (all_isDigit_padded width n)
  have hfewer := not_dash_of_digits (all_isDigit_padded (width - 1) n)
  unfold spell
  cases sign with
  | true =>
    rw [if_pos rfl, List.mem_cons, not_or]
    exact ⟨by decide, hfewer⟩
  | false => exact hdigits

/-- A text is its parts, with dashes between them. -/
theorem toList_of_splitOn {value : String} {parts : List (List Char)}
    (h : value.toList.splitOn '-' = parts) : value = String.ofList (['-'].intercalate parts) := by
  rw [← h, List.intercalate_splitOn, String.ofList_toList]

theorem intercalate_two (a b : List Char) : ['-'].intercalate [a, b] = a ++ '-' :: b := by
  simp [List.intercalate]

theorem intercalate_three (a b c : List Char) :
    ['-'].intercalate [a, b, c] = a ++ '-' :: (b ++ '-' :: c) := by
  simp [List.intercalate]

theorem fits_lt {sign : Bool} {width n : Nat} (hwidth : width ≤ 4) (h : Fits sign width n) :
    n < 2 ^ 32 := by
  have hpow : 10 ^ (width - sign.toNat) ≤ 10 ^ 4 := Nat.pow_le_pow_right (by decide) (by omega)
  exact lt_of_lt_of_le h (hpow.trans (by decide))

/-- **What `valid_month` accepts.** -/
theorem validMonth_iff (value : String) :
    validMonth value = true ↔ ∃ yearSign monthSign, MonthSpelled yearSign monthSign value := by
  unfold validMonth
  constructor
  · intro h
    split at h
    · rename_i year month hparts
      split at h
      · cases h
      · rename_i hlen
        rw [not_or, not_not, not_not] at hlen
        split at h
        · rename_i y m hy hm
          obtain ⟨hpos, hlo, hhi⟩ := of_decide_eq_true h
          obtain ⟨ys, hyfits, rfl⟩ := spell_of_readU32 hlen.1 hy
          obtain ⟨ms, hmfits, rfl⟩ := spell_of_readU32 hlen.2 hm
          have hvalue := toList_of_splitOn hparts
          rw [intercalate_two] at hvalue
          exact ⟨ys, ms, y, m, hpos, hlo, hhi, hyfits, hmfits, hvalue⟩
        · cases h
    · cases h
  · rintro ⟨ys, ms, y, m, hpos, hlo, hhi, hyfits, hmfits, rfl⟩
    have hparts : (String.ofList (spell ys 4 y ++ '-' :: spell ms 2 m)).toList.splitOn '-'
        = [spell ys 4 y, spell ms 2 m] := by
      rw [String.toList_ofList, List.splitOn_append_cons_self_of_not_mem (dash_not_mem_spell _ _ _),
        List.splitOn_eq_singleton (dash_not_mem_spell _ _ _)]
    rw [hparts]
    simp only [length_spell (by decide : 1 < 4) hyfits, length_spell (by decide : 1 < 2) hmfits,
      readU32_spell (fits_lt (by decide) hyfits), readU32_spell (fits_lt (by decide) hmfits)]
    simp [Nat.pos_of_ne_zero (by omega : y ≠ 0), hlo, hhi]

theorem daysInMonth_eq {year month : Nat} (hlo : 1 ≤ month) (hhi : month ≤ 12) :
    daysInMonth year month = some (monthLength year month) := by
  have hleap : (year % 400 = 0 ∨ (year % 4 = 0 ∧ year % 100 ≠ 0)) ↔ IsLeap year := by
    unfold IsLeap
    omega
  by_cases h : IsLeap year <;> interval_cases month <;> simp [daysInMonth, monthLength, hleap, h]

theorem month_of_daysInMonth {year month days : Nat} (h : daysInMonth year month = some days) :
    1 ≤ month ∧ month ≤ 12 := by
  unfold daysInMonth at h
  split at h
  all_goals first
    | omega
    | cases h

theorem splitOn_date (ys ms ds : Bool) (y m d : Nat) :
    (String.ofList (spell ys 4 y ++ '-' :: (spell ms 2 m ++ '-' :: spell ds 2 d))).toList.splitOn '-'
      = [spell ys 4 y, spell ms 2 m, spell ds 2 d] := by
  rw [String.toList_ofList, List.splitOn_append_cons_self_of_not_mem (dash_not_mem_spell _ _ _),
    List.splitOn_append_cons_self_of_not_mem (dash_not_mem_spell _ _ _),
    List.splitOn_eq_singleton (dash_not_mem_spell _ _ _)]

/-- **What `valid_date` accepts.** -/
theorem validDate_iff (value : String) :
    validDate value = true ↔ ∃ yearSign monthSign daySign d,
      DateSpelled yearSign monthSign daySign value d := by
  unfold validDate
  constructor
  · intro h
    split at h
    · rename_i year month day hparts
      split at h
      · cases h
      · rename_i hlen
        rw [not_or, not_or, not_not, not_not, not_not] at hlen
        split at h
        · rename_i y m d hy hm hd
          split at h
          · rename_i days hdays
            obtain ⟨hpos, hday, hlast⟩ := of_decide_eq_true h
            obtain ⟨hlo, hhi⟩ := month_of_daysInMonth hdays
            rw [daysInMonth_eq hlo hhi, Option.some.injEq] at hdays
            subst hdays
            obtain ⟨ys, hyfits, rfl⟩ := spell_of_readU32 hlen.1 hy
            obtain ⟨ms, hmfits, rfl⟩ := spell_of_readU32 hlen.2.1 hm
            obtain ⟨ds, hdfits, rfl⟩ := spell_of_readU32 hlen.2.2 hd
            have hvalue := toList_of_splitOn hparts
            rw [intercalate_three] at hvalue
            exact ⟨ys, ms, ds, ⟨y, m, d, hpos, hlo, hhi, hday, hlast⟩, hyfits, hmfits, hdfits, hvalue⟩
          · cases h
        · cases h
    · cases h
  · rintro ⟨ys, ms, ds, d, hyfits, hmfits, hdfits, rfl⟩
    rw [splitOn_date]
    simp only [length_spell (by decide : 1 < 4) hyfits, length_spell (by decide : 1 < 2) hmfits,
      length_spell (by decide : 1 < 2) hdfits, readU32_spell (fits_lt (by decide) hyfits),
      readU32_spell (fits_lt (by decide) hmfits), readU32_spell (fits_lt (by decide) hdfits),
      daysInMonth_eq d.month_pos d.month_le]
    have hvalid : 0 < d.year ∧ 0 < d.day ∧ d.day ≤ monthLength d.year d.month :=
      ⟨d.year_pos, d.day_pos, d.day_le⟩
    simp [hvalid]

theorem year_le_of_fits {sign : Bool} {year : Nat} (h : Fits sign 4 year) : year ≤ 9999 := by
  unfold Fits at h
  have hpow : 10 ^ (4 - sign.toNat) ≤ 10 ^ 4 := Nat.pow_le_pow_right (by decide) (by omega)
  have hlt := lt_of_lt_of_le h hpow
  omega

/-- `parse::<i64>` takes the sign too. -/
theorem parseSigned_spell {sign : Bool} {width n : Nat} (h : n < 2 ^ 63) :
    Text.parseSigned (2 ^ 63) (spell sign width n) = some (n : Int) := by
  cases sign with
  | false => exact parseSigned_padded width h
  | true =>
    show Text.parseSigned (2 ^ 63) ('+' :: padded (width - 1) n) = _
    show (Text.parseNat (padded (width - 1) n)).bind _ = _
    rw [Text.parseNat_digits (padded_ne_nil _ _) (all_isDigit_padded _ _), ofDigitChars_padded]
    exact if_pos h

/-- **An accepted date is read as its number.** -/
theorem parseDate_validDate {value : String} (h : validDate value = true) :
    ∃ d : CivilDate, d.year ≤ 9999 ∧ parseDate value = .ok (dayNumber d) := by
  obtain ⟨ys, ms, ds, d, hyfits, hmfits, hdfits, rfl⟩ := (validDate_iff value).1 h
  have hyear := year_le_of_fits hyfits
  refine ⟨d, hyear, ?_⟩
  have hrepresentable : Representable d := representable_of_year (by omega)
  obtain ⟨hyear, hmonth, hday⟩ := hrepresentable.parts_lt
  apply parseDate_of_parts hrepresentable
  rw [splitOn_date]
  simp only [List.mapM_cons, List.mapM_nil, parseSigned_spell hyear, parseSigned_spell hmonth,
    parseSigned_spell hday]
  rfl

/-! ## Order -/

theorem padded_lt_padded {width m n : Nat} (hwidth : 0 < width) (hm : m < 10 ^ width)
    (hn : n < 10 ^ width) : padded width m < padded width n ↔ m < n := by
  rw [Text.lt_iff_ofDigitChars (all_isDigit_padded _ _) (all_isDigit_padded _ _)
    ((length_padded hwidth hm).trans (length_padded hwidth hn).symm), ofDigitChars_padded,
    ofDigitChars_padded]

theorem padded_inj {width m n : Nat} : padded width m = padded width n ↔ m = n := by
  constructor
  · intro h
    rw [← ofDigitChars_padded width m, h, ofDigitChars_padded]
  · rintro rfl
    rfl

/-- **Months in digits are ordered as months.** -/
theorem monthText_lt {y m y' m' : Nat} (hy : y ≤ 9999) (hm : m ≤ 12) (hy' : y' ≤ 9999) (hm' : m' ≤ 12) :
    monthText y m < monthText y' m' ↔ y < y' ∨ (y = y' ∧ m < m') := by
  have hlen : (padded 4 y).length = (padded 4 y').length :=
    (length_padded (by decide) (by omega)).trans (length_padded (by decide) (by omega)).symm
  rw [String.lt_iff, monthText, monthText, String.toList_ofList, String.toList_ofList,
    Text.append_lt_append hlen, padded_lt_padded (by decide) (by omega) (by omega), padded_inj,
    List.cons_lt_cons_self, padded_lt_padded (by decide) (by omega) (by omega)]

theorem monthText_inj {y m y' m' : Nat} (hy : y ≤ 9999) (hy' : y' ≤ 9999)
    (h : monthText y m = monthText y' m') : y = y' ∧ m = m' := by
  have hlen : (padded 4 y).length = (padded 4 y').length :=
    (length_padded (by decide) (by omega)).trans (length_padded (by decide) (by omega)).symm
  have hlists := String.ofList_inj.1 h
  obtain ⟨hyear, hmonth⟩ := List.append_inj hlists hlen
  exact ⟨padded_inj.1 hyear, padded_inj.1 (List.cons.inj hmonth).2⟩

/-- **Dates in digits are ordered as dates.** -/
theorem text_lt {a b : CivilDate} (ha : a.year ≤ 9999) (hb : b.year ≤ 9999) :
    text a < text b ↔ a < b := by
  have hlen : (padded 4 a.year).length = (padded 4 b.year).length :=
    (length_padded (by decide) (by omega)).trans (length_padded (by decide) (by omega)).symm
  have hmonth : a.month < 10 ^ 2 ∧ b.month < 10 ^ 2 := by
    have := a.month_le
    have := b.month_le
    omega
  have hmonths : (padded 2 a.month).length = (padded 2 b.month).length :=
    (length_padded (by decide) hmonth.1).trans (length_padded (by decide) hmonth.2).symm
  have hday : a.day < 10 ^ 2 ∧ b.day < 10 ^ 2 := by
    have := a.day_le.trans (monthLength_le _ _)
    have := b.day_le.trans (monthLength_le _ _)
    omega
  rw [CivilDate.lt_iff, String.lt_iff, text, text, dateText, dateText, String.toList_ofList,
    String.toList_ofList, Text.append_lt_append hlen, padded_lt_padded (by decide) (by omega) (by omega),
    padded_inj, List.cons_lt_cons_self, Text.append_lt_append hmonths,
    padded_lt_padded (by decide) hmonth.1 hmonth.2, padded_inj, List.cons_lt_cons_self,
    padded_lt_padded (by decide) hday.1 hday.2]

/-! ## Signs -/

theorem canonicalMonth_iff (value : String) : CanonicalMonth value ↔ MonthSpelled false false value := by
  constructor
  · rintro ⟨y, m, hy, hy', hm, hm', rfl⟩
    exact ⟨y, m, hy, hm, hm', show y < 10 ^ 4 by omega, show m < 10 ^ 2 by omega, rfl⟩
  · rintro ⟨y, m, hy, hm, hm', hyfits, -, rfl⟩
    exact ⟨y, m, hy, year_le_of_fits hyfits, hm, hm', rfl⟩

theorem canonicalDate_iff (value : String) :
    CanonicalDate value ↔ ∃ d, DateSpelled false false false value d := by
  constructor
  · rintro ⟨d, hy, rfl⟩
    have hm := d.month_le
    have hd := d.day_le.trans (monthLength_le _ _)
    exact ⟨d, show d.year < 10 ^ 4 by omega, show d.month < 10 ^ 2 by omega,
      show d.day < 10 ^ 2 by omega, rfl⟩
  · rintro ⟨d, hyfits, -, -, rfl⟩
    exact ⟨d, year_le_of_fits hyfits, rfl⟩

theorem plus_mem_spell (sign : Bool) (width n : Nat) : '+' ∈ spell sign width n ↔ sign = true := by
  cases sign with
  | true => exact iff_of_true List.mem_cons_self rfl
  | false =>
    refine iff_of_false (fun h => ?_) Bool.false_ne_true
    exact absurd (List.all_eq_true.1 (all_isDigit_padded width n) _ h) (by decide)

/-- The signs are in the text. -/
theorem MonthSpelled.plus {yearSign monthSign : Bool} {value : String}
    (h : MonthSpelled yearSign monthSign value) :
    '+' ∈ value.toList ↔ (yearSign || monthSign) = true := by
  obtain ⟨y, m, -, -, -, -, -, rfl⟩ := h
  rw [String.toList_ofList, List.mem_append, List.mem_cons, plus_mem_spell, plus_mem_spell,
    Bool.or_eq_true]
  simp

theorem DateSpelled.plus {yearSign monthSign daySign : Bool} {value : String} {d : CivilDate}
    (h : DateSpelled yearSign monthSign daySign value d) :
    '+' ∈ value.toList ↔ (yearSign || monthSign || daySign) = true := by
  obtain ⟨-, -, -, rfl⟩ := h
  rw [String.toList_ofList, List.mem_append, List.mem_cons, List.mem_append, List.mem_cons,
    plus_mem_spell, plus_mem_spell, plus_mem_spell, Bool.or_eq_true, Bool.or_eq_true]
  simp [or_assoc]

theorem validMonth_eq (value : String) :
    validMonth value = true ↔ CanonicalMonth value ∨ SignedMonth value := by
  rw [validMonth_iff, canonicalMonth_iff]
  constructor
  · rintro ⟨ys, ms, h⟩
    by_cases hsign : (ys || ms) = true
    · exact .inr ⟨ys, ms, hsign, h⟩
    · rw [Bool.not_eq_true, Bool.or_eq_false_iff] at hsign
      rw [hsign.1, hsign.2] at h
      exact .inl h
  · rintro (h | ⟨ys, ms, -, h⟩)
    · exact ⟨_, _, h⟩
    · exact ⟨_, _, h⟩

theorem validDate_eq (value : String) :
    validDate value = true ↔ CanonicalDate value ∨ SignedDate value := by
  rw [validDate_iff, canonicalDate_iff]
  constructor
  · rintro ⟨ys, ms, ds, d, h⟩
    by_cases hsign : (ys || ms || ds) = true
    · exact .inr ⟨ys, ms, ds, d, hsign, h⟩
    · rw [Bool.not_eq_true, Bool.or_eq_false_iff, Bool.or_eq_false_iff] at hsign
      rw [hsign.1.1, hsign.1.2, hsign.2] at h
      exact .inl ⟨d, h⟩
  · rintro (⟨d, h⟩ | ⟨ys, ms, ds, d, -, h⟩)
    · exact ⟨_, _, _, d, h⟩
    · exact ⟨_, _, _, d, h⟩

theorem not_canonicalMonth {value : String} (h : SignedMonth value) : ¬ CanonicalMonth value := by
  obtain ⟨ys, ms, hsign, hspelled⟩ := h
  intro hcanonical
  have hplus := hspelled.plus.2 hsign
  rw [canonicalMonth_iff] at hcanonical
  exact Bool.false_ne_true (hcanonical.plus.1 hplus)

theorem not_canonicalDate {value : String} (h : SignedDate value) : ¬ CanonicalDate value := by
  obtain ⟨ys, ms, ds, d, hsign, hspelled⟩ := h
  intro hcanonical
  have hplus := hspelled.plus.2 hsign
  obtain ⟨e, he⟩ := (canonicalDate_iff value).1 hcanonical
  exact Bool.false_ne_true (he.plus.1 hplus)

/-! ## Pairs of texts -/

/-- Two texts are accepted if they are months in digits, and then compare as these months. -/
def MonthsCanonical (s t : String) : Prop :=
  (validMonth s = true ↔ CanonicalMonth s) ∧ (validMonth t = true ↔ CanonicalMonth t) ∧
    (validMonth s = true → validMonth t = true →
      ∀ ys ms y m ys' ms' y' m', SpellsMonth ys ms s y m → SpellsMonth ys' ms' t y' m' →
        (s < t ↔ y < y' ∨ (y = y' ∧ m < m')) ∧ (s = t ↔ y = y' ∧ m = m'))

/-- Two texts are accepted if they are dates in digits, and then compare as these dates. -/
def DatesCanonical (s t : String) : Prop :=
  (validDate s = true ↔ CanonicalDate s) ∧ (validDate t = true ↔ CanonicalDate t) ∧
    (validDate s = true → validDate t = true →
      ∀ ys ms ds d ys' ms' ds' d', DateSpelled ys ms ds s d → DateSpelled ys' ms' ds' t d' →
        (s < t ↔ d < d') ∧ (s = t ↔ d = d'))

theorem validMonth_canonical_iff (value : String) :
    (validMonth value = true ↔ CanonicalMonth value) ↔ ¬ SignedMonth value := by
  rw [validMonth_eq]
  constructor
  · intro h hsigned
    exact not_canonicalMonth hsigned (h.1 (.inr hsigned))
  · intro h
    exact or_iff_left h

theorem validDate_canonical_iff (value : String) :
    (validDate value = true ↔ CanonicalDate value) ↔ ¬ SignedDate value := by
  rw [validDate_eq]
  constructor
  · intro h hsigned
    exact not_canonicalDate hsigned (h.1 (.inr hsigned))
  · intro h
    exact or_iff_left h

/-- A month without a sign is in digits. -/
theorem SpellsMonth.eq_monthText {ys ms : Bool} {value : String} {y m : Nat}
    (h : SpellsMonth ys ms value y m) (hnot : ¬ SignedMonth value) : value = monthText y m := by
  by_cases hsign : (ys || ms) = true
  · exact absurd ⟨ys, ms, hsign, y, m, h⟩ hnot
  · rw [Bool.not_eq_true, Bool.or_eq_false_iff] at hsign
    rw [hsign.1, hsign.2] at h
    exact h.2.2.2.2.2

theorem DateSpelled.eq_text {ys ms ds : Bool} {value : String} {d : CivilDate}
    (h : DateSpelled ys ms ds value d) (hnot : ¬ SignedDate value) : value = text d := by
  by_cases hsign : (ys || ms || ds) = true
  · exact absurd ⟨ys, ms, ds, d, hsign, h⟩ hnot
  · rw [Bool.not_eq_true, Bool.or_eq_false_iff, Bool.or_eq_false_iff] at hsign
    rw [hsign.1.1, hsign.1.2, hsign.2] at h
    exact h.2.2.2

/-- **Months.** -/
theorem monthsCanonical_iff (s t : String) :
    MonthsCanonical s t ↔ ¬ SignedMonth s ∧ ¬ SignedMonth t := by
  unfold MonthsCanonical
  rw [validMonth_canonical_iff, validMonth_canonical_iff]
  constructor
  · rintro ⟨hs, ht, -⟩
    exact ⟨hs, ht⟩
  · rintro ⟨hs, ht⟩
    refine ⟨hs, ht, fun _ _ ys ms y m ys' ms' y' m' h h' => ?_⟩
    have hy := year_le_of_fits h.2.2.2.1
    have hy' := year_le_of_fits h'.2.2.2.1
    rw [h.eq_monthText hs, h'.eq_monthText ht]
    refine ⟨monthText_lt hy h.2.2.1 hy' h'.2.2.1, monthText_inj hy hy', ?_⟩
    rintro ⟨rfl, rfl⟩
    rfl

/-- **Dates.** -/
theorem datesCanonical_iff (s t : String) :
    DatesCanonical s t ↔ ¬ SignedDate s ∧ ¬ SignedDate t := by
  unfold DatesCanonical
  rw [validDate_canonical_iff, validDate_canonical_iff]
  constructor
  · rintro ⟨hs, ht, -⟩
    exact ⟨hs, ht⟩
  · rintro ⟨hs, ht⟩
    refine ⟨hs, ht, fun _ _ ys ms ds d ys' ms' ds' d' h h' => ?_⟩
    have hy := year_le_of_fits h.1
    have hy' := year_le_of_fits h'.1
    rw [h.eq_text hs, h'.eq_text ht]
    refine ⟨text_lt hy hy', fun heq => ?_, fun heq => congrArg text heq⟩
    rcases lt_trichotomy d d' with hlt | heq' | hgt
    · exact absurd ((text_lt hy hy').2 hlt) (heq ▸ String.lt_irrefl _)
    · exact heq'
    · exact absurd ((text_lt hy' hy).2 hgt) (heq ▸ String.lt_irrefl _)

end MonthText
