import Presto.Decimal
import Presto.Lib.Fallible
import Presto.Lib.Text

/-!
# Decimals as text: `Decimal::parse` and `Decimal::format` (`finance_model.rs:26-135`)

| source (`finance_model.rs`)       | model                   |
|-----------------------------------|-------------------------|
| `Decimal::parse` (`:27`)          | `Decimal.parse`         |
| `Decimal::format` (`:117`)        | `Decimal.format`        |
| `add_decimal_text` (`:225`)       | `addDecimalText`        |
| `subtract_decimal_text` (`:230`)  | `subtractDecimalText`   |

The ledger stores amounts as text and compares them as text. `decimalValue` is the number that a text
writes, read without any limit.
-/

namespace Decimal

def splitExponent (text : List Char) : List (List Char) :=
  text.splitOnP fun c => c = 'e' ∨ c = 'E'

/-- What the loop over the mantissa has read. -/
structure Mantissa where
  digits : List Char
  dot : Bool
  fractionalDigits : Nat
deriving DecidableEq

def scanMantissa : List Char → Mantissa → Except String Mantissa
  | [], m => .ok m
  | c :: cs, m =>
    if c = '.' then
      if m.dot then .error "invalid decimal point" else scanMantissa cs { m with dot := true }
    else if c.isDigit then
      scanMantissa cs { m with
        digits := m.digits ++ [c]
        fractionalDigits := if m.dot then m.fractionalDigits + 1 else m.fractionalDigits }
    else .error "invalid decimal digit"

def parseExponent : Option (List Char) → Except String Int
  | some part => Except.fromOption (Text.parseSigned (2 ^ 31) part) "invalid exponent"
  | none => .ok 0

/-- `Decimal::parse`. -/
def parse (value : String) : Except String Decimal := do
  let text := Text.trim value.toList
  Except.ensure (text ≠ []) "empty decimal"
  let parts := splitExponent (Text.unsigned text)
  let exponent ← parseExponent parts[1]?
  Except.ensure (parts.length ≤ 2 ∧ exponent.natAbs ≤ 10000) "unsupported decimal exponent"
  let mantissa ← scanMantissa (parts.headD []) ⟨[], false, 0⟩
  Except.ensure (mantissa.digits ≠ []) "decimal has no digits"
  let scale : Int := mantissa.fractionalDigits - exponent
  let digits := mantissa.digits ++ List.replicate (-scale).toNat '0'
  Except.ensure (scale ≤ 10000) "decimal scale is too large"
  let coefficient : Int := Nat.ofDigitChars 10 digits 0
  return normalized (if text.head? = some '-' then -coefficient else coefficient) scale.toNat

/-- The digits with a point before the last `scale` of them. -/
def insertPoint (digits : List Char) (scale : Nat) : List Char :=
  let padded := List.replicate (scale + 1 - digits.length) '0' ++ digits
  padded.take (padded.length - scale) ++ '.' :: padded.drop (padded.length - scale)

/-- The text of a decimal without its sign. -/
def magnitudeText (d : Decimal) : List Char :=
  let digits := Nat.toDigits 10 d.coefficient.natAbs
  if 0 < d.scale then insertPoint digits d.scale else digits

/-- `Decimal::format`. -/
def format (d : Decimal) : String :=
  String.ofList (if d.coefficient < 0 then '-' :: d.magnitudeText else d.magnitudeText)

end Decimal

def addDecimalText (left right : String) : Except String String := do
  let a ← Decimal.parse left
  let b ← Decimal.parse right
  return (a + b).format

def subtractDecimalText (left right : String) : Except String String := do
  let a ← Decimal.parse left
  let b ← Decimal.parse right
  return (a - b).format

/-! ## What a text writes -/

namespace DecimalText

def text (value : String) : List Char := Text.trim value.toList

def mantissa (value : String) : List Char :=
  (Decimal.splitExponent (Text.unsigned (text value))).headD []

/-- What stands behind an exponent mark. -/
def exponents (value : String) : List (List Char) :=
  (Decimal.splitExponent (Text.unsigned (text value))).tail

def exponent (value : String) : Int :=
  ((exponents value).head?.bind (Text.parseSigned (2 ^ 31))).getD 0

def digits (value : String) : List Char := (mantissa value).filter (· ≠ '.')

/-- What stands behind the point. -/
def fraction (mantissa : List Char) : List Char := (mantissa.dropWhile (· ≠ '.')).drop 1

def scale (value : String) : Int := (fraction (mantissa value)).length - exponent value

end DecimalText

open DecimalText

/-- The number that a decimal text writes. -/
def decimalValue (value : String) : ℚ :=
  (if (text value).head? = some '-' then -1 else 1) *
    (Nat.ofDigitChars 10 (digits value) 0 / 10 ^ (fraction (mantissa value)).length *
      10 ^ exponent value)

/-- The texts that are decimals within the limits. -/
structure Accepted (value : String) : Prop where
  exponents : (exponents value).length ≤ 1
  numeric : ∀ e ∈ DecimalText.exponents value, (Text.parseSigned (2 ^ 31) e).isSome = true
  small : (exponent value).natAbs ≤ 10000
  characters : (mantissa value).all (fun c => c = '.' || c.isDigit) = true
  point : (mantissa value).count '.' ≤ 1
  digits : DecimalText.digits value ≠ []
  scale : DecimalText.scale value ≤ 10000

/-- The coefficient that is read, at the scale that is not negative. -/
def readCoefficient (value : String) : Int :=
  let magnitude : Int :=
    Nat.ofDigitChars 10 (digits value ++ List.replicate (-scale value).toNat '0') 0
  if (text value).head? = some '-' then -magnitude else magnitude

namespace Decimal

/-- **The loop over the mantissa.** It ends on digits and at most one point, and counts the digits
behind it. -/
theorem scanMantissa_ok {cs : List Char} {m m' : Mantissa} :
    scanMantissa cs m = .ok m' ↔
      cs.all (fun c => c = '.' || c.isDigit) = true ∧ m.dot.toNat + cs.count '.' ≤ 1 ∧
      ⟨m.digits ++ cs.filter (· ≠ '.'), m.dot || decide ('.' ∈ cs),
        m.fractionalDigits + if m.dot then cs.length else (fraction cs).length⟩ = m' := by
  induction cs generalizing m with
  | nil =>
    have hdot : m.dot.toNat ≤ 1 := m.dot.toNat_le
    simp [scanMantissa, hdot, fraction]
  | cons c cs ih =>
    unfold scanMantissa
    by_cases hc : c = '.'
    · subst hc
      rw [if_pos rfl]
      cases hdot : m.dot with
      | true => simp
      | false => simp [ih, fraction, Nat.add_comm]
    · rw [if_neg hc]
      by_cases hd : c.isDigit = true
      · rw [if_pos hd, ih]
        have hc' : '.' ≠ c := fun h => hc h.symm
        cases hdot : m.dot with
        | true => simp [hc, hc', hd, Nat.add_comm, Nat.add_left_comm]
        | false => simp [hc, hc', hd, fraction]
      · rw [if_neg hd]
        simp [hc, hd]

theorem parseExponent_ok {es : List (List Char)} {e : Int} (hlen : es.length ≤ 1) :
    parseExponent es[0]? = .ok e ↔ (∀ x ∈ es, (Text.parseSigned (2 ^ 31) x).isSome = true) ∧
      (es.head?.bind (Text.parseSigned (2 ^ 31))).getD 0 = e := by
  match es, hlen with
  | [], _ => simp [parseExponent]
  | [x], _ =>
    show Except.fromOption (Text.parseSigned (2 ^ 31) x) "invalid exponent" = .ok e ↔ _
    rw [List.forall_mem_singleton, List.head?_cons, Option.bind_some]
    cases Text.parseSigned (2 ^ 31) x with
    | none => simp [Except.fromOption]
    | some n => simp [Except.fromOption]

/-- **What is accepted, and what is read.** -/
theorem parse_ok {value : String} {d : Decimal} :
    parse value = .ok d ↔
      Accepted value ∧ d = normalized (readCoefficient value) (DecimalText.scale value).toNat := by
  obtain ⟨m, es, hparts⟩ := List.exists_cons_of_ne_nil
    (List.splitOnP_ne_nil (fun c => decide (c = 'e' ∨ c = 'E')) (Text.unsigned (text value)))
  have hm : mantissa value = m := by rw [mantissa, splitExponent, hparts, List.headD_cons]
  have hes : exponents value = es := by rw [exponents, splitExponent, hparts, List.tail_cons]
  have hsplit : splitExponent (Text.unsigned (Text.trim value.toList)) = m :: es := hparts
  simp only [parse, hsplit, Except.bind_eq_ok, Except.ensure_eq_ok, Except.pure_eq_ok, exists_const,
    scanMantissa_ok]
  constructor
  · rintro ⟨hne, e, he, ⟨hlen, hsmall⟩, _, ⟨hall, hpoint, rfl⟩, hdigits, hscale, rfl⟩
    have hlen' : es.length ≤ 1 := by simpa using hlen
    obtain ⟨hnumeric, rfl⟩ := (parseExponent_ok hlen').1 he
    subst hm hes
    rw [Bool.toNat_false, Nat.zero_add] at hpoint
    simp only [Bool.false_eq_true, if_false, Nat.zero_add, List.nil_append] at hdigits hscale ⊢
    exact ⟨⟨hlen', hnumeric, hsmall, hall, hpoint, hdigits, hscale⟩, rfl⟩
  · rintro ⟨h, rfl⟩
    subst hm hes
    have hne : Text.trim value.toList ≠ [] := by
      intro hnil
      have hempty : mantissa value = [] := by
        rw [mantissa, splitExponent, text, hnil]
        rfl
      exact h.digits (by rw [DecimalText.digits, hempty]; rfl)
    have hpoint : false.toNat + (mantissa value).count '.' ≤ 1 := by
      rw [Bool.toNat_false, Nat.zero_add]
      exact h.point
    refine ⟨hne, exponent value, (parseExponent_ok h.exponents).2 ⟨h.numeric, rfl⟩,
      ⟨Nat.succ_le_succ h.exponents, h.small⟩, _, ⟨h.characters, hpoint, rfl⟩, ?_⟩
    simp only [Bool.false_eq_true, if_false, Nat.zero_add, List.nil_append]
    exact ⟨h.digits, h.scale, rfl⟩

/-- What is read is the number that the text writes. -/
theorem toRat_parse {value : String} {d : Decimal} (h : parse value = .ok d) :
    d.toRat = decimalValue value := by
  obtain ⟨-, rfl⟩ := parse_ok.1 h
  have hmagnitude : ((Nat.ofDigitChars 10 (DecimalText.digits value ++
      List.replicate (-DecimalText.scale value).toNat '0') 0 : Nat) : ℚ)
        / 10 ^ (DecimalText.scale value).toNat
      = Nat.ofDigitChars 10 (DecimalText.digits value) 0 /
          10 ^ (fraction (mantissa value)).length * 10 ^ exponent value := by
    rw [Nat.ofDigitChars_append, Nat.ofDigitChars_replicate_zero]
    have hscale : exponent value
        = (fraction (mantissa value)).length - DecimalText.scale value := by
      rw [DecimalText.scale]
      ring
    rw [hscale, zpow_sub₀ (by norm_num), zpow_natCast]
    generalize (fraction (mantissa value)).length = k
    rcases le_total 0 (DecimalText.scale value) with hs | hs
    · obtain ⟨n, hn⟩ := Int.eq_ofNat_of_zero_le hs
      rw [hn, Int.toNat_natCast, Int.toNat_of_nonpos (by omega), zpow_natCast, pow_zero, one_mul]
      field_simp
    · obtain ⟨n, hn⟩ := Int.eq_ofNat_of_zero_le (neg_nonneg.2 hs)
      rw [hn, Int.toNat_natCast, Int.toNat_of_nonpos hs, pow_zero, div_one,
        show DecimalText.scale value = -(n : Int) by omega, zpow_neg, zpow_natCast]
      push_cast
      field_simp
  rw [toRat_normalized, readCoefficient, decimalValue, ← hmagnitude]
  split
  · push_cast
    ring
  · push_cast
    ring

theorem scale_parse {value : String} {d : Decimal} (h : parse value = .ok d) : d.scale ≤ 10000 := by
  obtain ⟨haccepted, rfl⟩ := parse_ok.1 h
  have hscale := haccepted.scale
  exact (scale_normalized_le _ _).trans (by omega)

/-! ## The text of a decimal is read back -/

theorem normalized_self (d : Decimal) : normalized d.coefficient d.scale = d :=
  toRat_injective (toRat_normalized _ _)

/-- The digits of the text, without its point. -/
def paddedDigits (d : Decimal) : List Char :=
  List.replicate (d.scale + 1 - (Nat.toDigits 10 d.coefficient.natAbs).length) '0' ++
    Nat.toDigits 10 d.coefficient.natAbs

theorem all_isDigit_paddedDigits (d : Decimal) : d.paddedDigits.all Char.isDigit = true := by
  rw [paddedDigits, List.all_append, Bool.and_eq_true]
  exact ⟨Text.all_isDigit_replicate _, Text.all_isDigit_toDigits _⟩

theorem lt_length_paddedDigits (d : Decimal) : d.scale < d.paddedDigits.length := by
  rw [paddedDigits, List.length_append, List.length_replicate]
  omega

theorem ofDigitChars_paddedDigits (d : Decimal) :
    Nat.ofDigitChars 10 d.paddedDigits 0 = d.coefficient.natAbs := by
  rw [paddedDigits, Nat.ofDigitChars_append, Nat.ofDigitChars_replicate_zero, Nat.mul_zero,
    Nat.ofDigitChars_ten_toDigits]

/-- The text is the digits, with a point before the last `scale` of them. -/
theorem magnitudeText_eq (d : Decimal) :
    d.magnitudeText = if d.scale = 0 then d.paddedDigits else
      d.paddedDigits.take (d.paddedDigits.length - d.scale) ++
        '.' :: d.paddedDigits.drop (d.paddedDigits.length - d.scale) := by
  unfold magnitudeText
  by_cases h : d.scale = 0
  · have hlen : 0 < (Nat.toDigits 10 d.coefficient.natAbs).length := Nat.length_toDigits_pos
    rw [if_neg (by omega), if_pos h, paddedDigits, h,
      show 0 + 1 - (Nat.toDigits 10 d.coefficient.natAbs).length = 0 by omega]
    rfl
  · rw [if_pos (by omega), if_neg h]
    rfl

/-- A digit is not a mark of the grammar. -/
theorem digit_ne {c : Char} (h : c.isDigit = true) :
    c ≠ '.' ∧ c ≠ '-' ∧ c ≠ '+' ∧ c ≠ 'e' ∧ c ≠ 'E' := by
  refine ⟨?_, ?_, ?_, ?_, ?_⟩ <;>
    · rintro rfl
      exact absurd h (by decide)

theorem mem_magnitudeText {d : Decimal} {c : Char} (h : c ∈ d.magnitudeText) :
    c = '.' ∨ c.isDigit = true := by
  have hall := List.all_eq_true.1 d.all_isDigit_paddedDigits
  rw [magnitudeText_eq] at h
  split at h
  · exact .inr (hall c h)
  · rcases List.mem_append.1 h with h | h
    · exact .inr (hall c (List.mem_of_mem_take h))
    · rcases List.mem_cons.1 h with h | h
      · exact .inl h
      · exact .inr (hall c (List.mem_of_mem_drop h))

/-- The text begins with a digit. -/
theorem magnitudeText_cons (d : Decimal) :
    ∃ c rest, d.magnitudeText = c :: rest ∧ c.isDigit = true := by
  obtain ⟨c, rest, hc⟩ := List.exists_cons_of_ne_nil
    (List.ne_nil_of_length_pos ((Nat.zero_le _).trans_lt d.lt_length_paddedDigits))
  have hdigit := List.all_eq_true.1 d.all_isDigit_paddedDigits c (hc ▸ List.mem_cons_self)
  have hlen := d.lt_length_paddedDigits
  rw [magnitudeText_eq]
  split
  · exact ⟨c, rest, hc, hdigit⟩
  · obtain ⟨k, hk⟩ := Nat.exists_eq_succ_of_ne_zero (Nat.sub_ne_zero_of_lt hlen)
    rw [hk, hc]
    exact ⟨c, _, rfl, hdigit⟩

theorem text_format (d : Decimal) :
    text d.format = if d.coefficient < 0 then '-' :: d.magnitudeText else d.magnitudeText := by
  rw [text, format, String.toList_ofList]
  apply Text.trim_eq_self
  intro c hc
  have hmem : c = '-' ∨ c ∈ d.magnitudeText := by
    split at hc
    · exact List.mem_cons.1 hc
    · exact .inr hc
  rcases hmem with rfl | hmem
  · rfl
  · rcases mem_magnitudeText hmem with rfl | hdigit
    · rfl
    · exact Text.isWhiteSpace_of_isDigit hdigit

theorem head_text_format (d : Decimal) : (text d.format).head? = some '-' ↔ d.coefficient < 0 := by
  obtain ⟨c, rest, hc, hdigit⟩ := d.magnitudeText_cons
  rw [text_format, hc]
  split
  · rename_i h
    exact iff_of_true rfl h
  · rename_i h
    refine iff_of_false ?_ h
    rw [List.head?_cons, Option.some.injEq]
    exact (digit_ne hdigit).2.1

theorem unsigned_text_format (d : Decimal) : Text.unsigned (text d.format) = d.magnitudeText := by
  obtain ⟨c, rest, hc, hdigit⟩ := d.magnitudeText_cons
  obtain ⟨-, hminus, hplus, -⟩ := digit_ne hdigit
  rw [text_format, hc]
  split
  · rfl
  · unfold Text.unsigned
    split
    · rename_i h
      exact absurd (List.cons.inj h).1 hminus
    · rename_i h
      exact absurd (List.cons.inj h).1 hplus
    · rfl

theorem splitExponent_format (d : Decimal) :
    splitExponent (Text.unsigned (text d.format)) = [d.magnitudeText] := by
  rw [unsigned_text_format]
  apply List.splitOnP_eq_singleton
  intro c hc
  rcases mem_magnitudeText hc with rfl | hdigit
  · rfl
  · obtain ⟨-, -, -, he, hE⟩ := digit_ne hdigit
    simp [he, hE]

theorem mantissa_format (d : Decimal) : mantissa d.format = d.magnitudeText := by
  rw [mantissa, splitExponent_format, List.headD_cons]

theorem exponents_format (d : Decimal) : exponents d.format = [] := by
  rw [exponents, splitExponent_format, List.tail_cons]

theorem exponent_format (d : Decimal) : exponent d.format = 0 := by
  rw [exponent, exponents_format]
  rfl

/-- No digit is the point. -/
theorem filter_point {digits : List Char} (h : digits.all Char.isDigit = true) :
    digits.filter (· ≠ '.') = digits :=
  List.filter_eq_self.2 fun c hc => by simpa using (digit_ne (List.all_eq_true.1 h c hc)).1

theorem dropWhile_point {digits rest : List Char} (h : digits.all Char.isDigit = true) :
    (digits ++ rest).dropWhile (· ≠ '.') = rest.dropWhile (· ≠ '.') :=
  List.dropWhile_append_of_pos fun c hc => by
    simpa using (digit_ne (List.all_eq_true.1 h c hc)).1

theorem all_take {digits : List Char} (h : digits.all Char.isDigit = true) (n : Nat) :
    (digits.take n).all Char.isDigit = true :=
  List.all_eq_true.2 fun c hc => List.all_eq_true.1 h c (List.mem_of_mem_take hc)

theorem all_drop {digits : List Char} (h : digits.all Char.isDigit = true) (n : Nat) :
    (digits.drop n).all Char.isDigit = true :=
  List.all_eq_true.2 fun c hc => List.all_eq_true.1 h c (List.mem_of_mem_drop hc)

theorem digits_format (d : Decimal) : DecimalText.digits d.format = d.paddedDigits := by
  have hall := d.all_isDigit_paddedDigits
  rw [DecimalText.digits, mantissa_format, magnitudeText_eq]
  split
  · exact filter_point hall
  · rw [List.filter_append, filter_point (all_take hall _), List.filter_cons_of_neg (by simp),
      filter_point (all_drop hall _), List.take_append_drop]

theorem fraction_format (d : Decimal) :
    fraction (mantissa d.format) = if d.scale = 0 then [] else
      d.paddedDigits.drop (d.paddedDigits.length - d.scale) := by
  have hall := d.all_isDigit_paddedDigits
  rw [fraction, mantissa_format, magnitudeText_eq]
  split
  · have hnone := @dropWhile_point _ [] hall
    rw [List.append_nil] at hnone
    rw [hnone]
    rfl
  · rw [dropWhile_point (all_take hall _)]
    rfl

theorem scale_format (d : Decimal) : DecimalText.scale d.format = d.scale := by
  rw [DecimalText.scale, exponent_format, fraction_format]
  split
  · rename_i h
    simp [h]
  · have hlen := d.lt_length_paddedDigits
    rw [List.length_drop]
    omega

theorem count_point_format (d : Decimal) : (mantissa d.format).count '.' ≤ 1 := by
  have hnone : ∀ {digits : List Char}, digits.all Char.isDigit = true → digits.count '.' = 0 :=
    fun h => List.count_eq_zero.2 fun hmem => (digit_ne (List.all_eq_true.1 h _ hmem)).1 rfl
  have hall := d.all_isDigit_paddedDigits
  rw [mantissa_format, magnitudeText_eq]
  split
  · rw [hnone hall]
    omega
  · rw [List.count_append, List.count_cons_self, hnone (all_take hall _), hnone (all_drop hall _)]

/-- **The text of a decimal is read back as the decimal.** -/
theorem parse_format {d : Decimal} (h : d.scale ≤ 10000) : parse d.format = .ok d := by
  have hzero : (-(d.scale : Int)).toNat = 0 := Int.toNat_of_nonpos (by omega)
  have hread : readCoefficient d.format = d.coefficient := by
    unfold readCoefficient
    rw [digits_format, scale_format, hzero, List.replicate_zero, List.append_nil,
      ofDigitChars_paddedDigits]
    by_cases hneg : d.coefficient < 0
    · rw [if_pos (d.head_text_format.2 hneg)]
      omega
    · rw [if_neg fun h => hneg (d.head_text_format.1 h)]
      omega
  refine parse_ok.2 ⟨?_, ?_⟩
  · exact {
      exponents := by
        rw [exponents_format]
        exact Nat.zero_le 1
      numeric := fun e he => by
        rw [exponents_format] at he
        cases he
      small := by
        rw [exponent_format]
        decide
      characters := by
        rw [mantissa_format, List.all_eq_true]
        intro c hc
        rcases mem_magnitudeText hc with rfl | hdigit
        · rfl
        · simp [hdigit]
      point := d.count_point_format
      digits := by
        rw [digits_format]
        exact List.ne_nil_of_length_pos ((Nat.zero_le _).trans_lt d.lt_length_paddedDigits)
      scale := by
        rw [scale_format]
        omega }
  · rw [hread, scale_format, Int.toNat_natCast, normalized_self]

/-- Texts of decimals are equal only for equal decimals. -/
theorem format_inj {a b : Decimal} (ha : a.scale ≤ 10000) (hb : b.scale ≤ 10000) :
    a.format = b.format ↔ a = b := by
  refine ⟨fun h => ?_, fun h => by rw [h]⟩
  have hparse := parse_format ha
  rw [h, parse_format hb] at hparse
  exact (Except.ok.inj hparse).symm

/-! ## Canonical texts -/

end Decimal

/-- A sign only before a number that is not zero, no zero before the whole digits, and none after the
fraction. -/
def Canonical (value : String) : Prop :=
  ∃ (negative : Bool) (whole fraction : List Char),
    value = String.ofList ((if negative then ['-'] else []) ++ whole ++
      if fraction = [] then [] else '.' :: fraction) ∧
    whole ≠ [] ∧ (whole ++ fraction).all Char.isDigit = true ∧
    (whole = ['0'] ∨ whole.head? ≠ some '0') ∧ fraction.getLast? ≠ some '0' ∧
    (negative = true → ∃ c ∈ whole ++ fraction, c ≠ '0')

namespace Decimal

/-- The digits before the point. -/
def wholeDigits (d : Decimal) : List Char := d.paddedDigits.take (d.paddedDigits.length - d.scale)

def fractionDigits (d : Decimal) : List Char := d.paddedDigits.drop (d.paddedDigits.length - d.scale)

theorem length_fractionDigits (d : Decimal) : d.fractionDigits.length = d.scale := by
  have hlen := d.lt_length_paddedDigits
  rw [fractionDigits, List.length_drop]
  omega

theorem head_wholeDigits (d : Decimal) :
    d.wholeDigits = ['0'] ∨ d.wholeDigits.head? ≠ some '0' := by
  unfold wholeDigits paddedDigits
  generalize hn : Nat.toDigits 10 d.coefficient.natAbs = digits
  have hpos : 0 < digits.length := hn ▸ Nat.length_toDigits_pos
  by_cases hle : digits.length ≤ d.scale
  · -- the padding leaves one zero before the point
    left
    have hlen : (List.replicate (d.scale + 1 - digits.length) '0' ++ digits).length - d.scale = 1 := by
      rw [List.length_append, List.length_replicate]
      omega
    obtain ⟨k, hk⟩ := Nat.exists_eq_succ_of_ne_zero
      (show d.scale + 1 - digits.length ≠ 0 by omega)
    rw [hlen, hk]
    rfl
  · have hzero : d.scale + 1 - digits.length = 0 := by omega
    rw [hzero, List.replicate_zero, List.nil_append]
    rcases Text.head_toDigits d.coefficient.natAbs with h | h
    · rw [hn] at h
      rw [h] at hle ⊢
      have hscale : d.scale = 0 := by simpa using hle
      rw [hscale]
      exact .inl rfl
    · right
      rw [hn] at h
      rwa [List.head?_take, if_neg (by omega)]

theorem getLast_fractionDigits (d : Decimal) : d.fractionDigits.getLast? ≠ some '0' := by
  rcases d.normal with h | h
  · have hnil : d.fractionDigits = [] := List.length_eq_zero_iff.1 (d.length_fractionDigits.trans h)
    simp [hnil]
  · intro hlast
    have hmore : ¬ d.paddedDigits.length ≤ d.paddedDigits.length - d.scale := by
      intro hle
      have hnil : d.fractionDigits = [] := List.drop_eq_nil_of_le hle
      simp [hnil] at hlast
    rw [fractionDigits, List.getLast?_drop, if_neg hmore, paddedDigits, List.getLast?_append,
      Text.getLast_toDigits, Option.some_or, Option.some.injEq, Nat.digitChar_eq_zero] at hlast
    exact h (Int.natAbs_dvd_natAbs.1 (Nat.dvd_of_mod_eq_zero hlast))

theorem format_canonical (d : Decimal) : Canonical d.format := by
  have hjoin : d.wholeDigits ++ d.fractionDigits = d.paddedDigits := List.take_append_drop _ _
  have hlen := d.lt_length_paddedDigits
  refine ⟨decide (d.coefficient < 0), d.wholeDigits, d.fractionDigits, ?_, ?_, ?_,
    d.head_wholeDigits, d.getLast_fractionDigits, ?_⟩
  · have hbody : d.magnitudeText = d.wholeDigits ++
        if d.fractionDigits = [] then [] else '.' :: d.fractionDigits := by
      rw [magnitudeText_eq]
      by_cases h : d.scale = 0
      · have hnil : d.fractionDigits = [] :=
          List.length_eq_zero_iff.1 (d.length_fractionDigits.trans h)
        rw [if_pos h, if_pos hnil, List.append_nil, ← hjoin, hnil, List.append_nil]
      · have hne : d.fractionDigits ≠ [] := fun hnil =>
          h (d.length_fractionDigits.symm.trans (List.length_eq_zero_iff.2 hnil))
        rw [if_neg h, if_neg hne]
        rfl
    rw [format, hbody, List.append_assoc]
    by_cases h : d.coefficient < 0
    · simp [h]
    · simp [h]
  · refine List.ne_nil_of_length_pos ?_
    rw [wholeDigits, List.length_take]
    omega
  · rw [hjoin]
    exact d.all_isDigit_paddedDigits
  · intro hneg
    have hneg := of_decide_eq_true hneg
    by_contra hzero
    push Not at hzero
    rw [hjoin, ← Text.ofDigitChars_eq_zero d.all_isDigit_paddedDigits,
      ofDigitChars_paddedDigits] at hzero
    omega

/-! ## Exact sums -/

/-- The decimals that the code can hold are within the limit of `parse`. -/
theorem scale_add {a b : Decimal} (ha : a.scale ≤ 10000) (hb : b.scale ≤ 10000) :
    (a + b).scale ≤ 10000 :=
  Within.add ha hb

theorem scale_sum {ds : List Decimal} (h : ∀ d ∈ ds, d.scale ≤ 10000) : ds.sum.scale ≤ 10000 := by
  induction ds with
  | nil => exact Nat.zero_le _
  | cons d ds ih =>
    rw [List.sum_cons]
    exact scale_add (h d List.mem_cons_self) (ih fun e he => h e (List.mem_cons_of_mem _ he))

theorem toRat_sum (ds : List Decimal) : ds.sum.toRat = (ds.map toRat).sum := by
  induction ds with
  | nil => exact toRat_zero
  | cons d ds ih => rw [List.sum_cons, toRat_add, ih, List.map_cons, List.sum_cons]

theorem format_zero_iff {a : Decimal} (ha : a.scale ≤ 10000) : a.format = "0" ↔ a.toRat = 0 := by
  have hzero : (0 : Decimal).format = "0" := rfl
  rw [← hzero, format_inj ha (Nat.zero_le _), ← toRat_injective.eq_iff, toRat_zero]

theorem head_format_iff (a : Decimal) : a.format.toList.head? = some '-' ↔ a.toRat < 0 := by
  have htext : text a.format = a.format.toList := by
    rw [text_format, format, String.toList_ofList]
  rw [← htext, head_text_format, toRat_neg_iff]

/-- A chain of sums adds up to the sum of what its texts write. -/
theorem addDecimalText_chain {texts : List String} {ds : List Decimal}
    (h : texts.mapM parse = .ok ds) {a : Decimal} (ha : a.scale ≤ 10000) :
    texts.foldlM addDecimalText a.format = .ok (a + ds.sum).format := by
  induction texts generalizing a ds with
  | nil =>
    cases h
    simp [pure, Except.pure]
  | cons t texts ih =>
    simp only [List.mapM_cons, Except.bind_eq_ok, Except.pure_eq_ok] at h
    obtain ⟨d, hd, ds, hds, rfl⟩ := h
    have hadd : addDecimalText a.format t = .ok (a + d).format := by
      rw [addDecimalText, parse_format ha, hd]
      rfl
    rw [List.foldlM_cons, hadd]
    exact (ih hds (scale_add ha (scale_parse hd))).trans (by rw [List.sum_cons, add_assoc])

end Decimal

open Decimal

/-- **Exact arithmetic on texts.** Sums and differences of accepted texts are the canonical text of the
exact result, which is accepted again; the texts decide equality, zero and sign; a decimal is read
back from its text; and a chain of sums ends on the exact sum in any order. -/
theorem decimalText_exact {left right : String} {a b : Decimal} (ha : parse left = .ok a)
    (hb : parse right = .ok b) :
    (∃ c : Decimal, addDecimalText left right = .ok c.format ∧ Canonical c.format ∧
      c.toRat = decimalValue left + decimalValue right ∧ parse c.format = .ok c) ∧
    (∃ c : Decimal, subtractDecimalText left right = .ok c.format ∧ Canonical c.format ∧
      c.toRat = decimalValue left - decimalValue right ∧ parse c.format = .ok c) ∧
    (∀ d : Decimal, d.scale ≤ 10000 → parse d.format = .ok d) ∧
    (a.format = b.format ↔ decimalValue left = decimalValue right) ∧
    (a.format = "0" ↔ decimalValue left = 0) ∧
    (a.format.toList.head? = some '-' ↔ decimalValue left < 0) ∧
    ∀ texts : List String, (∀ t ∈ texts, ∃ d, parse t = .ok d) →
      ∃ s : Decimal, s.toRat = decimalValue left + (texts.map decimalValue).sum ∧
        parse s.format = .ok s ∧ ∀ texts' : List String, texts'.Perm texts →
          texts'.foldlM addDecimalText a.format = .ok s.format := by
  have hsa := scale_parse ha
  have hsb := scale_parse hb
  refine ⟨⟨a + b, ?_, format_canonical _, ?_, parse_format (scale_add hsa hsb)⟩,
    ⟨a - b, ?_, format_canonical _, ?_, parse_format (Within.sub hsa hsb)⟩,
    fun d hd => parse_format hd, ?_, ?_, ?_, ?_⟩
  · rw [addDecimalText, ha, hb]
    rfl
  · rw [toRat_add, toRat_parse ha, toRat_parse hb]
  · rw [subtractDecimalText, ha, hb]
    rfl
  · rw [toRat_sub, toRat_parse ha, toRat_parse hb]
  · rw [format_inj hsa hsb, ← toRat_injective.eq_iff, toRat_parse ha, toRat_parse hb]
  · rw [format_zero_iff hsa, toRat_parse ha]
  · rw [head_format_iff, toRat_parse ha]
  · intro texts hall
    -- the chain over any texts that are all accepted
    have hchain : ∀ {texts : List String}, (∀ t ∈ texts, ∃ d, parse t = .ok d) →
        ∃ s : Decimal, s.toRat = decimalValue left + (texts.map decimalValue).sum ∧
          s.scale ≤ 10000 ∧ texts.foldlM addDecimalText a.format = .ok s.format := by
      intro texts hall
      obtain ⟨ds, hds⟩ := Except.exists_mapM_ok hall
      have hread : ds.map toRat = texts.map decimalValue ∧ ∀ d ∈ ds, d.scale ≤ 10000 := by
        have hrel := Except.mapM_eq_ok hds
        clear hds hall
        induction hrel with
        | nil => exact ⟨rfl, fun d hd => by cases hd⟩
        | cons hd _ ih =>
          refine ⟨by rw [List.map_cons, List.map_cons, ih.1, toRat_parse hd], fun e he => ?_⟩
          rcases List.mem_cons.1 he with rfl | he
          · exact scale_parse hd
          · exact ih.2 e he
      refine ⟨a + ds.sum, ?_, scale_add hsa (scale_sum hread.2), addDecimalText_chain hds hsa⟩
      rw [toRat_add, toRat_sum, hread.1, toRat_parse ha]
    obtain ⟨s, hs, hscale, -⟩ := hchain hall
    refine ⟨s, hs, parse_format hscale, fun texts' hperm => ?_⟩
    obtain ⟨s', hs', -, hfold⟩ := hchain fun t ht => hall t (hperm.mem_iff.1 ht)
    obtain rfl : s' = s :=
      toRat_injective (hs'.trans (by rw [(hperm.map decimalValue).sum_eq, ← hs]))
    exact hfold

/-- A text with an exponent and one with superfluous zeros. -/
theorem decimalText_exact_zeros :
    (∃ c : Decimal, addDecimalText " -1.250e1" "+0012.500" = .ok c.format ∧ Canonical c.format ∧
      c.toRat = decimalValue " -1.250e1" + decimalValue "+0012.500" ∧ parse c.format = .ok c) ∧
    addDecimalText " -1.250e1" "+0012.500" = .ok "0" := by
  have hleft : parse " -1.250e1" = .ok (normalized (-125) 1) := by decide +kernel
  have hright : parse "+0012.500" = .ok (normalized 125 1) := by decide +kernel
  exact ⟨(decimalText_exact hleft hright).1, by decide +kernel⟩
