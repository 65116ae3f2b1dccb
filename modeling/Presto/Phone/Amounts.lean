import Mathlib.Data.Int.Log
import Mathlib.Data.Rat.Floor
import Presto.Lib.Fallible
import Presto.Lib.Text
import Presto.Phone.Entry

/-!
# Amounts on the phone (`core/Amounts.kt`)

| source (`Amounts.kt`)     | model             |
|---------------------------|-------------------|
| `parseLocalized` (`:7`)   | `parseLocalized`  |
| `Formula` (`:69`)         | `Formula.parse`   |
| `parseAmount` (`:54`)     | `parseAmount`     |
| `parseMoney` (`:59`)      | `parseMoney`      |

The web reads literals with the same steps (`web/lib/amountInput.ts`, `Presto.Web.AmountInput`), but with
other classes of white space and letters. The steps are written once, for a `Reader` that has these.

A text is a list of characters. Half of a surrogate pair is none, and neither platform takes one for
white space, a digit or a mark.
-/

namespace Amounts

/-! ## Readers of literals -/

def isSeparator (c : Char) : Bool := c = '.' || c = ','

def isSign (c : Char) : Bool := c = '+' || c = '-'

/-- The characters that a number begins and ends with. -/
def isNumeric (c : Char) : Bool := c.isDigit || isSeparator c || isSign c

/-- `[ \u00a0\u202f]`. -/
def isGroupSpace (c : Char) : Bool := c = ' ' || c = '\u00a0' || c = '\u202f'

def CODES : List (List Char) := ["EUR".toList, "USD".toList, "PHP".toList]

def SYMBOLS : List Char := ['€', '$', '₱']

/-- What one of the platforms takes for white space, and for a letter of a currency code. -/
structure Reader where
  /-- White space that `trim` takes away. -/
  trims : Char → Bool
  /-- White space in a regular expression. -/
  gap : Char → Bool
  /-- White space that is looked for between digits. -/
  blank : Char → Bool
  /-- A character that matches a letter, whatever its case. -/
  letter : Char → Char → Bool
  gap_trims : ∀ c, gap c = true → trims c = true
  trims_plain : ∀ c, trims c = true → isNumeric c = false ∧ c ∉ SYMBOLS
  blank_plain : ∀ c, blank c = true → isNumeric c = false
  groupSpace_blank : ∀ c, isGroupSpace c = true → blank c = true
  letter_plain : ∀ c, ∀ code ∈ CODES, ∀ l ∈ code, letter c l = true →
    isNumeric c = false ∧ c ∉ SYMBOLS ∧ trims c = false

namespace Reader

variable (r : Reader)

/-- `EUR|USD|PHP|[€$₱]`, without regard to case. -/
def isMark (mark : List Char) : Bool :=
  CODES.any (fun code => mark.length = 3 && (mark.zip code).all fun p => r.letter p.1 p.2) ||
    SYMBOLS.any fun symbol => mark = [symbol]

/-- A mark at the start of a text and the white space after it, taken away. -/
def stripMark (isMark : List Char → Bool) (text : List Char) : List Char :=
  if isMark (text.take 3) then (text.drop 3).dropWhile r.gap
  else if isMark (text.take 1) then (text.drop 1).dropWhile r.gap
  else text

def trim (text : List Char) : List Char := (text.dropWhile r.trims).rdropWhile r.trims

/-- The text without the white space around it, a mark in front and a mark behind. Java's `$` would
also look past a final `U+0085`, with which nothing is read. -/
def strip (text : List Char) : List Char :=
  let text := r.stripMark r.isMark (r.trim text)
  (r.stripMark (fun mark => r.isMark mark.reverse) text.reverse).reverse

/-- A first group of one to three digits, and groups of three. -/
def completeGroups : List (List Char) → Bool
  | [] => false
  | group :: groups =>
    (1 ≤ group.length && group.length ≤ 3 && group.all Char.isDigit) &&
      groups.all fun group => group.length = 3 && group.all Char.isDigit

/-- `\d+`. -/
def digits (text : List Char) : Bool := text ≠ [] && text.all Char.isDigit

/-- `\d{1,3}(?:[ \u00a0\u202f]\d{3})+(?:\.\d+)?`. -/
def spacedNumber (text : List Char) : Bool :=
  let groups := (text.takeWhile (· ≠ '.')).splitOnP isGroupSpace
  2 ≤ groups.length && completeGroups groups &&
    match text.dropWhile (· ≠ '.') with
    | [] => true
    | _ :: fraction => digits fraction

/-- `replace(',', '.')`. -/
def commaToDot (c : Char) : Char := if c = ',' then '.' else c

/-- Dot and comma: the one that comes last is the decimal mark, the other one groups. -/
def joinMixed (text : List Char) : Option (List Char) :=
  let separator := if (text.filter isSeparator).getLast? = some '.' then '.' else ','
  let grouping := if separator = '.' then ',' else '.'
  match text.splitOnP (· = separator) with
  | [whole, fraction] =>
    let groups := whole.splitOnP (· = grouping)
    if digits fraction && completeGroups groups then some (groups.flatten ++ '.' :: fraction)
    else none
  | _ => none

/-- The parts between the separators, when they are all the same. -/
def split (text : List Char) : List (List Char) :=
  if text.contains '.' then text.splitOnP (· = '.')
  else if text.contains ',' then text.splitOnP (· = ',')
  else [text]

/-- A separator that comes more than once groups. -/
def joinRepeated (text : List Char) : Option (List Char) :=
  let groups := split text
  if 2 < groups.length then
    if completeGroups groups then some groups.flatten else none
  else some (text.map commaToDot)

def joinSpaced (text : List Char) : Option (List Char) :=
  if text.any r.blank then
    if spacedNumber text then some (text.filter fun c => !isGroupSpace c) else none
  else some text

/-- The number with its groups joined and a dot for the decimal mark. -/
def ungroup (text : List Char) : Option (List Char) :=
  if text.contains '.' && text.contains ',' then joinMixed text
  else (joinRepeated text).bind r.joinSpaced

/-- `\d+(?:\.\d*)?|\.\d+`. -/
def plainNumber (text : List Char) : Bool :=
  let whole := text.takeWhile Char.isDigit
  match text.dropWhile Char.isDigit with
  | [] => whole ≠ []
  | c :: fraction => c = '.' && fraction.all Char.isDigit && (whole ≠ [] || fraction ≠ [])

/-- The number of the digits before and after the decimal mark. -/
def decimalOf (negative : Bool) (whole fraction : List Char) : Decimal :=
  let coefficient : Int := Nat.ofDigitChars 10 (whole ++ fraction) 0
  .normalized (if negative then -coefficient else coefficient) fraction.length

/-- `toBigDecimal`, of a sign and a plain number. -/
def toBigDecimal (negative : Bool) (text : List Char) : Decimal :=
  decimalOf negative (text.takeWhile Char.isDigit) ((text.dropWhile Char.isDigit).drop 1)

/-- The sign and the text after it. -/
def splitSign : List Char → Bool × List Char
  | [] => (false, [])
  | c :: text => if isSign c then (decide (c = '-'), text) else (false, c :: text)

def number (text : List Char) : Option Decimal :=
  let signed := splitSign text
  ((r.ungroup signed.2).filter plainNumber).map (toBigDecimal signed.1)

def localized (text : List Char) : Option Decimal := r.number (r.strip text)

end Reader

/-! ## The phone's reader -/

/-- `\s` of Java. -/
def isJavaSpace (c : Char) : Bool := (9 ≤ c.toNat && c.toNat ≤ 13) || c = ' '

theorem numeric_toNat {c : Char} (h : isNumeric c = true) : 43 ≤ c.toNat ∧ c.toNat ≤ 57 := by
  simp only [isNumeric, isSeparator, isSign, Bool.or_eq_true, decide_eq_true_eq] at h
  rcases h with (h | rfl | rfl) | rfl | rfl
  · rw [Char.isDigit_iff_toNat] at h
    have hlo : '0'.toNat = 48 := rfl
    have hhi : '9'.toNat = 57 := rfl
    omega
  all_goals exact ⟨by decide, by decide⟩

/-- A character that no number has, by its code. -/
theorem not_numeric {c : Char} (h : c.toNat < 43 ∨ 57 < c.toNat) : isNumeric c = false := by
  rw [Bool.eq_false_iff]
  intro hc
  have hcode := numeric_toNat hc
  omega

theorem symbol_toNat {c : Char} (h : c ∈ SYMBOLS) :
    c.toNat = 8364 ∨ c.toNat = 36 ∨ c.toNat = 8369 := by
  simp only [SYMBOLS, List.mem_cons, List.not_mem_nil, or_false] at h
  rcases h with rfl | rfl | rfl <;> decide

theorem whitespace_plain (c : Char) (h : Entry.isWhitespace c = true) :
    isNumeric c = false ∧ c ∉ SYMBOLS := by
  simp only [Entry.isWhitespace, Bool.or_eq_true, Bool.and_eq_true, decide_eq_true_eq] at h
  refine ⟨not_numeric (by omega), fun hc => ?_⟩
  have hcode := symbol_toNat hc
  omega

theorem blank_plain (c : Char) (h : (Entry.isWhitespace c || c = '\u00a0') = true) :
    isNumeric c = false := by
  rw [Bool.or_eq_true, decide_eq_true_eq] at h
  rcases h with h | rfl
  · exact (whitespace_plain c h).1
  · decide

theorem javaSpace_whitespace (c : Char) (h : isJavaSpace c = true) :
    Entry.isWhitespace c = true := by
  simp only [isJavaSpace, Bool.or_eq_true, Bool.and_eq_true, decide_eq_true_eq] at h
  simp only [Entry.isWhitespace, Bool.or_eq_true, Bool.and_eq_true, decide_eq_true_eq]
  rcases h with h | rfl
  · omega
  · decide

theorem groupSpace_whitespace (c : Char) (h : isGroupSpace c = true) :
    Entry.isWhitespace c = true := by
  simp only [isGroupSpace, Bool.or_eq_true, decide_eq_true_eq] at h
  rcases h with (rfl | rfl) | rfl <;> decide

/-- A letter of `EUR`, `USD` or `PHP` in either case, or a long `s` for the `S`. -/
def matchesLetter (c l : Char) : Bool := c = l || c = l.toLower || (l = 'S' && c = 'ſ')

theorem letter_toNat (c : Char) (code : List Char) (hcode : code ∈ CODES) (l : Char) (hl : l ∈ code)
    (h : matchesLetter c l = true) : 65 ≤ c.toNat ∧ c.toNat ≤ 383 ∧ c.toNat ≠ 160 := by
  have hall : (CODES.flatten.all fun l => decide ((65 ≤ l.toNat ∧ l.toNat ≤ 90) ∧
      65 ≤ l.toLower.toNat ∧ l.toLower.toNat ≤ 122)) = true := by decide
  obtain ⟨hupper, hlower⟩ :=
    of_decide_eq_true (List.all_eq_true.1 hall l (List.mem_flatten.2 ⟨code, hcode, hl⟩))
  simp only [matchesLetter, Bool.or_eq_true, Bool.and_eq_true, decide_eq_true_eq] at h
  rcases h with (rfl | rfl) | ⟨-, rfl⟩
  · omega
  · omega
  · decide

theorem letter_plain (c : Char) (code : List Char) (hcode : code ∈ CODES) (l : Char) (hl : l ∈ code)
    (h : matchesLetter c l = true) :
    isNumeric c = false ∧ c ∉ SYMBOLS ∧ Entry.isWhitespace c = false := by
  have hc := letter_toNat c code hcode l hl h
  refine ⟨not_numeric (by omega), fun hs => ?_, ?_⟩
  · have hcode := symbol_toNat hs
    omega
  · rw [Bool.eq_false_iff]
    intro hw
    simp only [Entry.isWhitespace, Bool.or_eq_true, Bool.and_eq_true, decide_eq_true_eq] at hw
    omega

/-- Kotlin on the JVM: `trim` by `Char.isWhitespace`, `\s` of Java, cases by Unicode. A device compiles
the same regular expressions with ICU, whose `\s` has more characters. -/
def phone : Reader where
  trims := Entry.isWhitespace
  gap := isJavaSpace
  blank c := Entry.isWhitespace c || c = '\u00a0'
  letter := matchesLetter
  gap_trims := javaSpace_whitespace
  trims_plain := whitespace_plain
  blank_plain := blank_plain
  groupSpace_blank c h := by rw [groupSpace_whitespace c h, Bool.true_or]
  letter_plain := letter_plain

def parseLocalized (value : List Char) : Option Decimal := phone.localized value

/-! ## Formulas -/

namespace Formula

/-- Why a formula has no value: it is thrown out, or the model has run out of fuel. -/
inductive Stop
  | invalid
  | fuel
deriving DecidableEq

/-- A value and the text after it: what is left stands for the index. -/
abbrev Parsed := Except Stop (Decimal × List Char)

def spaces (text : List Char) : List Char := text.dropWhile Entry.isWhitespace

def isTimes (c : Char) : Bool := c = '*' || c = '/' || c = '×' || c = '÷'

/-- `multiply`. -/
def times (a b : Decimal) : Decimal :=
  .normalized (a.coefficient * b.coefficient) (a.scale + b.scale)

/-- `divide` with `MathContext.DECIMAL128`: 34 digits of the quotient, half to even. -/
def divide (a b : Decimal) : Except Stop Decimal :=
  if b = 0 then .error .invalid
  else if a = 0 then .ok 0
  else
    let quotient := a.toRat / b.toRat
    -- the place of the last digit that is kept
    let place : Int := 33 - Int.log 10 |quotient|
    let scaled := quotient * 10 ^ min place 0
    let kept := Ratio.roundDecimal ⟨scaled.num, scaled.den⟩ place.toNat .halfEven
    .ok (times kept (.normalized (10 ^ (-place).toNat) 0))

def addition (op : Char) (result right : Decimal) : Except Stop Decimal :=
  .ok (if op = '+' then result + right else result - right)

def multiplication (op : Char) (result right : Decimal) : Except Stop Decimal :=
  if op = '*' ∨ op = '×' then .ok (times result right) else divide result right

/-- The loop of `expression` and of `term`: operators of one kind, and operands between them. -/
def chain (operand : List Char → Parsed) (isOp : Char → Bool)
    (apply : Char → Decimal → Decimal → Except Stop Decimal) : Nat → Decimal → List Char → Parsed
  | 0, _, _ => .error .fuel
  | fuel + 1, result, text =>
    match spaces text with
    | [] => .ok (result, [])
    | op :: text =>
      if isOp op then do
        let (right, text) ← operand text
        let result ← apply op result right
        chain operand isOp apply fuel result text
      else .ok (result, op :: text)

/-- A first operand, and the loop. Each turn takes an operator away. -/
def operands (operand : List Char → Parsed) (isOp : Char → Bool)
    (apply : Char → Decimal → Decimal → Except Stop Decimal) (text : List Char) : Parsed := do
  let (result, text) ← operand text
  chain operand isOp apply (text.length + 1) result text

def term (unary : List Char → Parsed) : List Char → Parsed :=
  operands unary isTimes multiplication

def expression (unary : List Char → Parsed) : List Char → Parsed :=
  operands (term unary) isSign addition

/-- `^(?:\d[\d.,]*|[.,]\d+)`. -/
def matchLiteral : List Char → List Char
  | [] => []
  | c :: text =>
    if c.isDigit then c :: text.takeWhile fun c => c.isDigit || isSeparator c
    else if isSeparator c && (text.takeWhile Char.isDigit ≠ []) then c :: text.takeWhile Char.isDigit
    else []

def literal (text : List Char) : Parsed :=
  let value := matchLiteral text
  if value = [] then .error .invalid
  else match parseLocalized value with
    | none => .error .invalid
    | some number => .ok (number, text.drop value.length)

/-- The closing parenthesis. -/
def close (value : Decimal) (text : List Char) : Parsed :=
  match spaces text with
  | ')' :: text => .ok (value, text)
  | _ => .error .invalid

/-- Signs and parentheses go one level deeper. -/
def unary : Nat → List Char → Parsed
  | 0, _ => .error .fuel
  | depth + 1, text =>
    match spaces text with
    | [] => literal []
    | c :: text =>
      if isSign c then do
        let (value, text) ← unary depth text
        .ok (if c = '-' then -value else value, text)
      else if c = '(' then do
        let (value, text) ← expression (unary depth) text
        close value text
      else literal (c :: text)

/-- The length of a Kotlin string: characters beyond the first plane count for two. -/
def utf16Length (text : List Char) : Nat :=
  (text.map fun c => if c.toNat < 0x10000 then 1 else 2).sum

def parse (text : List Char) : Except Stop Decimal := do
  Except.ensure (utf16Length text ≤ 256) .invalid
  let (value, text) ← expression (unary (text.length + 1)) text
  Except.ensure (spaces text = []) .invalid
  .ok value

end Formula

/-! ## Money -/

/-- `trim().startsWith('=')`. -/
def isFormula (text : List Char) : Bool := (phone.trim text).head? = some '='

def parseAmount (text : List Char) : Option Decimal :=
  if isFormula text then (Formula.parse ((phone.trim text).drop 1)).toOption
  else parseLocalized text

/-- `setScale(2, RoundingMode.HALF_UP)`: ties go away from zero. -/
def setScale2 (amount : Decimal) : Decimal :=
  Ratio.roundDecimal ⟨amount.coefficient, 10 ^ amount.scale⟩ 2 .halfAwayFromZero

/-- `90071992547409.91`. -/
def bound : Decimal := .normalized 9007199254740991 2

def parseMoney (text : List Char) : Option Decimal :=
  (parseAmount text).bind fun amount =>
    let rounded := setScale2 amount
    let exact := amount.scale ≤ 2 ∨
      (isFormula text = true ∧ (amount - rounded).unsigned < .normalized 1 9)
    if ¬ exact ∨ bound < amount.unsigned then none else some rounded

end Amounts
