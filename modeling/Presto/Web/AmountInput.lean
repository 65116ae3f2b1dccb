import Mathlib.Data.Rat.Floor
import Presto.Phone.Amounts

/-!
# Amounts in the browser (`web/lib/amountInput.ts`)

| source                        | model                  |
|-------------------------------|------------------------|
| `parseLocalizedNumber` (`:4`) | `parseLocalizedNumber` |
| `parseAmount` (`:36`)         | `parseAmount`          |
| `parseMoneyAmount` (`:108`)   | `parseMoneyAmount`     |

Numbers are exact decimals here, where the browser has doubles. What `parseFormula` makes of a text
that starts with `=` is a parameter.
-/

namespace AmountInput

open Amounts

/-- White space and line ends of ECMAScript: for `trim`, and for `\s`. -/
def isSpace (c : Char) : Bool :=
  (9 ≤ c.toNat && c.toNat ≤ 13) || c.toNat = 32 || c.toNat = 160 || c.toNat = 5760 ||
  (8192 ≤ c.toNat && c.toNat ≤ 8202) || c.toNat = 8232 || c.toNat = 8233 || c.toNat = 8239 ||
  c.toNat = 8287 || c.toNat = 12288 || c.toNat = 65279

/-- A letter in either case. -/
def matchesLetter (c l : Char) : Bool := c = l || c = l.toLower

theorem space_plain (c : Char) (h : isSpace c = true) : isNumeric c = false ∧ c ∉ SYMBOLS := by
  simp only [isSpace, Bool.or_eq_true, Bool.and_eq_true, decide_eq_true_eq] at h
  refine ⟨not_numeric (by omega), fun hc => ?_⟩
  have hcode := symbol_toNat hc
  omega

theorem groupSpace_space (c : Char) (h : isGroupSpace c = true) : isSpace c = true := by
  simp only [isGroupSpace, Bool.or_eq_true, decide_eq_true_eq] at h
  rcases h with (rfl | rfl) | rfl <;> decide

theorem letter_plain (c : Char) (code : List Char) (hcode : code ∈ CODES) (l : Char) (hl : l ∈ code)
    (h : matchesLetter c l = true) : isNumeric c = false ∧ c ∉ SYMBOLS ∧ isSpace c = false := by
  have hc : Amounts.matchesLetter c l = true := by
    unfold Amounts.matchesLetter
    rw [show (decide (c = l) || decide (c = l.toLower)) = true from h, Bool.true_or]
  have hcode' := letter_toNat c code hcode l hl hc
  refine ⟨(Amounts.letter_plain c code hcode l hl hc).1,
    (Amounts.letter_plain c code hcode l hl hc).2.1, ?_⟩
  rw [Bool.eq_false_iff]
  intro hw
  simp only [isSpace, Bool.or_eq_true, Bool.and_eq_true, decide_eq_true_eq] at hw
  omega

/-- ECMAScript: one class of white space for all, cases without Unicode. -/
def web : Reader where
  trims := isSpace
  gap := isSpace
  blank := isSpace
  letter := matchesLetter
  gap_trims _ h := h
  trims_plain := space_plain
  blank_plain c h := (space_plain c h).1
  groupSpace_blank := groupSpace_space
  letter_plain := letter_plain

/-- `parseLocalizedNumber`; the empty text, for which it returns at once, has no number either. -/
def parseLocalizedNumber (value : List Char) : Option Decimal := web.localized value

/-- `Math.round(number * 100)`. -/
def cents (number : Decimal) : Int := ⌊number.toRat * 100 + 1 / 2⌋

/-- `Number.isSafeInteger`. -/
def isSafeInteger (n : Int) : Bool := n.natAbs ≤ 2 ^ 53 - 1

section
variable (parseFormula : List Char → Option Decimal)

def parseAmount (value : List Char) : Option Decimal :=
  let text := web.trim value
  if text.head? = some '=' then parseFormula (text.drop 1) else parseLocalizedNumber text

def parseMoneyAmount (value : List Char) : Option Decimal :=
  (parseAmount parseFormula value).bind fun number =>
    if isSafeInteger (cents number) ∧ |number.toRat * 100 - cents number| ≤ 1 / 10 ^ 7 then
      some (.normalized (cents number) 2)
    else none

end

end AmountInput
