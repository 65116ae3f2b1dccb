import Mathlib.Algebra.Order.Field.Rat
import Mathlib.Algebra.Group.InjSurj
import Mathlib.Data.Rat.Cast.Order
import Mathlib.Tactic.FieldSimp
import Mathlib.Tactic.Linarith
import Mathlib.Tactic.LinearCombination
import Mathlib.Tactic.NormNum
import Mathlib.Tactic.Positivity
import Mathlib.Tactic.Ring

/-!
# Exact decimals: `Decimal` and `Ratio` of `finance_model.rs`

Amounts are stored as canonical decimal text. `Decimal::parse` and `Decimal::format` are inverse to
each other on canonical texts, so the model keeps the parsed form: a coefficient and a scale,
*normalised* as `Decimal::normalized` leaves them (`finance_model.rs:77-83`). Two stored texts are
equal iff the decimals are, and the text is `"0"` iff the decimal is `0`.

FX arithmetic runs over `Ratio` and is rounded once, at the end (`finance_model.rs:130-197`).
-/

/-- A normalised decimal `coefficient * 10 ^ (-scale)`. -/
structure Decimal where
  coefficient : Int
  scale : Nat
  normal : scale = 0 ∨ ¬ (10 : Int) ∣ coefficient
deriving DecidableEq

namespace Decimal

/-- `Decimal::normalized`: drop trailing zeros of the fraction. -/
def normalized : Int → Nat → Decimal
  | c, 0 => ⟨c, 0, .inl rfl⟩
  | c, s + 1 => if h : (10 : Int) ∣ c then normalized (c / 10) s else ⟨c, s + 1, .inr h⟩

/-- `Decimal::add`: bring both to the larger scale. -/
def add (a b : Decimal) : Decimal :=
  let scale := max a.scale b.scale
  normalized (a.coefficient * 10 ^ (scale - a.scale) + b.coefficient * 10 ^ (scale - b.scale)) scale

/-- `Decimal::negated`. -/
def negated (a : Decimal) : Decimal :=
  ⟨-a.coefficient, a.scale, a.normal.imp_right fun h => by rwa [Int.dvd_neg]⟩

/-- The number a decimal stands for. -/
def toRat (a : Decimal) : ℚ := a.coefficient / 10 ^ a.scale

theorem toRat_normalized (c : Int) (s : Nat) : (normalized c s).toRat = c / 10 ^ s := by
  induction s generalizing c with
  | zero => rfl
  | succ s ih =>
    unfold normalized
    split
    · rename_i h
      obtain ⟨k, rfl⟩ := h
      rw [ih, Int.mul_ediv_cancel_left _ (by norm_num), pow_succ]
      push_cast
      field_simp
    · rfl

theorem scale_normalized_le (c : Int) (s : Nat) : (normalized c s).scale ≤ s := by
  induction s generalizing c with
  | zero => simp [normalized]
  | succ s ih =>
    unfold normalized
    split
    · exact (ih _).trans (Nat.le_succ s)
    · exact le_rfl

/-- Normal forms are unique: two decimals of the same value are the same text. -/
theorem toRat_injective : Function.Injective toRat := by
  -- it is enough to compare a larger scale with a smaller one
  have key : ∀ a b : Decimal, a.scale ≤ b.scale → a.toRat = b.toRat → a = b := by
    rintro ⟨c, s, hc⟩ ⟨d, t, hd⟩ hle h
    obtain ⟨e, rfl⟩ := Nat.exists_eq_add_of_le hle
    have h10 : ((10 : ℚ) ^ s) ≠ 0 := by positivity
    have hq : (c : ℚ) * 10 ^ e = d := by
      have h' : (c : ℚ) / 10 ^ s = d / 10 ^ (s + e) := h
      rw [pow_add, eq_div_iff (by positivity)] at h'
      field_simp at h'
      linarith
    have hz : c * 10 ^ e = d := by exact_mod_cast hq
    cases e with
    | zero => simp at hz; subst hz; rfl
    | succ e =>
      rcases hd with hd | hd
      · omega
      · exact absurd ⟨c * 10 ^ e, by rw [← hz]; ring⟩ hd
  intro a b h
  rcases Nat.le_total a.scale b.scale with hl | hl
  · exact key a b hl h
  · exact (key b a hl h.symm).symm

instance : Zero Decimal := ⟨⟨0, 0, .inl rfl⟩⟩
instance : Add Decimal := ⟨add⟩
instance : Neg Decimal := ⟨negated⟩
/-- `subtract_decimal_text` (`finance_model.rs:220-224`). -/
instance : Sub Decimal := ⟨fun a b => a.add b.negated⟩
instance : SMul Nat Decimal := ⟨fun n a => normalized (n * a.coefficient) a.scale⟩
instance : SMul Int Decimal := ⟨fun n a => normalized (n * a.coefficient) a.scale⟩
instance : One Decimal := ⟨⟨1, 0, .inl rfl⟩⟩
instance (n : Nat) : OfNat Decimal (n + 2) := ⟨⟨(n + 2 : Nat), 0, .inl rfl⟩⟩
instance : Inhabited Decimal := ⟨0⟩

@[simp] theorem toRat_zero : (0 : Decimal).toRat = 0 := by
  show ((0 : Int) : ℚ) / 10 ^ 0 = 0
  simp

theorem eq_zero_of_coefficient {a : Decimal} (h : a.coefficient = 0) : a = 0 :=
  toRat_injective (by rw [toRat_zero, toRat, h]; simp)

theorem toRat_add (a b : Decimal) : (a + b).toRat = a.toRat + b.toRat := by
  show (add a b).toRat = _
  unfold add
  rw [toRat_normalized]
  obtain ⟨p, hp⟩ := Nat.exists_eq_add_of_le (le_max_left a.scale b.scale)
  obtain ⟨q, hq⟩ := Nat.exists_eq_add_of_le (le_max_right a.scale b.scale)
  have ha : max a.scale b.scale - a.scale = p := by omega
  have hb : max a.scale b.scale - b.scale = q := by omega
  rw [ha, hb]
  push_cast
  rw [add_div]
  congr 1
  · rw [hp, toRat, pow_add]; field_simp
  · rw [hq, toRat, pow_add]; field_simp

theorem toRat_neg (a : Decimal) : (-a).toRat = -a.toRat := by
  show ((-a.coefficient : Int) : ℚ) / 10 ^ a.scale = -a.toRat
  rw [toRat]
  push_cast
  ring

theorem toRat_sub (a b : Decimal) : (a - b).toRat = a.toRat - b.toRat := by
  show (a + -b).toRat = _
  rw [toRat_add, toRat_neg, sub_eq_add_neg]

theorem toRat_nsmul (n : Nat) (a : Decimal) : (n • a).toRat = n • a.toRat := by
  show (normalized (n * a.coefficient) a.scale).toRat = _
  rw [toRat_normalized, toRat, nsmul_eq_mul]
  push_cast
  ring

theorem toRat_zsmul (n : Int) (a : Decimal) : (n • a).toRat = n • a.toRat := by
  show (normalized (n * a.coefficient) a.scale).toRat = _
  rw [toRat_normalized, toRat, zsmul_eq_mul]
  push_cast
  ring

/-- Decimals add exactly. -/
instance : AddCommGroup Decimal :=
  toRat_injective.addCommGroup toRat toRat_zero toRat_add toRat_neg toRat_sub
    (fun a n => toRat_nsmul n a) (fun a n => toRat_zsmul n a)

/-- Decimals are ordered by value. -/
instance : LinearOrder Decimal := LinearOrder.lift' toRat toRat_injective

theorem le_iff {a b : Decimal} : a ≤ b ↔ a.toRat ≤ b.toRat := Iff.rfl

theorem lt_iff {a b : Decimal} : a < b ↔ a.toRat < b.toRat := Iff.rfl

instance : IsOrderedAddMonoid Decimal where
  add_le_add_left a b h c := by
    rw [le_iff] at h ⊢
    rw [toRat_add, toRat_add]
    linarith

/-- The text of a decimal starts with `-` iff its coefficient is negative. -/
def isNegative (a : Decimal) : Bool := a.coefficient < 0

theorem toRat_neg_iff (a : Decimal) : a.toRat < 0 ↔ a.coefficient < 0 := by
  rw [toRat, div_lt_iff₀ (by positivity), zero_mul]
  exact_mod_cast Iff.rfl

theorem isNegative_iff {a : Decimal} : a.isNegative = true ↔ a < 0 := by
  rw [lt_iff, toRat_zero, toRat_neg_iff, isNegative, decide_eq_true_iff]

/-- `positive` of `budget_ledger.rs:19-25`. -/
def positive (a : Decimal) : Decimal := if a.isNegative then 0 else a

theorem positive_eq_max (a : Decimal) : a.positive = max a 0 := by
  unfold positive
  split
  · rename_i h
    exact (max_eq_right (isNegative_iff.1 h).le).symm
  · rename_i h
    rw [isNegative_iff, not_lt] at h
    exact (max_eq_left h).symm

/-- `trim_start_matches('-')` on canonical text. -/
def unsigned (a : Decimal) : Decimal := if a.isNegative then -a else a

/-- Amounts with at most `places` decimals. -/
def Within (places : Nat) (a : Decimal) : Prop := a.scale ≤ places

instance (places : Nat) (a : Decimal) : Decidable (Within places a) :=
  inferInstanceAs (Decidable (a.scale ≤ places))

theorem Within.zero (places : Nat) : Within places 0 := Nat.zero_le _

theorem Within.add {places : Nat} {a b : Decimal} (ha : Within places a) (hb : Within places b) :
    Within places (a + b) :=
  (scale_normalized_le _ _).trans (max_le ha hb)

theorem Within.neg {places : Nat} {a : Decimal} (ha : Within places a) : Within places (-a) := ha

theorem Within.sub {places : Nat} {a b : Decimal} (ha : Within places a) (hb : Within places b) :
    Within places (a - b) := ha.add hb.neg

theorem Within.positive {places : Nat} {a : Decimal} (ha : Within places a) :
    Within places a.positive := by
  unfold Decimal.positive
  split
  · exact Within.zero places
  · exact ha

theorem Within.unsigned {places : Nat} {a : Decimal} (ha : Within places a) :
    Within places a.unsigned := by
  unfold Decimal.unsigned
  split
  · exact ha.neg
  · exact ha

end Decimal

/-! ## Ratios and rounding -/

/-- `RoundingMode` (`finance_model.rs:204-208`). -/
inductive RoundingMode
  | halfAwayFromZero
  | halfEven
  | towardZero
deriving DecidableEq

/-- `POSTING_ROUNDING_MODE`. -/
def postingRoundingMode : RoundingMode := .halfEven

/-- A quotient of big integers, not reduced. -/
structure Ratio where
  numerator : Int
  denominator : Int
deriving DecidableEq

namespace Ratio

/-- `Ratio::normalized`: the denominator is made positive. -/
def normalized (r : Ratio) : Ratio :=
  if r.denominator < 0 then ⟨-r.numerator, -r.denominator⟩ else r

def multiply (a b : Ratio) : Ratio :=
  normalized ⟨a.numerator * b.numerator, a.denominator * b.denominator⟩

def divide (a b : Ratio) : Except String Ratio :=
  if b.numerator = 0 then .error "cannot divide by a zero FX quote"
  else .ok (normalized ⟨a.numerator * b.denominator, a.denominator * b.numerator⟩)

/-- `Ratio::round_decimal`: truncated division, then one step away from zero when the remainder
asks for it. -/
def roundDecimal (r : Ratio) (scale : Nat) (mode : RoundingMode) : Decimal :=
  let scaled := r.numerator * 10 ^ scale
  let quotient := scaled.tdiv r.denominator
  let remainder := scaled.tmod r.denominator
  let twiceRemainder := remainder.natAbs * 2
  let greater := decide (twiceRemainder > r.denominator.natAbs)
  let exactHalf := decide (twiceRemainder = r.denominator.natAbs)
  let increment := match mode with
    | .towardZero => false
    | .halfAwayFromZero => greater || exactHalf
    | .halfEven => greater || (exactHalf && decide (quotient.tmod 2 ≠ 0))
  let quotient :=
    if remainder ≠ 0 ∧ increment = true then
      if r.numerator < 0 then quotient - 1 else quotient + 1
    else quotient
  .normalized quotient scale

/-- The number a ratio stands for. -/
def value (r : Ratio) : ℚ := r.numerator / r.denominator

theorem value_normalized (r : Ratio) : r.normalized.value = r.value := by
  unfold normalized value
  split
  · push_cast; rw [neg_div_neg_eq]
  · rfl

theorem value_multiply (a b : Ratio) : (a.multiply b).value = a.value * b.value := by
  rw [multiply, value_normalized, value, value, value]
  push_cast
  rw [mul_div_mul_comm]

theorem value_divide {a b r : Ratio} (h : a.divide b = .ok r) : r.value = a.value / b.value := by
  unfold divide at h
  split at h
  · cases h
  · cases h
    rw [value_normalized, value, value, value]
    push_cast
    rw [div_div_div_eq]

theorem multiply_denominator {a b : Ratio} (ha : a.denominator ≠ 0) (hb : b.denominator ≠ 0) :
    (a.multiply b).denominator ≠ 0 := by
  unfold multiply normalized
  split <;> simp [ha, hb]

/-- A division by a nonzero ratio succeeds. -/
theorem divide_of_ne (a b : Ratio) (ha : a.denominator ≠ 0) (hb : b.numerator ≠ 0) :
    ∃ r, a.divide b = .ok r ∧ r.denominator ≠ 0 := by
  refine ⟨_, if_neg hb, ?_⟩
  unfold normalized
  split <;> simp [ha, hb]

theorem within_roundDecimal (r : Ratio) (scale : Nat) (mode : RoundingMode) :
    (r.roundDecimal scale mode).Within scale :=
  Decimal.scale_normalized_le _ _

/-- **Exact values round to themselves**: a ratio whose value has at most `scale` decimals is
posted unchanged, in every mode. -/
theorem roundDecimal_exact {r : Ratio} {d : Decimal} {scale : Nat} (mode : RoundingMode)
    (hden : r.denominator ≠ 0) (hval : r.value = d.toRat) (hd : d.Within scale) :
    r.roundDecimal scale mode = d := by
  obtain ⟨k, hk⟩ := Nat.exists_eq_add_of_le (show d.scale ≤ scale from hd)
  -- the scaled numerator is a multiple of the denominator, so nothing remains
  have hscaled : r.numerator * 10 ^ scale = d.coefficient * 10 ^ k * r.denominator := by
    have hq : (r.numerator : ℚ) * 10 ^ scale = d.coefficient * 10 ^ k * r.denominator := by
      have hden' : (r.denominator : ℚ) ≠ 0 := by exact_mod_cast hden
      unfold value Decimal.toRat at hval
      rw [div_eq_div_iff hden' (by positivity)] at hval
      rw [hk, pow_add]
      linear_combination (10 : ℚ) ^ k * hval
    exact_mod_cast hq
  have hrem : (r.numerator * 10 ^ scale).tmod r.denominator = 0 := by
    rw [hscaled]; exact Int.mul_tmod_left _ _
  have hquot : (r.numerator * 10 ^ scale).tdiv r.denominator = d.coefficient * 10 ^ k := by
    rw [hscaled]; exact Int.mul_tdiv_cancel _ hden
  apply Decimal.toRat_injective
  simp only [roundDecimal, hrem, hquot, ne_eq, not_true_eq_false, false_and, if_false]
  rw [Decimal.toRat_normalized, Decimal.toRat, hk, pow_add]
  push_cast
  field_simp

end Ratio

namespace Decimal

/-- `Decimal::as_ratio`. -/
def asRatio (a : Decimal) : Ratio := ⟨a.coefficient, 10 ^ a.scale⟩

theorem value_asRatio (a : Decimal) : a.asRatio.value = a.toRat := by
  simp [asRatio, Ratio.value, toRat]

/-- `round_posted_decimal_text(value, 2)` (`finance_model.rs:213-218`). -/
def roundPosted (a : Decimal) : Decimal := a.asRatio.roundDecimal 2 postingRoundingMode

theorem within_roundPosted (a : Decimal) : a.roundPosted.Within 2 := Ratio.within_roundDecimal _ _ _

theorem roundPosted_of_within {a : Decimal} (h : a.Within 2) : a.roundPosted = a :=
  Ratio.roundDecimal_exact _ (by simp [asRatio]) a.value_asRatio h

end Decimal
