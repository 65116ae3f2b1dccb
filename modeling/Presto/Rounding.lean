import Presto.Valuation
import Presto.Lib.Nearest

/-!
# What posting rounds to

Posted amounts are whole cents: `round_decimal` takes the cents of the exact ratio half to even.
-/

namespace Decimal

@[simp] theorem toRat_one : (1 : Decimal).toRat = 1 := by
  show (((1 : Int) : ℚ) / 10 ^ 0) = 1
  norm_num

@[simp] theorem toRat_ofNat (n : Nat) : (OfNat.ofNat (n + 2) : Decimal).toRat = (n + 2 : Nat) := by
  show ((((n + 2 : Nat) : Int) : ℚ) / 10 ^ 0) = (n + 2 : Nat)
  norm_num

/-- The cents of an amount of at most two decimals. -/
def cents (a : Decimal) : Int := a.coefficient * 10 ^ (2 - a.scale)

theorem cents_toRat {a : Decimal} (h : a.Within 2) : (a.cents : ℚ) = a.toRat * 100 := by
  obtain ⟨k, hk⟩ := Nat.exists_eq_add_of_le (show a.scale ≤ 2 from h)
  have hsub : 2 - a.scale = k := by omega
  have hpow : (10 : ℚ) ^ a.scale * 10 ^ k = 100 := by
    rw [← pow_add, ← hk]
    norm_num
  rw [cents, hsub, toRat]
  push_cast
  rw [← hpow]
  field_simp

/-- Amounts of at most two decimals are their cents. -/
theorem cents_inj {a b : Decimal} (ha : a.Within 2) (hb : b.Within 2) : a.cents = b.cents ↔ a = b := by
  refine ⟨fun h => toRat_injective ?_, fun h => by rw [h]⟩
  have hq : (a.cents : ℚ) = b.cents := by rw [h]
  rw [cents_toRat ha, cents_toRat hb] at hq
  linarith

theorem cents_add {a b : Decimal} (ha : a.Within 2) (hb : b.Within 2) :
    (a + b).cents = a.cents + b.cents := by
  have hq : ((a + b).cents : ℚ) = ((a.cents + b.cents : Int) : ℚ) := by
    rw [cents_toRat (ha.add hb), toRat_add]
    push_cast
    rw [cents_toRat ha, cents_toRat hb]
    ring
  exact_mod_cast hq

end Decimal

/-- What a mode asks of the integer that it rounds a number to. -/
def RoundingMode.Rounds : RoundingMode → ℚ → ℤ → Prop
  | .halfAwayFromZero => HalfAway
  | .halfEven => HalfEven
  | .towardZero => Truncated

theorem RoundingMode.rounding (mode : RoundingMode) : Rounding mode.Rounds := by
  cases mode with
  | halfAwayFromZero => exact HalfAway.rounding
  | halfEven => exact HalfEven.rounding
  | towardZero => exact Truncated.rounding

namespace Ratio

/-- Truncated division leaves a remainder of the sign of the dividend, smaller than the divisor. -/
theorem tdiv_spec (a : Int) {b : Int} (hb : 0 < b) :
    a = b * a.tdiv b + a.tmod b ∧ (a.tmod b).natAbs < b.natAbs ∧
      (0 ≤ a → 0 ≤ a.tmod b) ∧ (a ≤ 0 → a.tmod b ≤ 0) := by
  refine ⟨(Int.mul_tdiv_add_tmod a b).symm, ?_, fun h => Int.tmod_nonneg b h, fun h => ?_⟩
  · have hlt := Int.tmod_lt_of_pos a hb
    have hgt : -b < a.tmod b := by
      have hneg := Int.tmod_lt_of_pos (-a) hb
      rw [Int.neg_tmod] at hneg
      omega
    omega
  · have hneg := Int.tmod_nonneg b (show 0 ≤ -a by omega)
    rw [Int.neg_tmod] at hneg
    omega

/-- Whether a mode goes one step away from zero, by the truncated quotient and twice what remains. -/
def increments (quotient : Int) (twiceRemainder denominator : Nat) : RoundingMode → Bool
  | .towardZero => false
  | .halfAwayFromZero => decide (twiceRemainder > denominator) || decide (twiceRemainder = denominator)
  | .halfEven => decide (twiceRemainder > denominator) ||
      (decide (twiceRemainder = denominator) && decide (quotient.tmod 2 ≠ 0))

/-- The integer that `round_decimal` leaves of a quotient. -/
def roundQuotient (a b : Int) (mode : RoundingMode) : Int :=
  if a.tmod b ≠ 0 ∧ increments (a.tdiv b) ((a.tmod b).natAbs * 2) b.natAbs mode = true then
    if a < 0 then a.tdiv b - 1 else a.tdiv b + 1
  else a.tdiv b

theorem roundDecimal_eq (r : Ratio) (scale : Nat) (mode : RoundingMode) :
    r.roundDecimal scale mode
      = .normalized (roundQuotient (r.numerator * 10 ^ scale) r.denominator mode) scale := by
  have hsign : r.numerator * 10 ^ scale < 0 ↔ r.numerator < 0 := by
    have hpow : (0 : Int) < 10 ^ scale := by positivity
    exact ⟨fun h => neg_of_mul_neg_left h hpow.le, fun h => mul_neg_of_neg_of_pos h hpow⟩
  unfold roundDecimal roundQuotient
  simp only [hsign]
  cases mode <;> rfl

/-- The sign of the dividend does not matter. -/
theorem roundQuotient_neg (a b : Int) (mode : RoundingMode) :
    roundQuotient (-a) b mode = -roundQuotient a b mode := by
  rcases eq_or_ne a 0 with rfl | ha
  · simp [roundQuotient]
  · have hsign : -a < 0 ↔ ¬ a < 0 := by omega
    have hmode : increments (-a.tdiv b) ((a.tmod b).natAbs * 2) b.natAbs mode
        = increments (a.tdiv b) ((a.tmod b).natAbs * 2) b.natAbs mode := by
      cases mode <;> simp [increments, Int.neg_tmod]
    unfold roundQuotient
    rw [Int.neg_tdiv, Int.neg_tmod, Int.natAbs_neg, hmode]
    by_cases hup : a.tmod b ≠ 0 ∧
        increments (a.tdiv b) ((a.tmod b).natAbs * 2) b.natAbs mode = true
    · rw [if_pos hup, if_pos ⟨neg_ne_zero.2 hup.1, hup.2⟩]
      by_cases h : a < 0
      · rw [if_pos h, if_neg fun h' => hsign.1 h' h]
        ring
      · rw [if_neg h, if_pos (hsign.2 h)]
        ring
    · rw [if_neg hup, if_neg fun h => hup ⟨neg_ne_zero.1 h.1, h.2⟩]

/-- A dividend that is not negative is rounded as its mode asks. -/
theorem roundQuotient_of_nonneg {a b : Int} (ha : 0 ≤ a) (hb : 0 < b) (mode : RoundingMode) :
    mode.Rounds (a / b) (roundQuotient a b mode) := by
  obtain ⟨heq, hsmall, hpos, -⟩ := tdiv_spec a hb
  have hq0 : 0 ≤ a.tdiv b := Int.tdiv_nonneg ha hb.le
  have hm0 : 0 ≤ a.tmod b := hpos ha
  have hbq : (0 : ℚ) < b := by exact_mod_cast hb
  unfold roundQuotient
  rw [if_neg (not_lt.2 ha)]
  generalize a.tdiv b = q at heq hq0 ⊢
  generalize a.tmod b = m at heq hsmall hm0 ⊢
  -- `t` is the fraction that is left
  obtain ⟨t, ht⟩ : ∃ t : ℚ, t = m / b := ⟨_, rfl⟩
  have hx : (a : ℚ) / b = q + t := by
    have hcast : (a : ℚ) = b * q + m := by exact_mod_cast heq
    rw [ht, hcast]
    field_simp
  have ht0 : 0 ≤ t := by
    rw [ht]
    exact div_nonneg (by exact_mod_cast hm0) hbq.le
  have ht1 : t < 1 := by
    rw [ht, div_lt_one hbq]
    exact_mod_cast (show m < b by omega)
  have hmore : 1 / 2 < t ↔ m.natAbs * 2 > b.natAbs := by
    rw [ht, div_lt_div_iff₀ two_pos hbq, one_mul]
    have hz : m.natAbs * 2 > b.natAbs ↔ b < m * 2 := by omega
    rw [hz]
    exact_mod_cast Iff.rfl
  have htie : t = 1 / 2 ↔ m.natAbs * 2 = b.natAbs := by
    rw [ht, div_eq_div_iff hbq.ne' two_ne_zero, one_mul]
    have hz : m.natAbs * 2 = b.natAbs ↔ m * 2 = b := by omega
    rw [hz]
    exact_mod_cast Iff.rfl
  have heven : q.tmod 2 ≠ 0 ↔ ¬ Even q := by
    rw [Int.even_iff, not_iff_not, ← Int.dvd_iff_tmod_eq_zero, ← Int.dvd_iff_emod_eq_zero]
  have hzero : b.natAbs ≤ m.natAbs * 2 → m ≠ 0 := by omega
  rw [hx]
  cases mode with
  | towardZero =>
    rw [if_neg (by simp [increments])]
    exact Truncated.fraction hq0 ht0 ht1
  | halfAwayFromZero =>
    have hup : (m ≠ 0 ∧ increments q (m.natAbs * 2) b.natAbs .halfAwayFromZero = true)
        ↔ 1 / 2 ≤ t := by
      simp only [increments, Bool.or_eq_true, decide_eq_true_eq]
      rw [le_iff_lt_or_eq, hmore, eq_comm (b := t), htie]
      exact ⟨fun h => h.2, fun h => ⟨hzero (by omega), h⟩⟩
    rw [if_congr hup rfl rfl]
    exact HalfAway.fraction hq0 ht0 ht1
  | halfEven =>
    have hup : (m ≠ 0 ∧ increments q (m.natAbs * 2) b.natAbs .halfEven = true)
        ↔ 1 / 2 < t ∨ (t = 1 / 2 ∧ ¬ Even q) := by
      simp only [increments, Bool.or_eq_true, Bool.and_eq_true, decide_eq_true_eq]
      rw [hmore, htie, heven]
      exact ⟨fun h => h.2, fun h => ⟨hzero (by omega), h⟩⟩
    rw [if_congr hup rfl rfl]
    exact HalfEven.fraction ht0 ht1

theorem roundQuotient_rounds (a : Int) {b : Int} (hb : 0 < b) (mode : RoundingMode) :
    mode.Rounds (a / b) (roundQuotient a b mode) := by
  rcases le_total 0 a with ha | ha
  · exact roundQuotient_of_nonneg ha hb mode
  · have h := mode.rounding.neg (roundQuotient_of_nonneg (neg_nonneg.2 ha) hb mode)
    rw [roundQuotient_neg, neg_neg] at h
    have heq : -(((-a : ℤ) : ℚ) / b) = a / b := by
      push_cast
      ring
    rwa [heq] at h

/-- The integer that rounding leaves at a scale. -/
theorem roundDecimal_rounds (r : Ratio) (hden : 0 < r.denominator) (scale : Nat)
    (mode : RoundingMode) :
    mode.Rounds (r.value * 10 ^ scale)
      (roundQuotient (r.numerator * 10 ^ scale) r.denominator mode) := by
  have h := roundQuotient_rounds (r.numerator * 10 ^ scale) hden mode
  have heq : ((r.numerator * 10 ^ scale : ℤ) : ℚ) / r.denominator = r.value * 10 ^ scale := by
    rw [value]
    push_cast
    ring
  rwa [heq] at h

/-- **Posting.** The posted amount is the number of cents nearest to the ratio, half to even. -/
theorem roundDecimal_halfEven (r : Ratio) (hden : 0 < r.denominator) :
    HalfEven (r.value * 100) (r.roundDecimal 2 .halfEven).cents := by
  have h := r.roundDecimal_rounds hden 2 .halfEven
  have hcents : ∀ n : Int, (Decimal.normalized n 2).cents = n := by
    intro n
    have hq : ((Decimal.normalized n 2).cents : ℚ) = n := by
      rw [Decimal.cents_toRat (Decimal.scale_normalized_le n 2), Decimal.toRat_normalized]
      ring
    exact_mod_cast hq
  rw [roundDecimal_eq, hcents]
  norm_num at h ⊢
  exact h

theorem normalized_denominator_pos {r : Ratio} (h : r.denominator ≠ 0) :
    0 < r.normalized.denominator := by
  unfold normalized
  split
  · show 0 < -r.denominator
    omega
  · omega

theorem multiply_denominator_pos {a b : Ratio} (ha : 0 < a.denominator) (hb : 0 < b.denominator) :
    0 < (a.multiply b).denominator :=
  normalized_denominator_pos (mul_ne_zero ha.ne' hb.ne')

theorem divide_denominator_pos {a b r : Ratio} (h : a.divide b = .ok r) (ha : 0 < a.denominator) :
    0 < r.denominator := by
  unfold divide at h
  split at h
  · cases h
  · rename_i hb
    cases h
    exact normalized_denominator_pos (mul_ne_zero ha.ne' hb)

end Ratio

namespace Ratio

variable {r s : Ratio}

/-- The rounded decimal is the rounded integer at its scale. -/
theorem toRat_roundDecimal (r : Ratio) (scale : Nat) (mode : RoundingMode) :
    (r.roundDecimal scale mode).toRat
      = roundQuotient (r.numerator * 10 ^ scale) r.denominator mode / 10 ^ scale := by
  rw [roundDecimal_eq, Decimal.toRat_normalized]

theorem roundDecimal_mono (hr : 0 < r.denominator) (hs : 0 < s.denominator) (scale : Nat)
    (mode : RoundingMode) (hle : r.value ≤ s.value) :
    r.roundDecimal scale mode ≤ s.roundDecimal scale mode := by
  have hpow : (0 : ℚ) < 10 ^ scale := by positivity
  have hint := mode.rounding.mono (r.roundDecimal_rounds hr scale mode)
    (s.roundDecimal_rounds hs scale mode) (mul_le_mul_of_nonneg_right hle hpow.le)
  rw [Decimal.le_iff, toRat_roundDecimal, toRat_roundDecimal, div_le_div_iff_of_pos_right hpow]
  exact_mod_cast hint

theorem roundDecimal_neg (hr : 0 < r.denominator) (hs : 0 < s.denominator) (scale : Nat)
    (mode : RoundingMode) (h : s.value = -r.value) :
    s.roundDecimal scale mode = -r.roundDecimal scale mode := by
  have hr' := mode.rounding.neg (r.roundDecimal_rounds hr scale mode)
  have hs' := s.roundDecimal_rounds hs scale mode
  rw [h, neg_mul] at hs'
  have hint := mode.rounding.unique hs' hr'
  apply Decimal.toRat_injective
  rw [Decimal.toRat_neg, toRat_roundDecimal, toRat_roundDecimal, hint]
  push_cast
  ring

/-- **Rounding of exact ratios.** With a positive denominator, as multiplication, division and the
conversion of a decimal leave it, the result is the multiple of `10 ^ -scale` that the mode asks
for; rounding is monotone, odd, and keeps what has that scale already. -/
theorem roundDecimal_correct (hr : 0 < r.denominator) (hs : 0 < s.denominator) (scale : Nat)
    (mode : RoundingMode) :
    (∃ n : ℤ, (r.roundDecimal scale mode).toRat = n / 10 ^ scale ∧
      mode.Rounds (r.value * 10 ^ scale) n) ∧
    (r.value ≤ s.value → r.roundDecimal scale mode ≤ s.roundDecimal scale mode) ∧
    (s.value = -r.value → s.roundDecimal scale mode = -r.roundDecimal scale mode) ∧
    (∀ d : Decimal, r.value = d.toRat → d.Within scale → r.roundDecimal scale mode = d) ∧
    (∀ d : Decimal, 0 < d.asRatio.denominator) ∧
    (∀ a b : Ratio, a.denominator ≠ 0 → b.denominator ≠ 0 → 0 < (a.multiply b).denominator) ∧
    ∀ a b q : Ratio, a.denominator ≠ 0 → a.divide b = .ok q → 0 < q.denominator := by
  refine ⟨⟨_, r.toRat_roundDecimal scale mode, r.roundDecimal_rounds hr scale mode⟩,
    roundDecimal_mono hr hs scale mode, roundDecimal_neg hr hs scale mode,
    fun d => roundDecimal_exact mode hr.ne', asRatio_denominator_pos, ?_, ?_⟩
  · intro a b ha hb
    exact normalized_denominator_pos (mul_ne_zero ha hb)
  · intro a b q ha h
    unfold divide at h
    split at h
    · cases h
    · rename_i hb
      cases h
      exact normalized_denominator_pos (mul_ne_zero ha hb)

/-- Half a cent, owed and owned, at the tie. -/
theorem roundDecimal_correct_halfCent :
    (∃ n : ℤ, ((⟨-1, 200⟩ : Ratio).roundDecimal 2 .halfEven).toRat = n / 10 ^ 2 ∧
      HalfEven ((⟨-1, 200⟩ : Ratio).value * 10 ^ 2) n) ∧
    (⟨1, 200⟩ : Ratio).roundDecimal 2 .halfEven = -(⟨-1, 200⟩ : Ratio).roundDecimal 2 .halfEven := by
  have h := @roundDecimal_correct ⟨-1, 200⟩ ⟨1, 200⟩ (by decide) (by decide) 2 .halfEven
  exact ⟨h.1, h.2.2.1 (by norm_num [value])⟩

/-- The sign is taken from the numerator: with a negative denominator one half below zero is rounded
up to one. -/
theorem roundDecimal_negative_denominator :
    ¬ ∀ (r : Ratio) (scale : Nat) (mode : RoundingMode), r.denominator ≠ 0 →
      ∃ n : ℤ, (r.roundDecimal scale mode).toRat = n / 10 ^ scale ∧
        mode.Rounds (r.value * 10 ^ scale) n := by
  intro h
  obtain ⟨n, hn, hnear, -⟩ := h ⟨1, -2⟩ 0 .halfAwayFromZero (by decide)
  have hone : (⟨1, -2⟩ : Ratio).roundDecimal 0 .halfAwayFromZero = 1 := by decide
  rw [hone, Decimal.toRat_one] at hn
  have hn1 : (n : ℚ) = 1 := by
    rw [hn]
    norm_num
  have hbetween := hnear.between.1
  rw [hn1] at hbetween
  norm_num [value] at hbetween

end Ratio

/-- A proportion is posted in the cents nearest to it. -/
theorem proportional_halfEven {a n d e : Decimal} (h : proportional a n d = .ok e) :
    HalfEven (a.toRat * n.toRat / d.toRat * 100) e.cents := by
  simp only [proportional, Except.bind_eq_ok, Except.pure_eq_ok] at h
  obtain ⟨r, hr, rfl⟩ := h
  have hden := Ratio.divide_denominator_pos hr
    (Ratio.multiply_denominator_pos (asRatio_denominator_pos a) (asRatio_denominator_pos n))
  have hround := Ratio.roundDecimal_halfEven r hden
  rwa [Ratio.value_divide hr, Ratio.value_multiply, Decimal.value_asRatio, Decimal.value_asRatio,
    Decimal.value_asRatio] at hround

/-- The surcharge on an input in `currency`. -/
def sourceAdjustment (currency : Currency) : Decimal :=
  if currency = .eur then 1 else sourceFxAdjustment

/-- The rate at which a source account is debited for an input, by the quotes of both. -/
def sourceRate (input account : Currency) (inputQuote accountQuote : Decimal) : ℚ :=
  if input = account then 1
  else (sourceAdjustment input).toRat * accountQuote.toRat / inputQuote.toRat

/-- **The rates of a valuation.** The source is converted from the input, in its own currency and in
EUR; the destination amount is in the currency of its account and has the EUR value of that. -/
theorem calculateValuation_rates {amount toAmount : Decimal}
    {inputCurrency fromCurrency toCurrency : Currency} {asOf : Date} {rs : List RateObservation}
    {v : TransactionValuation}
    (h : calculateValuation amount inputCurrency fromCurrency toAmount toCurrency asOf rs
      postingRoundingMode = .ok v) :
    ∃ inputQuote fromQuote toQuote, selectPriorRate inputCurrency asOf rs = .ok inputQuote ∧
      selectPriorRate fromCurrency asOf rs = .ok fromQuote ∧
      selectPriorRate toCurrency asOf rs = .ok toQuote ∧
      HalfEven (amount.toRat * sourceRate inputCurrency fromCurrency inputQuote fromQuote * 100)
        v.fromSide.amountNative.cents ∧
      HalfEven (amount.toRat * ((sourceAdjustment inputCurrency).toRat / inputQuote.toRat) * 100)
        v.fromSide.amountEur.cents ∧
      v.toSide.amountNative = toAmount.roundPosted ∧
      HalfEven (toAmount.toRat * (1 / toQuote.toRat) * 100) v.toSide.amountEur.cents := by
  simp only [calculateValuation, Except.bind_eq_ok, Except.pure_eq_ok] at h
  obtain ⟨qi, hi, qf, hf, qt, ht, e, he, n, hn, u, hu, rfl⟩ := h
  have hadjust : 0 < (sourceAdjustment inputCurrency).asRatio.denominator := asRatio_denominator_pos _
  -- the posted cents of an amount times a rate
  have hpost : ∀ (a : Decimal) {r : Ratio}, 0 < r.denominator →
      HalfEven (a.toRat * r.value * 100) ((a.asRatio.multiply r).roundDecimal 2 .halfEven).cents := by
    intro a r hr
    have hround := Ratio.roundDecimal_halfEven (a.asRatio.multiply r)
      (Ratio.multiply_denominator_pos (asRatio_denominator_pos a) hr)
    rwa [Ratio.value_multiply, Decimal.value_asRatio] at hround
  refine ⟨qi, qf, qt, hi, hf, ht, ?_, ?_, rfl, ?_⟩
  · have hrate : 0 < n.denominator ∧ n.value = sourceRate inputCurrency fromCurrency qi qf := by
      unfold fromNativeRate at hn
      split at hn
      · rename_i hsame
        cases hn
        exact ⟨by decide, by simp [unitRatio, Ratio.value, sourceRate, hsame]⟩
      · rename_i hsame
        refine ⟨Ratio.divide_denominator_pos hn
          (Ratio.multiply_denominator_pos hadjust (asRatio_denominator_pos _)), ?_⟩
        rw [Ratio.value_divide hn, Ratio.value_multiply, Decimal.value_asRatio, Decimal.value_asRatio,
          Decimal.value_asRatio, sourceRate, if_neg hsame]
        rfl
    rw [← hrate.2]
    exact hpost amount hrate.1
  · have hvalue : e.value = (sourceAdjustment inputCurrency).toRat / qi.toRat := by
      rw [Ratio.value_divide he, Decimal.value_asRatio, Decimal.value_asRatio]
      rfl
    rw [← hvalue]
    exact hpost amount (Ratio.divide_denominator_pos he hadjust)
  · have hvalue : u.value = 1 / qt.toRat := by
      rw [Ratio.value_divide hu, Decimal.value_asRatio]
      simp [unitRatio, Ratio.value]
    rw [← hvalue]
    exact hpost toAmount (Ratio.divide_denominator_pos hu (by decide))
