import Presto.ExactDecimals
import Presto.Admin.Formula

/-!
# The valuation and the sheet-formula oracle

Both read the same decimals and choose the same observation, and a rounded amount depends on the
exact quotient only, so they post the same four amounts or fail together. The oracle ignores the
ASCII case of currencies and `calculate_valuation` does not: the observations must not write a
currency of the transaction in another case.
-/

namespace Admin

open TargetDays MonthText
open FinanceModel (latestObservation posted SOURCE_FX_ADJUSTMENT)

namespace FormulaRatio

def value (r : FormulaRatio) : ℚ := r.numerator / r.denominator

@[simp] theorem value_one : one.value = 1 := by simp [value, one]

theorem new_ok {n d : Int} (hd : d ≠ 0) :
    ∃ r, new n d = .ok r ∧ 0 < r.denominator ∧ r.value = n / d := by
  unfold new
  rw [if_neg hd]
  by_cases hneg : d < 0
  · rw [if_pos hneg]
    refine ⟨_, rfl, by show 0 < -d; omega, ?_⟩
    rw [value]
    push_cast
    rw [neg_div_neg_eq]
  · rw [if_neg hneg]
    exact ⟨_, rfl, by show 0 < d; omega, rfl⟩

theorem multiply_ok {a b : FormulaRatio} (ha : 0 < a.denominator) (hb : 0 < b.denominator) :
    ∃ r, a.multiply b = .ok r ∧ 0 < r.denominator ∧ r.value = a.value * b.value := by
  obtain ⟨r, hr, hpos, hvalue⟩ := @new_ok (a.numerator * b.numerator) _ (mul_pos ha hb).ne'
  refine ⟨r, hr, hpos, ?_⟩
  rw [hvalue, value, value]
  push_cast
  rw [div_mul_div_comm]

theorem divide_ok {a b : FormulaRatio} (ha : 0 < a.denominator) (hb : 0 < b.numerator) :
    ∃ r, a.divide b = .ok r ∧ 0 < r.denominator ∧ r.value = a.value / b.value := by
  obtain ⟨r, hr, hpos, hvalue⟩ := @new_ok (a.numerator * b.denominator) _ (mul_pos ha hb).ne'
  refine ⟨r, hr, hpos, ?_⟩
  rw [hvalue, value, value]
  push_cast
  rw [div_div_div_eq]

/-! ## Rounding -/

theorem halfEvenMagnitude_eq {a b : Int} (ha : 0 ≤ a) (hb : 0 < b) :
    halfEvenMagnitude a b = Ratio.roundQuotient a b .halfEven := by
  have hrest : 0 ≤ a.tmod b := Int.tmod_nonneg b ha
  have hup : (a.tmod b * 2 > b ∨ (a.tmod b * 2 = b ∧ (a.tdiv b).tmod 2 ≠ 0)) ↔
      (a.tmod b ≠ 0 ∧ Ratio.increments (a.tdiv b) ((a.tmod b).natAbs * 2) b.natAbs .halfEven = true) := by
    simp only [Ratio.increments, Bool.or_eq_true, Bool.and_eq_true, decide_eq_true_eq]
    omega
  unfold halfEvenMagnitude Ratio.roundQuotient
  rw [if_neg (not_lt.2 ha)]
  exact if_congr hup rfl rfl

/-- **A rounded amount depends on the quotient only.** -/
theorem roundHalfEven2_eq {r : FormulaRatio} {s : Ratio} (hr : 0 < r.denominator)
    (hs : 0 < s.denominator) (h : r.value = s.value) :
    r.roundHalfEven2 = .ok (s.roundDecimal 2 .halfEven).format := by
  obtain ⟨rounded, hrounded⟩ :
    ∃ n, n = Ratio.roundQuotient (r.numerator * 100) r.denominator .halfEven := ⟨_, rfl⟩
  have hsame : rounded = Ratio.roundQuotient (s.numerator * 10 ^ 2) s.denominator .halfEven := by
    have hleft := Ratio.roundDecimal_rounds ⟨r.numerator, r.denominator⟩ hr 2 .halfEven
    have hright := Ratio.roundDecimal_rounds s hs 2 .halfEven
    rw [← h] at hright
    rw [hrounded]
    exact RoundingMode.halfEven.rounding.unique hleft hright
  have hmagnitude : (if decide (r.numerator * 100 < 0) = true
      then -halfEvenMagnitude (if decide (r.numerator * 100 < 0) = true then -(r.numerator * 100)
        else r.numerator * 100) r.denominator
      else halfEvenMagnitude (if decide (r.numerator * 100 < 0) = true then -(r.numerator * 100)
        else r.numerator * 100) r.denominator) = rounded := by
    rw [hrounded]
    by_cases hneg : r.numerator * 100 < 0
    · rw [if_pos (decide_eq_true hneg), if_pos (decide_eq_true hneg),
        halfEvenMagnitude_eq (by omega) hr, Ratio.roundQuotient_neg, neg_neg]
    · rw [if_neg (by simpa using hneg), if_neg (by simpa using hneg),
        halfEvenMagnitude_eq (by omega) hr]
  unfold roundHalfEven2
  simp only [hmagnitude]
  rw [formatExactDecimal_eq (Text.all_isDigit_toDigits _), Ratio.roundDecimal_eq, ← hsame]
  have hvalue : (if decide (rounded < 0) = true then -(magnitude (Nat.toDigits 10 rounded.natAbs) : Int)
      else magnitude (Nat.toDigits 10 rounded.natAbs)) = rounded := by
    rw [magnitude, Nat.ofDigitChars_ten_toDigits]
    by_cases hneg : rounded < 0
    · rw [if_pos (decide_eq_true hneg)]
      omega
    · rw [if_neg (by simpa using hneg)]
      omega
  rw [ExactDecimal.toDecimal]
  simp only [hvalue]

end FormulaRatio

/-! ## Reading decimals -/

theorem fromDecimal_eq {value : String} {d : Decimal} (h : Decimal.parse value = .ok d) :
    ∃ r, FormulaRatio.fromDecimal value = .ok r ∧ 0 < r.denominator ∧ r.value = d.toRat := by
  obtain ⟨x, d', hx, hd', hdigits, rfl⟩ := parse_both (Decimal.parse_ok.1 h).1
  obtain rfl : x.toDecimal = d := Except.ok.inj (hd'.symm.trans h)
  obtain ⟨hacc, hfields⟩ := parseExactDecimal_ok.1 hx
  have hne : x.digits ≠ [] := by
    rw [hfields]
    exact Text.stripZeros_ne_nil _
  have hscale : x.scale < 2 ^ 32 := by
    rw [hfields]
    have := hacc.scale
    show (DecimalText.scale value).toNat < 2 ^ 32
    omega
  obtain ⟨r, hr, hpos, hvalue⟩ := @FormulaRatio.new_ok (signed x.negative (magnitude x.digits))
    (10 ^ x.scale) (pow_ne_zero _ (by decide))
  refine ⟨r, ?_, hpos, ?_⟩
  · simp only [FormulaRatio.fromDecimal, Except.bind_eq_ok, Except.ensure_eq_ok,
      Except.fromOption_eq_ok, exists_const]
    exact ⟨x, hx, magnitude x.digits, Text.parseNat_digits hne hdigits, hscale, hr⟩
  · rw [hvalue, toRat_toDecimal]
    push_cast
    rfl

/-- What the oracle reads the server reads too. -/
theorem parse_of_fromDecimal {value : String} {r : FormulaRatio}
    (h : FormulaRatio.fromDecimal value = .ok r) : ∃ d, Decimal.parse value = .ok d := by
  simp only [FormulaRatio.fromDecimal, Except.bind_eq_ok] at h
  obtain ⟨x, hx, -⟩ := h
  obtain ⟨-, d, -, hd, -⟩ := parse_both (parseExactDecimal_ok.1 hx).1
  exact ⟨d, hd⟩

/-! ## The case of currencies -/

/-- Texts in upper case that differ in case only are the same. -/
theorem eq_of_eqIgnoreAsciiCase {s t : String} (hs : toAsciiUppercase s = s)
    (ht : toAsciiUppercase t = t) (h : eqIgnoreAsciiCase s t = true) : s = t := by
  rw [← hs, ← ht]
  exact of_decide_eq_true h

theorem eqIgnoreAsciiCase_self (s : String) : eqIgnoreAsciiCase s s = true := decide_eq_true rfl

/-- No observation writes the currency in another case. -/
def CaseAgrees (currency : String) (observations : List FinanceModel.RateObservation) : Prop :=
  ∀ r ∈ observations, eqIgnoreAsciiCase r.currency currency = true → r.currency = currency

theorem filter_observations {currency asOf : String}
    {observations : List FinanceModel.RateObservation} (h : CaseAgrees currency observations) :
    (observations.filter fun rate => eqIgnoreAsciiCase rate.currency currency ∧ rate.date ≤ asOf)
      = FinanceModel.priorObservations currency asOf observations := by
  apply List.filter_congr
  intro r hr
  rw [decide_eq_decide]
  refine and_congr_left fun _ => ⟨h r hr, ?_⟩
  rintro rfl
  exact eqIgnoreAsciiCase_self _

/-! ## Quotes -/

theorem FormulaRatio.value_pos_iff {r : FormulaRatio} (h : 0 < r.denominator) :
    0 < r.value ↔ 0 < r.numerator := by
  have hden : (0 : ℚ) < r.denominator := by exact_mod_cast h
  rw [value, lt_div_iff₀ hden, zero_mul]
  exact_mod_cast Iff.rfl

section

variable {currency asOf : String} {observations : List FinanceModel.RateObservation}

theorem eqIgnoreAsciiCase_euro (hupper : toAsciiUppercase currency = currency) :
    eqIgnoreAsciiCase currency "EUR" = true ↔ currency = "EUR" := by
  constructor
  · exact eq_of_eqIgnoreAsciiCase hupper (by decide +kernel)
  · rintro rfl
    exact eqIgnoreAsciiCase_self _

/-- A rate that the server selects is the quote of the oracle. -/
theorem quote_of_selected {rate : FinanceModel.SelectedRate} (hupper : toAsciiUppercase currency = currency)
    (hcase : CaseAgrees currency observations)
    (h : FinanceModel.selectPriorRate currency asOf observations = .ok rate) :
    ∃ r quote, formulaReferenceQuote currency asOf observations = .ok r ∧ 0 < r.denominator ∧
      0 < r.numerator ∧ Decimal.parse rate.quote = .ok quote ∧ r.value = quote.toRat := by
  unfold FinanceModel.selectPriorRate at h
  unfold formulaReferenceQuote
  by_cases heuro : currency = "EUR"
  · rw [if_pos heuro] at h
    cases h
    rw [if_pos ((eqIgnoreAsciiCase_euro hupper).2 heuro)]
    refine ⟨.one, 1, rfl, by decide, by decide, by decide +kernel, ?_⟩
    rw [FormulaRatio.value_one, Decimal.toRat_one]
  · rw [if_neg heuro] at h
    rw [if_neg fun h' => heuro ((eqIgnoreAsciiCase_euro hupper).1 h'), filter_observations hcase]
    cases hselected : FinanceModel.latestObservation
        (FinanceModel.priorObservations currency asOf observations) with
    | none =>
      rw [hselected] at h
      cases h
    | some selected =>
      rw [hselected] at h
      simp only [Except.bind_eq_ok, Except.ensure_eq_ok, Except.pure_eq_ok, exists_const] at h
      obtain ⟨quote, hquote, hpos, days, -, rfl⟩ := h
      obtain ⟨r, hr, hden, hvalue⟩ := fromDecimal_eq hquote
      have hnum : 0 < r.numerator := by
        rw [← FormulaRatio.value_pos_iff hden, hvalue]
        exact (FinanceModel.coefficient_pos_iff quote).1 hpos
      refine ⟨r, quote, ?_, hden, hnum, hquote, hvalue⟩
      simp only [Except.bind_eq_ok, Except.ensure_eq_ok, Except.pure_eq_ok, exists_const]
      exact ⟨r, hr, hnum, rfl⟩

/-- Between valid dates the age of a rate is always found, so the server selects where the oracle
does. -/
theorem selected_of_quote {r : FormulaRatio} (hupper : toAsciiUppercase currency = currency)
    (hcase : CaseAgrees currency observations) (hasOf : MonthText.validDate asOf = true)
    (hdates : ∀ r ∈ observations, MonthText.validDate r.date = true)
    (h : formulaReferenceQuote currency asOf observations = .ok r) :
    ∃ rate, FinanceModel.selectPriorRate currency asOf observations = .ok rate := by
  unfold formulaReferenceQuote at h
  unfold FinanceModel.selectPriorRate
  by_cases heuro : currency = "EUR"
  · rw [if_pos heuro]
    exact ⟨_, rfl⟩
  · rw [if_neg fun h' => heuro ((eqIgnoreAsciiCase_euro hupper).1 h'), filter_observations hcase] at h
    rw [if_neg heuro]
    cases hselected : FinanceModel.latestObservation
        (FinanceModel.priorObservations currency asOf observations) with
    | none =>
      rw [hselected] at h
      cases h
    | some selected =>
      rw [hselected] at h
      simp only [Except.bind_eq_ok, Except.ensure_eq_ok, Except.pure_eq_ok, exists_const] at h
      obtain ⟨r, hr, hpos, rfl⟩ := h
      obtain ⟨quote, hquote⟩ := parse_of_fromDecimal hr
      obtain ⟨r', hr', hden, hvalue⟩ := fromDecimal_eq hquote
      obtain rfl : r' = r := Except.ok.inj (hr'.symm.trans hr)
      obtain ⟨hmem, -⟩ := List.mem_filter.1 (FinanceModel.latestObservation_spec hselected).1
      obtain ⟨d, hd, hdate⟩ := parseDate_validDate (hdates selected hmem)
      obtain ⟨today, htoday, hnow⟩ := parseDate_validDate hasOf
      have hcoefficient : 0 < quote.coefficient := by
        rw [FinanceModel.coefficient_pos_iff, ← hvalue]
        exact (FormulaRatio.value_pos_iff hden).2 hpos
      refine ⟨⟨selected.currencyUnitsPerEur, some selected.date, operatingDays d today⟩, ?_⟩
      simp only [Except.bind_eq_ok, Except.ensure_eq_ok, Except.pure_eq_ok, exists_const]
      exact ⟨quote, hquote, hcoefficient, _, targetBusinessDaysBetween_of_year hdate hnow htoday, rfl⟩

end

/-! ## Valuations -/

/-- The amounts of a valuation that the oracle calculates too. -/
def postedAmounts (v : FinanceModel.TransactionValuation) : FormulaReferenceValuation :=
  ⟨v.fromSide.amountNative, v.fromSide.amountEur, v.toSide.amountNative, v.toSide.amountEur⟩

theorem adjustment_eq {inputCurrency : String} {d : Decimal}
    (h : Decimal.parse (if inputCurrency = "EUR" then "1" else SOURCE_FX_ADJUSTMENT) = .ok d) :
    ∃ r, formulaAdjustment inputCurrency = .ok r ∧ 0 < r.denominator ∧ r.value = d.toRat := by
  unfold formulaAdjustment
  by_cases heuro : inputCurrency = "EUR"
  · rw [if_pos heuro] at h ⊢
    refine ⟨.one, rfl, by decide, ?_⟩
    rw [FormulaRatio.value_one, ← Decimal.toRat_one, ← Except.ok.inj h]
    decide +kernel
  · rw [if_neg heuro] at h ⊢
    exact fromDecimal_eq h

/-- An amount at a rate, posted by both sides. -/
theorem posted_eq {r q : FormulaRatio} {a : Decimal} {rate : Ratio} (hr : 0 < r.denominator)
    (hq : 0 < q.denominator) (hrate : 0 < rate.denominator) (hvalue : r.value = a.toRat)
    (hsame : q.value = rate.value) :
    ∃ product, r.multiply q = .ok product ∧
      product.roundHalfEven2 = .ok (posted a rate .halfEven) := by
  obtain ⟨product, hproduct, hden, hpv⟩ := FormulaRatio.multiply_ok hr hq
  refine ⟨product, hproduct, ?_⟩
  apply FormulaRatio.roundHalfEven2_eq hden
  · exact Ratio.multiply_denominator_pos (asRatio_denominator_pos a) hrate
  · rw [hpv, Ratio.value_multiply, Decimal.value_asRatio, hvalue, hsame]

section

variable {amount inputCurrency fromAccountCurrency toAmount toAccountCurrency asOf : String}
  {observations : List FinanceModel.RateObservation}

theorem nativeRate_eq {adj qi qf : Decimal} {adj' qi' qf' : FormulaRatio} {n : Ratio}
    (hadj : 0 < adj'.denominator ∧ adj'.value = adj.toRat)
    (hqi : 0 < qi'.denominator ∧ 0 < qi'.numerator ∧ qi'.value = qi.toRat)
    (hqf : 0 < qf'.denominator ∧ qf'.value = qf.toRat)
    (h : FinanceModel.fromNativeRate inputCurrency fromAccountCurrency adj.asRatio qi.asRatio
      qf.asRatio = .ok n) :
    0 < n.denominator ∧ ∃ n', formulaNativeRate inputCurrency fromAccountCurrency adj' qi' qf' = .ok n' ∧
      0 < n'.denominator ∧ n'.value = n.value := by
  unfold FinanceModel.fromNativeRate at h
  unfold formulaNativeRate
  by_cases hsame : inputCurrency = fromAccountCurrency
  · rw [if_pos hsame] at h ⊢
    cases h
    refine ⟨by decide, .one, rfl, by decide, ?_⟩
    simp [unitRatio, Ratio.value]
  · rw [if_neg hsame] at h ⊢
    obtain ⟨product, hproduct, hden, hpv⟩ := FormulaRatio.multiply_ok hadj.1 hqf.1
    obtain ⟨n', hn', hnden, hnv⟩ := FormulaRatio.divide_ok hden hqi.2.1
    have hpos : 0 < n.denominator := Ratio.divide_denominator_pos h
      (Ratio.multiply_denominator_pos (asRatio_denominator_pos _) (asRatio_denominator_pos _))
    refine ⟨hpos, n', ?_, hnden, ?_⟩
    · rw [hproduct]
      exact hn'
    · rw [hnv, hpv, hadj.2, hqf.2, hqi.2.2, Ratio.value_divide h, Ratio.value_multiply,
        Decimal.value_asRatio, Decimal.value_asRatio, Decimal.value_asRatio]

/-- **What the server posts the oracle calculates.** -/
theorem reference_of_valuation {v : FinanceModel.TransactionValuation}
    (hinput : toAsciiUppercase inputCurrency = inputCurrency)
    (hfrom : toAsciiUppercase fromAccountCurrency = fromAccountCurrency)
    (hto : toAsciiUppercase toAccountCurrency = toAccountCurrency)
    (hcase : ∀ currency ∈ [inputCurrency, fromAccountCurrency, toAccountCurrency],
      CaseAgrees currency observations)
    (h : FinanceModel.calculateValuation amount inputCurrency fromAccountCurrency toAmount
      toAccountCurrency asOf observations .halfEven = .ok v) :
    formulaReferenceValuation amount inputCurrency fromAccountCurrency toAmount toAccountCurrency
      asOf observations = .ok (postedAmounts v) := by
  simp only [FinanceModel.calculateValuation, Except.bind_eq_ok, Except.pure_eq_ok] at h
  obtain ⟨a, ha, b, hb, ri, hri, rf, hrf, rt, hrt, adj, hadj, qi, hqi, qf, hqf, qt, hqt, e, he, n, hn,
    u, hu, rfl⟩ := h
  obtain ⟨a', ha', haden, hav⟩ := fromDecimal_eq ha
  obtain ⟨b', hb', hbden, hbv⟩ := fromDecimal_eq hb
  obtain ⟨qi', q, hqi', hiden, hinum, hq, hiv⟩ := quote_of_selected hinput (hcase _ (by simp)) hri
  obtain rfl : q = qi := Except.ok.inj (hq.symm.trans hqi)
  obtain ⟨qf', q', hqf', hfden, hfnum, hq', hfv⟩ := quote_of_selected hfrom (hcase _ (by simp)) hrf
  obtain rfl : q' = qf := Except.ok.inj (hq'.symm.trans hqf)
  obtain ⟨qt', q'', hqt', htden, htnum, hq'', htv⟩ := quote_of_selected hto (hcase _ (by simp)) hrt
  obtain rfl : q'' = qt := Except.ok.inj (hq''.symm.trans hqt)
  obtain ⟨adj', hadj', hadden, hadv⟩ := adjustment_eq hadj
  obtain ⟨e', he', heden, hev⟩ := FormulaRatio.divide_ok hadden hinum
  obtain ⟨hnpos, n', hn', hnden, hnv⟩ := nativeRate_eq ⟨hadden, hadv⟩ ⟨hiden, hinum, hiv⟩ ⟨hfden, hfv⟩ hn
  obtain ⟨u', hu', huden, huv⟩ := @FormulaRatio.divide_ok .one qt' (by decide) htnum
  have hepos : 0 < e.denominator := Ratio.divide_denominator_pos he (asRatio_denominator_pos _)
  have hupos : 0 < u.denominator := Ratio.divide_denominator_pos hu (by decide)
  have heq : e'.value = e.value := by
    rw [hev, hadv, hiv, Ratio.value_divide he, Decimal.value_asRatio, Decimal.value_asRatio]
  have huq : u'.value = u.value := by
    rw [huv, htv, FormulaRatio.value_one, Ratio.value_divide hu, Decimal.value_asRatio]
    simp [unitRatio, Ratio.value]
  obtain ⟨x, hx, hxr⟩ := posted_eq haden hnden hnpos hav hnv
  obtain ⟨y, hy, hyr⟩ := posted_eq haden heden hepos hav heq
  obtain ⟨z, hz, hzr⟩ := posted_eq hbden huden hupos hbv huq
  have hreceived : b'.roundHalfEven2 = .ok (b.asRatio.roundDecimal 2 .halfEven).format :=
    FormulaRatio.roundHalfEven2_eq hbden (asRatio_denominator_pos b) (by rw [hbv, Decimal.value_asRatio])
  unfold formulaReferenceValuation
  rw [hinput, hfrom, hto]
  simp only [Except.bind_eq_ok, Except.pure_eq_ok]
  exact ⟨a', ha', b', hb', qi', hqi', qf', hqf', qt', hqt', adj', hadj', e', he', n', hn', u', hu', x, hx,
    y, hy, z, hz, _, hxr, _, hyr, _, hreceived, _, hzr, rfl⟩

/-- **What the oracle calculates the server posts.** -/
theorem valuation_of_reference {w : FormulaReferenceValuation}
    (hinput : toAsciiUppercase inputCurrency = inputCurrency)
    (hfrom : toAsciiUppercase fromAccountCurrency = fromAccountCurrency)
    (hto : toAsciiUppercase toAccountCurrency = toAccountCurrency)
    (hcase : ∀ currency ∈ [inputCurrency, fromAccountCurrency, toAccountCurrency],
      CaseAgrees currency observations)
    (hasOf : MonthText.validDate asOf = true)
    (hdates : ∀ r ∈ observations, MonthText.validDate r.date = true)
    (h : formulaReferenceValuation amount inputCurrency fromAccountCurrency toAmount toAccountCurrency
      asOf observations = .ok w) :
    ∃ v, FinanceModel.calculateValuation amount inputCurrency fromAccountCurrency toAmount
      toAccountCurrency asOf observations .halfEven = .ok v := by
  unfold formulaReferenceValuation at h
  rw [hinput, hfrom, hto] at h
  simp only [Except.bind_eq_ok] at h
  obtain ⟨a', ha', b', hb', qi', hqi', qf', hqf', qt', hqt', -⟩ := h
  obtain ⟨a, ha⟩ := parse_of_fromDecimal ha'
  obtain ⟨b, hb⟩ := parse_of_fromDecimal hb'
  obtain ⟨ri, hri⟩ := selected_of_quote hinput (hcase _ (by simp)) hasOf hdates hqi'
  obtain ⟨rf, hrf⟩ := selected_of_quote hfrom (hcase _ (by simp)) hasOf hdates hqf'
  obtain ⟨rt, hrt⟩ := selected_of_quote hto (hcase _ (by simp)) hasOf hdates hqt'
  obtain ⟨qi, hqi, hipos, -⟩ := FinanceModel.selectPriorRate_ok hri
  obtain ⟨qf, hqf, hfpos, -⟩ := FinanceModel.selectPriorRate_ok hrf
  obtain ⟨qt, hqt, htpos, -⟩ := FinanceModel.selectPriorRate_ok hrt
  obtain ⟨adj, hadj⟩ : ∃ d, Decimal.parse (if inputCurrency = "EUR" then "1" else SOURCE_FX_ADJUSTMENT)
      = .ok d := by
    by_cases heuro : inputCurrency = "EUR"
    · rw [if_pos heuro]
      exact ⟨1, by decide +kernel⟩
    · rw [if_neg heuro]
      exact ⟨sourceFxAdjustment, by decide +kernel⟩
  have hdiv : ∀ (r : Ratio) (q : Decimal), 0 < r.denominator → 0 < q.coefficient →
      ∃ s, r.divide q.asRatio = .ok s := by
    intro r q hr hq
    obtain ⟨s, hs, -⟩ := Ratio.divide_of_ne r q.asRatio hr.ne' hq.ne'
    exact ⟨s, hs⟩
  obtain ⟨e, he⟩ := hdiv adj.asRatio qi (asRatio_denominator_pos adj) hipos
  obtain ⟨u, hu⟩ := hdiv unitRatio qt (by decide) htpos
  obtain ⟨n, hn⟩ : ∃ n, FinanceModel.fromNativeRate inputCurrency fromAccountCurrency adj.asRatio
      qi.asRatio qf.asRatio = .ok n := by
    unfold FinanceModel.fromNativeRate
    by_cases hsame : inputCurrency = fromAccountCurrency
    · rw [if_pos hsame]
      exact ⟨_, rfl⟩
    · rw [if_neg hsame]
      exact hdiv _ qi (Ratio.multiply_denominator_pos (asRatio_denominator_pos _)
        (asRatio_denominator_pos _)) hipos
  simp only [FinanceModel.calculateValuation, Except.bind_eq_ok, Except.pure_eq_ok]
  exact ⟨_, a, ha, b, hb, ri, hri, rf, hrf, rt, hrt, adj, hadj, qi, hqi, qf, hqf, qt, hqt, e, he, n, hn, u,
    hu, rfl⟩

/-- **Parity.** Server and oracle post the same amounts or fail together, for currencies in upper
case that no observation writes in another case, and valid dates. -/
theorem formulaReference_agrees
    (hinput : toAsciiUppercase inputCurrency = inputCurrency)
    (hfrom : toAsciiUppercase fromAccountCurrency = fromAccountCurrency)
    (hto : toAsciiUppercase toAccountCurrency = toAccountCurrency)
    (hcase : ∀ currency ∈ [inputCurrency, fromAccountCurrency, toAccountCurrency],
      CaseAgrees currency observations)
    (hasOf : MonthText.validDate asOf = true)
    (hdates : ∀ r ∈ observations, MonthText.validDate r.date = true) :
    ((FinanceModel.calculateValuation amount inputCurrency fromAccountCurrency toAmount
        toAccountCurrency asOf observations .halfEven).map postedAmounts).toOption
      = (formulaReferenceValuation amount inputCurrency fromAccountCurrency toAmount toAccountCurrency
          asOf observations).toOption := by
  cases hv : FinanceModel.calculateValuation amount inputCurrency fromAccountCurrency toAmount
      toAccountCurrency asOf observations .halfEven with
  | ok v =>
    rw [reference_of_valuation hinput hfrom hto hcase hv]
    rfl
  | error e =>
    cases hw : formulaReferenceValuation amount inputCurrency fromAccountCurrency toAmount
        toAccountCurrency asOf observations with
    | error e' => rfl
    | ok w =>
      obtain ⟨v, hok⟩ := valuation_of_reference hinput hfrom hto hcase hasOf hdates hw
      rw [hv] at hok
      cases hok

end

/-- A negative amount in dollars from a pound account to a euro account; the tie goes to the even
cent. -/
theorem formulaReference_agrees_tie :
    (formulaReferenceValuation "-2.50" "USD" "GBP" "0.125" "EUR" "2024-01-10"
      [⟨"USD", "2024-01-09", "1.25"⟩, ⟨"GBP", "2024-01-09", "0.8"⟩]).toOption
      = some ⟨"-1.63", "-2.04", "0.12", "0.12"⟩ ∧
    ((FinanceModel.calculateValuation "-2.50" "USD" "GBP" "0.125" "EUR" "2024-01-10"
      [⟨"USD", "2024-01-09", "1.25"⟩, ⟨"GBP", "2024-01-09", "0.8"⟩] .halfEven).map
        postedAmounts).toOption
      = some ⟨"-1.63", "-2.04", "0.12", "0.12"⟩ := by
  have horacle : (formulaReferenceValuation "-2.50" "USD" "GBP" "0.125" "EUR" "2024-01-10"
      [⟨"USD", "2024-01-09", "1.25"⟩, ⟨"GBP", "2024-01-09", "0.8"⟩]).toOption
      = some ⟨"-1.63", "-2.04", "0.12", "0.12"⟩ := by
    decide +kernel
  refine ⟨horacle, ?_⟩
  rw [← horacle]
  exact formulaReference_agrees (by decide +kernel) (by decide +kernel) (by decide +kernel)
    (by unfold CaseAgrees; decide +kernel) (by decide +kernel) (by decide +kernel)

/-- An observation in lower case is a rate for the oracle only. -/
theorem formulaReference_lowerCase :
    toAsciiUppercase "USD" = "USD" ∧ toAsciiUppercase "EUR" = "EUR" ∧
    MonthText.validDate "2024-01-10" = true ∧ MonthText.validDate "2024-01-09" = true ∧
    (FinanceModel.calculateValuation "1.00" "USD" "EUR" "0.82" "EUR" "2024-01-10"
      [⟨"usd", "2024-01-09", "1.25"⟩] .halfEven).isOk = false ∧
    (formulaReferenceValuation "1.00" "USD" "EUR" "0.82" "EUR" "2024-01-10"
      [⟨"usd", "2024-01-09", "1.25"⟩]).toOption = some ⟨"0.82", "0.82", "0.82", "0.82"⟩ := by
  decide +kernel

end Admin
