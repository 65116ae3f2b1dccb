import Mathlib.Data.String.Basic
import Presto.MonthText
import Presto.Rounding
import Presto.DecimalText

/-!
# Valuations as text (`finance_model.rs:282-530`)

| source (`finance_model.rs`)       | model                            |
|-----------------------------------|----------------------------------|
| `RateObservation` (`:272`)        | `RateObservation`                |
| `SelectedRate` (`:280`)           | `SelectedRate`                   |
| `select_prior_rate` (`:302`)      | `selectPriorRate`                |
| `SideValuation` (`:287`)          | `SideValuation`                  |
| `calculate_valuation` (`:428`)    | `calculateValuation`             |

`Presto.Valuation` has the same functions on decimals and dates; here amounts, quotes, dates and
currencies are the texts they are in the source, and the audit trail is kept: the exchange fractions,
the dates of the rates and whether one of them is stale.
-/

namespace FinanceModel

open TargetDays MonthText

/-- An ECB quote: units of the currency for one EUR. -/
structure RateObservation where
  currency : String
  date : String
  currencyUnitsPerEur : String
deriving DecidableEq

structure SelectedRate where
  quote : String
  date : Option String
  staleBusinessDays : Nat
deriving DecidableEq

/-- `max_by` on the date: of equal dates the last one wins. -/
def latestObservation : List RateObservation → Option RateObservation
  | [] => none
  | r :: rs =>
    match latestObservation rs with
    | some s => if s.date < r.date then some r else some s
    | none => some r

/-- The observations that `select_prior_rate` chooses from. -/
def priorObservations (currency asOf : String) (observations : List RateObservation) :
    List RateObservation :=
  observations.filter fun rate => rate.currency = currency ∧ rate.date ≤ asOf

def selectPriorRate (currency asOf : String) (observations : List RateObservation) :
    Except String SelectedRate :=
  if currency = "EUR" then .ok ⟨"1", none, 0⟩
  else
    match latestObservation (priorObservations currency asOf observations) with
    | none => .error ("no prior ECB observation for " ++ currency)
    | some selected => do
      let quote ← Decimal.parse selected.currencyUnitsPerEur
      Except.ensure (0 < quote.coefficient) "ECB quote must be positive"
      let staleBusinessDays ← targetBusinessDaysBetween selected.date asOf
      return ⟨selected.currencyUnitsPerEur, some selected.date, staleBusinessDays⟩

structure SideValuation where
  amountNative : String
  amountEur : String
  exchangeToEurNumerator : String
  exchangeToEurDenominator : String
  exchangeToNativeNumerator : String
  exchangeToNativeDenominator : String
  appliedRateDates : Table String (Option String)
  stale : Bool

structure TransactionValuation where
  fromSide : SideValuation
  toSide : SideValuation

def SOURCE_FX_ADJUSTMENT : String := "1.02"

/-- The rate from the input currency to that of the source account. -/
def fromNativeRate (inputCurrency fromAccountCurrency : String)
    (adjustment inputQuote fromAccountQuote : Ratio) : Except String Ratio :=
  if inputCurrency = fromAccountCurrency then .ok unitRatio
  else (adjustment.multiply fromAccountQuote).divide inputQuote

/-- `.multiply(rate).round_decimal(2, rounding).format()`. -/
def posted (amount : Decimal) (rate : Ratio) (rounding : RoundingMode) : String :=
  ((amount.asRatio.multiply rate).roundDecimal 2 rounding).format

def calculateValuation (amount inputCurrency fromAccountCurrency toAmount toAccountCurrency
    asOf : String) (observations : List RateObservation) (rounding : RoundingMode) :
    Except String TransactionValuation := do
  let amount ← Decimal.parse amount
  let toAmount ← Decimal.parse toAmount
  let inputRate ← selectPriorRate inputCurrency asOf observations
  let fromAccountRate ← selectPriorRate fromAccountCurrency asOf observations
  let toAccountRate ← selectPriorRate toAccountCurrency asOf observations
  let sourceAdjustment ← Decimal.parse (if inputCurrency = "EUR" then "1" else SOURCE_FX_ADJUSTMENT)
  let inputQuote ← Decimal.parse inputRate.quote
  let fromAccountQuote ← Decimal.parse fromAccountRate.quote
  let toAccountQuote ← Decimal.parse toAccountRate.quote
  let adjustment := sourceAdjustment.asRatio
  let fromEurRate ← adjustment.divide inputQuote.asRatio
  let fromNativeRate ← fromNativeRate inputCurrency fromAccountCurrency adjustment
    inputQuote.asRatio fromAccountQuote.asRatio
  let toEurRate ← unitRatio.divide toAccountQuote.asRatio
  -- a currency that is used twice is dated once
  let appliedRateDates : Table String (Option String) :=
    ((AList.insert inputCurrency inputRate.date ∅).insert fromAccountCurrency
      fromAccountRate.date).insert toAccountCurrency toAccountRate.date
  let stale := [inputRate.staleBusinessDays, fromAccountRate.staleBusinessDays,
    toAccountRate.staleBusinessDays].any (3 < ·)
  return {
    fromSide := {
      amountNative := posted amount fromNativeRate rounding
      amountEur := posted amount fromEurRate rounding
      exchangeToEurNumerator := toString fromEurRate.numerator
      exchangeToEurDenominator := toString fromEurRate.denominator
      exchangeToNativeNumerator := toString fromNativeRate.numerator
      exchangeToNativeDenominator := toString fromNativeRate.denominator
      appliedRateDates := appliedRateDates
      stale := stale }
    toSide := {
      amountNative := (toAmount.asRatio.roundDecimal 2 rounding).format
      amountEur := posted toAmount toEurRate rounding
      exchangeToEurNumerator := toString toEurRate.numerator
      exchangeToEurDenominator := toString toEurRate.denominator
      exchangeToNativeNumerator := "1"
      exchangeToNativeDenominator := "1"
      appliedRateDates := appliedRateDates
      stale := stale } }

/-! ## Rates -/

theorem latestObservation_spec {rs : List RateObservation} {r : RateObservation}
    (h : latestObservation rs = some r) : r ∈ rs ∧ ∀ s ∈ rs, s.date ≤ r.date := by
  induction rs generalizing r with
  | nil => cases h
  | cons x rs ih =>
    unfold latestObservation at h
    split at h
    · rename_i s hs
      obtain ⟨hmem, hlatest⟩ := ih hs
      split at h
      · rename_i hlt
        cases h
        refine ⟨List.mem_cons_self, fun t ht => ?_⟩
        rcases List.mem_cons.1 ht with rfl | ht
        · exact le_rfl
        · exact (hlatest t ht).trans hlt.le
      · rename_i hlt
        cases h
        refine ⟨List.mem_cons_of_mem _ hmem, fun t ht => ?_⟩
        rcases List.mem_cons.1 ht with rfl | ht
        · exact not_lt.1 hlt
        · exact hlatest t ht
    · rename_i hnone
      cases h
      refine ⟨List.mem_cons_self, fun t ht => ?_⟩
      rcases List.mem_cons.1 ht with rfl | ht
      · exact le_rfl
      · cases rs with
        | nil => cases ht
        | cons y rs =>
          unfold latestObservation at hnone
          split at hnone
          · split at hnone <;> cases hnone
          · cases hnone

theorem latestObservation_eq_none {rs : List RateObservation} :
    latestObservation rs = none ↔ rs = [] := by
  cases rs with
  | nil => exact iff_of_true rfl rfl
  | cons x rs =>
    refine iff_of_false (fun h => ?_) (List.cons_ne_nil _ _)
    unfold latestObservation at h
    split at h
    · split at h <;> cases h
    · cases h

/-- **Order does not matter** where dates are different. -/
theorem latestObservation_perm {rs rs' : List RateObservation} (h : rs.Perm rs')
    (hunique : ∀ r ∈ rs, ∀ s ∈ rs, r.date = s.date → r = s) :
    latestObservation rs = latestObservation rs' := by
  cases hr : latestObservation rs with
  | none =>
    rw [latestObservation_eq_none] at hr
    subst hr
    rw [List.nil_perm.1 h]
    rfl
  | some r =>
    obtain ⟨hmem, hlatest⟩ := latestObservation_spec hr
    cases hs : latestObservation rs' with
    | none =>
      rw [latestObservation_eq_none] at hs
      subst hs
      rw [h.mem_iff] at hmem
      cases hmem
    | some s =>
      obtain ⟨hmem', hlatest'⟩ := latestObservation_spec hs
      have hle := hlatest s (h.mem_iff.2 hmem')
      have hge := hlatest' r (h.mem_iff.1 hmem)
      rw [hunique r hmem s (h.mem_iff.2 hmem') (le_antisymm hge hle)]

/-- The rate of a currency: EUR, or the latest observation up to a day. -/
inductive RateOf (observations : List RateObservation) (asOf currency : String) :
    ℚ → Option String → Prop
  | euro (h : currency = "EUR") : RateOf observations asOf currency 1 none
  | observed {r : RateObservation} (h : currency ≠ "EUR") (mem : r ∈ observations)
      (same : r.currency = currency) (prior : r.date ≤ asOf)
      (latest : ∀ s ∈ observations, s.currency = currency → s.date ≤ asOf → s.date ≤ r.date)
      (positive : 0 < decimalValue r.currencyUnitsPerEur) :
      RateOf observations asOf currency (decimalValue r.currencyUnitsPerEur) (some r.date)

theorem coefficient_pos_iff (d : Decimal) : 0 < d.coefficient ↔ 0 < d.toRat := by
  have hpow : (0 : ℚ) < 10 ^ d.scale := by positivity
  rw [Decimal.toRat, lt_div_iff₀ hpow, zero_mul]
  exact_mod_cast Iff.rfl

/-- **What `select_prior_rate` selects.** -/
theorem selectPriorRate_ok {currency asOf : String} {observations : List RateObservation}
    {rate : SelectedRate} (h : selectPriorRate currency asOf observations = .ok rate) :
    ∃ quote, Decimal.parse rate.quote = .ok quote ∧ 0 < quote.coefficient ∧
      RateOf observations asOf currency quote.toRat rate.date ∧
      (rate.date = none → rate.staleBusinessDays = 0) ∧
      ∀ date, rate.date = some date →
        targetBusinessDaysBetween date asOf = .ok rate.staleBusinessDays := by
  unfold selectPriorRate at h
  split at h
  · rename_i heuro
    cases h
    refine ⟨1, by decide +kernel, by decide, ?_, fun _ => rfl, fun date hdate => ?_⟩
    · rw [Decimal.toRat_one]
      exact .euro heuro
    · cases hdate
  · rename_i heuro
    split at h
    · cases h
    · rename_i selected hselected
      simp only [Except.bind_eq_ok, Except.ensure_eq_ok, Except.pure_eq_ok, exists_const] at h
      obtain ⟨quote, hquote, hpos, days, hdays, rfl⟩ := h
      obtain ⟨hmem, hlatest⟩ := latestObservation_spec hselected
      obtain ⟨hmem, hprior⟩ := List.mem_filter.1 hmem
      rw [decide_eq_true_iff] at hprior
      refine ⟨quote, hquote, hpos, ?_, fun hnone => ?_, fun date hdate => ?_⟩
      · have hvalue := Decimal.toRat_parse hquote
        rw [hvalue]
        refine .observed heuro hmem hprior.1 hprior.2 (fun s hs hsame hle => ?_) ?_
        · exact hlatest s (List.mem_filter.2 ⟨hs, decide_eq_true ⟨hsame, hle⟩⟩)
        · rw [← hvalue]
          exact (coefficient_pos_iff quote).1 hpos
      · cases hnone
      · cases hdate
        exact hdays

/-- Only the observations up to the day count, and where their dates differ not their order. -/
theorem selectPriorRate_congr {currency asOf : String} {rs rs' : List RateObservation}
    (h : latestObservation (priorObservations currency asOf rs)
      = latestObservation (priorObservations currency asOf rs')) :
    selectPriorRate currency asOf rs = selectPriorRate currency asOf rs' := by
  unfold selectPriorRate
  rw [h]

/-! ## The audit trail -/

/-- The fraction that two texts write. -/
def Fraction (numerator denominator : String) (rate : ℚ) : Prop :=
  ∃ n d : Int, numerator = toString n ∧ denominator = toString d ∧ 0 < d ∧ (n : ℚ) / d = rate

/-- The text of an amount at a rate, rounded to cents. -/
def Posts (rounding : RoundingMode) (amount rate : ℚ) (text : String) : Prop :=
  ∃ cents, rounding.Rounds (amount * rate * 10 ^ 2) cents ∧ text = (Decimal.normalized cents 2).format

/-- The surcharge on an input in the currency. -/
def adjustmentOf (inputCurrency : String) : ℚ := if inputCurrency = "EUR" then 1 else 102 / 100

/-- The rate at which the source account is debited. -/
def nativeRate (inputCurrency fromAccountCurrency : String) (inputQuote fromQuote : ℚ) : ℚ :=
  if inputCurrency = fromAccountCurrency then 1 else adjustmentOf inputCurrency * fromQuote / inputQuote

theorem posted_posts (amount : Decimal) {rate : Ratio} (hrate : 0 < rate.denominator)
    (rounding : RoundingMode) : Posts rounding amount.toRat rate.value (posted amount rate rounding) := by
  have hden : 0 < (amount.asRatio.multiply rate).denominator :=
    Ratio.multiply_denominator_pos (asRatio_denominator_pos amount) hrate
  have hrounds := Ratio.roundDecimal_rounds _ hden 2 rounding
  rw [Ratio.value_multiply, Decimal.value_asRatio] at hrounds
  refine ⟨_, hrounds, ?_⟩
  rw [posted, Ratio.roundDecimal_eq]

theorem fraction_of_ratio {rate : Ratio} (hrate : 0 < rate.denominator) :
    Fraction (toString rate.numerator) (toString rate.denominator) rate.value :=
  ⟨rate.numerator, rate.denominator, rfl, rfl, hrate, rfl⟩

theorem parse_adjustment {inputCurrency : String} {d : Decimal}
    (h : Decimal.parse (if inputCurrency = "EUR" then "1" else SOURCE_FX_ADJUSTMENT) = .ok d) :
    d.toRat = adjustmentOf inputCurrency := by
  have hone : Decimal.parse "1" = .ok 1 := by decide +kernel
  have hmore : Decimal.parse SOURCE_FX_ADJUSTMENT = .ok sourceFxAdjustment := by decide +kernel
  unfold adjustmentOf
  split at h
  · rename_i heuro
    rw [hone, Except.ok.injEq] at h
    rw [if_pos heuro, ← h, Decimal.toRat_one]
  · rename_i heuro
    rw [hmore, Except.ok.injEq] at h
    rw [if_neg heuro, ← h, sourceFxAdjustment, Decimal.toRat_normalized]
    norm_num

theorem rounded_posts (amount : Decimal) (rounding : RoundingMode) :
    Posts rounding amount.toRat 1 (amount.asRatio.roundDecimal 2 rounding).format := by
  have hrounds := Ratio.roundDecimal_rounds _ (asRatio_denominator_pos amount) 2 rounding
  rw [Decimal.value_asRatio, ← mul_one amount.toRat] at hrounds
  refine ⟨_, hrounds, ?_⟩
  rw [Ratio.roundDecimal_eq]

/-- How old a selected rate is, in operating days. -/
def Aged (asOf : String) (rate : SelectedRate) : Prop :=
  (rate.date = none → rate.staleBusinessDays = 0) ∧
    ∀ date, rate.date = some date → targetBusinessDaysBetween date asOf = .ok rate.staleBusinessDays

theorem Aged.stale_iff {asOf : String} {rate : SelectedRate} (h : Aged asOf rate) :
    3 < rate.staleBusinessDays ↔ ∃ date days, rate.date = some date ∧
      targetBusinessDaysBetween date asOf = .ok days ∧ 3 < days := by
  constructor
  · intro hstale
    cases hdate : rate.date with
    | none =>
      have hzero := h.1 hdate
      omega
    | some date => exact ⟨date, _, rfl, h.2 date hdate, hstale⟩
  · rintro ⟨date, days, hdate, hdays, hstale⟩
    rw [h.2 date hdate, Except.ok.injEq] at hdays
    rw [hdays]
    exact hstale

theorem stale_iff {asOf : String} {a b c : SelectedRate} (ha : Aged asOf a) (hb : Aged asOf b)
    (hc : Aged asOf c) :
    [a.staleBusinessDays, b.staleBusinessDays, c.staleBusinessDays].any (3 < ·) = true ↔
      ∃ date days, some date ∈ [a.date, b.date, c.date] ∧
        targetBusinessDaysBetween date asOf = .ok days ∧ 3 < days := by
  simp only [List.any_cons, List.any_nil, Bool.or_false, Bool.or_eq_true, decide_eq_true_eq]
  rw [ha.stale_iff, hb.stale_iff, hc.stale_iff]
  simp only [List.mem_cons, List.not_mem_nil, or_false]
  constructor
  · rintro (⟨date, days, hdate, h⟩ | ⟨date, days, hdate, h⟩ | ⟨date, days, hdate, h⟩)
    · exact ⟨date, days, .inl hdate.symm, h⟩
    · exact ⟨date, days, .inr (.inl hdate.symm), h⟩
    · exact ⟨date, days, .inr (.inr hdate.symm), h⟩
  · rintro ⟨date, days, hdate | hdate | hdate, h⟩
    · exact .inl ⟨date, days, hdate.symm, h⟩
    · exact .inr (.inl ⟨date, days, hdate.symm, h⟩)
    · exact .inr (.inr ⟨date, days, hdate.symm, h⟩)

section

variable {a b c : String} {x y z : Option String}

/-- The dates of three currencies, of which some may be the same. -/
def datesOf (a b c : String) (x y z : Option String) : Table String (Option String) :=
  ((AList.insert a x ∅).insert b y).insert c z

theorem lookup_datesOf (currency : String) : (datesOf a b c x y z).lookup currency
    = if currency = c then some z else if currency = b then some y
      else if currency = a then some x else none := by
  unfold datesOf
  rw [AList.lookup_insert_of, AList.lookup_insert_of, AList.lookup_insert_of]
  rfl

theorem lookup_datesOf_third : (datesOf a b c x y z).lookup c = some z := by
  rw [lookup_datesOf, if_pos rfl]

theorem lookup_datesOf_second (h : b = c → y = z) : (datesOf a b c x y z).lookup b = some y := by
  rw [lookup_datesOf]
  by_cases hc : b = c
  · rw [if_pos hc, h hc]
  · rw [if_neg hc, if_pos rfl]

theorem lookup_datesOf_first (hb : a = b → x = y) (hc : a = c → x = z) :
    (datesOf a b c x y z).lookup a = some x := by
  rw [lookup_datesOf]
  by_cases hac : a = c
  · rw [if_pos hac, hc hac]
  · rw [if_neg hac]
    by_cases hab : a = b
    · rw [if_pos hab, hb hab]
    · rw [if_neg hab, if_pos rfl]

theorem mem_of_lookup_datesOf {currency : String}
    (h : ((datesOf a b c x y z).lookup currency).isSome = true) :
    currency = a ∨ currency = b ∨ currency = c := by
  rw [lookup_datesOf] at h
  by_contra hother
  push Not at hother
  rw [if_neg hother.2.2, if_neg hother.2.1, if_neg hother.1] at h
  cases h

end

/-- What a valuation records and posts. -/
structure Audited (amount inputCurrency fromAccountCurrency toAmount toAccountCurrency asOf : String)
    (observations : List RateObservation) (rounding : RoundingMode) (v : TransactionValuation)
    (inputQuote fromQuote toQuote : ℚ) (inputDate fromDate toDate : Option String) : Prop where
  inputRate : RateOf observations asOf inputCurrency inputQuote inputDate
  fromRate : RateOf observations asOf fromAccountCurrency fromQuote fromDate
  toRate : RateOf observations asOf toAccountCurrency toQuote toDate
  fromEur : Fraction v.fromSide.exchangeToEurNumerator v.fromSide.exchangeToEurDenominator
    (adjustmentOf inputCurrency / inputQuote)
  fromNative : Fraction v.fromSide.exchangeToNativeNumerator v.fromSide.exchangeToNativeDenominator
    (nativeRate inputCurrency fromAccountCurrency inputQuote fromQuote)
  toEur : Fraction v.toSide.exchangeToEurNumerator v.toSide.exchangeToEurDenominator (1 / toQuote)
  toNative : Fraction v.toSide.exchangeToNativeNumerator v.toSide.exchangeToNativeDenominator 1
  fromEurPosted : Posts rounding (decimalValue amount) (adjustmentOf inputCurrency / inputQuote)
    v.fromSide.amountEur
  fromNativePosted : Posts rounding (decimalValue amount)
    (nativeRate inputCurrency fromAccountCurrency inputQuote fromQuote) v.fromSide.amountNative
  toEurPosted : Posts rounding (decimalValue toAmount) (1 / toQuote) v.toSide.amountEur
  toNativePosted : Posts rounding (decimalValue toAmount) 1 v.toSide.amountNative
  sameDates : v.fromSide.appliedRateDates = v.toSide.appliedRateDates
  inputDated : v.fromSide.appliedRateDates.lookup inputCurrency = some inputDate
  fromDated : v.fromSide.appliedRateDates.lookup fromAccountCurrency = some fromDate
  toDated : v.fromSide.appliedRateDates.lookup toAccountCurrency = some toDate
  noOther : ∀ currency, (v.fromSide.appliedRateDates.lookup currency).isSome = true →
    currency = inputCurrency ∨ currency = fromAccountCurrency ∨ currency = toAccountCurrency
  sameStale : v.fromSide.stale = v.toSide.stale
  stale : v.fromSide.stale = true ↔ ∃ date days, some date ∈ [inputDate, fromDate, toDate] ∧
    targetBusinessDaysBetween date asOf = .ok days ∧ 3 < days

section

variable {amount inputCurrency fromAccountCurrency toAmount toAccountCurrency asOf : String}
  {observations : List RateObservation} {rounding : RoundingMode} {v : TransactionValuation}

theorem calculateValuation_audited
    (h : calculateValuation amount inputCurrency fromAccountCurrency toAmount toAccountCurrency asOf
      observations rounding = .ok v) :
    ∃ inputQuote fromQuote toQuote inputDate fromDate toDate,
      Audited amount inputCurrency fromAccountCurrency toAmount toAccountCurrency asOf observations
        rounding v inputQuote fromQuote toQuote inputDate fromDate toDate := by
  simp only [calculateValuation, Except.bind_eq_ok, Except.pure_eq_ok] at h
  obtain ⟨a, ha, b, hb, ri, hri, rf, hrf, rt, hrt, adj, hadj, qi, hqi, qf, hqf, qt, hqt, e, he, n, hn,
    u, hu, rfl⟩ := h
  obtain ⟨qi', hqi', hipos, hi, hinone, hisome⟩ := selectPriorRate_ok hri
  obtain ⟨qf', hqf', hfpos, hf, hfnone, hfsome⟩ := selectPriorRate_ok hrf
  obtain ⟨qt', hqt', htpos, ht, htnone, htsome⟩ := selectPriorRate_ok hrt
  obtain rfl := Except.ok.inj (hqi'.symm.trans hqi)
  obtain rfl := Except.ok.inj (hqf'.symm.trans hqf)
  obtain rfl := Except.ok.inj (hqt'.symm.trans hqt)
  have hadjust := parse_adjustment hadj
  have hevalue : 0 < e.denominator ∧ e.value = adjustmentOf inputCurrency / qi'.toRat := by
    refine ⟨Ratio.divide_denominator_pos he (asRatio_denominator_pos _), ?_⟩
    rw [Ratio.value_divide he, Decimal.value_asRatio, Decimal.value_asRatio, hadjust]
  have hnvalue : 0 < n.denominator ∧
      n.value = nativeRate inputCurrency fromAccountCurrency qi'.toRat qf'.toRat := by
    unfold fromNativeRate at hn
    unfold nativeRate
    split at hn
    · rename_i hsame
      cases hn
      rw [if_pos hsame]
      exact ⟨by decide, by simp [unitRatio, Ratio.value]⟩
    · rename_i hsame
      rw [if_neg hsame]
      refine ⟨Ratio.divide_denominator_pos hn
        (Ratio.multiply_denominator_pos (asRatio_denominator_pos _) (asRatio_denominator_pos _)), ?_⟩
      rw [Ratio.value_divide hn, Ratio.value_multiply, Decimal.value_asRatio, Decimal.value_asRatio,
        Decimal.value_asRatio, hadjust]
  have huvalue : 0 < u.denominator ∧ u.value = 1 / qt'.toRat := by
    refine ⟨Ratio.divide_denominator_pos hu (by decide), ?_⟩
    rw [Ratio.value_divide hu, Decimal.value_asRatio]
    simp [unitRatio, Ratio.value]
  have hsame : inputCurrency = fromAccountCurrency → ri.date = rf.date := by
    rintro rfl
    rw [Except.ok.inj (hri.symm.trans hrf)]
  have hsame' : inputCurrency = toAccountCurrency → ri.date = rt.date := by
    rintro rfl
    rw [Except.ok.inj (hri.symm.trans hrt)]
  have hsame'' : fromAccountCurrency = toAccountCurrency → rf.date = rt.date := by
    rintro rfl
    rw [Except.ok.inj (hrf.symm.trans hrt)]
  have hamount := Decimal.toRat_parse ha
  have htoAmount := Decimal.toRat_parse hb
  refine ⟨qi'.toRat, qf'.toRat, qt'.toRat, ri.date, rf.date, rt.date, ?_⟩
  exact {
    inputRate := hi
    fromRate := hf
    toRate := ht
    fromEur := hevalue.2 ▸ fraction_of_ratio hevalue.1
    fromNative := hnvalue.2 ▸ fraction_of_ratio hnvalue.1
    toEur := huvalue.2 ▸ fraction_of_ratio huvalue.1
    toNative := ⟨1, 1, rfl, rfl, one_pos, by norm_num⟩
    fromEurPosted := hamount ▸ hevalue.2 ▸ posted_posts a hevalue.1 rounding
    fromNativePosted := hamount ▸ hnvalue.2 ▸ posted_posts a hnvalue.1 rounding
    toEurPosted := htoAmount ▸ huvalue.2 ▸ posted_posts b huvalue.1 rounding
    toNativePosted := htoAmount ▸ rounded_posts b rounding
    sameDates := rfl
    inputDated := lookup_datesOf_first hsame hsame'
    fromDated := lookup_datesOf_second hsame''
    toDated := lookup_datesOf_third
    noOther := fun currency => mem_of_lookup_datesOf
    sameStale := rfl
    stale := stale_iff ⟨hinone, hisome⟩ ⟨hfnone, hfsome⟩ ⟨htnone, htsome⟩ }

/-- The same rates give the same valuation. -/
theorem calculateValuation_congr {rs : List RateObservation}
    (hrates : ∀ currency, selectPriorRate currency asOf observations = selectPriorRate currency asOf rs) :
    calculateValuation amount inputCurrency fromAccountCurrency toAmount toAccountCurrency asOf
        observations rounding
      = calculateValuation amount inputCurrency fromAccountCurrency toAmount toAccountCurrency asOf rs
        rounding := by
  unfold calculateValuation
  rw [hrates inputCurrency, hrates fromAccountCurrency, hrates toAccountCurrency]

theorem selectPriorRate_perm {rs : List RateObservation} (h : observations.Perm rs)
    (hunique : (observations.map fun r => (r.currency, r.date)).Nodup) (currency : String) :
    selectPriorRate currency asOf observations = selectPriorRate currency asOf rs := by
  apply selectPriorRate_congr
  apply latestObservation_perm (h.filter _)
  intro r hr s hs hdate
  obtain ⟨hr, hrc⟩ := List.mem_filter.1 hr
  obtain ⟨hs, hsc⟩ := List.mem_filter.1 hs
  rw [decide_eq_true_iff] at hrc hsc
  exact List.inj_on_of_nodup_map hunique hr hs (Prod.ext (hrc.1.trans hsc.1.symm) hdate)

/-- Observations after the day are not looked at. -/
theorem selectPriorRate_later {rs : List RateObservation}
    (h : rs.filter (·.date ≤ asOf) = observations.filter (·.date ≤ asOf)) (currency : String) :
    selectPriorRate currency asOf observations = selectPriorRate currency asOf rs := by
  have hprior : ∀ l : List RateObservation, priorObservations currency asOf l
      = (l.filter (·.date ≤ asOf)).filter (·.currency = currency) := by
    intro l
    rw [List.filter_filter, priorObservations]
    congr 1
    funext r
    rw [Bool.decide_and]
  apply selectPriorRate_congr
  rw [hprior, hprior, h]

theorem RateOf.mem {currency date : String} {quote : ℚ}
    (h : RateOf observations asOf currency quote (some date)) : ∃ r ∈ observations, r.date = date := by
  cases h with
  | observed _ hmem _ _ _ _ => exact ⟨_, hmem, rfl⟩

/-- **On the calendar**: the rate is of that day or before it, and none is later. -/
theorem RateOf.calendar {currency date : String} {quote : ℚ}
    {today : Gregorian.CivilDate} (htoday : today.year ≤ 9999)
    (hasOf : asOf = text today) (hdates : ∀ r ∈ observations, CanonicalDate r.date)
    (h : RateOf observations asOf currency quote (some date)) :
    ∃ d, date = text d ∧ d ≤ today ∧ ∀ s ∈ observations, s.currency = currency →
      ∀ e : Gregorian.CivilDate, s.date = text e → e ≤ today → e ≤ d := by
  have hle : ∀ {a b : Gregorian.CivilDate}, a.year ≤ 9999 → b.year ≤ 9999 →
      (text a ≤ text b ↔ a ≤ b) := by
    intro a b ha hb
    rw [← not_lt, text_lt hb ha, not_lt]
  cases h with
  | @observed r _ hmem _ hprior hlatest _ =>
    obtain ⟨d, hd, hdate⟩ := hdates r hmem
    rw [hdate, hasOf, hle hd htoday] at hprior
    refine ⟨d, hdate, hprior, fun s hs hsame e he hetoday => ?_⟩
    have heyear : e.year ≤ 9999 := by
      have hlt := not_lt.2 hetoday
      rw [Gregorian.CivilDate.lt_iff] at hlt
      omega
    have hsle := hlatest s hs hsame (by rw [he, hasOf, hle heyear htoday]; exact hetoday)
    rw [he, hdate, hle heyear hd] at hsle
    exact hsle

/-- The rates that a valuation used are dated on the calendar. -/
theorem Audited.stale_iff {inputQuote fromQuote toQuote : ℚ} {inputDate fromDate toDate : Option String}
    (h : Audited amount inputCurrency fromAccountCurrency toAmount toAccountCurrency asOf observations
      rounding v inputQuote fromQuote toQuote inputDate fromDate toDate)
    {today : Gregorian.CivilDate} (htoday : today.year ≤ 9999)
    (hasOf : parseDate asOf = .ok (dayNumber today))
    (hdates : ∀ r ∈ observations, validDate r.date = true) :
    v.fromSide.stale = true ↔ ∃ date d, some date ∈ [inputDate, fromDate, toDate] ∧
      parseDate date = .ok (dayNumber d) ∧ 3 < operatingDays d today := by
  have hused : ∀ date, some date ∈ [inputDate, fromDate, toDate] →
      ∃ d : Gregorian.CivilDate, parseDate date = .ok (dayNumber d) := by
    intro date hdate
    obtain ⟨r, hr, rfl⟩ : ∃ r ∈ observations, r.date = date := by
      simp only [List.mem_cons, List.not_mem_nil, or_false] at hdate
      rcases hdate with rfl | rfl | rfl
      · exact h.inputRate.mem
      · exact h.fromRate.mem
      · exact h.toRate.mem
    obtain ⟨d, -, hd⟩ := parseDate_validDate (hdates r hr)
    exact ⟨d, hd⟩
  rw [h.stale]
  constructor
  · rintro ⟨date, days, hdate, hdays, hmore⟩
    obtain ⟨d, hd⟩ := hused date hdate
    rw [targetBusinessDaysBetween_of_year hd hasOf htoday, Except.ok.injEq] at hdays
    exact ⟨date, d, hdate, hd, hdays ▸ hmore⟩
  · rintro ⟨date, d, hdate, hd, hmore⟩
    exact ⟨date, _, hdate, targetBusinessDaysBetween_of_year hd hasOf htoday, hmore⟩

/-- **The audit trail of a valuation.** -/
theorem valuation_audited
    (h : calculateValuation amount inputCurrency fromAccountCurrency toAmount toAccountCurrency asOf
      observations rounding = .ok v) :
    (∃ inputQuote fromQuote toQuote inputDate fromDate toDate,
      Audited amount inputCurrency fromAccountCurrency toAmount toAccountCurrency asOf observations
        rounding v inputQuote fromQuote toQuote inputDate fromDate toDate ∧
      (∀ today : Gregorian.CivilDate, today.year ≤ 9999 → parseDate asOf = .ok (dayNumber today) →
        (∀ r ∈ observations, validDate r.date = true) →
        (v.fromSide.stale = true ↔ ∃ date d, some date ∈ [inputDate, fromDate, toDate] ∧
          parseDate date = .ok (dayNumber d) ∧ 3 < operatingDays d today)) ∧
      (∀ today : Gregorian.CivilDate, today.year ≤ 9999 → asOf = text today →
        (∀ r ∈ observations, CanonicalDate r.date) →
        ∀ currency quote date, RateOf observations asOf currency quote (some date) →
          ∃ d, date = text d ∧ d ≤ today ∧ ∀ s ∈ observations, s.currency = currency →
            ∀ e : Gregorian.CivilDate, s.date = text e → e ≤ today → e ≤ d)) ∧
    (∀ rs, observations.Perm rs → (observations.map fun r => (r.currency, r.date)).Nodup →
      calculateValuation amount inputCurrency fromAccountCurrency toAmount toAccountCurrency asOf rs
        rounding = .ok v) ∧
    (∀ rs, rs.filter (·.date ≤ asOf) = observations.filter (·.date ≤ asOf) →
      calculateValuation amount inputCurrency fromAccountCurrency toAmount toAccountCurrency asOf rs
        rounding = .ok v) := by
  obtain ⟨inputQuote, fromQuote, toQuote, inputDate, fromDate, toDate, haudited⟩ :=
    calculateValuation_audited h
  refine ⟨⟨_, _, _, _, _, _, haudited, ?_, ?_⟩, ?_, ?_⟩
  · intro today htoday hasOf hdates
    exact haudited.stale_iff htoday hasOf hdates
  · intro today htoday hasOf hdates currency quote date hrate
    exact hrate.calendar htoday hasOf hdates
  · intro rs hperm hunique
    rw [← calculateValuation_congr (selectPriorRate_perm hperm hunique)]
    exact h
  · intro rs hlater
    rw [← calculateValuation_congr (selectPriorRate_later hlater)]
    exact h

end

/-- Ten dollars, spent in euro eight days after the last quote. -/
theorem valuation_audited_dollars : ∃ v,
    calculateValuation "10.00" "USD" "EUR" "8.16" "EUR" "2024-01-10"
      [⟨"USD", "2024-01-02", "1.25"⟩, ⟨"USD", "2024-01-11", "1.5"⟩] .halfEven = .ok v ∧
    v.fromSide.stale = true ∧ v.fromSide.amountEur = "8.16" ∧
    ∃ inputQuote fromQuote toQuote inputDate fromDate toDate,
      Audited "10.00" "USD" "EUR" "8.16" "EUR" "2024-01-10"
        [⟨"USD", "2024-01-02", "1.25"⟩, ⟨"USD", "2024-01-11", "1.5"⟩] .halfEven v inputQuote fromQuote
        toQuote inputDate fromDate toDate := by
  have hrun : ((calculateValuation "10.00" "USD" "EUR" "8.16" "EUR" "2024-01-10"
      [⟨"USD", "2024-01-02", "1.25"⟩, ⟨"USD", "2024-01-11", "1.5"⟩] .halfEven).toOption.map
        fun v => (v.fromSide.stale, v.fromSide.amountEur)) = some (true, "8.16") := by
    decide +kernel
  cases hv : calculateValuation "10.00" "USD" "EUR" "8.16" "EUR" "2024-01-10"
      [⟨"USD", "2024-01-02", "1.25"⟩, ⟨"USD", "2024-01-11", "1.5"⟩] .halfEven with
  | error e =>
    rw [hv] at hrun
    cases hrun
  | ok v =>
    rw [hv] at hrun
    obtain ⟨hstale, heur⟩ := Prod.mk.inj (Option.some.inj hrun)
    obtain ⟨⟨q, q', q'', d, d', d'', haudited, -⟩, -⟩ := valuation_audited hv
    exact ⟨v, rfl, hstale, heur, q, q', q'', d, d', d'', haudited⟩

end FinanceModel
