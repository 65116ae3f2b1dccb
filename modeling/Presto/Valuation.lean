import Presto.Decimal
import Presto.Calendar
import Presto.Lib.Fallible
import Presto.Lib.Table

/-!
# Valuations and account effects: `finance_model.rs`

| source (`finance_model.rs`)              | model                 |
|------------------------------------------|-----------------------|
| `select_prior_rate` (`:283`)             | `selectPriorRate`     |
| `account_balance_eur` (`:235`)           | `accountBalanceEur`   |
| `proportional_decimal_text` (`:229`)     | `proportional`        |
| `calculate_valuation` (`:398`)           | `calculateValuation`  |
| `project_transaction` (`:514`)           | `accountDeltas`       |
| `difference_maps` (`server.rs:5013`)     | `differenceMaps`      |

Of a projection the server reads only `account_deltas`; the two category maps are not modelled.
-/

inductive Currency
  | eur
  | php
  | usd
deriving DecidableEq

/-- An ECB observation: units of `currency` for one EUR. -/
structure RateObservation where
  currency : Currency
  date : Date
  currencyUnitsPerEur : Decimal
deriving DecidableEq

/-- `max_by` on the date: of equal dates the last one wins. -/
def latestObservation : List RateObservation → Option RateObservation
  | [] => none
  | r :: rs =>
    match latestObservation rs with
    | some s => if s.date < r.date then some r else some s
    | none => some r

/-- `select_prior_rate`: the quote of the last observation on or before `asOf`. -/
def selectPriorRate (currency : Currency) (asOf : Date) (observations : List RateObservation) :
    Except String Decimal :=
  if currency = .eur then .ok 1
  else
    match latestObservation (observations.filter fun r => r.currency = currency ∧ r.date ≤ asOf) with
    | none => .error "no prior ECB observation"
    | some r =>
      if r.currencyUnitsPerEur.coefficient ≤ 0 then .error "ECB quote must be positive"
      else .ok r.currencyUnitsPerEur

/-- `account_balance_eur`. -/
def accountBalanceEur (nativeBalance : Decimal) (currency : Currency) (asOf : Date)
    (observations : List RateObservation) : Except String Decimal := do
  let quote ← selectPriorRate currency asOf observations
  let ratio ← nativeBalance.asRatio.divide quote.asRatio
  return ratio.roundDecimal 2 postingRoundingMode

/-- `proportional_decimal_text`: `value * numerator / denominator`, rounded once. -/
def proportional (value numerator denominator : Decimal) : Except String Decimal := do
  let ratio ← (value.asRatio.multiply numerator.asRatio).divide denominator.asRatio
  return ratio.roundDecimal 2 postingRoundingMode

structure SideValuation where
  amountNative : Decimal
  amountEur : Decimal
  exchangeToEur : Ratio
  exchangeToNative : Ratio
deriving DecidableEq

structure TransactionValuation where
  fromSide : SideValuation
  toSide : SideValuation
deriving DecidableEq

/-- `SOURCE_FX_ADJUSTMENT`, the 2 % surcharge on non-EUR inputs. -/
def sourceFxAdjustment : Decimal := .normalized 102 2

def unitRatio : Ratio := ⟨1, 1⟩

/-- The rate from the input currency to the currency of the source account. -/
def fromNativeRate (inputCurrency fromAccountCurrency : Currency)
    (adjustment inputQuote fromAccountQuote : Ratio) : Except String Ratio :=
  if inputCurrency = fromAccountCurrency then .ok unitRatio
  else (adjustment.multiply fromAccountQuote).divide inputQuote

/-- `calculate_valuation`: the source amount is converted with the adjusted rate, the destination
amount is already in the currency of its account. -/
def calculateValuation (amount : Decimal) (inputCurrency fromAccountCurrency : Currency)
    (toAmount : Decimal) (toAccountCurrency : Currency) (asOf : Date)
    (observations : List RateObservation) (rounding : RoundingMode) :
    Except String TransactionValuation := do
  let inputRate ← selectPriorRate inputCurrency asOf observations
  let fromAccountRate ← selectPriorRate fromAccountCurrency asOf observations
  let toAccountRate ← selectPriorRate toAccountCurrency asOf observations
  let adjustment := (if inputCurrency = .eur then 1 else sourceFxAdjustment).asRatio
  let fromEurRate ← adjustment.divide inputRate.asRatio
  let fromNativeRate ← fromNativeRate inputCurrency fromAccountCurrency adjustment
    inputRate.asRatio fromAccountRate.asRatio
  let toEurRate ← unitRatio.divide toAccountRate.asRatio
  return {
    fromSide := {
      amountNative := (amount.asRatio.multiply fromNativeRate).roundDecimal 2 rounding
      amountEur := (amount.asRatio.multiply fromEurRate).roundDecimal 2 rounding
      exchangeToEur := fromEurRate
      exchangeToNative := fromNativeRate }
    toSide := {
      amountNative := toAmount.asRatio.roundDecimal 2 rounding
      amountEur := (toAmount.asRatio.multiply toEurRate).roundDecimal 2 rounding
      exchangeToEur := toEurRate
      exchangeToNative := unitRatio } }

section

variable {κ : Type} [DecidableEq κ]

/-- `add_delta`. -/
def addDelta (map : Table κ Decimal) (key : κ) (delta : Decimal) : Table κ Decimal :=
  map.insert key ((map.lookup key).getD 0 + delta)

/-- The `account_deltas` of `project_transaction`: debit the source, credit the destination. -/
def accountDeltas (fromAccount toAccount : κ) (fromNative toNative : Decimal) : Table κ Decimal :=
  addDelta (addDelta ∅ fromAccount (-fromNative)) toAccount toNative

/-- `difference_maps`: what the newer map has over the older one, zeros left out. -/
def differenceMaps (newer older : Table κ Decimal) : Table κ Decimal :=
  (newer.keys ++ older.keys).dedup.foldl (fun differences key =>
    let difference := (newer.lookup key).getD 0 - (older.lookup key).getD 0
    if difference = 0 then differences else differences.insert key difference) ∅

/-- The value a map of deltas has at a key. -/
def deltaAt (map : Table κ Decimal) (key : κ) : Decimal := (map.lookup key).getD 0

theorem deltaAt_of_none {map : Table κ Decimal} {key : κ} (h : map.lookup key = none) :
    deltaAt map key = 0 := by
  simp [deltaAt, h]

theorem deltaAt_addDelta (map : Table κ Decimal) (key key' : κ) (delta : Decimal) :
    deltaAt (addDelta map key delta) key' = deltaAt map key' + if key' = key then delta else 0 := by
  unfold deltaAt addDelta
  rw [AList.lookup_insert_of]
  split
  · subst_vars; rfl
  · rw [add_zero]

theorem deltaAt_accountDeltas (f t x : κ) (fromNative toNative : Decimal) :
    deltaAt (accountDeltas f t fromNative toNative) x
      = (if x = t then toNative else 0) - if x = f then fromNative else 0 := by
  unfold accountDeltas
  rw [deltaAt_addDelta, deltaAt_addDelta]
  have h0 : deltaAt (∅ : Table κ Decimal) x = 0 := rfl
  rw [h0]
  split <;> split <;> simp [sub_eq_add_neg, add_comm]

theorem deltaAt_differenceMaps (newer older : Table κ Decimal) (x : κ) :
    deltaAt (differenceMaps newer older) x = deltaAt newer x - deltaAt older x := by
  -- generalise over the keys already walked
  have key : ∀ (ks : List κ) (acc : Table κ Decimal), ks.Nodup →
      deltaAt (ks.foldl (fun differences key =>
        let difference := (newer.lookup key).getD 0 - (older.lookup key).getD 0
        if difference = 0 then differences else differences.insert key difference) acc) x
      = if x ∈ ks ∧ deltaAt newer x - deltaAt older x ≠ 0 then deltaAt newer x - deltaAt older x
        else deltaAt acc x := by
    intro ks
    induction ks with
    | nil => intro acc _; simp
    | cons k ks ih =>
      intro acc hnd
      obtain ⟨hk, hnd⟩ := List.nodup_cons.1 hnd
      rw [List.foldl_cons, ih _ hnd]
      by_cases hx : x = k
      · subst hx
        by_cases h0 : deltaAt newer x - deltaAt older x = 0
        · have h0' : (newer.lookup x).getD 0 - (older.lookup x).getD 0 = 0 := h0
          simp [hk, h0, h0']
        · have h0' : (newer.lookup x).getD 0 - (older.lookup x).getD 0 ≠ 0 := h0
          simp [hk, h0', deltaAt]
      · by_cases h0 : (newer.lookup k).getD 0 - (older.lookup k).getD 0 = 0
        · simp [hx, h0]
        · simp [hx, h0, deltaAt]
  unfold differenceMaps
  rw [key _ _ (List.nodup_dedup _)]
  by_cases hx : x ∈ (newer.keys ++ older.keys).dedup
  · by_cases h0 : deltaAt newer x - deltaAt older x = 0
    · rw [if_neg (by simp [h0]), h0]; rfl
    · rw [if_pos ⟨hx, h0⟩]
  · rw [if_neg (by tauto)]
    rw [List.mem_dedup, List.mem_append, not_or] at hx
    have hn : newer.lookup x = none := AList.lookup_eq_none.2 hx.1
    have ho : older.lookup x = none := AList.lookup_eq_none.2 hx.2
    simp [deltaAt, hn, ho]

end

/-! ## EUR amounts -/

@[simp] theorem selectPriorRate_eur (asOf : Date) (rs : List RateObservation) :
    selectPriorRate .eur asOf rs = .ok 1 := rfl

theorem asRatio_denominator_pos (a : Decimal) : 0 < a.asRatio.denominator := by
  show (0 : Int) < 10 ^ a.scale
  positivity

theorem multiply_unit {a : Ratio} (ha : 0 < a.denominator) : a.multiply unitRatio = a := by
  simp [unitRatio, Ratio.multiply, Ratio.normalized, not_lt.2 ha.le]

theorem accountBalanceEur_within {b e : Decimal} {c : Currency} {asOf : Date}
    {rs : List RateObservation} (h : accountBalanceEur b c asOf rs = .ok e) : e.Within 2 := by
  simp only [accountBalanceEur, Except.bind_eq_ok, Except.pure_eq_ok] at h
  obtain ⟨_, _, _, _, rfl⟩ := h
  exact Ratio.within_roundDecimal _ _ _

theorem proportional_within {a n d e : Decimal} (h : proportional a n d = .ok e) : e.Within 2 := by
  simp only [proportional, Except.bind_eq_ok, Except.pure_eq_ok] at h
  obtain ⟨_, _, rfl⟩ := h
  exact Ratio.within_roundDecimal _ _ _

section

variable {amount toAmount : Decimal} {inputCurrency fromCurrency toCurrency : Currency}
  {asOf : Date} {rs : List RateObservation} {v : TransactionValuation}

/-- What every valuation posts: amounts of at most two decimals, and the destination amount in its
own currency. -/
theorem calculateValuation_ok
    (h : calculateValuation amount inputCurrency fromCurrency toAmount toCurrency asOf rs
      postingRoundingMode = .ok v) :
    v.fromSide.amountNative.Within 2 ∧ v.fromSide.amountEur.Within 2 ∧
      v.toSide.amountEur.Within 2 ∧ v.toSide.amountNative = toAmount.roundPosted := by
  simp only [calculateValuation, Except.bind_eq_ok, Except.pure_eq_ok] at h
  obtain ⟨_, _, _, _, _, _, _, _, _, _, _, _, rfl⟩ := h
  exact ⟨Ratio.within_roundDecimal _ _ _, Ratio.within_roundDecimal _ _ _,
    Ratio.within_roundDecimal _ _ _, rfl⟩

/-- An amount entered in the currency of the source account is debited as entered. -/
theorem calculateValuation_fromNative
    (h : calculateValuation amount fromCurrency fromCurrency toAmount toCurrency asOf rs
      postingRoundingMode = .ok v) :
    v.fromSide.amountNative = amount.roundPosted := by
  simp only [calculateValuation, fromNativeRate, Except.bind_eq_ok, Except.pure_eq_ok, if_true,
    Except.ok.injEq] at h
  obtain ⟨_, _, _, _, _, _, _, _, _, rfl, _, _, rfl⟩ := h
  show (amount.asRatio.multiply unitRatio).roundDecimal 2 postingRoundingMode = _
  rw [multiply_unit (asRatio_denominator_pos amount)]
  rfl

end

/-! ## Rates that exist -/

theorem latestObservation_mem {rs : List RateObservation} {r : RateObservation}
    (h : latestObservation rs = some r) : r ∈ rs := by
  induction rs generalizing r with
  | nil => cases h
  | cons x rs ih =>
    unfold latestObservation at h
    split at h
    · rename_i s hs
      split at h
      · cases h
        exact List.mem_cons_self
      · cases h
        exact List.mem_cons_of_mem _ (ih hs)
    · cases h
      exact List.mem_cons_self

theorem latestObservation_isSome {rs : List RateObservation} {r : RateObservation} (h : r ∈ rs) :
    ∃ s, latestObservation rs = some s := by
  cases rs with
  | nil => cases h
  | cons x rs =>
    unfold latestObservation
    split
    · split <;> exact ⟨_, rfl⟩
    · exact ⟨_, rfl⟩

/-- A selected quote is positive. -/
theorem selectPriorRate_pos {currency : Currency} {asOf : Date} {rs : List RateObservation}
    {quote : Decimal} (h : selectPriorRate currency asOf rs = .ok quote) : 0 < quote.coefficient := by
  unfold selectPriorRate at h
  split at h
  · cases h
    decide
  · split at h
    · cases h
    · split at h
      · cases h
      · rename_i hpos
        cases h
        exact not_le.1 hpos

/-- Where quotes are positive, a rate that exists on a day exists on every later one. -/
theorem selectPriorRate_later {currency : Currency} {asOf later : Date} {rs : List RateObservation}
    {quote : Decimal} (h : selectPriorRate currency asOf rs = .ok quote) (hle : asOf ≤ later)
    (hpos : ∀ r ∈ rs, 0 < r.currencyUnitsPerEur.coefficient) :
    ∃ quote', selectPriorRate currency later rs = .ok quote' := by
  unfold selectPriorRate at h ⊢
  split at h
  · rename_i heur
    exact ⟨1, if_pos heur⟩
  · rename_i heur
    rw [if_neg heur]
    split at h
    · cases h
    · rename_i r hr
      have hmem := List.mem_filter.1 (latestObservation_mem hr)
      have hdate := of_decide_eq_true hmem.2
      obtain ⟨s, hs⟩ := @latestObservation_isSome (rs.filter fun r =>
          r.currency = currency ∧ r.date ≤ later) _
        (List.mem_filter.2 ⟨hmem.1, decide_eq_true ⟨hdate.1, hdate.2.trans hle⟩⟩)
      rw [hs]
      have hs := hpos s (List.mem_filter.1 (latestObservation_mem hs)).1
      exact ⟨_, if_neg (not_le.2 hs)⟩

/-- A division by a selected quote succeeds. -/
theorem divide_quote {a : Ratio} {currency : Currency} {asOf : Date} {rs : List RateObservation}
    {quote : Decimal} (h : selectPriorRate currency asOf rs = .ok quote) (ha : a.denominator ≠ 0) :
    ∃ r, a.divide quote.asRatio = .ok r := by
  obtain ⟨r, hr, _⟩ := Ratio.divide_of_ne a quote.asRatio ha (selectPriorRate_pos h).ne'
  exact ⟨r, hr⟩

/-- A balance has a EUR value whenever its currency has a rate. -/
theorem exists_accountBalanceEur {currency : Currency} {asOf : Date} {rs : List RateObservation}
    {quote : Decimal} (h : selectPriorRate currency asOf rs = .ok quote) (balance : Decimal) :
    ∃ eur, accountBalanceEur balance currency asOf rs = .ok eur := by
  obtain ⟨r, hr⟩ := divide_quote h (asRatio_denominator_pos balance).ne'
  simp only [accountBalanceEur, h, bind, Except.bind, hr]
  exact ⟨_, rfl⟩

/-- An amount in the currency of the source account is valued whenever both currencies have a rate. -/
theorem exists_calculateValuation {currency toCurrency : Currency} {asOf : Date}
    {rs : List RateObservation} {fromQuote toQuote : Decimal}
    (hfrom : selectPriorRate currency asOf rs = .ok fromQuote)
    (hto : selectPriorRate toCurrency asOf rs = .ok toQuote) (amount toAmount : Decimal) :
    ∃ v, calculateValuation amount currency currency toAmount toCurrency asOf rs
      postingRoundingMode = .ok v := by
  obtain ⟨fromEur, hfromEur⟩ := divide_quote (a := (if currency = .eur then 1
    else sourceFxAdjustment : Decimal).asRatio) hfrom (asRatio_denominator_pos _).ne'
  obtain ⟨toEur, htoEur⟩ := divide_quote (a := unitRatio) hto one_ne_zero
  simp only [calculateValuation, fromNativeRate, hfrom, hto, bind, Except.bind, hfromEur, htoEur,
    if_true]
  exact ⟨_, rfl⟩
