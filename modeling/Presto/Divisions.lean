import Presto.Lib.Avoids
import Presto.Server.LedgerText
import Presto.Excess

/-!
# Divisions

A quote is divided by only after it was selected, and a selected quote is positive. A plan is divided
by only where its text is not `"0"`: the amounts of a stored plan are the texts of cents, so a plan
that is zero, or worth less than half a cent of a euro, is stored as `"0"`.
-/

/-- The error of `Ratio::divide`. -/
def zeroQuote : String := "cannot divide by a zero FX quote"

open Except

theorem Ratio.divide_avoids {a b : Ratio} {e : String} (hb : b.numerator ≠ 0) :
    Avoids e (a.divide b) := by
  unfold Ratio.divide
  rw [if_neg hb]
  exact avoids_ok _

theorem Decimal.numerator_ne_zero {d : Decimal} (h : d ≠ 0) : d.asRatio.numerator ≠ 0 :=
  fun h0 => h (Decimal.eq_zero_of_coefficient h0)

/-! ## Reading texts -/

namespace Decimal

theorem Within.scale_le {a : Decimal} (h : a.Within 2) : a.scale ≤ 10000 :=
  Nat.le_trans h (by decide)

theorem scanMantissa_avoids (cs : List Char) : ∀ m, Avoids zeroQuote (scanMantissa cs m) := by
  induction cs with
  | nil => exact fun m => avoids_ok m
  | cons c cs ih =>
    intro m
    unfold scanMantissa
    split
    · split
      · exact avoids_error (by decide)
      · exact ih _
    · split
      · exact ih _
      · exact avoids_error (by decide)

theorem parseExponent_avoids (part : Option (List Char)) :
    Avoids zeroQuote (parseExponent part) := by
  cases part with
  | none => exact avoids_ok 0
  | some part => exact avoids_fromOption (by decide)

theorem parse_avoids (value : String) : Avoids zeroQuote (parse value) := by
  unfold parse
  refine (avoids_ensure (by decide)).bind fun _ _ => ?_
  refine (parseExponent_avoids _).bind fun _ _ => ?_
  refine (avoids_ensure (by decide)).bind fun _ _ => ?_
  refine (scanMantissa_avoids _ _).bind fun _ _ => ?_
  refine (avoids_ensure (by decide)).bind fun _ _ => ?_
  exact (avoids_ensure (by decide)).bind fun _ _ => avoids_pure _

end Decimal

theorem addDecimalText_avoids (left right : String) :
    Avoids zeroQuote (addDecimalText left right) :=
  (Decimal.parse_avoids left).bind fun _ _ =>
    (Decimal.parse_avoids right).bind fun _ _ => avoids_pure _

theorem subtractDecimalText_avoids (left right : String) :
    Avoids zeroQuote (subtractDecimalText left right) :=
  (Decimal.parse_avoids left).bind fun _ _ =>
    (Decimal.parse_avoids right).bind fun _ _ => avoids_pure _

namespace TargetDays

theorem parseDate_avoids (value : String) : Avoids zeroQuote (parseDate value) := by
  unfold parseDate
  split
  · refine (avoids_ensure (by decide)).bind fun _ _ => ?_
    exact (avoids_ensure (by decide)).bind fun _ _ => avoids_pure _
  · exact avoids_error (by decide)

theorem isTargetOperatingDay_avoids (daysSinceEpoch : Int) :
    Avoids zeroQuote (isTargetOperatingDay daysSinceEpoch) := by
  unfold isTargetOperatingDay
  split
  · exact avoids_ok _
  · -- the civil date is a triple
    split
    split
    · exact avoids_ok _
    · exact (parseDate_avoids _).bind fun _ _ => avoids_pure _

theorem countOperatingDays_avoids (days : Nat) : ∀ date count,
    Avoids zeroQuote (countOperatingDays date days count) := by
  induction days with
  | zero => exact fun _ count => avoids_ok count
  | succ days ih =>
    exact fun date _ => (isTargetOperatingDay_avoids date).bind fun _ _ => ih _ _

theorem targetBusinessDaysBetween_avoids (start through : String) :
    Avoids zeroQuote (targetBusinessDaysBetween start through) := by
  unfold targetBusinessDaysBetween
  refine (parseDate_avoids start).bind fun _ _ => (parseDate_avoids through).bind fun _ _ => ?_
  split
  · exact avoids_pure _
  · exact countOperatingDays_avoids _ _ _

end TargetDays

/-! ## Quotes -/

namespace FinanceModel

theorem missingRate_ne (currency : String) :
    "no prior ECB observation for " ++ currency ≠ zeroQuote := by
  intro h
  have hhead := congrArg (fun text => text.toList.head?) h
  simp [zeroQuote] at hhead

theorem selectPriorRate_avoids (currency asOf : String) (observations : List RateObservation) :
    Avoids zeroQuote (selectPriorRate currency asOf observations) := by
  unfold selectPriorRate
  split
  · exact avoids_ok _
  · split
    · exact avoids_error (missingRate_ne currency)
    · refine (Decimal.parse_avoids _).bind fun _ _ => ?_
      refine (avoids_ensure (by decide)).bind fun _ _ => ?_
      exact (TargetDays.targetBusinessDaysBetween_avoids _ _).bind fun _ _ => avoids_pure _

/-- A division by a selected quote. -/
theorem divide_quote_avoids {currency asOf : String} {observations : List RateObservation}
    {rate : SelectedRate} {quote : Decimal} {a : Ratio}
    (h : selectPriorRate currency asOf observations = .ok rate)
    (hquote : Decimal.parse rate.quote = .ok quote) : Avoids zeroQuote (a.divide quote.asRatio) := by
  obtain ⟨q, hq, hpos, _⟩ := selectPriorRate_ok h
  obtain rfl : q = quote := Except.ok.inj (hq.symm.trans hquote)
  exact Ratio.divide_avoids hpos.ne'

theorem calculateValuation_avoids (amount inputCurrency fromAccountCurrency toAmount
    toAccountCurrency asOf : String) (observations : List RateObservation)
    (rounding : RoundingMode) :
    Avoids zeroQuote (calculateValuation amount inputCurrency fromAccountCurrency toAmount
      toAccountCurrency asOf observations rounding) := by
  unfold calculateValuation
  refine (Decimal.parse_avoids _).bind fun _ _ => (Decimal.parse_avoids _).bind fun _ _ => ?_
  refine (selectPriorRate_avoids _ _ _).bind fun _ hinput => ?_
  refine (selectPriorRate_avoids _ _ _).bind fun _ _ => ?_
  refine (selectPriorRate_avoids _ _ _).bind fun _ hto => ?_
  refine (Decimal.parse_avoids _).bind fun _ _ => ?_
  refine (Decimal.parse_avoids _).bind fun _ hinputQuote => ?_
  refine (Decimal.parse_avoids _).bind fun _ _ => (Decimal.parse_avoids _).bind fun _ htoQuote => ?_
  refine (divide_quote_avoids hinput hinputQuote).bind fun _ _ => ?_
  refine Avoids.bind ?_ fun _ _ => (divide_quote_avoids hto htoQuote).bind fun _ _ => avoids_pure _
  unfold fromNativeRate
  split
  · exact avoids_ok _
  · exact divide_quote_avoids hinput hinputQuote

end FinanceModel

namespace LedgerText

theorem accountBalanceEur_avoids (nativeBalance currency asOf : String)
    (observations : List FinanceModel.RateObservation) :
    Avoids zeroQuote (accountBalanceEur nativeBalance currency asOf observations) := by
  unfold accountBalanceEur
  refine (Decimal.parse_avoids _).bind fun _ _ => ?_
  refine (FinanceModel.selectPriorRate_avoids _ _ _).bind fun _ hrate => ?_
  refine (Decimal.parse_avoids _).bind fun _ hquote => ?_
  exact (FinanceModel.divide_quote_avoids hrate hquote).bind fun _ _ => avoids_pure _

/-- A proportion of a text that writes zero is the only one that divides by zero. -/
theorem proportionalDecimalText_avoids {denominator : String}
    (h : ∀ d, Decimal.parse denominator = .ok d → d ≠ 0) (value numerator : String) :
    Avoids zeroQuote (proportionalDecimalText value numerator denominator) := by
  unfold proportionalDecimalText
  refine (Decimal.parse_avoids _).bind fun _ _ => (Decimal.parse_avoids _).bind fun _ _ => ?_
  refine (Decimal.parse_avoids _).bind fun d hd => ?_
  exact (Ratio.divide_avoids (Decimal.numerator_ne_zero (h d hd))).bind fun _ _ => avoids_pure _

/-! ## Stored plans -/

/-- The text of an amount in cents. -/
def CentsText (text : String) : Prop := ∃ a : Decimal, a.Within 2 ∧ text = a.format

theorem format_eq_zero {a : Decimal} (h : a.Within 2) : a.format = "0" ↔ a = 0 := by
  rw [Decimal.format_zero_iff h.scale_le, ← Decimal.toRat_zero,
    Decimal.toRat_injective.eq_iff]

/-- The guard: cents that are not `"0"` are not zero. -/
theorem CentsText.ne_zero {text : String} (h : CentsText text) (hne : text ≠ "0") :
    ∃ a, Decimal.parse text = .ok a ∧ a ≠ 0 := by
  obtain ⟨a, ha, rfl⟩ := h
  exact ⟨a, Decimal.parse_format ha.scale_le, fun h0 => hne ((format_eq_zero ha).2 h0)⟩

theorem roundPostedDecimalText_cents {value text : String}
    (h : roundPostedDecimalText value 2 = .ok text) : CentsText text := by
  simp only [roundPostedDecimalText, bind_eq_ok, pure_eq_ok] at h
  obtain ⟨a, _, rfl⟩ := h
  exact ⟨_, Ratio.within_roundDecimal _ _ _, rfl⟩

theorem accountBalanceEur_cents {nativeBalance currency asOf text : String}
    {observations : List FinanceModel.RateObservation}
    (h : accountBalanceEur nativeBalance currency asOf observations = .ok text) : CentsText text := by
  simp only [accountBalanceEur, bind_eq_ok, pure_eq_ok] at h
  obtain ⟨_, _, _, _, _, _, _, _, rfl⟩ := h
  exact ⟨_, Ratio.within_roundDecimal _ _ _, rfl⟩

/-- The settings that can be stored. -/
inductive StoredSetting : Setting → Prop
  | saved {amount currency : String} {arrivalDay : Nat} {setting : Setting}
      (h : savedSetting amount currency arrivalDay = .ok setting) : StoredSetting setting

/-- The plans that can be stored: inserted once, refreshed and completed in any order, whatever the
months and rates. -/
inductive StoredPlan : Plan → Prop
  | ensured {month : String} {setting : Option Setting}
      {observations : List FinanceModel.RateObservation} {row : Plan}
      (hsetting : ∀ s, setting = some s → StoredSetting s)
      (h : newPlan month setting observations = .ok row) : StoredPlan row
  | refreshed {month : String} {setting : Setting}
      {observations : List FinanceModel.RateObservation} {row row' : Plan} (hrow : StoredPlan row)
      (hsetting : StoredSetting setting)
      (h : refreshPlan month setting observations row = .ok row') : StoredPlan row'
  | completed {row : Plan} (month : String) (hrow : StoredPlan row) :
      StoredPlan { row with completedMonth := some month }

/-- Both amounts of a plan are cents. -/
structure Plan.InCents (row : Plan) : Prop where
  native : CentsText row.amount
  eur : CentsText row.amountEur

theorem StoredSetting.cents {setting : Setting} (h : StoredSetting setting) :
    CentsText setting.amount := by
  obtain ⟨h⟩ := h
  simp only [savedSetting, bind_eq_ok, ensure_eq_ok, pure_eq_ok] at h
  obtain ⟨_, hamount, _, _, rfl⟩ := h
  exact roundPostedDecimalText_cents hamount

/-- The default of a month without a setting is written in cents, too. -/
theorem cents_default : CentsText "10000" :=
  ⟨10000, by decide, by decide +kernel⟩

theorem StoredPlan.inCents {row : Plan} (h : StoredPlan row) : row.InCents := by
  induction h with
  | ensured hsetting h =>
    simp only [newPlan, bind_eq_ok, pure_eq_ok] at h
    obtain ⟨_, heur, rfl⟩ := h
    refine ⟨?_, accountBalanceEur_cents heur⟩
    rename_i setting _ _
    cases setting with
    | none => exact cents_default
    | some s => exact (hsetting s rfl).cents
  | refreshed _ hsetting h _ =>
    simp only [refreshPlan, bind_eq_ok, pure_eq_ok] at h
    obtain ⟨_, heur, rfl⟩ := h
    exact ⟨hsetting.cents, accountBalanceEur_cents heur⟩
  | completed _ _ ih => exact ⟨ih.native, ih.eur⟩

/-! ## Divisions by a plan -/

section

variable {row : Plan}

theorem fundingPortion_avoids (h : row.InCents) (native : String) :
    Avoids zeroQuote (fundingPortion native row.amount row.amountEur) := by
  unfold fundingPortion
  split
  · exact avoids_ok _
  · rename_i hne
    obtain ⟨a, ha, hne⟩ := h.native.ne_zero hne
    exact proportionalDecimalText_avoids (fun d hd => by rwa [← Except.ok.inj (ha.symm.trans hd)]) _ _

/-- A receipt in a third currency is converted only where the plan is worth something. -/
theorem receiptNative_avoids (h : row.InCents) (r : Receipt) (actualEur : String) :
    Avoids zeroQuote (receiptNative r actualEur row.amount row.currency row.amountEur) := by
  unfold receiptNative
  split
  · exact avoids_ok _
  · split
    · exact avoids_fromOption (by decide)
    · split
      · exact avoids_ok _
      · rename_i hne
        obtain ⟨a, ha, hne⟩ := h.eur.ne_zero hne
        exact proportionalDecimalText_avoids
          (fun d hd => by rwa [← Except.ok.inj (ha.symm.trans hd)]) _ _

theorem matchedReceipts_avoids (h : row.InCents) (rows : List Receipt) :
    Avoids zeroQuote (matchedReceipts rows row.amount row.currency row.amountEur) :=
  avoids_mapM fun r _ => (avoids_fromOption (by decide)).bind fun _ _ =>
    (receiptNative_avoids h r _).bind fun _ _ => avoids_pure _

theorem income_avoids (h : row.InCents) (month through : String) (rows : List Receipt) :
    Avoids zeroQuote (income month through row rows) := by
  unfold income
  refine (matchedReceipts_avoids h rows).bind fun _ _ => ?_
  refine (avoids_foldlM (fun _ _ _ => ?_) _).bind fun _ _ => ?_
  · exact (addDecimalText_avoids _ _).bind fun _ _ =>
      (addDecimalText_avoids _ _).bind fun _ _ => avoids_pure _
  · refine Avoids.bind ?_ fun _ _ => avoids_pure _
    split
    · exact avoids_ok _
    · exact (subtractDecimalText_avoids _ _).bind fun _ _ => fundingPortion_avoids h _

theorem coveredPlan_avoids (plan received : String) :
    Avoids zeroQuote (coveredPlan plan received) :=
  (subtractDecimalText_avoids _ _).bind fun _ _ => subtractDecimalText_avoids _ _

theorem excessStep_avoids (h : row.InCents) (acc : String × Table String String)
    (r : MatchedReceipt) : Avoids zeroQuote (excessStep row.amount row.amountEur acc r) := by
  unfold excessStep
  refine (coveredPlan_avoids _ _).bind fun _ _ => (addDecimalText_avoids _ _).bind fun _ _ => ?_
  refine (coveredPlan_avoids _ _).bind fun _ _ => (fundingPortion_avoids h _).bind fun _ _ => ?_
  refine (fundingPortion_avoids h _).bind fun _ _ => ?_
  refine (subtractDecimalText_avoids _ _).bind fun _ _ => ?_
  refine (subtractDecimalText_avoids _ _).bind fun _ _ => ?_
  split
  · exact avoids_pure _
  · exact (addDecimalText_avoids _ _).bind fun _ _ => avoids_pure _

theorem excessWanted_avoids (h : row.InCents) (rows : List Receipt) :
    Avoids zeroQuote (excessWanted row rows) :=
  (matchedReceipts_avoids h rows).bind fun _ _ =>
    (avoids_foldlM (fun acc r _ => excessStep_avoids h acc r) _).bind fun _ _ => avoids_pure _

/-- What dividing by the amounts of a plan needs, and what its divisions give. -/
structure Plan.Guarded (row : Plan) : Prop where
  native : row.amount ≠ "0" → ∃ a, Decimal.parse row.amount = .ok a ∧ a ≠ 0
  eur : row.amountEur ≠ "0" → ∃ a, Decimal.parse row.amountEur = .ok a ∧ a ≠ 0
  portion : ∀ native, Avoids zeroQuote (fundingPortion native row.amount row.amountEur)
  matched : ∀ rows, Avoids zeroQuote (matchedReceipts rows row.amount row.currency row.amountEur)
  income : ∀ month through rows, Avoids zeroQuote (income month through row rows)
  excess : ∀ rows, Avoids zeroQuote (excessWanted row rows)

theorem Plan.InCents.guarded (h : row.InCents) : row.Guarded where
  native := h.native.ne_zero
  eur := h.eur.ne_zero
  portion := fundingPortion_avoids h
  matched := matchedReceipts_avoids h
  income := income_avoids h
  excess := excessWanted_avoids h

end

end LedgerText

/-! ## Divisions of the ledger -/

/-- The errors of what `sync` reads: a missing rate, row or amount. -/
def readErrors : List String := [
  "no prior ECB observation",
  "ECB quote must be positive",
  "no rows returned",
  "unexpected null",
  "Missing allocation",
  "Missing category valuation",
  "Missing income valuation",
  "Missing completion amount"]

theorem zeroQuote_notMem : zeroQuote ∉ readErrors := by decide

section

variable {e : String} (he : e ∉ readErrors)
include he

theorem ne_of_read {e' : String} (h : e' ∈ readErrors) : e' ≠ e := ne_of_mem_of_not_mem h he

theorem selectPriorRate_avoids (currency : Currency) (asOf : Date) (rs : List RateObservation) :
    Avoids e (selectPriorRate currency asOf rs) := by
  unfold selectPriorRate
  split
  · exact avoids_ok _
  · split
    · exact avoids_error (ne_of_read he (by decide))
    · split
      · exact avoids_error (ne_of_read he (by decide))
      · exact avoids_ok _

theorem accountBalanceEur_avoids (balance : Decimal) (currency : Currency) (asOf : Date)
    (rs : List RateObservation) : Avoids e (accountBalanceEur balance currency asOf rs) :=
  (selectPriorRate_avoids he _ _ _).bind fun _ hquote =>
    (Ratio.divide_avoids (selectPriorRate_pos hquote).ne').bind fun _ _ => avoids_pure _

end

theorem calculateValuation_avoids (amount : Decimal) (inputCurrency fromAccountCurrency : Currency)
    (toAmount : Decimal) (toAccountCurrency : Currency) (asOf : Date) (rs : List RateObservation)
    (rounding : RoundingMode) :
    Avoids zeroQuote (calculateValuation amount inputCurrency fromAccountCurrency toAmount
      toAccountCurrency asOf rs rounding) := by
  unfold calculateValuation
  refine (selectPriorRate_avoids zeroQuote_notMem _ _ _).bind fun _ hinput => ?_
  refine (selectPriorRate_avoids zeroQuote_notMem _ _ _).bind fun _ _ => ?_
  refine (selectPriorRate_avoids zeroQuote_notMem _ _ _).bind fun _ hto => ?_
  refine (Ratio.divide_avoids (selectPriorRate_pos hinput).ne').bind fun _ _ => ?_
  refine Avoids.bind ?_ fun _ _ =>
    (Ratio.divide_avoids (selectPriorRate_pos hto).ne').bind fun _ _ => avoids_pure _
  unfold fromNativeRate
  split
  · exact avoids_ok _
  · exact Ratio.divide_avoids (selectPriorRate_pos hinput).ne'

namespace BudgetLedger

open Budget Server

/-! ### Readings -/

section

variable {e : String} (he : e ∉ readErrors) (db : Database)
include he

theorem settingEur_avoids (m : Month) : Avoids e (settingEur db m) :=
  accountBalanceEur_avoids he _ _ _ _

theorem ensureIncome_avoids (m : Month) : Avoids e (ensureIncome db m) := by
  unfold ensureIncome
  split
  · exact avoids_ok _
  · exact (settingEur_avoids he db m).bind fun _ _ => avoids_pure _

theorem matchedReceipts_avoids (m through : Month) (amount : Decimal) (currency : Currency)
    (plannedEur : Decimal) :
    Avoids e (matchedReceipts db m through amount currency plannedEur) := by
  refine avoids_mapM fun r _ =>
    (avoids_fromOption (ne_of_read he (by decide))).bind fun _ _ => ?_
  refine Avoids.bind ?_ fun _ _ => avoids_pure _
  unfold receiptNative
  split
  · exact avoids_ok _
  · split
    · exact avoids_fromOption (ne_of_read he (by decide))
    · split
      · exact avoids_ok _
      · exact avoids_of_ok (exists_proportional _ _ (by assumption))

theorem income_avoids (m through : Month) : Avoids e (income db m through) := by
  unfold income
  split
  · exact avoids_ok _
  · refine (matchedReceipts_avoids he db _ _ _ _ _).bind fun _ _ => ?_
    refine Avoids.bind ?_ fun _ _ => avoids_pure _
    split
    · exact avoids_ok _
    · exact avoids_of_ok (exists_fundingPortion _ _ _)

theorem monthAllocations_avoids (m : Month) : Avoids e (monthAllocations db m) :=
  avoids_mapM fun _ _ => (avoids_fromOption (ne_of_read he (by decide))).map _

theorem sideEffect_avoids (r : LedgerRow) (category : Option CategoryId) (eur : Option Decimal)
    (incoming : Bool) (wanted : Wanted) :
    Avoids e (sideEffect db r category eur incoming wanted) := by
  unfold sideEffect
  split
  · exact avoids_ok _
  · refine Avoids.bind ?_ fun _ _ => avoids_pure _
    split
    · exact avoids_ok _
    · exact avoids_fromOption (ne_of_read he (by decide))

theorem transactionEffect_avoids (wanted : Wanted) (r : LedgerRow) :
    Avoids e (transactionEffect db wanted r) := by
  unfold transactionEffect
  split
  · exact avoids_ok _
  · dsimp only
    split
    · split
      · exact (avoids_fromOption (ne_of_read he (by decide))).map _
      · exact avoids_ok _
    · exact (sideEffect_avoids he db _ _ _ _ _).bind fun _ _ => sideEffect_avoids he db _ _ _ _ _

theorem transactionTargets_avoids (m : Month) : Avoids e (transactionTargets db m) :=
  (avoids_foldlM (fun w r _ => transactionEffect_avoids he db w r) _).bind fun _ _ => avoids_pure _

omit he in
theorem excessWanted_avoids (plan eur : Decimal) (receipts : List MatchedReceipt) :
    Avoids e (excessWanted plan eur receipts) := by
  refine (avoids_foldlM (fun acc r _ => ?_) _).map _
  unfold excessStep
  exact (avoids_of_ok (exists_fundingPortion _ _ _)).bind fun _ _ =>
    (avoids_of_ok (exists_fundingPortion _ _ _)).bind fun _ _ => avoids_pure _

theorem expectationTargets_avoids (current m : Month) :
    Avoids e (expectationTargets db current m) := by
  unfold expectationTargets
  refine (avoids_fromOption (ne_of_read he (by decide))).bind fun row _ => ?_
  refine (matchedReceipts_avoids he db _ _ _ _ _).bind fun _ _ => ?_
  refine (excessWanted_avoids _ _ _).bind fun _ _ => ?_
  refine Avoids.bind ?_ fun _ _ => avoids_pure _
  unfold settlementTargets
  split
  · exact avoids_ok _
  · exact (avoids_fromOption (ne_of_read he (by decide))).bind fun _ _ => avoids_pure _

end

theorem receipt_avoids (db : Database) (id : TransactionId) (treatment : Option Treatment)
    (expected : Option Month) : Avoids zeroQuote (receipt db id treatment expected) := by
  unfold receipt
  split
  · exact avoids_ok _
  · refine (avoids_fromOption (by decide)).bind fun t _ => ?_
    split
    · refine (avoids_ensure (by decide)).bind fun _ _ => ?_
      split
      · split <;> exact avoids_pure _
      · exact avoids_pure _
    · split
      · exact avoids_pure _
      · split
        · refine (avoids_ensure (by decide)).bind fun _ _ => ?_
          refine (ensureIncome_avoids zeroQuote_notMem db _).bind fun db' _ => ?_
          refine (income_avoids zeroQuote_notMem db' _ _).bind fun _ _ => ?_
          refine (avoids_fromOption (by decide)).bind fun _ _ => ?_
          exact (avoids_ensure (by decide)).bind fun _ _ => avoids_pure _
        · exact avoids_error (by decide)
        · exact (avoids_ensure (by decide)).bind fun _ _ => avoids_pure _

/-! ### Sync -/

section

variable {e : String} (he : e ∉ readErrors) (db : Database) (operation : Option OperationId)

/-- Targets of open months are posted whatever they are. -/
theorem post_avoids {targets : List (Source × Decimal)}
    (h : ∀ t ∈ targets, db.isClosed t.1.month = false) : Avoids e (post operation db targets) :=
  avoids_of_ok ⟨_, post_eq operation db h⟩

include he

/-- A month is walked only when it is open, and everything is booked in it. -/
theorem syncMonth_avoids (m : Month) : Avoids e (syncMonth operation db m) := by
  unfold syncMonth
  split
  · exact avoids_ok _
  · rename_i hopen
    have hopen : db.isClosed m = false := by simpa using hopen
    refine (ensureIncome_avoids he db m).bind fun db₁ h₁ => ?_
    obtain ⟨P, rfl, _⟩ := ensureIncome_ok h₁
    refine (avoids_fromOption (ne_of_read he (by decide))).bind fun plan _ => ?_
    refine Avoids.bind (avoids_of_ok ⟨_, movement_eq _ (by exact hopen) operation⟩) fun db₂ h₂ => ?_
    obtain rfl := movement_ok h₂ hopen
    refine (monthAllocations_avoids he _ m).bind fun al _ => ?_
    have hallocations : ∀ t ∈ al.map fun a => (allocationSource m a.1, a.2),
        db.isClosed t.1.month = false := by
      intro t ht
      obtain ⟨_, _, rfl⟩ := List.mem_map.1 ht
      exact hopen
    refine Avoids.bind (post_avoids _ operation (by exact hallocations)) fun db₃ h₃ => ?_
    obtain rfl := post_ok h₃ hallocations
    refine Avoids.bind (avoids_of_ok ⟨_, movement_eq _ (by exact hopen) operation⟩) fun db₄ h₄ => ?_
    obtain rfl := movement_ok h₄ hopen
    have hbooked : ∀ {x : Database} {ts : List (Source × Decimal)}, x.closures = db.closures →
        transactionTargets x m = .ok ts → ∀ t ∈ ts, x.isClosed t.1.month = false := by
      intro x ts hx hts t ht
      rw [transactionTargets_month hts t ht, Database.isClosed, hx]
      exact hopen
    refine Avoids.bind ?_ fun db₅ h₅ => ?_
    · exact (transactionTargets_avoids he _ m).bind fun ts hts =>
        post_avoids _ operation (hbooked rfl hts)
    · simp only [syncTransactions, Except.bind_eq_ok] at h₅
      obtain ⟨ts, hts, hp⟩ := h₅
      obtain rfl := post_ok hp (hbooked rfl hts)
      refine post_avoids _ operation fun t ht => ?_
      obtain ⟨_, _, rfl⟩ := List.mem_map.1 ht
      exact hopen

/-- **`sync` raises only the errors of what it reads.** -/
theorem sync_avoids (today : Date) : Avoids e (sync db today operation) := by
  unfold sync
  split
  · exact avoids_ok _
  · refine (avoids_foldlM (fun db' m _ => syncMonth_avoids he db' operation m) db).bind
      fun db₁ _ => ?_
    refine avoids_foldlM (fun db' m _ => ?_) db₁
    refine (expectationTargets_avoids he db' _ m).bind fun ts hts => post_avoids db' operation ?_
    simp only [expectationTargets, Except.bind_eq_ok, Except.pure_eq_ok] at hts
    obtain ⟨_, _, _, _, _, _, _, _, rfl⟩ := hts
    -- targets in closed months are left out
    intro t ht
    simpa using (List.mem_filter.1 ht).2

end

/-! ### Coverage -/

variable (db : Database)

theorem cash_avoids (date : Date) : Avoids zeroQuote (cash db date) := by
  refine (avoids_mapM fun account _ => ?_).bind fun _ _ => avoids_pure _
  refine (avoids_fromOption (by decide)).bind fun _ _ => ?_
  refine (avoids_foldlM (fun _ _ _ => ?_) _).bind fun _ _ => accountBalanceEur_avoids zeroQuote_notMem _ _ _ _
  refine Avoids.bind ?_ fun _ _ => ?_
  · split
    · exact (avoids_fromOption (by decide)).map _
    · exact avoids_ok _
  · split
    · exact (avoids_fromOption (by decide)).map _
    · exact avoids_ok _

/-- **`coverage` never divides by zero.** -/
theorem coverage_avoids (today : Date) (m : Month) (cs : List BudgetCategorySnapshot) :
    Avoids zeroQuote (coverage db today m cs) := by
  unfold coverage
  split
  · split
    · exact avoids_ok _
    · refine (cash_avoids db _).bind fun _ _ => ?_
      refine (avoids_mapM fun _ _ => (avoids_fromOption (by decide)).map _).bind fun _ _ => ?_
      refine (avoids_mapM fun m' _ => ?_).bind fun _ _ => avoids_pure _
      exact (income_avoids zeroQuote_notMem db m' m).bind fun _ _ => avoids_fromOption (by decide)
  · exact avoids_ok _

end BudgetLedger

/-! ## The columns of the ledger -/

namespace LedgerText

def currencyCode : Currency → String
  | .eur => "EUR"
  | .php => "PHP"
  | .usd => "USD"

/-- The row of `budget_plan_income` that an expectation is stored as. -/
def columns (p : PlanIncome) : Plan :=
  ⟨p.amount.format, currencyCode p.currency, p.amountEur.format, p.arrivalDay,
    p.completedMonth.map Month.text⟩

section

variable {p : PlanIncome} (hamount : p.amount.Within 2) (heur : p.amountEur.Within 2)
include hamount heur

theorem columns_inCents : (columns p).InCents where
  native := ⟨p.amount, hamount, rfl⟩
  eur := ⟨p.amountEur, heur, rfl⟩

omit hamount heur in
theorem proportionalDecimalText_format {a n d : Decimal} (ha : a.scale ≤ 10000)
    (hn : n.scale ≤ 10000) (hd : d.scale ≤ 10000) :
    proportionalDecimalText a.format n.format d.format = (proportional a n d).map Decimal.format := by
  rw [proportionalDecimalText, Decimal.parse_format ha, Decimal.parse_format hn,
    Decimal.parse_format hd, proportional]
  change ((a.asRatio.multiply n.asRatio).divide d.asRatio >>= _) = _
  cases (a.asRatio.multiply n.asRatio).divide d.asRatio <;> rfl

/-- **The share that the ledger funds is the same on the columns**: the guard of the text and the guard
of the decimal agree. -/
theorem fundingPortion_columns {native : Decimal} (hnative : native.scale ≤ 10000) :
    fundingPortion native.format (columns p).amount (columns p).amountEur
      = (BudgetLedger.fundingPortion native p.amount p.amountEur).map Decimal.format := by
  change (if p.amount.format = "0" then _ else _) = _
  rw [BudgetLedger.fundingPortion]
  by_cases hzero : p.amount = 0
  · rw [if_pos ((format_eq_zero hamount).2 hzero), if_pos hzero]
    rfl
  · rw [if_neg fun h => hzero ((format_eq_zero hamount).1 h), if_neg hzero]
    exact proportionalDecimalText_format hnative heur.scale_le hamount.scale_le

end

theorem map_currencyCode {o : Option Currency} {c : Currency} :
    o.map currencyCode = some (currencyCode c) ↔ o = some c := by
  have hinj : ∀ a b, currencyCode a = currencyCode b → a = b := by
    intro a b h
    cases a <;> cases b <;> first | rfl | exact absurd h (by decide)
  cases o with
  | none => simp
  | some a => simpa using ⟨hinj a c, fun h => h ▸ rfl⟩

/-- The columns of a salary that the ledger reads. -/
structure Receipt.Stores (t : Receipt) (db : Database) (r : LedgerRow) : Prop where
  amountDecimal : t.amountDecimal = r.amountDecimal.format
  inputCurrency : t.inputCurrency = r.inputCurrency.map currencyCode
  accountCurrency : t.accountCurrency =
    ((r.toAccountId.bind db.accounts.lookup).bind (·.currency)).map currencyCode
  amountNative : t.amountNative = r.toNative.map Decimal.format
  amountEur : t.amountEur = r.toEur.map Decimal.format

/-- **The amount of a salary in the currency of its plan is the same on the columns.** -/
theorem receiptNative_columns {p : PlanIncome} (hamount : p.amount.Within 2)
    (heur : p.amountEur.Within 2) {t : Receipt} {db : Database} {r : LedgerRow}
    (h : t.Stores db r) {actualEur : Decimal} (hactual : actualEur.scale ≤ 10000) :
    receiptNative t actualEur.format (columns p).amount (columns p).currency (columns p).amountEur
      = (BudgetLedger.receiptNative db r actualEur p.amount p.currency p.amountEur).map
          Decimal.format := by
  unfold receiptNative BudgetLedger.receiptNative
  rw [h.inputCurrency, h.accountCurrency, h.amountDecimal, h.amountNative]
  change (if r.inputCurrency.map currencyCode = some (currencyCode p.currency) then _ else
    if Option.map currencyCode _ = some (currencyCode p.currency) then _ else
    if p.amountEur.format = "0" then _ else _) = _
  simp only [map_currencyCode, format_eq_zero heur]
  split
  · rfl
  · split
    · cases r.toNative <;> rfl
    · split
      · rfl
      · exact proportionalDecimalText_format hactual hamount.scale_le heur.scale_le

end LedgerText

/-! ## Every division -/

namespace Server

open Budget BudgetLedger

/-- **Divisions are total.** Stored plans, of a reachable database or of any order of the statements
that write them, guard every division by one of their amounts; a quote that is selected is positive;
and whatever the database, neither a valuation nor `sync`, `receipt`, `income` or `coverage` divides
by zero. -/
theorem divisions_total {today : Date} {db : Database} (h : Reachable today db) :
    (∀ m p, db.planIncome.lookup m = some p → (LedgerText.columns p).Guarded) ∧
    (∀ row, LedgerText.StoredPlan row → row.Guarded) ∧
    (∀ currency asOf observations rate,
      FinanceModel.selectPriorRate currency asOf observations = .ok rate →
      ∃ quote, Decimal.parse rate.quote = .ok quote ∧ 0 < quote) ∧
    (∀ balance currency asOf observations,
      Avoids zeroQuote (LedgerText.accountBalanceEur balance currency asOf observations)) ∧
    (∀ amount inputCurrency fromCurrency toAmount toCurrency asOf observations rounding,
      Avoids zeroQuote (FinanceModel.calculateValuation amount inputCurrency fromCurrency toAmount
        toCurrency asOf observations rounding)) ∧
    ∀ db' : Database,
      (∀ operation, Avoids zeroQuote (sync db' today operation)) ∧
      (∀ id treatment expected, Avoids zeroQuote (receipt db' id treatment expected)) ∧
      (∀ m through, Avoids zeroQuote (income db' m through)) ∧
      (∀ m cs, Avoids zeroQuote (coverage db' today m cs)) ∧
      (∀ balance currency asOf,
        Avoids zeroQuote (accountBalanceEur balance currency asOf db'.exchangeRates)) ∧
      ∀ amount inputCurrency fromCurrency toAmount toCurrency asOf rounding,
        Avoids zeroQuote (calculateValuation amount inputCurrency fromCurrency toAmount toCurrency
          asOf db'.exchangeRates rounding) := by
  refine ⟨fun m p hp => ?_, fun row hrow => hrow.inCents.guarded, fun _ _ _ _ hrate => ?_,
    LedgerText.accountBalanceEur_avoids, FinanceModel.calculateValuation_avoids, fun db' => ?_⟩
  · obtain ⟨hamount, heur⟩ := h.plan_within hp
    exact (LedgerText.columns_inCents hamount heur).guarded
  · obtain ⟨quote, hquote, hpos, _⟩ := FinanceModel.selectPriorRate_ok hrate
    refine ⟨quote, hquote, ?_⟩
    rw [Decimal.lt_iff, Decimal.toRat_zero]
    exact (FinanceModel.coefficient_pos_iff quote).1 hpos
  · exact ⟨fun operation => sync_avoids zeroQuote_notMem db' operation today, receipt_avoids db',
      income_avoids zeroQuote_notMem db',
      coverage_avoids db' today, fun _ _ _ => accountBalanceEur_avoids zeroQuote_notMem _ _ _ _,
      fun _ _ _ _ _ _ _ => calculateValuation_avoids _ _ _ _ _ _ _ _⟩

/-- Nothing is expected in October. -/
theorem divisions_total_nothing :
    ∃ p : PlanIncome, (LedgerText.columns p).amount = "0" ∧ (LedgerText.columns p).Guarded := by
  have hreach := household_reachable 1000 (by decide : Chronological ⟨october, 1⟩ [
    callOn october 1 (.saveExpectedIncome ⟨october, 0, .eur, 7, 10⟩), callOn october 2 .startup])
  have hplan : ((run (household 1000) [
      callOn october 1 (.saveExpectedIncome ⟨october, 0, .eur, 7, 10⟩),
      callOn october 2 .startup]).planIncome.lookup october).any (·.amount = 0) = true := by
    decide +kernel
  obtain ⟨p, hp, hzero⟩ := (Option.any_eq_true _ _).1 hplan
  have hamount : p.amount = 0 := of_decide_eq_true hzero
  refine ⟨p, ?_, (divisions_total hreach).1 october p hp⟩
  change p.amount.format = "0"
  rw [hamount]
  decide +kernel

end Server
