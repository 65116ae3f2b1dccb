import Presto.UpToDate
import Presto.Writes

/-!
# Expectations are priced

The plan of a month is a setting, valued once. What settings satisfy and a valued setting makes of a
row holds of every expectation (`Reachable.expected`): settings are not negative and in cents, so no
expectation is negative; its amounts are cents, and its EUR amount is that of its native amount on
the first day of its month.
-/

namespace Server

open Budget BudgetLedger

variable {today : Date} {db db' : Database}

/-! ## Rows made of settings -/

/-- What is asked of settings, and of the row of a month at given rates. -/
structure RowRule where
  Setting : IncomeSetting → Prop
  Row : List RateObservation → Month → PlanIncome → Prop

/-- Every setting and every expectation obeys the rule. -/
structure Expected (K : RowRule) (db : Database) : Prop where
  settings : ∀ m s, db.incomeSettings.lookup m = some s → K.Setting s
  plans : ∀ m p, db.planIncome.lookup m = some p → K.Row db.exchangeRates m p

/-- A rule that a valued setting gives to the row, new or not, and that completing the row keeps. -/
structure RowRule.Made (K : RowRule) : Prop where
  default : K.Setting ⟨10000, .usd, 7⟩
  valued : ∀ {s : IncomeSetting} {rates : List RateObservation} {m : Month} {eur : Decimal}
    (p : PlanIncome), K.Setting s →
    accountBalanceEur s.amount s.currency m.firstDate rates = .ok eur →
    K.Row rates m (revalued p s eur)
  completed : ∀ {rates : List RateObservation} {m : Month} {p : PlanIncome} current shortfall
    operation, K.Row rates m p → K.Row rates m (Server.completed p current shortfall operation)

namespace Expected

variable {K : RowRule}

/-- Only settings, expectations and rates count. -/
theorem of_eq (h : Expected K db) (hsettings : db'.incomeSettings = db.incomeSettings)
    (hplans : db'.planIncome = db.planIncome) (hrates : db'.exchangeRates = db.exchangeRates) :
    Expected K db' := by
  refine ⟨fun m s hs => h.settings m s (hsettings ▸ hs), fun m p hp => ?_⟩
  rw [hrates]
  exact h.plans m p (hplans ▸ hp)

theorem insertSetting (h : Expected K db) {m : Month} {s : IncomeSetting} (hs : K.Setting s) :
    Expected K (incomeSet db m s) := by
  refine ⟨fun m' s' hs' => ?_, h.plans⟩
  change AList.lookup m' (db.incomeSettings.insert m s) = _ at hs'
  rw [AList.lookup_insert_of] at hs'
  split at hs'
  · cases hs'
    exact hs
  · exact h.settings m' s' hs'

theorem insertPlan (h : Expected K db) {m : Month} {p : PlanIncome}
    (hp : K.Row db.exchangeRates m p) :
    Expected K { db with planIncome := db.planIncome.insert m p } where
  settings := h.settings
  plans m' q hq := by
    rw [AList.lookup_insert_of] at hq
    split at hq
    · rename_i he
      cases hq
      exact he ▸ hp
    · exact h.plans m' q hq

variable (hK : K.Made)
include hK

/-- The setting in force obeys the rule, and so does the default. -/
theorem setting (h : Expected K db) (m : Month) : K.Setting (incomeSetting db m) := by
  unfold incomeSetting
  split
  · rename_i row hrow
    rcases @effectiveFrom_spec _ m (db.incomeSettings.entries.map fun e => (e.1, e.2)) with
      ⟨b, hb, hmem, _⟩ | ⟨hb, _⟩
    · obtain rfl : row = b := Option.some.inj (hrow.symm.trans hb)
      obtain ⟨e, he, rfl⟩ := List.mem_map.1 hmem
      exact h.settings e.1 e.2 (AList.mem_entries_iff.1 he)
    · rw [hb] at hrow
      cases hrow
  · exact hK.default

theorem newPlan (h : Expected K db) {m : Month} {eur : Decimal} (heur : settingEur db m = .ok eur) :
    K.Row db.exchangeRates m (newPlan (incomeSetting db m) eur) :=
  hK.valued (Server.newPlan (incomeSetting db m) eur) (h.setting hK m) heur

theorem ensureIncome (h : Expected K db) {m : Month}
    (he : BudgetLedger.ensureIncome db m = .ok db') : Expected K db' := by
  obtain ⟨P, rfl, _, _, hP⟩ := ensureIncome_ok he
  refine ⟨h.settings, fun m' p hp => ?_⟩
  rcases hP m' p hp with hold | ⟨rfl, eur, heur, rfl⟩
  · exact h.plans m' p hold
  · exact h.newPlan hK heur

/-- `sync` adds expectations at the settings in force, and changes no other. -/
theorem sync (h : Expected K db) {operation : Option OperationId}
    (hs : sync db today operation = .ok db') : Expected K db' :=
  sync_kept (fun _ _ _ he h => h.ensureIncome hK he) (fun _ _ h => h.of_eq rfl rfl rfl) hs h

theorem receipt (h : Expected K db) {id : TransactionId} {treatment : Option Treatment}
    {expected : Option Month} (hr : ReceiptWritten db id treatment expected db') :
    Expected K db' := by
  cases hr with
  | salary _ _ _ _ _ _ _ hensure _ _ => exact (h.ensureIncome hK hensure).of_eq rfl rfl rfl
  | _ => exact h.of_eq rfl rfl rfl

/-- Refreshed expectations have the setting in force; the others are kept. -/
theorem refreshed (h : Expected K db) {ms : List Month} {P : Table Month PlanIncome}
    (hms : ∀ m ∈ ms, (db.planIncome.lookup m).isSome = true) (hr : Refreshed db ms P) :
    Expected K { db with planIncome := P } where
  settings := h.settings
  plans m p hp := by
    by_cases hm : m ∈ ms
    · obtain ⟨q, hq⟩ := Option.isSome_iff_exists.1 (hms m hm)
      obtain ⟨eur, heur, hrow⟩ := hr.refreshed m hm q hq
      obtain rfl : p = _ := Option.some.inj (hp.symm.trans hrow)
      exact hK.valued q (h.setting hK m) heur
    · rw [show P.lookup m = _ from hr.others m hm] at hp
      exact h.plans m p hp

/-- A new setting, and the open expectations from its month on. -/
theorem saved (h : Expected K db) {start : Month} {s : IncomeSetting} {P : Table Month PlanIncome}
    (hs : K.Setting s) (hP : Refreshed (incomeSet db start s) (refreshedMonths db start) P) :
    Expected K { incomeSet db start s with planIncome := P } := by
  refine (h.insertSetting hs).refreshed hK (fun m hm => ?_) hP
  obtain ⟨p, hrow, _⟩ := mem_refreshedMonths.1 hm
  exact Option.isSome_iff_exists.2 ⟨p, hrow⟩

/-- The writes of a call keep a rule that the setting it saves obeys. -/
theorem keptBy (db₀ : Database) (call : Call)
    (hset : ∀ p s, call.request = .saveExpectedIncome p → s.amount.isNegative = false →
      K.Setting s) : KeptBy db₀ call (Expected K) where
  budget _ _ _ h := h.of_eq rfl rfl rfl
  log _ _ h := h.of_eq rfl rfl rfl
  sync hs h := h.sync hK hs
  created _ _ _ _ hc h := by
    obtain ⟨_, A, hA⟩ := postDeltas_changes hc.posted
    exact (h.of_eq (by rw [hA]; rfl) (by rw [hA]; rfl) (by rw [hA]; rfl)).receipt hK hc.receipt
  edited _ _ _ he h := by
    obtain ⟨_, A, hA⟩ := postDeltas_changes he.posted
    exact (h.of_eq (by rw [hA]) (by rw [hA]) (by rw [hA])).receipt hK he.receipt
  deleted _ _ hd h := by
    obtain ⟨_, A, hA⟩ := postDeltas_changes hd.posted
    exact h.of_eq (by rw [hA]; rfl) (by rw [hA]; rfl) (by rw [hA]; rfl)
  reconciled hdate hb h := by
    obtain ⟨T, R, A, B, hdb⟩ := reconcileBody_frame hb hdate
    exact h.of_eq (by rw [hdb]) (by rw [hdb]) (by rw [hdb])
  corrected _ _ h := h.of_eq rfl rfl rfl
  completed _ _ _ hp h := h.insertPlan (hK.completed _ _ _ (h.plans _ _ hp))
  closed _ _ hclosed h := by
    have hdb := hclosed.result
    exact h.of_eq (by rw [hdb]; rfl) (by rw [hdb]; rfl) (by rw [hdb]; rfl)
  incomes hrequest hsign hP h := h.saved hK (hset _ _ hrequest hsign) hP
  activated _ ha h := (h.insertPlan (h.newPlan hK ha.valued)).of_eq rfl rfl rfl

/-- A call keeps a rule that cents that are not negative obey. -/
theorem handle (h : Expected K db) {call : Call} {response : Response}
    (hset : ∀ s : IncomeSetting, s.amount.Within 2 → s.amount.isNegative = false → K.Setting s)
    (hh : handle db call = .ok (db', response)) (hsound : Sound call.clock.today db) :
    Expected K db' := by
  by_cases hsave : ∃ p, call.request = .saveExpectedIncome p
  · obtain ⟨p, hp⟩ := hsave
    simp only [Server.handle, hp] at hh
    obtain ⟨s, audit, P, _, hwithin, hsign, _, _, _, _, hP, hs⟩ := saveExpectedIncome_ok hh
    have hlogged : Expected K (db.recordOperation p.operationId call.actor (.audit audit) audit) :=
      h.of_eq rfl rfl rfl
    exact (hlogged.saved hK (hset s hwithin hsign) hP).sync hK hs
  · exact handle_kept (keptBy hK db call fun p _ hp _ => absurd ⟨p, hp⟩ hsave) hh hsound h

end Expected

/-- **A rule of settings and their rows holds in every reachable database.** -/
theorem Reachable.expected {K : RowRule} (hK : K.Made)
    (hset : ∀ s : IncomeSetting, s.amount.Within 2 → s.amount.isNegative = false → K.Setting s)
    (h : Reachable today db) : Expected K db := by
  obtain ⟨d₀, db₀, himp, hrun⟩ := h
  have start : Expected K db₀ := ⟨by simp [himp.incomeSettings], by simp [himp.planIncome]⟩
  have key := hrun.induct (I := fun d db => Sound d db ∧ Expected K db) ⟨himp.sound, start⟩
    fun _ db₁ call _ hv hle _ hs => by
      have hl := hs.1.later hv hle
      refine ⟨(step_changes call hl).sound hl, ?_⟩
      unfold Server.step
      split
      · rename_i db₂ response hh
        exact hs.2.handle hK hset hh hl
      · exact hs.2
  exact key.2

/-! ## Prices -/

/-- An expectation that is not negative and has the EUR value of its amount. -/
def PricedRow (db : Database) (m : Month) (p : PlanIncome) : Prop :=
  0 ≤ p.amount ∧ accountBalanceEur p.amount p.currency m.firstDate db.exchangeRates = .ok p.amountEur

structure Priced (db : Database) : Prop where
  settings : ∀ m s, db.incomeSettings.lookup m = some s → 0 ≤ s.amount
  plans : ∀ m p, db.planIncome.lookup m = some p → PricedRow db m p

/-- The rule behind `Priced`. -/
def pricedRule : RowRule where
  Setting s := 0 ≤ s.amount
  Row rates m p :=
    0 ≤ p.amount ∧ accountBalanceEur p.amount p.currency m.firstDate rates = .ok p.amountEur

theorem pricedRule_made : pricedRule.Made where
  default := by
    change (0 : Decimal) ≤ 10000
    decide +kernel
  valued _ hs heur := ⟨hs, heur⟩
  completed _ _ _ h := h

/-- **Expectations are priced in every reachable database.** -/
theorem Reachable.priced (h : Reachable today db) : Priced db := by
  have hexpected := h.expected pricedRule_made fun s _ hsign => by
    change 0 ≤ s.amount
    rw [← not_lt, ← Decimal.isNegative_iff, hsign]
    decide
  exact ⟨hexpected.settings, hexpected.plans⟩

/-! ## Cents -/

/-- Settings are cents, and so are both amounts of an expectation. -/
def centsRule : RowRule where
  Setting s := s.amount.Within 2
  Row _ _ p := p.amount.Within 2 ∧ p.amountEur.Within 2

theorem centsRule_made : centsRule.Made where
  default := by
    change (10000 : Decimal).Within 2
    decide
  valued _ hs heur := ⟨hs, accountBalanceEur_within heur⟩
  completed _ _ _ h := h

/-- **The amounts of expectations are cents in every reachable database.** -/
theorem Reachable.plan_within (h : Reachable today db) {m : Month} {p : PlanIncome}
    (hp : db.planIncome.lookup m = some p) : p.amount.Within 2 ∧ p.amountEur.Within 2 :=
  (h.expected centsRule_made fun _ hwithin _ => hwithin).plans m p hp

end Server
