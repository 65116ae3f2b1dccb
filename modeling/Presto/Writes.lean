import Presto.Handlers

/-!
# What every write of a call keeps

The handlers alternate between a few writes and `sync`. What each write keeps under the conditions
that were checked for it, and `sync` keeps, the call keeps (`handle_kept`). Unlike the changes of
`handle_changes`, the writes of an entry end where its receipt is recorded, so they can keep what does
not hold between the row and its receipt.
-/

namespace Server

open Budget BudgetLedger

variable {db₀ db db' : Database} {call : Call} {response : Response} {I : Database → Prop}

/-- The writes of a call on `db₀` keep `I`. -/
structure KeptBy (db₀ : Database) (call : Call) (I : Database → Prop) : Prop where
  budget : ∀ {db : Database} C O P, I db →
    I { db with categories := C, openings := O, periods := P }
  log : ∀ {db : Database} L R, I db → I { db with operations := L, revisions := R }
  sync : ∀ {db db' : Database} {operation : Option OperationId},
    BudgetLedger.sync db call.clock.today operation = .ok db' → I db → I db'
  created : ∀ {p w : WriteRequest} {db db₁ db₂ db' : Database} {r : ResolvedWrite}
    {v : TransactionValuation} {occurredAt : Option Timestamp} {accounts : List AccountUpdate}
    {cs : List BudgetCategorySnapshot}, call.request = .create p → normalize p = .ok w →
    initializeOpenings db₀ = .ok db → db₀.operations.lookup w.operationId = none →
    Created db call.clock w r v occurredAt accounts db₁ db₂ db' cs → I db → I db₂
  edited : ∀ {p payload : EditRequest} {old : Transaction} {db db₁ db₂ db₃ : Database}
    {r : ResolvedWrite} {stored : StoredEndpoints} {valuations : List ValuationRevision}
    {fromNative toNative : Decimal} {occurredAt : Option Timestamp} {accounts : List AccountUpdate}
    {cs : List BudgetCategorySnapshot}, call.request = .edit p →
    normalize p.transaction = .ok payload.transaction → initializeOpenings db₀ = .ok db →
    Edited db call.clock payload old r stored valuations fromNative toNative occurredAt accounts
      db₁ db₂ db₃ cs → I db → I db₂
  deleted : ∀ {payload : DeleteRequest} {old : Transaction} {stored : StoredEndpoints}
    {db db₁ db' : Database} {accounts : List AccountUpdate} {cs : List BudgetCategorySnapshot},
    call.request = .delete payload → initializeOpenings db₀ = .ok db → Deleted db call.clock payload old stored
    accounts db₁ db' cs → I db → I (erased db₁ payload.transactionId)
  reconciled : ∀ {db db' : Database} {payload : ReconciliationRequest} {response : Response},
    payload.date.Valid → reconcileBody db call.clock payload = .ok (db', response) → I db → I db'
  corrected : ∀ {db : Database} operation row, I db → I (Server.corrected db operation row)
  completed : ∀ {db : Database} {m : Month} {p : PlanIncome} current shortfall operation,
    db.planIncome.lookup m = some p → I db →
      I (planSet db m (Server.completed p current shortfall operation))
  closed : ∀ {p : CloseRequest} {batch : OperationId × Nat} {first : Month} {db db₁ db' : Database}
    {cs : List BudgetCategorySnapshot} {cov : Option Coverage}, call.request = .close p →
    initializeOpenings db₀ = .ok db → ClosedBy db call.clock p batch first db₁ cs cov db' → I db₁ →
    I db'
  incomes : ∀ {p : ExpectedIncomeRequest} {db : Database} {s : IncomeSetting}
    {P : Table Month PlanIncome}, call.request = .saveExpectedIncome p → s.amount.isNegative = false →
    Refreshed (incomeSet db p.effectiveStartMonth s) (refreshedMonths db p.effectiveStartMonth) P →
    I db → I { incomeSet db p.effectiveStartMonth s with planIncome := P }
  activated : ∀ {db db' : Database} {cs : List BudgetCategorySnapshot}
    {remaining allocations : List Decimal} {actual eur : Decimal} {e : ExpectedIncome},
    call.request = .startup → Activated db call.clock.today cs remaining allocations actual eur e db' → I db →
      I (Server.activated db call.clock.today.month eur (actual - remaining.sum + e.outstandingEur
        - (e.amountEur - allocations.sum)))

namespace KeptBy

variable (hI : KeptBy db₀ call I)
include hI

theorem opened (hinit : initializeOpenings db = .ok db') (h : I db) : I db' := by
  obtain ⟨O, rfl⟩ := initializeOpenings_frame hinit
  exact hI.budget _ O _ h

theorem recorded (id : OperationId) (actor : Subject) (fingerprint : Fingerprint)
    (response : Response) (h : I db) : I (db.recordOperation id actor fingerprint response) :=
  hI.log _ _ h

/-- A call that runs once keeps what its body keeps. -/
theorem once {id : OperationId} {actor : Subject} {fingerprint : Fingerprint}
    {accepts : Response → Bool} {body : Except ApiError (Database × Response)}
    (ho : Server.once db id actor fingerprint accepts body = .ok (db', response))
    (hbody : ∀ db₁, db.operations.lookup id = none → body = .ok (db₁, response) → I db → I db₁)
    (h : I db) : I db' := by
  rcases once_ok ho with ⟨_, _, _, _, _, rfl, _⟩ | ⟨hnew, db₁, hb, rfl⟩
  · exact h
  · exact hI.recorded _ _ _ _ (hbody db₁ hnew hb h)

end KeptBy

/-- **What the writes of a call keep, the call keeps.** -/
theorem handle_kept (hI : KeptBy db call I) (h : handle db call = .ok (db', response))
    (hsound : Sound call.clock.today db) (hdb : I db) : I db' := by
  obtain ⟨clock, actor, request⟩ := call
  cases request with
  | create payload =>
    simp only [handle, createTransaction, Except.bind_eq_ok, Except.mapError_eq_ok] at h
    obtain ⟨w, hn, db₁, hinit, h⟩ := h
    have hlog : db₁.operations = db.operations := by
      obtain ⟨O, rfl⟩ := initializeOpenings_frame hinit
      rfl
    refine hI.once h (fun db₂ hnew hb hdb₁ => ?_) (hI.opened hinit hdb)
    obtain ⟨r, v, occurredAt, accounts, d₁, d₂, cs, hc, _⟩ := createBody_ok hb
    exact hI.sync hc.synced (hI.created rfl hn hinit (hlog ▸ hnew) hc hdb₁)
  | edit payload =>
    simp only [handle, editTransaction, Except.bind_eq_ok, Except.mapError_eq_ok] at h
    obtain ⟨w, hn, _, _, _, _, db₁, hinit, h⟩ := h
    refine hI.once h (fun db₂ hnew hb hdb₁ => ?_) (hI.opened hinit hdb)
    obtain ⟨old, r, stored, vs, fromNative, toNative, occurredAt, accounts, d₁, d₂, d₃, cs, he, rfl,
      _⟩ := editBody_ok hb
    exact hI.log _ _ (hI.sync he.synced (hI.edited rfl hn hinit he hdb₁))
  | delete payload =>
    simp only [handle, deleteTransaction, Except.bind_eq_ok, Except.mapError_eq_ok] at h
    obtain ⟨_, _, _, _, db₁, hinit, h⟩ := h
    refine hI.once h (fun db₂ hnew hb hdb₁ => ?_) (hI.opened hinit hdb)
    obtain ⟨old, stored, accounts, d₁, cs, hd, _⟩ := deleteBody_ok hb
    have herased := hI.deleted rfl hinit hd.of_normalized hdb₁
    exact hI.sync hd.synced herased
  | reconcile payload =>
    simp only [handle, recordReconciliation, Except.bind_eq_ok, Except.mapError_eq_ok] at h
    obtain ⟨q, hn, db₁, hinit, h⟩ := h
    refine hI.once h (fun db₂ hnew hb hdb₁ => ?_) (hI.opened hinit hdb)
    exact hI.reconciled (normalizeReconciliation_ok hn).1 hb hdb₁
  | correct payload =>
    simp only [handle, recordCorrection, Except.bind_eq_ok, Except.mapError_eq_ok] at h
    obtain ⟨q, hn, db₁, hinit, h⟩ := h
    refine hI.once h (fun db₂ hnew hb hdb₁ => ?_) (hI.opened hinit hdb)
    obtain ⟨original, _, _, _, _, hs, _⟩ := correctionBody_ok hb
    exact hI.sync hs (hI.corrected _ _ hdb₁)
  | complete payload =>
    simp only [handle, completeIncome, Except.bind_eq_ok] at h
    obtain ⟨_, _, h⟩ := h
    refine hI.once h (fun db₂ hnew hb hdb => ?_) hdb
    obtain ⟨db₁, p, e, h1, _, _, hrow, _, _, hs, _⟩ := completeBody_ok hb
    exact hI.sync hs (hI.completed _ _ _ hrow (hI.sync h1 hdb))
  | close payload =>
    simp only [handle, closeMonth, Except.bind_eq_ok, Except.mapError_eq_ok] at h
    obtain ⟨_, _, db₁, hinit, h⟩ := h
    have hsound₁ := (initializeOpenings_changes clock.today hinit).1.sound hsound
    refine hI.once h (fun db₂ hnew hb hdb₁ => ?_) (hI.opened hinit hdb)
    obtain ⟨batch, first, d₁, cs, cov, hclosed, _⟩ := closeBody_ok hb hsound₁
    exact hI.closed rfl hinit hclosed (hI.sync hclosed.synced hdb₁)
  | createCategory payload =>
    obtain ⟨amount, first, c, db₁, db₂, audit, _, h1, _, _, _, _, h2, h3, _⟩ := createCategory_ok h
    obtain ⟨_, rfl⟩ := recordNew_ok h2
    exact hI.sync h3 (hI.recorded _ _ _ _ (hI.budget _ _ _ (hI.sync h1 hdb)))
  | cancelBudget payload =>
    obtain ⟨periods, audit, _, _, _, _, _, rfl⟩ := cancelMonthlyBudget_ok h hsound
    exact hI.recorded _ _ _ _ (hI.budget _ _ _ hdb)
  | saveBudget payload =>
    obtain ⟨O, periods, audit, _, _, _, _, _, _, hs⟩ := saveMonthlyBudget_ok h hsound
    exact hI.sync hs (hI.recorded _ _ _ _ (hI.budget _ _ _ hdb))
  | saveExpectedIncome payload =>
    obtain ⟨setting, audit, P, _, _, hsign, _, _, _, _, hP, hs⟩ := saveExpectedIncome_ok h
    exact hI.sync hs (hI.incomes rfl hsign hP (hI.recorded _ _ _ _ hdb))
  | refresh =>
    simp only [handle, refresh, Except.bind_eq_ok, Except.mapError_eq_ok, Except.pure_eq_ok,
      Prod.mk.injEq] at h
    obtain ⟨db₁, hs, rfl, _⟩ := h
    exact hI.sync hs hdb
  | startup =>
    obtain ⟨db₁, db₂, h1, h2, h3⟩ := startup_ok h
    have hsound₁ := (initializeOpenings_changes clock.today h1).1.sound hsound
    refine hI.sync h3 ?_
    rcases activate_ok h2 hsound₁ with ⟨rfl, _⟩ | ⟨cs, remaining, allocations, actual, eur, e, ha⟩
    · exact hI.opened h1 hdb
    · exact hI.sync ha.synced (hI.activated rfl ha (hI.opened h1 hdb))

end Server
