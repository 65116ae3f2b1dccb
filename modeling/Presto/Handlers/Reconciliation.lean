import Presto.Handlers.Transactions

/-!
# The reconciliation handler, taken apart

One account is reconciled by one change: the row of its adjustment and its balance.
-/

namespace Server

open Budget BudgetLedger

variable {today : Date} {db db' : Database}

/-- The adjustment that reconciles a balance: what it explains, rounded to cents. -/
def adjustmentOf (balance prior target : Decimal) : Decimal :=
  (balance + prior - target).roundPosted

/-- The database after one account is reconciled. -/
def adjusted (db : Database) (id : TransactionId) (row : Transaction) (operation : OperationId)
    (accountId : AccountId) (account : Account) (target : Decimal) : Database :=
  let newAccount := { account with
    currentNativeBalance := some target, ledgerRevision := account.ledgerRevision + 1 }
  { db with
    transactions := db.transactions.insert id row
    revisions := ⟨id, row.revision, some operation⟩ :: db.revisions
    accounts := db.accounts.insert accountId newAccount }

/-- The item that records a reconciled account. -/
def recordedItem (payload : ReconciliationRequest) (requested : ReconciliationAccount)
    (account : Account) (id : TransactionId) (activity : Activity) (adjustment : Decimal) :
    ReconciliationItem where
  accountId := requested.accountId
  transactionId := id
  closingBalance := requested.actualBalance - activity.throughObservation
  varianceNative := adjustment
  accountRevision := account.ledgerRevision + 1
  observedNativeBalance := payload.observedAt.map fun _ => requested.actualBalance
  postMonthActivity := activity.throughObservation
  includedTransactions := activity.transactions

/-- The steps of reconciling one account. -/
structure Reconciled (db : Database) (payload : ReconciliationRequest) (systemAccount : WriteAccount)
    (systemCategory : CategoryId) (requested : ReconciliationAccount) (account : Account)
    (balance : Decimal) (existing : Option (TransactionId × Transaction)) (id : TransactionId)
    (activity : Activity) (v : TransactionValuation) (row : Transaction) (db' : Database) :
    Prop where
  loaded : db.accounts.lookup requested.accountId = some account
  real : account.isReal = true
  active : account.isActive = true
  balanced : account.currentNativeBalance = some balance
  current : account.ledgerRevision = requested.expectedRevision
  found : existingAdjustment db requested.accountId payload.date = .ok existing
  placed : adjustmentId db requested.transactionId existing = .ok id
  observed : requestedActivity db payload requested.accountId = .ok activity
  valued : calculateValuation (adjustmentOf balance ((existing.map (·.2.amountDecimal)).getD 0)
      (requested.actualBalance + activity.afterObservation)) (account.currency.getD .eur)
    (account.currency.getD .eur) 0 systemAccount.currency payload.date db.exchangeRates
    postingRoundingMode = .ok v
  written : row = adjustmentRow payload (writeAccount requested.accountId account) systemAccount.id
    systemCategory (existing.map (·.2)) (adjustmentOf balance
      ((existing.map (·.2.amountDecimal)).getD 0)
      (requested.actualBalance + activity.afterObservation)) v
  result : db' = adjusted db id row payload.operationId requested.accountId account
    (requested.actualBalance + activity.afterObservation)

theorem reconcileAccount_ok {clock : Clock} {payload : ReconciliationRequest}
    {systemAccount : WriteAccount} {systemCategory : CategoryId} {s s' : ReconciliationState}
    {requested : ReconciliationAccount}
    (h : reconcileAccount clock payload systemAccount systemCategory s requested = .ok s') :
    ∃ account balance existing id activity v row,
      Reconciled s.db payload systemAccount systemCategory requested account balance existing id
        activity v row s'.db ∧
      s'.items = s.items ++ [recordedItem payload requested account id activity (adjustmentOf balance
        ((existing.map (·.2.amountDecimal)).getD 0)
        (requested.actualBalance + activity.afterObservation))] := by
  simp only [reconcileAccount, Except.bind_eq_ok, Except.ensure_eq_ok, Except.fromOption_eq_ok,
    Except.mapError_eq_ok, Except.pure_eq_ok] at h
  obtain ⟨a, ha, _, ⟨hreal, hactive⟩, stored, hst, balance, hb, _, hrev, existing, hex, id, hid,
    activity, hact, v, hv, _, _, rfl⟩ := h
  obtain ⟨account, hacc, rfl⟩ := loadAccount_ok ha
  obtain rfl : account = stored := Option.some.inj (hacc.symm.trans hst)
  exact ⟨account, balance, existing, id, activity, v, _,
    ⟨hacc, hreal, hactive, hb, hrev, hex, hid, hact, hv, rfl, rfl⟩, rfl⟩

theorem existingAdjustment_none {accountId : AccountId} {date : Date}
    (h : existingAdjustment db accountId date = .ok none) :
    existingAdjustments db accountId date = [] := by
  unfold existingAdjustment at h
  split at h
  · assumption
  · cases h
  · cases h

theorem existingAdjustment_some {accountId : AccountId} {date : Date}
    {e : TransactionId × Transaction}
    (h : existingAdjustment db accountId date = .ok (some e)) :
    existingAdjustments db accountId date = [e] := by
  unfold existingAdjustment at h
  split at h
  · cases h
  · cases h
    assumption
  · cases h

theorem existingAdjustment_mem {accountId : AccountId} {date : Date}
    {e : TransactionId × Transaction}
    (h : existingAdjustment db accountId date = .ok (some e)) :
    e ∈ existingAdjustments db accountId date := by
  rw [existingAdjustment_some h]
  exact List.mem_cons_self

theorem existingAdjustment_ok {accountId : AccountId} {date : Date}
    {e : TransactionId × Transaction}
    (h : existingAdjustment db accountId date = .ok (some e)) :
    db.transactions.lookup e.1 = some e.2 ∧ e.2.kind = .reconciliation ∧ e.2.effectiveDate = date ∧
      e.2.fromAccountId = some accountId ∧
      (e.2.toAccountId.bind db.accounts.lookup).any
        (fun a => a.sourceName.folded = .reconciliation) := by
  obtain ⟨⟨id, t⟩, hrow, rfl⟩ := List.mem_map.1 (existingAdjustment_mem h)
  obtain ⟨hrow, hp⟩ := List.mem_filter.1 hrow
  obtain ⟨h1, h2, h3, h4, _⟩ := of_decide_eq_true hp
  exact ⟨AList.mem_entries_iff.1 hrow, h1, h2, h3, h4⟩

theorem adjustmentId_ok {requested id : TransactionId}
    {existing : Option (TransactionId × Transaction)}
    (h : adjustmentId db requested existing = .ok id) :
    (∃ e, existing = some e ∧ id = e.1) ∨
      (existing = none ∧ id = requested ∧ db.transactions.lookup id = none) := by
  unfold adjustmentId at h
  cases existing with
  | some e =>
    simp only [Except.bind_eq_ok, Except.pure_eq_ok] at h
    obtain ⟨_, _, rfl⟩ := h
    exact .inl ⟨e, rfl, rfl⟩
  | none =>
    simp only [Except.bind_eq_ok, Except.ensure_eq_ok, Except.pure_eq_ok,
      Option.isNone_iff_eq_none] at h
    obtain ⟨_, hn, rfl⟩ := h
    exact .inr ⟨rfl, rfl, hn⟩

/-- The adjustment row is a reconciliation of the requested date. -/
theorem Reconciled.row_facts {payload : ReconciliationRequest} {systemAccount : WriteAccount}
    {systemCategory : CategoryId} {requested : ReconciliationAccount} {account : Account}
    {balance : Decimal} {existing : Option (TransactionId × Transaction)} {id : TransactionId}
    {activity : Activity} {v : TransactionValuation} {row : Transaction}
    (h : Reconciled db payload systemAccount systemCategory requested account balance existing id
      activity v row db') :
    row.kind = .reconciliation ∧ row.effectiveDate = payload.date ∧
      ∀ e, existing = some e → row.canonicalLive = e.2.canonicalLive := by
  rw [h.written]
  cases existing with
  | none => exact ⟨rfl, rfl, by simp⟩
  | some e =>
    obtain ⟨_, hk, hd, _⟩ := existingAdjustment_ok h.found
    exact ⟨hk, hd, fun e' he' => by cases he'; rfl⟩

/-- A reconciled account is one change: its adjustment row and its balance. -/
theorem Reconciled.change {payload : ReconciliationRequest} {systemAccount : WriteAccount}
    {systemCategory : CategoryId} {requested : ReconciliationAccount} {account : Account}
    {balance : Decimal} {existing : Option (TransactionId × Transaction)} {id : TransactionId}
    {activity : Activity} {v : TransactionValuation} {row : Transaction}
    (h : Reconciled db payload systemAccount systemCategory requested account balance existing id
      activity v row db')
    (hdate : payload.date.Valid) (hreached : payload.date.month ≤ today.month)
    (hopen : db.isClosed payload.date.month = false) : Change today db db' := by
  obtain ⟨hkind, hrowDate, hlive⟩ := h.row_facts
  have hmonth : row.month = payload.date.month := congrArg Date.month hrowDate
  rw [h.result]
  rcases adjustmentId_ok h.placed with ⟨e, hex, rfl⟩ | ⟨_, rfl, hnone⟩
  · obtain ⟨hl, hk, hd, _⟩ := existingAdjustment_ok (hex ▸ h.found)
    exact .adjust requested.accountId _ payload.operationId hl hkind
      (fun o ho => by cases ho; exact ⟨hk, hd.trans hrowDate.symm, (hlive e hex).symm⟩)
      (hrowDate ▸ hdate) (hmonth ▸ hreached) (hmonth ▸ hopen) h.loaded h.real h.active
  · exact .adjust requested.accountId _ payload.operationId hnone hkind (by simp)
      (hrowDate ▸ hdate) (hmonth ▸ hreached) (hmonth ▸ hopen) h.loaded h.real h.active

theorem reconcileBody_ok {clock : Clock} {payload : ReconciliationRequest} {response : Response}
    (h : reconcileBody db clock payload = .ok (db', response)) :
    ∃ systemAccount systemCategory s,
      db.isClosed payload.date.month = false ∧ payload.date.month ≤ clock.today.month ∧
      db.batches.lookup payload.operationId = none ∧
      loadSystemAccount db .reconciliation = .ok systemAccount ∧
      loadSystemCategory db .reconciliation = .ok systemCategory ∧
      payload.accounts.foldlM (reconcileAccount clock payload systemAccount systemCategory)
        ⟨db, [], []⟩ = .ok s ∧
      db' = { s.db with
        batches := s.db.batches.insert payload.operationId ⟨payload.date, s.items⟩ } ∧
      response = .reconciled payload.operationId payload.date s.results := by
  simp only [reconcileBody, Except.bind_eq_ok, Except.ensure_eq_ok, Except.pure_eq_ok, not_or,
    not_lt, Prod.mk.injEq] at h
  obtain ⟨_, ⟨h1, h2⟩, _, _, _, h3, sa, hsa, sc, hsc, s, hs, rfl, rfl⟩ := h
  exact ⟨sa, sc, s, by simpa using h1, h2, by simpa using h3, hsa, hsc, hs, rfl, rfl⟩

theorem normalizeReconciliation_ok {p payload : ReconciliationRequest}
    (h : normalizeReconciliation p = .ok payload) :
    payload.date.Valid ∧ ∀ a ∈ payload.accounts, a.actualBalance.Within 2 := by
  simp only [normalizeReconciliation, Except.bind_eq_ok, Except.ensure_eq_ok,
    Except.pure_eq_ok] at h
  obtain ⟨_, hd, _, _, _, _, rfl⟩ := h
  refine ⟨hd, fun a ha => ?_⟩
  obtain ⟨x, _, rfl⟩ := List.mem_map.1 ((List.mem_insertionSort _).1 ha)
  exact Decimal.within_roundPosted _

/-- The tables a reconciliation loop writes. -/
theorem reconcileAccounts_changes {clock : Clock} {payload : ReconciliationRequest}
    {systemAccount : WriteAccount} {systemCategory : CategoryId} {s : ReconciliationState}
    {requests : List ReconciliationAccount} (hdate : payload.date.Valid)
    (hreached : payload.date.month ≤ clock.today.month)
    (hopen : db.isClosed payload.date.month = false)
    (h : requests.foldlM (reconcileAccount clock payload systemAccount systemCategory)
      ⟨db, [], []⟩ = .ok s) :
    Changes clock.today db s.db ∧
      ∃ T R A, s.db = { db with transactions := T, revisions := R, accounts := A } := by
  refine Except.foldlM_induction
    (fun s : ReconciliationState => Changes clock.today db s.db ∧
      ∃ T R A, s.db = { db with transactions := T, revisions := R, accounts := A })
    h ⟨.refl, _, _, _, rfl⟩ fun requested _ s s' hs hstep => ?_
  obtain ⟨hc, T, R, A, hdb⟩ := hs
  obtain ⟨account, balance, existing, id, activity, v, row, hrec, _⟩ := reconcileAccount_ok hstep
  have hopen' : s.db.isClosed payload.date.month = false := by rw [hdb]; exact hopen
  refine ⟨hc.tail (hrec.change hdate hreached hopen'), ?_⟩
  rw [hrec.result, hdb]
  exact ⟨_, _, _, rfl⟩

theorem reconcileBody_changes {clock : Clock} {p payload : ReconciliationRequest}
    {response : Response} (hn : normalizeReconciliation p = .ok payload)
    (h : reconcileBody db clock payload = .ok (db', response)) : Changes clock.today db db' := by
  obtain ⟨sa, sc, s, hopen, hreached, hnew, _, _, hs, rfl, _⟩ := reconcileBody_ok h
  obtain ⟨hc, T, R, A, hdb⟩ :=
    reconcileAccounts_changes (normalizeReconciliation_ok hn).1 hreached hopen hs
  refine hc.tail (.addBatch payload.operationId _ ?_)
  rw [hdb]
  exact hnew

end Server
