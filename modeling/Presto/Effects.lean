import Presto.Balanced

/-!
# What a call does to the transaction facts

A successful call either answers from the log, or writes transactions in one of four ways, or leaves
transactions, revisions and accounts alone (`handle_effect`). Apart from the replays it records at
most one operation, under an id that was free.
-/

namespace Server

open Budget BudgetLedger

variable {today : Date} {db db' : Database}

/-- The operation id that a client chooses; the ids of settings are drawn by the server. -/
def Request.operationId : Request → Option OperationId
  | .create p => some p.operationId
  | .edit p => some p.transaction.operationId
  | .delete p => some p.operationId
  | .reconcile p => some p.operationId
  | .correct p => some p.operationId
  | .complete p => some p.operationId
  | .close p => some p.operationId
  | .createCategory _ | .cancelBudget _ | .saveBudget _ | .saveExpectedIncome _ | .refresh
  | .startup => none

/-- The transaction facts are left alone. -/
structure Quiet (db db' : Database) : Prop where
  transactions : db'.transactions = db.transactions
  revisions : db'.revisions = db.revisions
  accounts : db'.accounts = db.accounts

theorem Quiet.trans {db'' : Database} (h : Quiet db db') (h' : Quiet db' db'') : Quiet db db'' :=
  ⟨h'.transactions.trans h.transactions, h'.revisions.trans h.revisions,
    h'.accounts.trans h.accounts⟩

theorem Quiet.of_sync {operation : Option OperationId} (h : sync db today operation = .ok db') :
    Quiet db db' := by
  obtain ⟨P, M, rfl⟩ := sync_frame h
  exact ⟨rfl, rfl, rfl⟩

theorem sync_operations {operation : Option OperationId} (h : sync db today operation = .ok db') :
    db'.operations = db.operations := by
  obtain ⟨P, M, rfl⟩ := sync_frame h
  rfl

/-- The operations that write a transaction row from a request. -/
def writesEntry : Fingerprint → Bool
  | .create _ | .edit _ => true
  | .delete _ | .reconcile _ | .correct _ | .complete _ | .close _ | .audit _ => false

/-- At most one operation is recorded, under a free id, and it wrote no entry. -/
def Logs (db db' : Database) (actor : Subject) (response : Response) : Prop :=
  db'.operations = db.operations ∨
    ∃ id fingerprint, db.operations.lookup id = none ∧ writesEntry fingerprint = false ∧
      db'.operations = (db.recordOperation id actor fingerprint response).operations

/-- The effect of a successful call. -/
inductive Effect (db : Database) (call : Call) (response : Response) : Database → Prop
  | replayed {db' : Database} {id : OperationId} {row : Operation}
      (hid : call.request.operationId = some id) (hrow : db.operations.lookup id = some row)
      (hactor : row.actorSubject = call.actor) (hresponse : row.response = response)
      (hinit : db' = db ∨ initializeOpenings db = .ok db') : Effect db call response db'
  | created {p w : WriteRequest} {db₀ db₁ db₂ db₃ : Database} {r : ResolvedWrite}
      {v : TransactionValuation} {occurredAt : Option Timestamp} {accounts : List AccountUpdate}
      {cs : List BudgetCategorySnapshot} (hrequest : call.request = .create p)
      (hnormal : normalize p = .ok w) (hinit : initializeOpenings db = .ok db₀)
      (hfresh : db.operations.lookup w.operationId = none)
      (h : Created db₀ call.clock w r v occurredAt accounts db₁ db₂ db₃ cs)
      (hresponse : response = .created w.operationId w.transactionId w.kind w.date.month accounts cs) :
      Effect db call response (db₃.recordOperation w.operationId call.actor (.create w) response)
  | edited {p payload : EditRequest} {old : Transaction} {db₀ db₁ db₂ db₃ : Database}
      {r : ResolvedWrite} {stored : StoredEndpoints} {valuations : List ValuationRevision}
      {fromNative toNative : Decimal} {occurredAt : Option Timestamp}
      {accounts : List AccountUpdate} {cs : List BudgetCategorySnapshot}
      (hrequest : call.request = .edit p)
      (hpayload : payload = normalizedEdit p payload.transaction)
      (hnormal : normalize p.transaction = .ok payload.transaction)
      (hinit : initializeOpenings db = .ok db₀)
      (hfresh : db.operations.lookup payload.transaction.operationId = none)
      (h : Edited db₀ call.clock payload old r stored valuations fromNative toNative occurredAt
        accounts db₁ db₂ db₃ cs)
      (hresponse : response = .updated payload.transaction.operationId
        payload.transaction.transactionId (old.revision + 1) accounts cs) :
      Effect db call response ((withRevision db₃ payload.transaction.transactionId
        (old.revision + 1) payload.transaction.operationId).recordOperation
          payload.transaction.operationId call.actor (.edit payload) response)
  | deleted {payload : DeleteRequest} {old : Transaction} {stored : StoredEndpoints}
      {db₀ db₁ db₂ : Database} {accounts : List AccountUpdate} {cs : List BudgetCategorySnapshot}
      (hrequest : call.request = .delete payload) (hinit : initializeOpenings db = .ok db₀)
      (hfresh : db.operations.lookup payload.operationId = none)
      (h : Deleted db₀ call.clock payload old stored accounts db₁ db₂ cs)
      (hresponse : response = .deleted payload.operationId accounts cs
        ⟨payload.transactionId, old.kind, old.effectiveDate, old.amountDecimal, old.inputCurrency,
          stored.fromCategory, stored.toCategory, stored.fromAccount.id, stored.toAccount.id,
          old.revision⟩) :
      Effect db call response
        (db₂.recordOperation payload.operationId call.actor (.delete (normalizedDelete payload))
          response)
  | reconciled {p payload : ReconciliationRequest} {db₀ db₁ : Database}
      {systemAccount : WriteAccount} {systemCategory : CategoryId} {s : ReconciliationState}
      (hrequest : call.request = .reconcile p) (hnormal : normalizeReconciliation p = .ok payload)
      (hinit : initializeOpenings db = .ok db₀)
      (hfresh : db.operations.lookup payload.operationId = none)
      (hopen : db₀.isClosed payload.date.month = false)
      (hreached : payload.date.month ≤ call.clock.today.month)
      (hsystem : loadSystemAccount db₀ .reconciliation = .ok systemAccount)
      (hfold : payload.accounts.foldlM
        (reconcileAccount call.clock payload systemAccount systemCategory) ⟨db₀, [], []⟩ = .ok s)
      (hresult : db₁ = { s.db with
        batches := s.db.batches.insert payload.operationId ⟨payload.date, s.items⟩ })
      (hresponse : response = .reconciled payload.operationId payload.date s.results) :
      Effect db call response
        (db₁.recordOperation payload.operationId call.actor (.reconcile payload) response)
  | quiet {db' : Database} (h : Quiet db db') (hlogs : Logs db db' call.actor response)
      (hdeletion : isDeletion response = false) : Effect db call response db'

/-- Initialising the openings keeps the facts and the log. -/
theorem initializeOpenings_quiet (h : initializeOpenings db = .ok db') :
    Quiet db db' ∧ db'.operations = db.operations := by
  obtain ⟨O, rfl⟩ := initializeOpenings_frame h
  exact ⟨⟨rfl, rfl, rfl⟩, rfl⟩

variable {clock : Clock} {actor : Subject} {response : Response}

/-- What the calls do that write no transaction: the facts stay, and one operation is recorded by the
body or after it. -/
structure Settles (db db' : Database) (actor : Subject) (response : Response) : Prop where
  quiet : Quiet db db'
  logs : Logs db db' actor response
  deletion : isDeletion response = false

theorem createCategory_settles {payload : CreateCategoryRequest}
    (h : createCategory db clock actor payload = .ok (db', response)) :
    Settles db db' actor response := by
  obtain ⟨amount, first, c, db₁, db₂, audit, _, h1, _, _, _, _, hr, h2, rfl, hdel⟩ :=
    createCategory_ok h
  obtain ⟨hnew, rfl⟩ := recordNew_ok hr
  obtain ⟨P, M, rfl⟩ := sync_frame h1
  obtain ⟨P, M, rfl⟩ := sync_frame h2
  exact ⟨⟨rfl, rfl, rfl⟩, .inr ⟨_, _, hnew, rfl, rfl⟩, hdel⟩

theorem cancelMonthlyBudget_settles {payload : MonthlyBudgetRequest}
    (h : cancelMonthlyBudget db clock actor payload = .ok (db', response))
    (hsound : Sound clock.today db) : Settles db db' actor response := by
  obtain ⟨periods, audit, _, _, hnew, rfl, hdel, rfl⟩ := cancelMonthlyBudget_ok h hsound
  exact ⟨⟨rfl, rfl, rfl⟩, .inr ⟨_, _, hnew, rfl, rfl⟩, hdel⟩

theorem saveMonthlyBudget_settles {payload : MonthlyBudgetRequest}
    (h : saveMonthlyBudget db clock actor payload = .ok (db', response))
    (hsound : Sound clock.today db) : Settles db db' actor response := by
  obtain ⟨O, periods, audit, _, _, _, hnew, rfl, hdel, hs⟩ := saveMonthlyBudget_ok h hsound
  obtain ⟨P, M, rfl⟩ := sync_frame hs
  exact ⟨⟨rfl, rfl, rfl⟩, .inr ⟨_, _, hnew, rfl, rfl⟩, hdel⟩

theorem saveExpectedIncome_settles {payload : ExpectedIncomeRequest}
    (h : saveExpectedIncome db clock actor payload = .ok (db', response)) :
    Settles db db' actor response := by
  obtain ⟨setting, audit, P, _, _, _, _, hnew, rfl, hdel, _, hs⟩ := saveExpectedIncome_ok h
  obtain ⟨P, M, rfl⟩ := sync_frame hs
  exact ⟨⟨rfl, rfl, rfl⟩, .inr ⟨_, _, hnew, rfl, rfl⟩, hdel⟩

theorem refresh_settles (h : refresh db clock = .ok (db', response)) (actor : Subject) :
    Settles db db' actor response := by
  simp only [refresh, Except.bind_eq_ok, Except.mapError_eq_ok, Except.pure_eq_ok,
    Prod.mk.injEq] at h
  obtain ⟨db₁, hs, rfl, rfl⟩ := h
  exact ⟨.of_sync hs, .inl (sync_operations hs), rfl⟩

theorem activate_quiet (h : activate db today = .ok db') (hsound : Sound today db) :
    Quiet db db' ∧ db'.operations = db.operations := by
  rcases activate_ok h hsound with ⟨rfl, _⟩ | ⟨cs, remaining, allocations, actual, eur, e, ha⟩
  · exact ⟨⟨rfl, rfl, rfl⟩, rfl⟩
  · obtain ⟨P, M, rfl⟩ := sync_frame ha.synced
    exact ⟨⟨rfl, rfl, rfl⟩, rfl⟩

theorem startup_settles (h : startup db clock = .ok (db', response))
    (hsound : Sound clock.today db) (actor : Subject) : Settles db db' actor response := by
  have hresponse : isDeletion response = false := by
    simp only [startup, Except.bind_eq_ok, Except.pure_eq_ok, Prod.mk.injEq] at h
    obtain ⟨_, _, _, _, _, _, _, rfl⟩ := h
    rfl
  obtain ⟨db₁, db₂, h1, h2, h3⟩ := startup_ok h
  obtain ⟨hq1, ho1⟩ := initializeOpenings_quiet h1
  obtain ⟨hq2, ho2⟩ := activate_quiet h2 ((initializeOpenings_changes clock.today h1).1.sound hsound)
  exact ⟨hq1.trans (hq2.trans (.of_sync h3)), .inl ((sync_operations h3).trans (ho2.trans ho1)),
    hresponse⟩

theorem normalizeReconciliation_operationId {p payload : ReconciliationRequest}
    (h : normalizeReconciliation p = .ok payload) : payload.operationId = p.operationId := by
  simp only [normalizeReconciliation, Except.bind_eq_ok, Except.pure_eq_ok] at h
  obtain ⟨_, _, _, _, _, _, rfl⟩ := h
  rfl

/-- A body that leaves the facts alone, run once. -/
theorem once_settles {db₀ : Database} {id : OperationId} {fingerprint : Fingerprint}
    {accepts : Response → Bool} {body : Except ApiError (Database × Response)} {call : Call}
    (hid : call.request.operationId = some id) (hentry : writesEntry fingerprint = false)
    (hinit : db₀ = db ∨ initializeOpenings db = .ok db₀)
    (h : once db₀ id call.actor fingerprint accepts body = .ok (db', response))
    (hbody : ∀ db₁, body = .ok (db₁, response) →
      Quiet db₀ db₁ ∧ db₁.operations = db₀.operations ∧ isDeletion response = false) :
    Effect db call response db' := by
  have hsame : Quiet db db₀ ∧ db₀.operations = db.operations := by
    rcases hinit with rfl | hinit
    · exact ⟨⟨rfl, rfl, rfl⟩, rfl⟩
    · exact initializeOpenings_quiet hinit
  rcases once_ok h with ⟨row, hrow, hactor, _, _, rfl, hr⟩ | ⟨hnew, db₁, hb, rfl⟩
  · exact .replayed hid (hsame.2 ▸ hrow) hactor hr.symm hinit
  · obtain ⟨⟨h1, h2, h3⟩, ho, hdel⟩ := hbody db₁ hb
    refine .quiet (hsame.1.trans ⟨h1, h2, h3⟩) (.inr ⟨id, fingerprint, hsame.2 ▸ hnew, hentry, ?_⟩) hdel
    simp [Database.recordOperation, ho, hsame.2]

/-- **The effect of a call.** -/
theorem handle_effect {call : Call} (h : handle db call = .ok (db', response))
    (hsound : Sound call.clock.today db) : Effect db call response db' := by
  obtain ⟨clock, actor, request⟩ := call
  cases request with
  | create payload =>
    simp only [handle, createTransaction, Except.bind_eq_ok, Except.mapError_eq_ok] at h
    obtain ⟨w, hn, db₀, hinit, h⟩ := h
    have hsame := (initializeOpenings_quiet hinit).2
    have hid := (normalize_operationId hn).1
    rcases once_ok h with ⟨row, hrow, hactor, _, _, rfl, hr⟩ | ⟨hnew, db₁, hb, rfl⟩
    · exact .replayed (congrArg some hid.symm) (hsame ▸ hrow) hactor hr.symm (.inr hinit)
    · obtain ⟨r, v, occurredAt, accounts, d₁, d₂, cs, hcr, hr⟩ := createBody_ok hb
      exact .created rfl hn hinit (hsame ▸ hnew) hcr hr
  | edit payload =>
    simp only [handle, editTransaction, Except.bind_eq_ok, Except.mapError_eq_ok] at h
    obtain ⟨w, hn, _, _, _, _, db₀, hinit, h⟩ := h
    have hsame := (initializeOpenings_quiet hinit).2
    have hid := (normalize_operationId hn).1
    rcases once_ok h with ⟨row, hrow, hactor, _, _, rfl, hr⟩ | ⟨hnew, db₁, hb, rfl⟩
    · exact .replayed (congrArg some hid.symm) (hsame ▸ hrow) hactor hr.symm (.inr hinit)
    · obtain ⟨old, r, stored, vs, fromNative, toNative, occurredAt, accounts, d₁, d₂, d₃, cs, he,
        rfl, hr⟩ := editBody_ok hb
      exact @Effect.edited _ _ _ payload (normalizedEdit payload w) _ _ _ _ _ _ _ _ _ _ _ _
        _ rfl rfl hn hinit (hsame ▸ hnew) he hr
  | delete payload =>
    simp only [handle, deleteTransaction, Except.bind_eq_ok, Except.mapError_eq_ok] at h
    obtain ⟨_, _, _, _, db₀, hinit, h⟩ := h
    have hsame := (initializeOpenings_quiet hinit).2
    rcases once_ok h with ⟨row, hrow, hactor, _, _, rfl, hr⟩ | ⟨hnew, db₁, hb, rfl⟩
    · exact .replayed rfl (hsame ▸ hrow) hactor hr.symm (.inr hinit)
    · obtain ⟨old, stored, accounts, d₁, cs, hd, hr⟩ := deleteBody_ok hb
      exact @Effect.deleted _ _ _ payload _ _ _ _ _ _ _ rfl hinit (hsame ▸ hnew) hd.of_normalized hr
  | reconcile payload =>
    simp only [handle, recordReconciliation, Except.bind_eq_ok, Except.mapError_eq_ok] at h
    obtain ⟨q, hn, db₀, hinit, h⟩ := h
    have hsame := (initializeOpenings_quiet hinit).2
    have hid := normalizeReconciliation_operationId hn
    rcases once_ok h with ⟨row, hrow, hactor, _, _, rfl, hr⟩ | ⟨hnew, db₁, hb, rfl⟩
    · exact .replayed (congrArg some hid.symm) (hsame ▸ hrow) hactor hr.symm (.inr hinit)
    · obtain ⟨sa, sc, s, hopen, hreached, _, hsys, _, hs, hdb, hr⟩ := reconcileBody_ok hb
      exact .reconciled rfl hn hinit (hsame ▸ hnew) hopen hreached hsys hs hdb hr
  | correct payload =>
    simp only [handle, recordCorrection, Except.bind_eq_ok, Except.mapError_eq_ok] at h
    obtain ⟨q, hn, db₀, hinit, h⟩ := h
    refine once_settles (congrArg some (normalizeCorrection_operationId hn).symm) rfl (.inr hinit) h
      fun db₁ hb => ?_
    obtain ⟨original, _, _, _, _, hs, hr⟩ := correctionBody_ok hb
    obtain ⟨P, M, rfl⟩ := sync_frame hs
    exact ⟨⟨rfl, rfl, rfl⟩, rfl, hr ▸ rfl⟩
  | complete payload =>
    simp only [handle, completeIncome, Except.bind_eq_ok] at h
    obtain ⟨_, _, h⟩ := h
    refine once_settles rfl rfl (.inl rfl) h fun db₁ hb => ?_
    obtain ⟨d₁, p, e, h1, _, _, _, _, _, hs, hr⟩ := completeBody_ok hb
    obtain ⟨P, M, rfl⟩ := sync_frame h1
    obtain ⟨P, M, rfl⟩ := sync_frame hs
    exact ⟨⟨rfl, rfl, rfl⟩, rfl, hr ▸ rfl⟩
  | close payload =>
    simp only [handle, closeMonth, Except.bind_eq_ok, Except.mapError_eq_ok] at h
    obtain ⟨_, _, db₀, hinit, h⟩ := h
    have hsound₀ := (initializeOpenings_changes clock.today hinit).1.sound hsound
    refine once_settles rfl rfl (.inr hinit) h fun db₁ hb => ?_
    obtain ⟨batch, first, d₁, cs, cov, hclosed, hr⟩ := closeBody_ok hb hsound₀
    obtain ⟨P, M, rfl⟩ := sync_frame hclosed.synced
    obtain rfl := hclosed.result
    exact ⟨⟨rfl, rfl, rfl⟩, rfl, hr ▸ rfl⟩
  | createCategory payload =>
    obtain ⟨h1, h2, h3⟩ := createCategory_settles h
    exact .quiet h1 h2 h3
  | cancelBudget payload =>
    obtain ⟨h1, h2, h3⟩ := cancelMonthlyBudget_settles h hsound
    exact .quiet h1 h2 h3
  | saveBudget payload =>
    obtain ⟨h1, h2, h3⟩ := saveMonthlyBudget_settles h hsound
    exact .quiet h1 h2 h3
  | saveExpectedIncome payload =>
    obtain ⟨h1, h2, h3⟩ := saveExpectedIncome_settles h
    exact .quiet h1 h2 h3
  | refresh =>
    obtain ⟨h1, h2, h3⟩ := refresh_settles h actor
    exact .quiet h1 h2 h3
  | startup =>
    obtain ⟨h1, h2, h3⟩ := startup_settles h hsound actor
    exact .quiet h1 h2 h3

end Server
