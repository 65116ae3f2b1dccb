import Presto.Handlers.Months

/-!
# Every call is a sequence of changes

`handle_changes` takes a call apart into changes; what every change keeps or preserves therefore
holds along every run (`RunWhere.toExtends`, `Reachable.sound`). A call that does something new ends
with `sync`, but for reconciliations and cancelled budgets (`handle_worked`).
-/

namespace Server

open Budget BudgetLedger

variable {today : Date} {db db' : Database}

/-! ## Frames -/

theorem ReceiptWritten.frame {id : TransactionId} {treatment : Option Treatment}
    {expected : Option Month} (h : ReceiptWritten db id treatment expected db') :
    ∃ P R, db' = { db with planIncome := P, receipts := R } := by
  cases h with
  | inactive _ => exact ⟨_, _, rfl⟩
  | dropped _ _ _ _ _ _ => exact ⟨_, _, rfl⟩
  | none _ _ _ _ _ => exact ⟨_, _, rfl⟩
  | kept _ _ _ _ _ => exact ⟨_, _, rfl⟩
  | salary _ _ _ _ _ _ _ hensure _ _ =>
    obtain ⟨P, rfl, _, _, _⟩ := ensureIncome_ok hensure
    exact ⟨_, _, rfl⟩
  | other _ _ _ _ _ _ => exact ⟨_, _, rfl⟩

theorem initializeOpenings_frame (h : initializeOpenings db = .ok db') :
    ∃ O, db' = { db with openings := O } :=
  (initializeOpenings_changes ⟨⟨0⟩, 0⟩ h).2

/-- What a call may add after its last `sync`. -/
def Trails (db db' : Database) : Prop :=
  ∃ O R S C V, db' = { db with
    operations := O, revisions := R, snapshots := S, closures := C, coverageClosures := V }

theorem Trails.refl (db : Database) : Trails db db := ⟨_, _, _, _, _, rfl⟩

theorem Trails.record (h : Trails db db') (id : OperationId) (actor : Subject)
    (fingerprint : Fingerprint) (response : Response) :
    Trails db (db'.recordOperation id actor fingerprint response) := by
  obtain ⟨O, R, S, C, V, rfl⟩ := h
  exact ⟨_, _, _, _, _, rfl⟩

/-! ## Replays -/

/-- A call under an operation id either replays or does its work and records it. -/
theorem once_ok {id : OperationId} {actor : Subject} {fingerprint : Fingerprint}
    {accepts : Response → Bool} {body : Except ApiError (Database × Response)} {response : Response}
    (h : once db id actor fingerprint accepts body = .ok (db', response)) :
    (∃ row, db.operations.lookup id = some row ∧ row.actorSubject = actor ∧
      row.fingerprint = fingerprint ∧ accepts row.response = true ∧ db' = db ∧
      response = row.response) ∨
    (db.operations.lookup id = none ∧ ∃ db₁, body = .ok (db₁, response) ∧
      db' = db₁.recordOperation id actor fingerprint response) := by
  unfold once at h
  cases hl : db.operations.lookup id with
  | some row =>
    simp only [hl] at h
    split at h
    · rename_i hm
      simp only [Except.ok.injEq, Prod.mk.injEq] at h
      obtain ⟨rfl, rfl⟩ := h
      exact .inl ⟨row, rfl, hm.1, hm.2.1, hm.2.2, rfl, rfl⟩
    · cases h
  | none =>
    simp only [hl, Except.bind_eq_ok, Except.pure_eq_ok, Prod.exists, Prod.mk.injEq] at h
    obtain ⟨db₁, response', hb, rfl, rfl⟩ := h
    exact .inr ⟨rfl, db₁, hb, rfl⟩

/-- A call that does not replay: some work, a last `sync`, and what is recorded after it. -/
structure Worked (today : Date) (db db' : Database) : Prop where
  changes : Changes today db db'
  synced : ∃ db₁ db₂ operation, Changes today db db₁ ∧ sync db₁ today operation = .ok db₂ ∧
    Changes today db₂ db' ∧ Trails db₂ db'

theorem Worked.of_sync {operation : Option OperationId} {db₁ : Database}
    (hc : Changes today db db₁) (hs : sync db₁ today operation = .ok db') (hsound : Sound today db) :
    Worked today db db' :=
  ⟨hc.trans (sync_changes hs (hc.sound hsound)), db₁, db', operation, hc, hs, .refl, .refl _⟩

theorem Worked.trail {db₁ : Database} (h : Worked today db db₁) (hc : Changes today db₁ db')
    (ht : Trails db₁ db') : Worked today db db' := by
  obtain ⟨h1, x, y, op, h2, h3, hc₁, h4⟩ := h
  refine ⟨h1.trans hc, x, y, op, h2, h3, hc₁.trans hc, ?_⟩
  obtain ⟨O, R, S, C, V, rfl⟩ := h4
  obtain ⟨O, R, S, C, V, rfl⟩ := ht
  exact ⟨_, _, _, _, _, rfl⟩

theorem Worked.record {id : OperationId} (h : Worked today db db')
    (hnew : db'.operations.lookup id = none) (actor : Subject) (fingerprint : Fingerprint)
    (response : Response) : Worked today db (db'.recordOperation id actor fingerprint response) :=
  h.trail (.single (.record actor fingerprint response hnew)) ((Trails.refl _).record _ _ _ _)

theorem Worked.after {db₁ : Database} (hc : Changes today db db₁) (h : Worked today db₁ db') :
    Worked today db db' := by
  obtain ⟨h1, x, y, op, h2, h3, h4⟩ := h
  exact ⟨hc.trans h1, x, y, op, hc.trans h2, h3, h4⟩

/-! ## The bodies -/

variable {clock : Clock} {response : Response}

theorem createBody_worked {p w : WriteRequest} (hn : normalize p = .ok w)
    (h : createBody db clock w = .ok (db', response)) (hsound : Sound clock.today db) :
    Worked clock.today db db' ∧ db'.operations = db.operations := by
  obtain ⟨r, v, occurredAt, accounts, db₁, db₂, cs, hcr, _⟩ := createBody_ok h
  obtain ⟨hc, _⟩ := hcr.changes hn hsound
  refine ⟨.of_sync hc hcr.synced hsound, ?_⟩
  obtain ⟨P, M, rfl⟩ := sync_frame hcr.synced
  obtain ⟨P, R, rfl⟩ := hcr.receipt.frame
  obtain ⟨_, A, rfl⟩ := postDeltas_changes hcr.posted
  rfl

theorem editBody_worked {p : WriteRequest} {payload : EditRequest}
    (hn : normalize p = .ok payload.transaction)
    (h : editBody db clock payload = .ok (db', response)) (hsound : Sound clock.today db) :
    Worked clock.today db db' ∧ db'.operations = db.operations := by
  obtain ⟨old, r, stored, vs, fromNative, toNative, occurredAt, accounts, db₁, db₂, db₃, cs, he, rfl,
    _⟩ := editBody_ok h
  obtain ⟨hc, _⟩ := he.changes hn hsound
  refine ⟨(Worked.of_sync hc he.synced hsound).trail (.single (.addRevision _ _ _))
    ⟨_, _, _, _, _, rfl⟩, ?_⟩
  obtain ⟨P, M, rfl⟩ := sync_frame he.synced
  obtain ⟨P, R, rfl⟩ := he.receipt.frame
  obtain ⟨_, A, rfl⟩ := postDeltas_changes he.posted
  rfl

theorem deleteBody_worked {payload : DeleteRequest}
    (h : deleteBody db clock payload = .ok (db', response)) (hsound : Sound clock.today db) :
    Worked clock.today db db' ∧ db'.operations = db.operations := by
  obtain ⟨old, stored, accounts, db₁, cs, hd, _⟩ := deleteBody_ok h
  obtain ⟨hc, _⟩ := hd.changes hsound
  refine ⟨.of_sync hc hd.synced hsound, ?_⟩
  obtain ⟨P, M, rfl⟩ := sync_frame hd.synced
  obtain ⟨_, A, rfl⟩ := postDeltas_changes hd.posted
  rfl

theorem correctionBody_worked {p payload : CorrectionRequest}
    (hn : normalizeCorrection p = .ok payload)
    (h : correctionBody db clock payload = .ok (db', response)) (hsound : Sound clock.today db) :
    Worked clock.today db db' ∧ db'.operations = db.operations := by
  obtain ⟨original, _, hopen, hreal, hnew, hs, _⟩ := correctionBody_ok h
  let row : CategoryCorrection :=
    ⟨payload.originalTransactionId, clock.today.month, payload.categoryDeltas⟩
  have hc : Changes clock.today db (corrected db payload.operationId row) :=
    .single (.addCorrection payload.operationId row hnew rfl hopen hreal (normalizeCorrection_ok hn).1)
  refine ⟨.of_sync hc hs hsound, ?_⟩
  obtain ⟨P, M, rfl⟩ := sync_frame hs
  rfl

theorem completeBody_worked {payload : CompleteIncomeRequest}
    (h : completeBody db clock payload = .ok (db', response)) (hsound : Sound clock.today db) :
    Worked clock.today db db' ∧ db'.operations = db.operations := by
  obtain ⟨db₁, p, e, h1, hopen, hle, hp, hpc, hinc, hs, _⟩ := completeBody_ok h
  have hc : Changes clock.today db (planSet db₁ payload.expectedMonth _) :=
    (sync_changes h1 hsound).tail (.completePlan payload.operationId hp hpc hle hopen hinc)
  refine ⟨.of_sync hc hs hsound, ?_⟩
  obtain ⟨P, M, rfl⟩ := sync_frame h1
  obtain ⟨P, M, rfl⟩ := sync_frame hs
  rfl

theorem closeBody_worked {payload : CloseRequest}
    (h : closeBody db clock payload = .ok (db', response)) (hsound : Sound clock.today db) :
    Worked clock.today db db' ∧ db'.operations = db.operations := by
  obtain ⟨batch, first, db₁, cs, cov, hb, _⟩ := closeBody_ok h hsound
  obtain ⟨_, hclose⟩ := hb.changes hsound
  have hresult := hb.result
  refine ⟨(Worked.of_sync .refl hb.synced hsound).trail (.single hclose)
    (hresult ▸ ⟨_, _, _, _, _, rfl⟩), ?_⟩
  obtain ⟨P, M, rfl⟩ := sync_frame hb.synced
  rw [hresult]
  rfl

theorem reconcileBody_frame {payload : ReconciliationRequest}
    (h : reconcileBody db clock payload = .ok (db', response)) (hdate : payload.date.Valid) :
    ∃ T R A B, db' = { db with transactions := T, revisions := R, accounts := A, batches := B } := by
  obtain ⟨sa, sc, s, hopen, hreached, _, _, _, hs, rfl, _⟩ := reconcileBody_ok h
  obtain ⟨_, T, R, A, hdb⟩ := reconcileAccounts_changes hdate hreached hopen hs
  exact ⟨T, R, A, _, by rw [hdb]⟩

/-- The refresh and the start-up. -/
theorem refresh_worked (h : refresh db clock = .ok (db', response)) (hsound : Sound clock.today db) :
    Worked clock.today db db' := by
  simp only [refresh, Except.bind_eq_ok, Except.mapError_eq_ok, Except.pure_eq_ok,
    Prod.mk.injEq] at h
  obtain ⟨db₁, hs, rfl, _⟩ := h
  exact .of_sync .refl hs hsound

theorem startup_ok (h : startup db clock = .ok (db', response)) :
    ∃ db₁ db₂, initializeOpenings db = .ok db₁ ∧ activate db₁ clock.today = .ok db₂ ∧
      sync db₂ clock.today none = .ok db' := by
  simp only [startup, Except.bind_eq_ok, Except.mapError_eq_ok, Except.pure_eq_ok,
    Prod.mk.injEq] at h
  obtain ⟨db₁, h1, db₂, h2, db₃, h3, rfl, _⟩ := h
  exact ⟨db₁, db₂, h1, h2, h3⟩

theorem activate_changes (h : activate db today = .ok db') (hsound : Sound today db) :
    Changes today db db' := by
  rcases activate_ok h hsound with ⟨rfl, _⟩ | ⟨cs, remaining, allocations, actual, eur, e, ha⟩
  · exact .refl
  · obtain ⟨db₁, hc, hs⟩ := ha.changes
    have h1 : Changes today db db₁ := .single hc
    exact h1.trans (sync_changes hs (h1.sound hsound))

theorem startup_worked (h : startup db clock = .ok (db', response)) (hsound : Sound clock.today db) :
    Worked clock.today db db' := by
  obtain ⟨db₁, db₂, h1, h2, h3⟩ := startup_ok h
  have hc1 : Changes clock.today db db₁ := (initializeOpenings_changes clock.today h1).1
  have hc2 : Changes clock.today db db₂ := hc1.trans (activate_changes h2 (hc1.sound hsound))
  exact .of_sync hc2 h3 hsound

/-! ## Calls -/

/-- Does the call end with `sync`? Reconciliations and cancelled budgets do not, and neither does a
replay. -/
def Synchronises (db : Database) (call : Call) : Prop :=
  match call.request with
  | .create payload => db.operations.lookup payload.operationId = none
  | .edit payload => db.operations.lookup payload.transaction.operationId = none
  | .delete payload => db.operations.lookup payload.operationId = none
  | .correct payload => db.operations.lookup payload.operationId = none
  | .complete payload => db.operations.lookup payload.operationId = none
  | .close payload => db.operations.lookup payload.operationId = none
  | .reconcile _ | .cancelBudget _ => False
  | .createCategory _ | .saveBudget _ | .saveExpectedIncome _ | .refresh | .startup => True

instance (db : Database) (call : Call) : Decidable (Synchronises db call) := by
  unfold Synchronises
  split <;> infer_instance

theorem normalize_operationId {p w : WriteRequest} (h : normalize p = .ok w) :
    w.operationId = p.operationId ∧ w.transactionId = p.transactionId := by
  simp only [normalize, Except.bind_eq_ok, Except.ensure_eq_ok, Except.pure_eq_ok] at h
  obtain ⟨_, _, _, _, _, _, _, _, _, _, _, _, _, _, rfl⟩ := h
  exact ⟨rfl, rfl⟩

theorem normalizeCorrection_operationId {p payload : CorrectionRequest}
    (h : normalizeCorrection p = .ok payload) : payload.operationId = p.operationId := by
  simp only [normalizeCorrection, Except.bind_eq_ok, Except.ensure_eq_ok, Except.pure_eq_ok] at h
  obtain ⟨_, _, _, _, _, _, _, _, rfl⟩ := h
  rfl

/-- The two outcomes of a call under an operation id. -/
theorem once_worked {id : OperationId} {actor : Subject} {fingerprint : Fingerprint}
    {accepts : Response → Bool} {body : Except ApiError (Database × Response)}
    (h : once db id actor fingerprint accepts body = .ok (db', response))
    (hbody : ∀ db₁, body = .ok (db₁, response) →
      Worked today db db₁ ∧ db₁.operations = db.operations) :
    Changes today db db' ∧ (db.operations.lookup id = none → Worked today db db') := by
  rcases once_ok h with ⟨row, hl, _, _, _, rfl, _⟩ | ⟨hl, db₁, hb, rfl⟩
  · exact ⟨.refl, fun hn => by rw [hl] at hn; cases hn⟩
  · obtain ⟨hw, ho⟩ := hbody db₁ hb
    have hrec := hw.record (by rw [ho]; exact hl) actor fingerprint response
    exact ⟨hrec.changes, fun _ => hrec⟩

/-- The same after the openings are initialised. -/
theorem initialized_worked {db₁ : Database} {id : OperationId}
    (hinit : initializeOpenings db = .ok db₁)
    (h : Changes today db₁ db' ∧ (db₁.operations.lookup id = none → Worked today db₁ db')) :
    Changes today db db' ∧ (db.operations.lookup id = none → Worked today db db') := by
  obtain ⟨hc, O, rfl⟩ := initializeOpenings_changes today hinit
  exact ⟨hc.trans h.1, fun hn => (h.2 hn).after hc⟩

/-- **Every call is a sequence of changes**, and one that does something new ends with `sync`. -/
theorem handle_worked {call : Call} (h : handle db call = .ok (db', response))
    (hsound : Sound call.clock.today db) :
    Changes call.clock.today db db' ∧
      (Synchronises db call → Worked call.clock.today db db') := by
  obtain ⟨clock, actor, request⟩ := call
  cases request with
  | create payload =>
    simp only [handle, createTransaction, Except.bind_eq_ok, Except.mapError_eq_ok] at h
    obtain ⟨w, hn, db₁, hinit, h⟩ := h
    have hsound₁ := (initializeOpenings_changes clock.today hinit).1.sound hsound
    have := initialized_worked hinit (once_worked h fun _ hb => createBody_worked hn hb hsound₁)
    rwa [(normalize_operationId hn).1] at this
  | edit payload =>
    simp only [handle, editTransaction, Except.bind_eq_ok, Except.mapError_eq_ok] at h
    obtain ⟨w, hn, _, _, _, _, db₁, hinit, h⟩ := h
    have hsound₁ := (initializeOpenings_changes clock.today hinit).1.sound hsound
    have := initialized_worked hinit (once_worked h fun _ hb =>
      @editBody_worked _ _ _ _ _ (normalizedEdit payload w) hn hb hsound₁)
    rwa [(normalize_operationId hn).1] at this
  | delete payload =>
    simp only [handle, deleteTransaction, Except.bind_eq_ok, Except.mapError_eq_ok] at h
    obtain ⟨_, _, _, _, db₁, hinit, h⟩ := h
    have hsound₁ := (initializeOpenings_changes clock.today hinit).1.sound hsound
    exact initialized_worked hinit (once_worked h fun _ hb => deleteBody_worked hb hsound₁)
  | reconcile payload =>
    simp only [handle, recordReconciliation, Except.bind_eq_ok, Except.mapError_eq_ok] at h
    obtain ⟨q, hn, db₁, hinit, h⟩ := h
    refine ⟨?_, fun hf => hf.elim⟩
    have hc := (initializeOpenings_changes clock.today hinit).1
    rcases once_ok h with ⟨row, _, _, _, _, rfl, _⟩ | ⟨hl, db₂, hb, rfl⟩
    · exact hc
    · obtain ⟨T, R, A, B, hframe⟩ := reconcileBody_frame hb (normalizeReconciliation_ok hn).1
      refine (hc.trans (reconcileBody_changes hn hb)).tail (.record actor _ _ ?_)
      rw [hframe]
      exact hl
  | correct payload =>
    simp only [handle, recordCorrection, Except.bind_eq_ok, Except.mapError_eq_ok] at h
    obtain ⟨q, hn, db₁, hinit, h⟩ := h
    have hsound₁ := (initializeOpenings_changes clock.today hinit).1.sound hsound
    have := initialized_worked hinit (once_worked h fun _ hb => correctionBody_worked hn hb hsound₁)
    rwa [normalizeCorrection_operationId hn] at this
  | complete payload =>
    simp only [handle, completeIncome, Except.bind_eq_ok] at h
    obtain ⟨_, _, h⟩ := h
    exact once_worked h fun _ hb => completeBody_worked hb hsound
  | close payload =>
    simp only [handle, closeMonth, Except.bind_eq_ok, Except.mapError_eq_ok] at h
    obtain ⟨_, _, db₁, hinit, h⟩ := h
    have hsound₁ := (initializeOpenings_changes clock.today hinit).1.sound hsound
    exact initialized_worked hinit (once_worked h fun _ hb => closeBody_worked hb hsound₁)
  | createCategory payload =>
    obtain ⟨db₁, hc, hs⟩ := createCategory_changes h hsound
    exact ⟨(Worked.of_sync hc hs hsound).changes, fun _ => .of_sync hc hs hsound⟩
  | cancelBudget payload => exact ⟨cancelMonthlyBudget_changes h hsound, fun hf => hf.elim⟩
  | saveBudget payload =>
    obtain ⟨db₁, hc, hs⟩ := saveMonthlyBudget_changes h hsound
    exact ⟨(Worked.of_sync hc hs hsound).changes, fun _ => .of_sync hc hs hsound⟩
  | saveExpectedIncome payload =>
    obtain ⟨db₁, hc, hs⟩ := saveExpectedIncome_changes h
    exact ⟨(Worked.of_sync hc hs hsound).changes, fun _ => .of_sync hc hs hsound⟩
  | refresh => exact ⟨(refresh_worked h hsound).changes, fun _ => refresh_worked h hsound⟩
  | startup => exact ⟨(startup_worked h hsound).changes, fun _ => startup_worked h hsound⟩

/-- What a call leaves alone that does not end with `sync`: above all the plan and its movements. -/
def KeepsPlan (db db' : Database) : Prop :=
  ∃ O P T R A B L, db' = { db with
    openings := O, periods := P, transactions := T, revisions := R, accounts := A, batches := B,
    operations := L }

theorem once_unsynced {db₁ : Database} {id : OperationId} {fingerprint : Fingerprint}
    {actor : Subject} {accepts : Response → Bool} {body : Except ApiError (Database × Response)}
    (h : once db₁ id actor fingerprint accepts body = .ok (db', response))
    (hinit : ∃ O, db₁ = { db with openings := O }) (hold : db.operations.lookup id ≠ none) :
    KeepsPlan db db' := by
  obtain ⟨O, rfl⟩ := hinit
  rcases once_ok h with ⟨_, _, _, _, _, rfl, _⟩ | ⟨hnew, _⟩
  · exact ⟨_, _, _, _, _, _, _, rfl⟩
  · exact absurd hnew hold

theorem handle_unsynced {call : Call} (h : handle db call = .ok (db', response))
    (hsound : Sound call.clock.today db) (hn : ¬ Synchronises db call) : KeepsPlan db db' := by
  obtain ⟨clock, actor, request⟩ := call
  cases request with
  | create payload =>
    simp only [handle, createTransaction, Except.bind_eq_ok, Except.mapError_eq_ok] at h
    obtain ⟨w, hw, db₁, hinit, h⟩ := h
    refine once_unsynced h (initializeOpenings_frame hinit) ?_
    rwa [(normalize_operationId hw).1]
  | edit payload =>
    simp only [handle, editTransaction, Except.bind_eq_ok, Except.mapError_eq_ok] at h
    obtain ⟨w, hw, _, _, _, _, db₁, hinit, h⟩ := h
    refine once_unsynced h (initializeOpenings_frame hinit) ?_
    rwa [(normalize_operationId hw).1]
  | delete payload =>
    simp only [handle, deleteTransaction, Except.bind_eq_ok, Except.mapError_eq_ok] at h
    obtain ⟨_, _, _, _, db₁, hinit, h⟩ := h
    exact once_unsynced h (initializeOpenings_frame hinit) hn
  | reconcile payload =>
    simp only [handle, recordReconciliation, Except.bind_eq_ok, Except.mapError_eq_ok] at h
    obtain ⟨q, hq, db₁, hinit, h⟩ := h
    obtain ⟨O, rfl⟩ := initializeOpenings_frame hinit
    rcases once_ok h with ⟨_, _, _, _, _, rfl, _⟩ | ⟨_, db₂, hb, rfl⟩
    · exact ⟨_, _, _, _, _, _, _, rfl⟩
    · obtain ⟨T, R, A, B, rfl⟩ := reconcileBody_frame hb (normalizeReconciliation_ok hq).1
      exact ⟨_, _, _, _, _, _, _, rfl⟩
  | correct payload =>
    simp only [handle, recordCorrection, Except.bind_eq_ok, Except.mapError_eq_ok] at h
    obtain ⟨q, hq, db₁, hinit, h⟩ := h
    refine once_unsynced h (initializeOpenings_frame hinit) ?_
    rwa [normalizeCorrection_operationId hq]
  | complete payload =>
    simp only [handle, completeIncome, Except.bind_eq_ok] at h
    obtain ⟨_, _, h⟩ := h
    exact once_unsynced h ⟨_, rfl⟩ hn
  | close payload =>
    simp only [handle, closeMonth, Except.bind_eq_ok, Except.mapError_eq_ok] at h
    obtain ⟨_, _, db₁, hinit, h⟩ := h
    exact once_unsynced h (initializeOpenings_frame hinit) hn
  | cancelBudget payload =>
    obtain ⟨periods, audit, _, _, _, _, _, rfl⟩ := cancelMonthlyBudget_ok h hsound
    exact ⟨_, _, _, _, _, _, _, rfl⟩
  | _ => exact absurd trivial hn

theorem handle_changes {call : Call} (h : handle db call = .ok (db', response))
    (hsound : Sound call.clock.today db) : Changes call.clock.today db db' :=
  (handle_worked h hsound).1

/-! ## Runs -/

theorem step_changes (call : Call) (hsound : Sound call.clock.today db) :
    Changes call.clock.today db (step db call) := by
  unfold step
  split
  · rename_i db' response h
    exact handle_changes h hsound
  · exact .refl

theorem RunWhere.sound {P : Database → Call → Prop} {d d' : Date} (h : RunWhere P d db d' db')
    (hsound : Sound d db) : Sound d' db' :=
  h.induct (I := Sound) hsound fun _ _ call _ hv hle _ hs =>
    (step_changes call (hs.later hv hle)).sound (hs.later hv hle)

theorem RunWhere.toExtends {P : Database → Call → Prop} {d d' : Date} (h : RunWhere P d db d' db')
    (hsound : Sound d db) : Extends db db' := by
  have key := h.induct (I := fun d' db' => Sound d' db' ∧ Extends db db') ⟨hsound, .refl db⟩
    fun _ _ call _ hv hle _ hs => by
      have hl := hs.1.later hv hle
      have hc := step_changes call hl
      exact ⟨hc.sound hl, hs.2.trans hc.toExtends⟩
  exact key.2

/-- **Every reachable database is sound.** -/
theorem Reachable.sound (h : Reachable today db) : Sound today db := by
  obtain ⟨d₀, db₀, himp, hrun⟩ := h
  exact hrun.sound himp.sound

/-- What holds after the import and is preserved by every change holds of every reachable database. -/
theorem Reachable.of_changes {I : Database → Prop} (h : Reachable today db)
    (start : ∀ d db, Imported d db → I db)
    (next : ∀ d db db', Sound d db → Change d db db' → I db → I db') : I db := by
  obtain ⟨d₀, db₀, himp, hrun⟩ := h
  have key := hrun.induct (I := fun d db => Sound d db ∧ I db) ⟨himp.sound, start _ _ himp⟩
    fun _ _ call _ hv hle _ hs => by
      have hl := hs.1.later hv hle
      have hc := step_changes call hl
      refine ⟨hc.sound hl, ?_⟩
      generalize Server.step _ call = db' at hc
      induction hc with
      | refl => exact hs.2
      | tail hc hstep ih => exact next _ _ _ (Changes.sound hc hl) hstep ih
  exact key.2

theorem Reachable.trans {P : Database → Call → Prop} {d' : Date} (h : Reachable today db)
    (hrun : RunWhere P today db d' db') : Reachable d' db' := by
  obtain ⟨d₀, db₀, himp, h0⟩ := h
  exact ⟨d₀, db₀, himp, h0.trans (hrun.mono fun _ _ _ => trivial)⟩

theorem Reachable.step (h : Reachable today db) {call : Call} (hv : call.clock.today.Valid)
    (hle : today ≤ call.clock.today) : Reachable call.clock.today (step db call) := by
  obtain ⟨d₀, db₀, himp, h0⟩ := h
  exact ⟨d₀, db₀, himp, .step h0 call hv hle trivial⟩

/-- The database of a successful call is the next one. -/
theorem step_of_ok {call : Call} (h : handle db call = .ok (db', response)) : step db call = db' := by
  simp [step, h]

/-- A refused call changes nothing. -/
theorem step_of_error {call : Call} {e : ApiError} (h : handle db call = .error e) :
    step db call = db := by
  simp [step, h]

/-- A successful call leads to the next database. -/
theorem exists_ok_of_step {call : Call} (h : (handle db call).isOk = true) :
    ∃ response, handle db call = .ok (step db call, response) := by
  cases hc : handle db call with
  | ok result =>
    obtain ⟨db', response⟩ := result
    exact ⟨response, by rw [step_of_ok hc]⟩
  | error e =>
    rw [hc] at h
    cases h

/-! ## A household

The smallest household with every system row: one EUR account, one budget category with 100 EUR left
in September, and 200 EUR a month from October on.
-/

/-- A table with the given rows. -/
def tableOf {κ α : Type} [DecidableEq κ] (rows : List (κ × α)) : Table κ α :=
  rows.foldl (fun t e => t.insert e.1 e.2) ∅

def september : Month := .of 2026 9
def october : Month := .of 2026 10
def november : Month := .of 2026 11
def december : Month := .of 2026 12

def household (balance : Decimal) : Database where
  accounts := tableOf [
    (1, ⟨⟨.other 1, 0⟩, some .eur, true, true, some balance, 0⟩),
    (2, ⟨⟨.expense, 0⟩, some .eur, false, true, none, 0⟩),
    (3, ⟨⟨.income, 0⟩, some .eur, false, true, none, 0⟩),
    (4, ⟨⟨.reallocation, 0⟩, some .eur, false, true, none, 0⟩),
    (5, ⟨⟨.reconciliation, 0⟩, some .eur, false, true, none, 0⟩)]
  categories := tableOf [
    (1, ⟨⟨.other 1, 0⟩, true, 1⟩),
    (2, ⟨⟨.expense, 0⟩, false, 2⟩),
    (3, ⟨⟨.income, 0⟩, false, 3⟩),
    (4, ⟨⟨.balanceTransfer, 0⟩, false, 4⟩),
    (5, ⟨⟨.reconciliation, 0⟩, false, 5⟩)]
  periods := tableOf [((1, october), some 200)]
  transactions := ∅
  operations := ∅
  revisions := []
  snapshots := tableOf [((1, september), ⟨some 0, some 100, some 0⟩)]
  openings := ∅
  exchangeRates := []
  batches := ∅
  importMonths := [october]
  closures := ∅
  corrections := ∅
  incomeSettings := ∅
  ledgerState := none
  planIncome := ∅
  receipts := ∅
  movements := []
  coverageClosures := ∅

theorem household_imported (balance : Decimal) : Imported ⟨october, 1⟩ (household balance) where
  valid := by decide
  dates id t ht := by cases ht
  importMonths m hm := by
    rw [List.mem_singleton.1 hm]
    decide
  snapshotMonths c m s hs := by
    have hrows : ∀ e ∈ (household 0).snapshots.entries,
        e.1.2.Calendar ∧ ((household 0).categories.lookup e.1.1).isSome := by decide
    exact hrows _ (AList.mem_entries_iff.2 hs)
  periodCategories c m a ha := by
    have hrows : ∀ e ∈ (household 0).periods.entries,
        ((household 0).categories.lookup e.1.1).isSome := by decide
    exact hrows _ (AList.mem_entries_iff.2 ha)
  openingCategories c m a ha := by cases ha
  unallocated := rfl
  operations := rfl
  revisions := by simp [household]
  batches := rfl
  closures := rfl
  corrections := rfl
  incomeSettings := rfl
  ledgerState := rfl
  planIncome := rfl
  receipts := rfl
  movements := rfl
  coverageClosures := rfl

/-- A chronological list of calls reaches a database. -/
theorem household_reachable (balance : Decimal) {calls : List Call}
    (h : Chronological ⟨october, 1⟩ calls) :
    Reachable (endDate ⟨october, 1⟩ calls) (run (household balance) calls) :=
  ⟨_, _, household_imported balance, run_of_chronological (.refl _ _) h⟩

/-- A call of one user at a day, every supplied timestamp being accepted. -/
def callOn (month : Month) (day : Nat) (request : Request) : Call :=
  ⟨⟨⟨month, day⟩, 0, fun _ _ => true⟩, 1, request⟩

/-- A write without sides and options. -/
def write (operation : OperationId) (id : TransactionId) (kind : TransactionKind) (date : Date)
    (amount : Decimal) : WriteRequest :=
  ⟨operation, id, kind, date, none, false, "entry", amount, none, none, none, none, none, none, none,
    none, none⟩

/-- An expense of the household. -/
def spend (operation : OperationId) (id : TransactionId) (date : Date) (amount : Decimal) :
    WriteRequest :=
  { write operation id .expense date amount with fromAccountId := some 1, fromCategoryId := some 1 }

/-- An income of the household. -/
def earn (operation : OperationId) (id : TransactionId) (date : Date) (amount : Decimal)
    (treatment : Option Treatment) : WriteRequest :=
  { write operation id .income date amount with
    toAccountId := some 1, incomeTreatment := treatment }

/-- 3000 EUR expected from October on, and the ledger started. -/
def opened : List Call := [
  callOn october 1 (.saveExpectedIncome ⟨october, 3000, .eur, 7, 10⟩),
  callOn october 2 .startup]

end Server
