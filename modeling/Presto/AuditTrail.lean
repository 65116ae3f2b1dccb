import Presto.Log

/-!
# Revisions and lost updates

A transaction carries its revision, and each revision the server writes leaves a row that names the
operation. The rows of a transaction are numbered without gaps up to its revision
(`Trail.numbered`), and each of them is what its operation asked for (`Attributed`). As an edit and a
deletion name the revision they were made on, none of two edits of a transaction overwrites the other
unseen (`no_lost_update`).
-/

namespace Server

open Budget BudgetLedger

variable {today : Date} {db db' : Database} {call : Call} {response : Response} {id : TransactionId}

/-! ## The rows of a transaction -/

/-- The revision rows that the server wrote for a transaction, newest first; the import writes rows
without an operation. -/
def serverRevisions (db : Database) (id : TransactionId) : List TransactionRevision :=
  db.revisions.filter fun r => r.transactionId = id ∧ r.operationId.isSome = true

/-- The numbers from `n` down to `base + 1`. -/
def countdown (base n : Nat) : List Nat := (List.range' (base + 1) (n - base)).reverse

theorem countdown_self (n : Nat) : countdown n n = [] := by simp [countdown]

theorem countdown_succ {base n : Nat} (h : base ≤ n) :
    countdown base (n + 1) = (n + 1) :: countdown base n := by
  have hlength : n + 1 - base = (n - base) + 1 := by omega
  have hlast : base + 1 + (n - base) = n + 1 := by omega
  rw [countdown, hlength, List.range'_1_concat, List.reverse_append, hlast]
  rfl

/-- The rows of a transaction go from its revision down to `base`, the revision it was imported at. -/
structure Numbered (db : Database) (id : TransactionId) (t : Transaction) (base : Nat) : Prop where
  le : base ≤ t.revision
  native : t.canonicalLive = true → base = 0
  rows : (serverRevisions db id).map (·.revision) = countdown base t.revision

structure Trail (db : Database) : Prop where
  absent : ∀ id, db.transactions.lookup id = none → serverRevisions db id = []
  numbered : ∀ id t, db.transactions.lookup id = some t → ∃ base, Numbered db id t base

theorem Imported.trail (h : Imported today db) : Trail db := by
  have hnone : ∀ id, serverRevisions db id = [] := by
    intro id
    rw [serverRevisions, List.filter_eq_nil_iff]
    intro r hr
    simp [h.revisions r hr]
  refine ⟨fun id _ => hnone id, fun id t ht => ⟨t.revision, le_rfl, fun hlive => ?_, ?_⟩⟩
  · rw [(h.dates id t ht).2.2] at hlive
    cases hlive
  · rw [hnone, countdown_self]
    rfl

theorem Trail.congr (h : Trail db) (ht : db'.transactions = db.transactions)
    (hr : db'.revisions = db.revisions) : Trail db' := by
  have hrows : ∀ id, serverRevisions db' id = serverRevisions db id := by
    intro id
    rw [serverRevisions, hr]
    rfl
  refine ⟨fun id hid => ?_, fun id t hid => ?_⟩
  · rw [hrows]
    exact h.absent id (ht ▸ hid)
  · obtain ⟨base, hn⟩ := h.numbered id t (ht ▸ hid)
    exact ⟨base, hn.le, hn.native, by rw [hrows]; exact hn.rows⟩

/-- What is written in place of an old row: the first revision of a new transaction, or the next one. -/
def NextRevision (old : Option Transaction) (t : Transaction) : Prop :=
  (old = none ∧ t.revision = 1) ∨
    ∃ o, old = some o ∧ t.revision = o.revision + 1 ∧ t.canonicalLive = o.canonicalLive

/-- One write keeps the trail. -/
theorem Trail.write (h : Trail db) {t : Transaction} {operation : OperationId}
    (hnext : NextRevision (db.transactions.lookup id) t)
    (ht : db'.transactions = db.transactions.insert id t)
    (hr : db'.revisions = ⟨id, t.revision, some operation⟩ :: db.revisions) : Trail db' := by
  have hsame : serverRevisions db' id = ⟨id, t.revision, some operation⟩ :: serverRevisions db id := by
    simp [serverRevisions, hr]
  have hother : ∀ id', id' ≠ id → serverRevisions db' id' = serverRevisions db id' := by
    intro id' hne
    simp [serverRevisions, hr, Ne.symm hne]
  refine ⟨fun id' hid => ?_, fun id' t' hid => ?_⟩
  · rw [ht] at hid
    by_cases he : id' = id
    · subst he
      rw [AList.lookup_insert] at hid
      cases hid
    · rw [AList.lookup_insert_ne he] at hid
      rw [hother id' he]
      exact h.absent id' hid
  · rw [ht] at hid
    by_cases he : id' = id
    · subst he
      rw [AList.lookup_insert] at hid
      cases hid
      rcases hnext with ⟨hnone, hone⟩ | ⟨o, ho, hrevision, hlive⟩
      · refine ⟨0, Nat.zero_le _, fun _ => rfl, ?_⟩
        rw [hsame, h.absent id' hnone, hone]
        rfl
      · obtain ⟨base, hn⟩ := h.numbered id' o ho
        refine ⟨base, hn.le.trans (by omega), fun hl => hn.native (hlive ▸ hl), ?_⟩
        rw [hsame, List.map_cons, hn.rows, hrevision, countdown_succ hn.le]
    · rw [AList.lookup_insert_ne he] at hid
      obtain ⟨base, hn⟩ := h.numbered id' t' hid
      exact ⟨base, hn.le, hn.native, by rw [hother id' he]; exact hn.rows⟩

/-- A deletion takes the rows of its transaction. -/
theorem Trail.erase (h : Trail db) (ht : db'.transactions = db.transactions.erase id)
    (hr : db'.revisions = db.revisions.filter fun r => r.transactionId ≠ id) : Trail db' := by
  have hsame : serverRevisions db' id = [] := by
    rw [serverRevisions, hr, List.filter_filter, List.filter_eq_nil_iff]
    intro r _
    simp only [ne_eq, decide_not, Bool.and_eq_true, decide_eq_true_eq, Bool.not_eq_true',
      decide_eq_false_iff_not, not_and]
    exact fun h => fun hne => hne h.1
  have hother : ∀ id', id' ≠ id → serverRevisions db' id' = serverRevisions db id' := by
    intro id' hne
    rw [serverRevisions, hr, List.filter_filter]
    refine List.filter_congr fun r _ => ?_
    by_cases he : r.transactionId = id'
    · simp [he, hne]
    · simp [he]
  refine ⟨fun id' hid => ?_, fun id' t' hid => ?_⟩
  · by_cases he : id' = id
    · rw [he, hsame]
    · rw [ht, AList.lookup_erase_ne he] at hid
      rw [hother id' he]
      exact h.absent id' hid
  · rw [ht] at hid
    by_cases he : id' = id
    · subst he
      rw [AList.lookup_erase] at hid
      cases hid
    · rw [AList.lookup_erase_ne he] at hid
      obtain ⟨base, hn⟩ := h.numbered id' t' hid
      exact ⟨base, hn.le, hn.native, by rw [hother id' he]; exact hn.rows⟩

/-! ## What the calls write -/

/-- The row of a reconciled account is the next revision of its adjustment. -/
theorem Reconciled.next {payload : ReconciliationRequest} {systemAccount : WriteAccount}
    {systemCategory : CategoryId} {requested : ReconciliationAccount} {account : Account}
    {balance : Decimal} {existing : Option (TransactionId × Transaction)} {activity : Activity}
    {v : TransactionValuation} {row : Transaction}
    (h : Reconciled db payload systemAccount systemCategory requested account balance existing id
      activity v row db') : NextRevision (db.transactions.lookup id) row := by
  rcases adjustmentId_ok h.placed with ⟨e, hex, rfl⟩ | ⟨hex, rfl, hnone⟩
  · obtain ⟨hl, -⟩ := existingAdjustment_ok (hex ▸ h.found)
    refine .inr ⟨e.2, hl, ?_, ?_⟩
    · rw [h.written, hex]
      rfl
    · rw [h.written, hex]
      rfl
  · refine .inl ⟨hnone, ?_⟩
    rw [h.written, hex]
    rfl

/-- The writes of a call: one row, one row after the other, a deletion, or none. -/
inductive Writes (db : Database) (call : Call) : Database → Prop
  | none {db' : Database} (ht : db'.transactions = db.transactions)
      (hr : db'.revisions = db.revisions) : Writes db call db'
  | one {db' : Database} {id : TransactionId} {t : Transaction} {operation : OperationId}
      (hnext : NextRevision (db.transactions.lookup id) t)
      (ht : db'.transactions = db.transactions.insert id t)
      (hr : db'.revisions = ⟨id, t.revision, some operation⟩ :: db.revisions) : Writes db call db'
  | many {p payload : ReconciliationRequest} {db₀ db' : Database} {systemAccount : WriteAccount}
      {systemCategory : CategoryId} {s : ReconciliationState} (hrequest : call.request = .reconcile p)
      (ht₀ : db₀.transactions = db.transactions) (hr₀ : db₀.revisions = db.revisions)
      (hfold : payload.accounts.foldlM
        (reconcileAccount call.clock payload systemAccount systemCategory) ⟨db₀, [], []⟩ = .ok s)
      (ht : db'.transactions = s.db.transactions) (hr : db'.revisions = s.db.revisions) :
      Writes db call db'
  | erased {payload : DeleteRequest} {db' : Database} (hrequest : call.request = .delete payload)
      (ht : db'.transactions = db.transactions.erase payload.transactionId)
      (hr : db'.revisions = db.revisions.filter fun r => r.transactionId ≠ payload.transactionId) :
      Writes db call db'

theorem Effect.writes (h : Effect db call response db') : Writes db call db' := by
  cases h with
  | replayed _ _ _ _ hinit =>
    rcases hinit with rfl | hinit
    · exact .none rfl rfl
    · obtain ⟨hq, -⟩ := initializeOpenings_quiet hinit
      exact .none hq.transactions hq.revisions
  | @created p w db₀ db₁ db₂ db₃ r v occurredAt accounts cs _ _ hinit _ h _ =>
    obtain ⟨O, rfl⟩ := initializeOpenings_frame hinit
    obtain ⟨P, M, rfl⟩ := sync_frame h.synced
    obtain ⟨P, R, rfl⟩ := h.receipt.frame
    obtain ⟨_, A, rfl⟩ := postDeltas_changes h.posted
    exact .one (.inl ⟨h.fresh, rfl⟩) rfl rfl
  | @edited p payload old db₀ db₁ db₂ db₃ r stored vs fromNative toNative occurredAt accounts cs _ _ _
      hinit _ h _ =>
    obtain ⟨O, rfl⟩ := initializeOpenings_frame hinit
    obtain ⟨P, M, rfl⟩ := sync_frame h.synced
    obtain ⟨P, R, rfl⟩ := h.receipt.frame
    obtain ⟨_, A, rfl⟩ := postDeltas_changes h.posted
    exact .one (.inr ⟨old, h.found, rfl, h.live.symm⟩) rfl rfl
  | deleted hrequest hinit _ h _ =>
    obtain ⟨O, rfl⟩ := initializeOpenings_frame hinit
    obtain ⟨P, M, rfl⟩ := sync_frame h.synced
    obtain ⟨_, A, rfl⟩ := postDeltas_changes h.posted
    exact .erased hrequest rfl rfl
  | reconciled hrequest _ hinit _ _ _ _ hfold hresult _ =>
    obtain ⟨hq, -⟩ := initializeOpenings_quiet hinit
    exact .many hrequest hq.transactions hq.revisions hfold (by rw [hresult]; rfl)
      (by rw [hresult]; rfl)
  | quiet hq _ _ => exact .none hq.transactions hq.revisions

theorem Writes.trail (h : Writes db call db') (htrail : Trail db) : Trail db' := by
  cases h with
  | none ht hr => exact htrail.congr ht hr
  | one hnext ht hr => exact htrail.write hnext ht hr
  | many _ ht₀ hr₀ hfold ht hr =>
    refine Trail.congr ?_ ht hr
    refine Except.foldlM_induction (fun s : ReconciliationState => Trail s.db) hfold
      (htrail.congr ht₀ hr₀) fun requested _ s s' hs hstep => ?_
    obtain ⟨account, balance, existing, id, activity, v, row, hrec, -⟩ := reconcileAccount_ok hstep
    exact hs.write hrec.next (by rw [hrec.result]; rfl) (by rw [hrec.result]; rfl)
  | erased _ ht hr => exact htrail.erase ht hr

/-! ## Who wrote a revision -/

/-- What the recorded request of an operation says about a revision row it wrote. -/
def Wrote (db : Database) (r : TransactionRevision) : Fingerprint → Prop
  | .create w => w.transactionId = r.transactionId ∧ r.revision = 1
  | .edit p => p.transaction.transactionId = r.transactionId ∧ r.revision = p.expectedRevision + 1
  | .reconcile p => ∃ batch, db.batches.lookup p.operationId = some batch ∧
      ∃ i ∈ batch.items, i.transactionId = r.transactionId
  | _ => False

/-- The operation of a revision row is recorded, and asked for it. -/
def Attributed (db : Database) (r : TransactionRevision) : Prop :=
  ∀ operation, r.operationId = some operation →
    ∃ row, db.operations.lookup operation = some row ∧ Wrote db r row.fingerprint

theorem Attributed.mono {r : TransactionRevision} (h : Attributed db r) (hext : Extends db db') :
    Attributed db' r := by
  intro operation hop
  obtain ⟨row, hrow, hwrote⟩ := h operation hop
  refine ⟨row, hext.operations operation row hrow, ?_⟩
  cases hf : row.fingerprint with
  | reconcile p =>
    rw [hf] at hwrote
    obtain ⟨batch, hbatch, hitem⟩ := hwrote
    exact ⟨batch, hext.batches _ _ hbatch, hitem⟩
  | create w => rw [hf] at hwrote; exact hwrote
  | edit p => rw [hf] at hwrote; exact hwrote
  | delete p => rw [hf] at hwrote; exact hwrote
  | correct p => rw [hf] at hwrote; exact hwrote
  | complete p => rw [hf] at hwrote; exact hwrote
  | close m => rw [hf] at hwrote; exact hwrote
  | audit r => rw [hf] at hwrote; exact hwrote

/-- The rows of a reconciliation are listed in its batch. -/
theorem reconcileAccounts_listed {clock : Clock} {payload : ReconciliationRequest}
    {systemAccount : WriteAccount} {systemCategory : CategoryId} {s : ReconciliationState}
    {requests : List ReconciliationAccount}
    (h : requests.foldlM (reconcileAccount clock payload systemAccount systemCategory)
      ⟨db, [], []⟩ = .ok s) :
    ∀ r ∈ s.db.revisions, r ∈ db.revisions ∨
      r.operationId = some payload.operationId ∧ ∃ i ∈ s.items, i.transactionId = r.transactionId := by
  refine Except.foldlM_induction (fun s : ReconciliationState => ∀ r ∈ s.db.revisions,
      r ∈ db.revisions ∨ r.operationId = some payload.operationId ∧
        ∃ i ∈ s.items, i.transactionId = r.transactionId)
    h (fun r hr => .inl hr) fun requested _ s s' hs hstep => ?_
  obtain ⟨account, balance, existing, id, activity, v, row, hrec, hitems⟩ := reconcileAccount_ok hstep
  intro r hr
  rw [hrec.result] at hr
  rw [hitems]
  rcases List.mem_cons.1 hr with rfl | hr
  · exact .inr ⟨rfl, _, List.mem_append_right _ (List.mem_singleton.2 rfl), rfl⟩
  · rcases hs r hr with hold | ⟨hop, i, hi, hid⟩
    · exact .inl hold
    · exact .inr ⟨hop, i, List.mem_append_left _ hi, hid⟩

/-- A row is attributed to the operation that is recorded after it. -/
theorem attributed_record {r : TransactionRevision} {operation : OperationId} {actor : Subject}
    {fingerprint : Fingerprint} (hop : r.operationId = some operation)
    (hwrote : Wrote (db.recordOperation operation actor fingerprint response) r fingerprint) :
    Attributed (db.recordOperation operation actor fingerprint response) r := by
  intro operation' hop'
  rw [hop] at hop'
  cases hop'
  refine ⟨⟨db.operations.entries.length + 1, actor, fingerprint, response⟩, ?_, hwrote⟩
  rw [lookup_recordOperation, if_pos rfl]

/-- A row that a call adds is attributed. -/
theorem Effect.attributed (h : Effect db call response db') :
    ∀ r ∈ db'.revisions, r ∈ db.revisions ∨ Attributed db' r := by
  cases h with
  | replayed _ _ _ _ hinit =>
    rcases hinit with rfl | hinit
    · exact fun r hr => .inl hr
    · obtain ⟨hq, -⟩ := initializeOpenings_quiet hinit
      exact fun r hr => .inl (hq.revisions ▸ hr)
  | @created p w db₀ db₁ db₂ db₃ r v occurredAt accounts cs _ _ hinit _ h _ =>
    obtain ⟨O, rfl⟩ := initializeOpenings_frame hinit
    obtain ⟨P, M, rfl⟩ := sync_frame h.synced
    obtain ⟨P, R, rfl⟩ := h.receipt.frame
    obtain ⟨_, A, rfl⟩ := postDeltas_changes h.posted
    intro r hr
    rcases List.mem_cons.1 hr with rfl | hr
    · exact .inr (attributed_record rfl ⟨rfl, rfl⟩)
    · exact .inl hr
  | @edited p payload old db₀ db₁ db₂ db₃ r stored vs fromNative toNative occurredAt accounts cs _ _ _
      hinit _ h _ =>
    obtain ⟨O, rfl⟩ := initializeOpenings_frame hinit
    obtain ⟨P, M, rfl⟩ := sync_frame h.synced
    obtain ⟨P, R, rfl⟩ := h.receipt.frame
    obtain ⟨_, A, rfl⟩ := postDeltas_changes h.posted
    intro r hr
    rcases List.mem_cons.1 hr with rfl | hr
    · exact .inr (attributed_record rfl ⟨rfl, congrArg (· + 1) h.revision⟩)
    · exact .inl hr
  | deleted _ hinit _ h _ =>
    obtain ⟨O, rfl⟩ := initializeOpenings_frame hinit
    obtain ⟨P, M, rfl⟩ := sync_frame h.synced
    obtain ⟨_, A, rfl⟩ := postDeltas_changes h.posted
    exact fun r hr => .inl (List.mem_filter.1 hr).1
  | @reconciled p payload db₀ db₁ _ _ s _ _ hinit _ _ _ _ hfold hresult _ =>
    obtain ⟨O, rfl⟩ := initializeOpenings_frame hinit
    intro r hr
    rcases reconcileAccounts_listed hfold r (by rw [hresult] at hr; exact hr) with hold | ⟨hop, hitem⟩
    · exact .inl hold
    · refine .inr (attributed_record hop ⟨⟨payload.date, s.items⟩, ?_, hitem⟩)
      rw [hresult]
      exact AList.lookup_insert _
  | quiet hq _ _ => exact fun r hr => .inl (hq.revisions ▸ hr)

/-- The trail of every transaction, and who wrote it. -/
structure Audited (db : Database) : Prop where
  trail : Trail db
  attributed : ∀ r ∈ db.revisions, Attributed db r

theorem Audited.step (h : Audited db) (call : Call) (hsound : Sound call.clock.today db) :
    Audited (step db call) := by
  have hext := (step_changes call hsound).toExtends
  rcases step_effect call hsound with e | ⟨response, heffect⟩
  · rwa [e]
  · refine ⟨heffect.writes.trail h.trail, fun r hr => ?_⟩
    rcases heffect.attributed r hr with hold | hnew
    · exact (h.attributed r hold).mono hext
    · exact hnew

theorem Reachable.audited (h : Reachable today db) : Audited db := by
  obtain ⟨d₀, db₀, himp, hrun⟩ := h
  have hstart : Audited db₀ := ⟨himp.trail, fun r hr operation hop => by
    rw [himp.revisions r hr] at hop
    cases hop⟩
  have key := hrun.induct (I := fun d db => Sound d db ∧ Audited db) ⟨himp.sound, hstart⟩
    fun _ _ call _ hv hle _ hs =>
      have hl := hs.1.later hv hle
      ⟨(step_changes call hl).sound hl, hs.2.step call hl⟩
  exact key.2

/-- **The audit trail.** In every reachable database a transaction has one revision row for each
revision since its creation or import, down from its current one, and the operation of each is
recorded and asked for it; an id without a transaction has no rows. -/
theorem audit_trail (hreach : Reachable today db) (id : TransactionId) :
    (db.transactions.lookup id = none → serverRevisions db id = []) ∧
    ∀ t, db.transactions.lookup id = some t → ∃ base, Numbered db id t base ∧
      ∀ r ∈ serverRevisions db id, ∃ operation row, r.operationId = some operation ∧
        db.operations.lookup operation = some row ∧ Wrote db r row.fingerprint := by
  obtain ⟨htrail, hattributed⟩ := hreach.audited
  refine ⟨htrail.absent id, fun t ht => ?_⟩
  obtain ⟨base, hnumbered⟩ := htrail.numbered id t ht
  refine ⟨base, hnumbered, fun r hr => ?_⟩
  obtain ⟨hmem, hr⟩ := List.mem_filter.1 hr
  obtain ⟨operation, hop⟩ := Option.isSome_iff_exists.1 (of_decide_eq_true hr).2
  obtain ⟨row, hrow, hwrote⟩ := hattributed r hmem operation hop
  exact ⟨operation, row, hop, hrow, hwrote⟩

/-! ## Lost updates -/

/-- The transaction and the revision that a request is made on; a creation is made on no revision. -/
def Request.madeOn : Request → Option (TransactionId × Nat)
  | .create p => some (p.transactionId, 0)
  | .edit p => some (p.transaction.transactionId, p.expectedRevision)
  | .delete p => some (p.transactionId, p.expectedRevision)
  | .reconcile _ | .correct _ | .complete _ | .close _ | .createCategory _ | .cancelBudget _
  | .saveBudget _ | .saveExpectedIncome _ | .refresh | .startup => none

def Request.deletes (id : TransactionId) : Request → Bool
  | .delete p => p.transactionId = id
  | .create _ | .edit _ | .reconcile _ | .correct _ | .complete _ | .close _ | .createCategory _
  | .cancelBudget _ | .saveBudget _ | .saveExpectedIncome _ | .refresh | .startup => false

/-- The operation of the call is not a replay. -/
def IsNew (db : Database) (call : Call) : Prop :=
  ∀ operation, call.request.operationId = some operation → db.operations.lookup operation = none

/-- The revision that a request is made on is the current one, and the next one follows it. -/
structure MadeOn (db : Database) (call : Call) (id : TransactionId) (n : Nat) (db' : Database) :
    Prop where
  before : (db.transactions.lookup id = none ∧ n = 0) ∨
    ∃ t, db.transactions.lookup id = some t ∧ t.revision = n
  after : call.request.deletes id = false →
    ∃ t, db'.transactions.lookup id = some t ∧ t.revision = n + 1

theorem handle_madeOn {n : Nat} (h : handle db call = .ok (db', response)) (hnew : IsNew db call)
    (hm : call.request.madeOn = some (id, n)) : MadeOn db call id n db' := by
  obtain ⟨clock, actor, request⟩ := call
  cases request with
  | create payload =>
    simp only [handle, createTransaction, Except.bind_eq_ok, Except.mapError_eq_ok] at h
    obtain ⟨w, hn, db₀, hinit, h⟩ := h
    cases hm
    have hfresh := hnew payload.operationId rfl
    obtain ⟨hop, hid⟩ := normalize_operationId hn
    obtain ⟨O, rfl⟩ := initializeOpenings_frame hinit
    rcases once_ok h with ⟨row, hrow, -⟩ | ⟨-, db₁, hb, rfl⟩
    · rw [hop] at hrow
      exact absurd (hfresh.symm.trans hrow) (by simp)
    · obtain ⟨r, v, occurredAt, accounts, d₁, d₂, cs, hc, -⟩ := createBody_ok hb
      obtain ⟨P, M, rfl⟩ := sync_frame hc.synced
      obtain ⟨P, R, rfl⟩ := hc.receipt.frame
      obtain ⟨_, A, rfl⟩ := postDeltas_changes hc.posted
      refine ⟨.inl ⟨hid ▸ hc.fresh, rfl⟩, fun _ => ?_⟩
      rw [← hid]
      exact ⟨_, AList.lookup_insert _, rfl⟩
  | edit payload =>
    simp only [handle, editTransaction, Except.bind_eq_ok, Except.mapError_eq_ok] at h
    obtain ⟨w, hn, _, _, _, _, db₀, hinit, h⟩ := h
    cases hm
    have hfresh := hnew payload.transaction.operationId rfl
    obtain ⟨hop, hid⟩ := normalize_operationId hn
    obtain ⟨O, rfl⟩ := initializeOpenings_frame hinit
    rcases once_ok h with ⟨row, hrow, -⟩ | ⟨-, db₁, hb, rfl⟩
    · rw [hop] at hrow
      exact absurd (hfresh.symm.trans hrow) (by simp)
    · obtain ⟨old, r, stored, vs, fromNative, toNative, occurredAt, accounts, d₁, d₂, d₃, cs, he, rfl,
        -⟩ := editBody_ok hb
      obtain ⟨P, M, rfl⟩ := sync_frame he.synced
      obtain ⟨P, R, rfl⟩ := he.receipt.frame
      obtain ⟨_, A, rfl⟩ := postDeltas_changes he.posted
      refine ⟨.inr ⟨old, hid ▸ he.found, he.revision⟩, fun _ => ?_⟩
      rw [← hid]
      exact ⟨_, AList.lookup_insert _, congrArg (· + 1) he.revision⟩
  | delete payload =>
    simp only [handle, deleteTransaction, Except.bind_eq_ok, Except.mapError_eq_ok] at h
    obtain ⟨_, _, _, _, db₀, hinit, h⟩ := h
    cases hm
    have hfresh := hnew payload.operationId rfl
    obtain ⟨O, rfl⟩ := initializeOpenings_frame hinit
    rcases once_ok h with ⟨row, hrow, -⟩ | ⟨-, db₁, hb, rfl⟩
    · exact absurd (hfresh.symm.trans hrow) (by simp)
    · obtain ⟨old, stored, accounts, d₁, cs, hd, -⟩ := deleteBody_ok hb
      refine ⟨.inr ⟨old, hd.found, hd.revision⟩, fun hnot => ?_⟩
      simp [Request.deletes] at hnot
  | reconcile _ => cases hm
  | correct _ => cases hm
  | complete _ => cases hm
  | close _ => cases hm
  | createCategory _ => cases hm
  | cancelBudget _ => cases hm
  | saveBudget _ => cases hm
  | saveExpectedIncome _ => cases hm
  | refresh => cases hm
  | startup => cases hm

/-- A transaction is there, at the revision `n` or a later one. -/
def Reached (db : Database) (id : TransactionId) (n : Nat) : Prop :=
  ∃ t, db.transactions.lookup id = some t ∧ n ≤ t.revision

/-- A write goes to the next revision of its transaction and keeps the others. -/
theorem Reached.write {n : Nat} {id' : TransactionId} {t : Transaction} (h : Reached db id n)
    (hnext : NextRevision (db.transactions.lookup id') t)
    (ht : db'.transactions = db.transactions.insert id' t) : Reached db' id n := by
  obtain ⟨t₀, ht₀, hle⟩ := h
  rw [Reached, ht]
  by_cases he : id = id'
  · subst he
    refine ⟨t, AList.lookup_insert _, ?_⟩
    rcases hnext with ⟨hnone, -⟩ | ⟨o, ho, hrevision, -⟩
    · rw [ht₀] at hnone
      cases hnone
    · rw [ht₀] at ho
      cases ho
      omega
  · exact ⟨t₀, by rw [AList.lookup_insert_ne he]; exact ht₀, hle⟩

theorem Writes.reached {n : Nat} (hw : Writes db call db') (hnot : call.request.deletes id = false)
    (h : Reached db id n) : Reached db' id n := by
  cases hw with
  | none ht _ => rwa [Reached, ht]
  | one hnext ht _ => exact h.write hnext ht
  | many _ ht₀ _ hfold ht _ =>
    rw [Reached, ht]
    refine Except.foldlM_induction (fun s : ReconciliationState => Reached s.db id n) hfold
      (by rwa [Reached, ht₀]) fun requested _ s s' hs hstep => ?_
    obtain ⟨account, balance, existing, id', activity, v, row, hrec, -⟩ := reconcileAccount_ok hstep
    exact hs.write hrec.next (by rw [hrec.result]; rfl)
  | @erased payload _ hrequest ht _ =>
    have hne : id ≠ payload.transactionId := by
      rintro rfl
      simp [hrequest, Request.deletes] at hnot
    obtain ⟨t, hl, hle⟩ := h
    exact ⟨t, by rw [ht, AList.lookup_erase_ne hne]; exact hl, hle⟩

theorem RunWhere.reached {n : Nat} {d d' : Date}
    (hrun : RunWhere (fun _ call => call.request.deletes id = false) d db d' db')
    (hsound : Sound d db) (h : Reached db id n) : Reached db' id n := by
  have key := hrun.induct (I := fun d db => Sound d db ∧ Reached db id n) ⟨hsound, h⟩
    fun _ db₁ call _ hv hle hnot hs => by
      have hl := hs.1.later hv hle
      refine ⟨(step_changes call hl).sound hl, ?_⟩
      rcases step_effect call hl with e | ⟨response, heffect⟩
      · rw [e]
        exact hs.2
      · exact heffect.writes.reached hnot hs.2
  exact key.2

/-- **No lost update.** Of two calls that are made on a transaction and succeed, with no deletion of
it between them, the later one was made on a later revision: it saw what the first one wrote. -/
theorem no_lost_update {later : Call} {db₁ db₂ db₃ : Database} {day : Date} {n m : Nat}
    {response' : Response} (hreach : Reachable today db) (hv : call.clock.today.Valid)
    (hle : today ≤ call.clock.today) (h : handle db call = .ok (db₁, response))
    (hnew : IsNew db call) (hn : call.request.madeOn = some (id, n))
    (hkeep : call.request.deletes id = false)
    (hrun : RunWhere (fun _ c => c.request.deletes id = false) call.clock.today db₁ day db₂)
    (h' : handle db₂ later = .ok (db₃, response')) (hnew' : IsNew db₂ later)
    (hm : later.request.madeOn = some (id, m)) : n < m := by
  have hsound := hreach.sound.later hv hle
  obtain ⟨t, ht, hrevision⟩ := (handle_madeOn h hnew hn).after hkeep
  have hreached : Reached db₂ id (n + 1) :=
    hrun.reached ((handle_worked h hsound).1.sound hsound) ⟨t, ht, hrevision.ge⟩
  obtain ⟨t', ht', hle'⟩ := hreached
  rcases (handle_madeOn h' hnew' hm).before with ⟨hnone, -⟩ | ⟨t₂, ht₂, rfl⟩
  · rw [ht'] at hnone
    cases hnone
  · rw [ht'] at ht₂
    cases ht₂
    omega

/-! An expense is entered and edited twice. -/

def entered : List Call := opened ++ [callOn october 3 (.create (spend 100 200 ⟨october, 3⟩ 20))]

def firstEdit : Call := callOn october 4 (.edit ⟨spend 101 200 ⟨october, 3⟩ 25, 1, [(1, 1)]⟩)
def secondEdit : Call := callOn october 5 (.edit ⟨spend 102 200 ⟨october, 3⟩ 30, 2, [(1, 2)]⟩)

theorem audit_trail_edits :
    let db := run (household 1000) (entered ++ [firstEdit, secondEdit])
    (serverRevisions db 200).map (·.revision) = [3, 2, 1] ∧
      ∃ t base, db.transactions.lookup 200 = some t ∧ Numbered db 200 t base := by
  intro db
  have hreach : Reachable ⟨october, 5⟩ db :=
    household_reachable 1000 (by decide : Chronological _ (entered ++ [firstEdit, secondEdit]))
  obtain ⟨t, ht⟩ := Option.isSome_iff_exists.1
    (by decide +kernel : (db.transactions.lookup 200).isSome = true)
  obtain ⟨base, hnumbered, -⟩ := (audit_trail hreach 200).2 t ht
  exact ⟨by decide +kernel, t, base, ht, hnumbered⟩

theorem no_lost_update_edits :
    let db := run (household 1000) entered
    (handle db firstEdit).isOk = true ∧ (handle (step db firstEdit) secondEdit).isOk = true ∧
      1 < 2 := by
  intro db
  have hreach : Reachable ⟨october, 3⟩ db :=
    household_reachable 1000 (by decide : Chronological _ entered)
  obtain ⟨response, h⟩ : ∃ response, handle db firstEdit = .ok (step db firstEdit, response) :=
    exists_ok_of_step (by decide +kernel)
  obtain ⟨response', h'⟩ : ∃ response', handle (step db firstEdit) secondEdit =
      .ok (step (step db firstEdit) secondEdit, response') := exists_ok_of_step (by decide +kernel)
  have hnew : IsNew db firstEdit := by
    rintro operation ⟨⟩
    exact Option.isNone_iff_eq_none.1 (by decide +kernel)
  have hnew' : IsNew (step db firstEdit) secondEdit := by
    rintro operation ⟨⟩
    exact Option.isNone_iff_eq_none.1 (by decide +kernel)
  exact ⟨by rw [h]; rfl, by rw [h']; rfl,
    no_lost_update hreach (by decide) (by decide) h hnew rfl rfl (.refl _ _) h' hnew' rfl⟩

end Server
