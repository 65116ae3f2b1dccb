import Presto.Effects

/-!
# The operation log

Operations are numbered in the order they are recorded and are never dropped; a revision row names
the recorded operation that wrote it. Revision rows vanish with their transaction, and then a
deletion of it is in the log.
-/

namespace Server

open Budget BudgetLedger

variable {today : Date} {db db' : Database} {call : Call} {response : Response}

/-- The transaction that an operation deleted. -/
def deletedTransaction : Response → Option DeletedTransaction
  | .deleted _ _ _ t => some t
  | _ => none

theorem deletedTransaction_of_not {r : Response} (h : isDeletion r = false) :
    deletedTransaction r = none := by
  cases r <;> first | rfl | cases h

/-- Row numbers do not exceed the length of the log, and revisions name recorded operations. -/
structure LogSound (db : Database) : Prop where
  rowids : ∀ id row, db.operations.lookup id = some row →
    row.rowid ≤ db.operations.entries.length
  revisions : ∀ x ∈ db.revisions, ∀ id, x.operationId = some id →
    (db.operations.lookup id).isSome = true

theorem Imported.logSound (h : Imported today db) : LogSound db where
  rowids id row hrow := by simp [h.operations] at hrow
  revisions x hx id hid := by simp [h.revisions x hx] at hid

theorem length_recordOperation {id : OperationId} (h : db.operations.lookup id = none)
    (actor : Subject) (fingerprint : Fingerprint) (r : Response) :
    (db.recordOperation id actor fingerprint r).operations.entries.length
      = db.operations.entries.length + 1 := by
  have hk : id ∉ db.operations.entries.keys := AList.lookup_eq_none.1 h
  simp [Database.recordOperation, List.kerase_of_notMem_keys hk]

/-- Only the operations count for what is recorded next. -/
theorem recordOperation_congr (h : db'.operations = db.operations) (id : OperationId)
    (actor : Subject) (fingerprint : Fingerprint) (r : Response) :
    (db'.recordOperation id actor fingerprint r).operations
      = (db.recordOperation id actor fingerprint r).operations := by
  simp [Database.recordOperation, h]

/-! ## The effect on the log -/

/-- What a call does to the log: nothing new about transactions, or revision rows of a new operation,
or the deletion of a transaction with its revision rows. -/
inductive LogEffect (db : Database) (actor : Subject) (response : Response) (db' : Database) : Prop
  | kept (hrevisions : db'.revisions = db.revisions) (hoperations : db'.operations = db.operations)
  | recorded {id : OperationId} {fingerprint : Fingerprint} (rows : List TransactionRevision)
      (hfresh : db.operations.lookup id = none)
      (hoperations : db'.operations
        = (db.recordOperation id actor fingerprint response).operations)
      (hdeletion : isDeletion response = false) (hrevisions : db'.revisions = rows ++ db.revisions)
      (hrows : ∀ x ∈ rows, x.operationId = some id)
  | deleted {id : OperationId} {fingerprint : Fingerprint} {t : DeletedTransaction}
      (hfresh : db.operations.lookup id = none)
      (hoperations : db'.operations
        = (db.recordOperation id actor fingerprint response).operations)
      (hdeleted : deletedTransaction response = some t)
      (hrevisions : db'.revisions = db.revisions.filter fun x => x.transactionId ≠ t.id)

/-- The loop over reconciled accounts adds revision rows of its operation. -/
theorem reconcileAccounts_log {clock : Clock} {payload : ReconciliationRequest}
    {systemAccount : WriteAccount} {systemCategory : CategoryId} {s : ReconciliationState}
    {requests : List ReconciliationAccount}
    (h : requests.foldlM (reconcileAccount clock payload systemAccount systemCategory)
      ⟨db, [], []⟩ = .ok s) :
    s.db.operations = db.operations ∧ ∃ rows, s.db.revisions = rows ++ db.revisions ∧
      ∀ x ∈ rows, x.operationId = some payload.operationId := by
  refine Except.foldlM_induction
    (fun s : ReconciliationState => s.db.operations = db.operations ∧
      ∃ rows, s.db.revisions = rows ++ db.revisions ∧
        ∀ x ∈ rows, x.operationId = some payload.operationId)
    h ⟨rfl, [], rfl, by simp⟩ fun requested _ s s' hs hstep => ?_
  obtain ⟨ho, rows, hr, hrows⟩ := hs
  obtain ⟨account, balance, existing, id, activity, v, row, hrec, _⟩ := reconcileAccount_ok hstep
  rw [hrec.result]
  refine ⟨ho, ⟨id, row.revision, some payload.operationId⟩ :: rows, by simp [adjusted, hr], ?_⟩
  intro x hx
  rcases List.mem_cons.1 hx with rfl | hx
  · rfl
  · exact hrows x hx

theorem Effect.log (h : Effect db call response db') : LogEffect db call.actor response db' := by
  cases h with
  | replayed _ _ _ _ hinit =>
    rcases hinit with rfl | hinit
    · exact .kept rfl rfl
    · obtain ⟨hq, ho⟩ := initializeOpenings_quiet hinit
      exact .kept hq.revisions ho
  | @created p w db₀ db₁ db₂ db₃ r v occurredAt accounts cs _ _ hinit hfresh h hr =>
    obtain ⟨O, rfl⟩ := initializeOpenings_frame hinit
    obtain ⟨P, M, rfl⟩ := sync_frame h.synced
    obtain ⟨P, R, rfl⟩ := h.receipt.frame
    obtain ⟨_, A, rfl⟩ := postDeltas_changes h.posted
    exact .recorded [⟨w.transactionId, 1, some w.operationId⟩] hfresh rfl (hr ▸ rfl) rfl (by simp)
  | @edited p payload old db₀ db₁ db₂ db₃ r stored vs fromNative toNative occurredAt accounts cs _ _ _
      hinit hfresh h hr =>
    obtain ⟨O, rfl⟩ := initializeOpenings_frame hinit
    obtain ⟨P, M, rfl⟩ := sync_frame h.synced
    obtain ⟨P, R, rfl⟩ := h.receipt.frame
    obtain ⟨_, A, rfl⟩ := postDeltas_changes h.posted
    exact .recorded [⟨payload.transaction.transactionId, old.revision + 1,
      some payload.transaction.operationId⟩] hfresh rfl (hr ▸ rfl) rfl (by simp)
  | deleted _ hinit hfresh h hr =>
    obtain ⟨O, rfl⟩ := initializeOpenings_frame hinit
    obtain ⟨P, M, rfl⟩ := sync_frame h.synced
    obtain ⟨_, A, rfl⟩ := postDeltas_changes h.posted
    have hdeleted := congrArg deletedTransaction hr
    exact .deleted hfresh rfl hdeleted rfl
  | @reconciled p payload db₀ db₁ _ _ s _ _ hinit hfresh _ _ _ hfold hresult hr =>
    obtain ⟨O, rfl⟩ := initializeOpenings_frame hinit
    obtain ⟨ho, rows, hrev, hrows⟩ := reconcileAccounts_log hfold
    have hops : db₁.operations = db.operations := by rw [hresult]; exact ho
    have hrevs : db₁.revisions = rows ++ db.revisions := by rw [hresult]; exact hrev
    exact .recorded rows hfresh (recordOperation_congr hops _ _ _ _) (hr ▸ rfl) hrevs hrows
  | quiet hq hlogs hdel =>
    rcases hlogs with ho | ⟨id, fp, hfresh, _, ho⟩
    · exact .kept hq.revisions ho
    · exact .recorded [] hfresh ho hdel (by simp [hq.revisions]) (by simp)

/-- The log after one recorded operation. -/
theorem lookup_recordOperation (id id' : OperationId) (actor : Subject) (fingerprint : Fingerprint)
    (r : Response) : (db.recordOperation id actor fingerprint r).operations.lookup id'
      = if id' = id then some ⟨db.operations.entries.length + 1, actor, fingerprint, r⟩
        else db.operations.lookup id' := by
  simp only [Database.recordOperation]
  rw [AList.lookup_insert_of]

theorem rowids_record (h : LogSound db) {id : OperationId} (hfresh : db.operations.lookup id = none)
    {actor : Subject} {fingerprint : Fingerprint}
    (ho : db'.operations = (db.recordOperation id actor fingerprint response).operations)
    (id' : OperationId) (row : Operation) (hrow : db'.operations.lookup id' = some row) :
    row.rowid ≤ db'.operations.entries.length := by
  rw [ho, length_recordOperation hfresh]
  rw [ho, lookup_recordOperation] at hrow
  split at hrow
  · cases hrow
    exact le_rfl
  · exact (h.rowids id' row hrow).trans (Nat.le_succ _)

theorem LogEffect.logSound {actor : Subject} (h : LogEffect db actor response db')
    (hlog : LogSound db) : LogSound db' := by
  have hkeeps : ∀ {id fingerprint}, db.operations.lookup id = none →
      db'.operations = (db.recordOperation id actor fingerprint response).operations →
      ∀ id', (db.operations.lookup id').isSome = true →
        (db'.operations.lookup id').isSome = true := by
    intro id fingerprint _ ho id' hs
    rw [ho, lookup_recordOperation]
    split
    · rfl
    · exact hs
  cases h with
  | kept hrev ho => exact ⟨by rw [ho]; exact hlog.rowids, by rw [hrev, ho]; exact hlog.revisions⟩
  | recorded _ hfresh ho _ hrev hrows =>
    refine ⟨rowids_record hlog hfresh ho, fun x hx id' hid' => ?_⟩
    rw [hrev, List.mem_append] at hx
    rcases hx with hx | hx
    · rw [hrows x hx] at hid'
      cases hid'
      rw [ho, lookup_recordOperation, if_pos rfl]
      rfl
    · exact hkeeps hfresh ho id' (hlog.revisions x hx id' hid')
  | deleted hfresh ho _ hrev =>
    refine ⟨rowids_record hlog hfresh ho, fun x hx id' hid' => ?_⟩
    rw [hrev] at hx
    exact hkeeps hfresh ho id' (hlog.revisions x (List.mem_filter.1 hx).1 id' hid')

/-- The effect of a step. -/
theorem step_effect (call : Call) (hsound : Sound call.clock.today db) :
    step db call = db ∨ ∃ response, Effect db call response (step db call) := by
  unfold step
  split
  · rename_i db' response h
    exact .inr ⟨response, handle_effect h hsound⟩
  · exact .inl rfl

theorem LogSound.step (h : LogSound db) (call : Call) (hsound : Sound call.clock.today db) :
    LogSound (step db call) := by
  rcases step_effect call hsound with e | ⟨response, heffect⟩
  · rwa [e]
  · exact heffect.log.logSound h

theorem Reachable.logSound (h : Reachable today db) : LogSound db := by
  obtain ⟨d₀, db₀, himp, hrun⟩ := h
  have key := hrun.induct (I := fun d db => Sound d db ∧ LogSound db) ⟨himp.sound, himp.logSound⟩
    fun _ _ call _ hv hle _ hs =>
      have hl := hs.1.later hv hle
      ⟨(step_changes call hl).sound hl, hs.2.step call hl⟩
  exact key.2

/-! ## Deletions -/

/-- A deletion of the transaction is recorded after the operation. -/
def DeletedAfter (db : Database) (operation : OperationId) (id : TransactionId) : Prop :=
  ∃ row, db.operations.lookup operation = some row ∧ ∃ later row',
    db.operations.lookup later = some row' ∧ row.rowid < row'.rowid ∧
      ∃ t, deletedTransaction row'.response = some t ∧ t.id = id

/-- The revision row that an operation wrote for a transaction. -/
def Revised (db : Database) (operation : OperationId) (id : TransactionId) : Prop :=
  ∃ x ∈ db.revisions, x.operationId = some operation ∧ x.transactionId = id

/-- A recorded operation wrote at most the revision row of one transaction, and the row is there
until the transaction is deleted. -/
structure Tracked (db : Database) (operation : OperationId) (id : TransactionId) : Prop where
  recorded : (db.operations.lookup operation).isSome = true
  only : ∀ x ∈ db.revisions, x.operationId = some operation → x.transactionId = id
  revised : Revised db operation id ↔ ¬ DeletedAfter db operation id

/-- Later records leave the question of a deletion open or answer it. -/
theorem deletedAfter_record (hlog : LogSound db) {id operation : OperationId} {tx : TransactionId}
    (hfresh : db.operations.lookup id = none) {actor : Subject} {fingerprint : Fingerprint}
    (hrecorded : (db.operations.lookup operation).isSome = true)
    (ho : db'.operations = (db.recordOperation id actor fingerprint response).operations) :
    DeletedAfter db' operation tx ↔ DeletedAfter db operation tx ∨
      ∃ t, deletedTransaction response = some t ∧ t.id = tx := by
  have hne : ∀ {o}, (db.operations.lookup o).isSome = true → o ≠ id := by
    rintro o hs rfl
    simp [hfresh] at hs
  have hsame : ∀ {o}, (db.operations.lookup o).isSome = true →
      db'.operations.lookup o = db.operations.lookup o := by
    intro o hs
    rw [ho, lookup_recordOperation, if_neg (hne hs)]
  unfold DeletedAfter
  rw [hsame hrecorded]
  constructor
  · rintro ⟨row, hrow, later, row', hlater, hlt, t, ht, rfl⟩
    rw [ho, lookup_recordOperation] at hlater
    split at hlater
    · cases hlater
      exact .inr ⟨t, ht, rfl⟩
    · exact .inl ⟨row, hrow, later, row', hlater, hlt, t, ht, rfl⟩
  · rintro (⟨row, hrow, later, row', hlater, hlt, t, ht, rfl⟩ | ⟨t, ht, rfl⟩)
    · exact ⟨row, hrow, later, row', by rw [hsame (by simp [hlater]), hlater], hlt, t, ht, rfl⟩
    · obtain ⟨row, hrow⟩ := Option.isSome_iff_exists.1 hrecorded
      refine ⟨row, hrow, id, _, by rw [ho, lookup_recordOperation, if_pos rfl], ?_, t, ht, rfl⟩
      exact Nat.lt_succ_of_le (hlog.rowids _ row hrow)

theorem LogEffect.tracked {actor : Subject} {operation : OperationId} {id : TransactionId}
    (h : LogEffect db actor response db') (hlog : LogSound db) (ht : Tracked db operation id) :
    Tracked db' operation id := by
  obtain ⟨hrec, honly, hrevised⟩ := ht
  have hkept : ∀ {o fp}, db.operations.lookup o = none →
      db'.operations = (db.recordOperation o actor fp response).operations →
      (db'.operations.lookup operation).isSome = true ∧ o ≠ operation := by
    intro o fp hfresh ho
    have hne : operation ≠ o := by
      rintro rfl
      simp [hfresh] at hrec
    rw [ho, lookup_recordOperation, if_neg hne]
    exact ⟨hrec, hne.symm⟩
  cases h with
  | kept hrev ho =>
    refine ⟨by rw [ho]; exact hrec, by rw [hrev]; exact honly, ?_⟩
    simpa only [Revised, DeletedAfter, hrev, ho] using hrevised
  | @recorded o fp rows hfresh ho hdel hrev hrows =>
    obtain ⟨hrec', hne⟩ := hkept hfresh ho
    have hnew : ∀ x ∈ rows, x.operationId ≠ some operation := fun x hx e =>
      hne (Option.some.inj ((hrows x hx).symm.trans e))
    refine ⟨hrec', fun x hx hop => ?_, ?_⟩
    · rw [hrev, List.mem_append] at hx
      exact honly x (hx.resolve_left fun hx => hnew x hx hop) hop
    · rw [deletedAfter_record hlog hfresh hrec ho, deletedTransaction_of_not hdel]
      have hrows' : Revised db' operation id ↔ Revised db operation id := by
        unfold Revised
        rw [hrev]
        refine ⟨fun ⟨x, hx, h1, h2⟩ => ⟨x, ?_, h1, h2⟩, fun ⟨x, hx, h1, h2⟩ =>
          ⟨x, List.mem_append_right _ hx, h1, h2⟩⟩
        exact (List.mem_append.1 hx).resolve_left fun hx => hnew x hx h1
      rw [hrows', hrevised]
      simp
  | @deleted o fp t hfresh ho hdel hrev =>
    obtain ⟨hrec', _⟩ := hkept hfresh ho
    refine ⟨hrec', fun x hx hop => ?_, ?_⟩
    · rw [hrev] at hx
      exact honly x (List.mem_filter.1 hx).1 hop
    · rw [deletedAfter_record hlog hfresh hrec ho, hdel]
      have hrows' : Revised db' operation id ↔ Revised db operation id ∧ t.id ≠ id := by
        unfold Revised
        rw [hrev]
        constructor
        · rintro ⟨x, hx, h1, h2⟩
          obtain ⟨hx, hp⟩ := List.mem_filter.1 hx
          exact ⟨⟨x, hx, h1, h2⟩, fun e => of_decide_eq_true hp (h2.trans e.symm)⟩
        · rintro ⟨⟨x, hx, h1, h2⟩, hne⟩
          refine ⟨x, List.mem_filter.2 ⟨hx, decide_eq_true fun e => hne ?_⟩, h1, h2⟩
          rw [← e, h2]
      rw [hrows', hrevised, not_or]
      simp

/-- What a step keeps, every run keeps. -/
theorem RunWhere.tracked {P : Database → Call → Prop} {d d' : Date} {operation : OperationId}
    {id : TransactionId} (h : RunWhere P d db d' db') (hsound : Sound d db) (hlog : LogSound db)
    (ht : Tracked db operation id) : Tracked db' operation id := by
  have key := h.induct
    (I := fun d db => Sound d db ∧ LogSound db ∧ Tracked db operation id) ⟨hsound, hlog, ht⟩
    fun _ db₁ call _ hv hle _ hs => by
      have hl := hs.1.later hv hle
      refine ⟨(step_changes call hl).sound hl, hs.2.1.step call hl, ?_⟩
      rcases step_effect call hl with e | ⟨response, heffect⟩
      · rw [e]
        exact hs.2.2
      · exact heffect.log.tracked hs.2.1 hs.2.2
  exact key.2.2

end Server
