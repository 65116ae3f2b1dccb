import Presto.Accounts
import Presto.EntryAccounts

/-!
# A close and the reconciliation it relies on

`reconciliation_current` looks for operations after the reconciliation: for revision rows of what is
activity now, and for recorded deletions of activity (`Outdated`). A row that a call changes is
activity afterwards, or was deleted, or carried nothing before and after (`RowStep`); the exception
is an edit that turns activity into a reallocation, which leaves no trace. Without such edits an
operation either leaves the balances at the end of the month alone or outdates the reconciliation,
for good.
-/

namespace AList

/-- Tables whose rows feed a total alike have one total. -/
theorem total_eq_of_lookup {κ α M : Type*} [DecidableEq κ] [AddCommMonoid M] {f : κ → α → M} :
    ∀ {t u : Table κ α}, (∀ a, (t.lookup a).elim 0 (f a) = (u.lookup a).elim 0 (f a)) →
      t.total f = u.total f := by
  intro t
  induction t using AList.insertRec with
  | H0 =>
    intro u h
    rw [total_empty]
    refine (total_zero fun a b hb => ?_).symm
    have ha := h a
    rw [hb] at ha
    simpa using ha.symm
  | IH a b t hnew ih =>
    intro u h
    have hnone : t.lookup a = none := lookup_eq_none.2 hnew
    have hrest : t.total f = (u.erase a).total f := by
      apply ih
      intro x
      rw [lookup_erase_of]
      by_cases hx : x = a
      · rw [if_pos hx, hx, hnone]
      · rw [if_neg hx, ← h x, lookup_insert_of, if_neg hx]
    have hfirst := h a
    rw [lookup_insert_of, if_pos rfl, Option.elim_some] at hfirst
    rw [total_insert_new hnone, hrest, hfirst]
    cases hu : u.lookup a with
    | some c => rw [total_erase hu, Option.elim_some]
    | none =>
      have herase : u.erase a = u := by
        ext1
        exact List.kerase_of_notMem_keys (lookup_eq_none.1 hu)
      rw [herase, Option.elim_none, zero_add]

end AList

namespace Server

open Budget BudgetLedger

variable {today : Date} {db db' : Database} {call : Call} {response : Response}
  {real : AccountId → Bool} {date : Date}

/-- What a transaction has added to an account by the end of a day. -/
def effectThrough (date : Date) (a : AccountId) (t : Transaction) : Decimal :=
  if t.effectiveDate ≤ date then netEffect a t else 0

/-- The sum of the stored transactions of an account by the end of a day. -/
def balanceThrough (db : Database) (date : Date) (a : AccountId) : Decimal :=
  db.transactions.total fun _ t => effectThrough date a t

/-- The account activity that a reconciliation of the day has to have seen. -/
def IsActivity (real : AccountId → Bool) (date : Date) (t : Transaction) : Prop :=
  t.effectiveDate ≤ date ∧ t.kind ≠ .reallocate ∧
    (t.fromAccountId.any real || t.toAccountId.any real) = true

/-- Something after row `watermark` of the log revised or deleted activity. -/
inductive Outdated (real : AccountId → Bool) (date : Date) (watermark : Nat) (db : Database) : Prop
  | revised {x : TransactionRevision} {o : OperationId} {row : Operation} {t : Transaction}
      (hx : x ∈ db.revisions) (ho : x.operationId = some o)
      (hrow : db.operations.lookup o = some row) (hlate : watermark < row.rowid)
      (ht : db.transactions.lookup x.transactionId = some t) (hactivity : IsActivity real date t)
  | deleted {o : OperationId} {row : Operation} (hrow : db.operations.lookup o = some row)
      (hlate : watermark < row.rowid) (hdeletes : deletesActivity date row.response = true)

/-- A reconciliation that is current is not outdated. -/
theorem not_outdated_of_current {batch : OperationId} {row : Operation}
    (h : reconciliationCurrent db date batch = .ok true)
    (hrow : db.operations.lookup batch = some row) :
    ¬ Outdated db.isRealAccount date row.rowid db := by
  simp only [reconciliationCurrent, hrow, Option.map_some, Except.fromOption, Except.bind_eq_ok,
    Except.ok.injEq, Except.pure_eq_ok, exists_eq_left', Bool.not_eq_eq_eq_not, Bool.not_true,
    Bool.or_eq_false_iff] at h
  intro hout
  cases hout with
  | @revised x o later t hx ho hlater hlate ht hactivity =>
    have hnone := List.any_eq_false.1 h.1 x hx
    apply hnone
    simp only [ho, Option.bind_some, hlater, ht, Option.any_some, Bool.and_eq_true,
      decide_eq_true_eq]
    exact ⟨hlate, ⟨hactivity.1, hactivity.2.1⟩, hactivity.2.2⟩
  | @deleted o later hlater hlate hdeletes =>
    refine List.any_eq_false.1 h.2 ⟨o, later⟩ (AList.mem_entries_iff.2 hlater) ?_
    simp only [Bool.and_eq_true, decide_eq_true_eq]
    exact ⟨hlate, hdeletes⟩

/-! ## What a call does to a row -/

/-- The row is no activity and moves no real account by the day. -/
structure Silent (real : AccountId → Bool) (date : Date) (t : Transaction) : Prop where
  activity : ¬ IsActivity real date t
  effect : ∀ a, real a = true → effectThrough date a t = 0

/-- The operation that a call has recorded. -/
def NewOperation (db db' : Database) (response : Response) (o : OperationId) : Prop :=
  ∃ row, db'.operations.lookup o = some row ∧
    row.rowid = db.operations.entries.length + 1 ∧ row.response = response

/-- A row stays with its revisions, or is activity with a revision of the new operation, or is silent
before and after, or its deletion is recorded. -/
inductive RowStep (real : AccountId → Bool) (date : Date) (db db' : Database)
    (response : Response) (id : TransactionId) : Prop
  | kept (h : db'.transactions.lookup id = db.transactions.lookup id)
      (hrevisions : ∀ x ∈ db.revisions, x.transactionId = id → x ∈ db'.revisions)
  | seen {t : Transaction} {x : TransactionRevision} {o : OperationId}
      (ht : db'.transactions.lookup id = some t) (hactivity : IsActivity real date t)
      (hx : x ∈ db'.revisions) (hid : x.transactionId = id) (ho : x.operationId = some o)
      (hnew : NewOperation db db' response o)
  | silent (hold : ∀ t, db.transactions.lookup id = some t → Silent real date t)
      (hnew : ∀ t, db'.transactions.lookup id = some t → Silent real date t)
  | removed {o : OperationId} (hdeletes : deletesActivity date response = true)
      (hnew : NewOperation db db' response o)

/-- A row that is activity now outdates the reconciliation. -/
theorem RowStep.outdated_of_seen {watermark : Nat} {t : Transaction} {x : TransactionRevision}
    {o : OperationId} {id : TransactionId} (hw : watermark ≤ db.operations.entries.length)
    (ht : db'.transactions.lookup id = some t) (hactivity : IsActivity real date t)
    (hx : x ∈ db'.revisions) (hid : x.transactionId = id) (ho : x.operationId = some o)
    (hnew : NewOperation db db' response o) : Outdated real date watermark db' := by
  obtain ⟨row, hrow, hrowid, -⟩ := hnew
  subst hid
  exact .revised hx ho hrow (by omega) ht hactivity

theorem outdated_of_removed {watermark : Nat} {o : OperationId}
    (hw : watermark ≤ db.operations.entries.length)
    (hdeletes : deletesActivity date response = true)
    (hnew : NewOperation db db' response o) : Outdated real date watermark db' := by
  obtain ⟨row, hrow, hrowid, hresponse⟩ := hnew
  exact .deleted hrow (by omega) (by rw [hresponse]; exact hdeletes)

/-- What outdates a reconciliation goes on doing so. -/
theorem Outdated.step {watermark : Nat} (h : Outdated real date watermark db)
    (hrows : ∀ id, RowStep real date db db' response id)
    (hoperations : Keeps db.operations db'.operations)
    (hw : watermark ≤ db.operations.entries.length) : Outdated real date watermark db' := by
  cases h with
  | @revised x o row t hx ho hrow hlate ht hactivity =>
    cases hrows x.transactionId with
    | kept hsame hrevisions =>
      exact .revised (hrevisions x hx rfl) ho (hoperations o row hrow) hlate (hsame.trans ht)
        hactivity
    | seen ht' hactivity' hx' hid ho' hnew =>
      exact RowStep.outdated_of_seen hw ht' hactivity' hx' hid ho' hnew
    | silent hold _ => exact absurd hactivity (hold t ht).activity
    | removed hdeletes hnew => exact outdated_of_removed hw hdeletes hnew
  | @deleted o row hrow hlate hdeletes => exact .deleted (hoperations o row hrow) hlate hdeletes

/-- A call outdates the reconciliation or leaves the balances of the day. -/
theorem outdated_or_balanced {watermark : Nat}
    (hrows : ∀ id, RowStep real date db db' response id)
    (hw : watermark ≤ db.operations.entries.length) :
    Outdated real date watermark db' ∨
      ∀ a, real a = true → balanceThrough db' date a = balanceThrough db date a := by
  by_cases hout : Outdated real date watermark db'
  · exact .inl hout
  · refine .inr fun a ha => AList.total_eq_of_lookup fun id => ?_
    cases hrows id with
    | kept hsame => rw [hsame]
    | seen ht hactivity hx hid ho hnew =>
      exact absurd (RowStep.outdated_of_seen hw ht hactivity hx hid ho hnew) hout
    | silent hold hnew =>
      have hzero : ∀ {o : Option Transaction}, (∀ t, o = some t → Silent real date t) →
          o.elim 0 (effectThrough date a) = 0 := by
        intro o ho
        cases o with
        | none => rfl
        | some t => exact (ho t rfl).effect a ha
      exact (hzero hnew).trans (hzero hold).symm
    | removed hdeletes hnew => exact absurd (outdated_of_removed hw hdeletes hnew) hout

/-! ## The rows of each call -/

theorem newOperation_record {id : OperationId} {actor : Subject} {fingerprint : Fingerprint}
    (h : db'.operations = (db.recordOperation id actor fingerprint response).operations) :
    NewOperation db db' response id := by
  refine ⟨⟨db.operations.entries.length + 1, actor, fingerprint, response⟩, ?_, rfl, rfl⟩
  rw [h, lookup_recordOperation, if_pos rfl]

/-- A transaction that is no activity is silent, when a reallocation has no real account. -/
theorem silent_of_not_activity {t : Transaction} (h : ¬ IsActivity real date t)
    (hsides : t.kind = .reallocate → SidesReal real t) : Silent real date t := by
  refine ⟨h, fun a ha => ?_⟩
  unfold effectThrough
  split
  · rename_i hdate
    have hnone : (t.fromAccountId.any real || t.toAccountId.any real) = false := by
      by_cases hkind : t.kind = .reallocate
      · obtain ⟨hfrom, hto⟩ := hsides hkind
        rw [hkind] at hfrom hto
        obtain ⟨b, hb, hfrom⟩ := Option.map_eq_some_iff.1 hfrom
        obtain ⟨c, hc, hto⟩ := Option.map_eq_some_iff.1 hto
        simp [hb, hc, hfrom, hto, realSides]
      · by_contra hany
        exact h ⟨hdate, hkind, Bool.eq_true_of_not_eq_false hany⟩
    rw [Bool.or_eq_false_iff] at hnone
    have hother : ∀ {o : Option AccountId}, o.any real = false → o ≠ some a := by
      rintro o ho rfl
      rw [Option.any_some, ha] at ho
      cases ho
    rw [netEffect, if_neg (hother hnone.2), if_neg (hother hnone.1), sub_zero]
  · rfl

/-- A recorded entry that is no reallocation has a real account. -/
theorem any_real_of_sides {t : Transaction} (h : SidesReal real t) (hwritten : t.kind ≠ .reconciliation)
    (hkind : t.kind ≠ .reallocate) :
    (t.fromAccountId.any real || t.toAccountId.any real) = true := by
  have hany : ∀ {o : Option AccountId}, o.map real = some true → o.any real = true := by
    intro o ho
    obtain ⟨b, rfl, hb⟩ := Option.map_eq_some_iff.1 ho
    exact hb
  obtain ⟨hfrom, hto⟩ := h
  rw [Bool.or_eq_true]
  cases hk : t.kind with
  | expense => exact .inl (hany (by rw [hfrom, hk]; rfl))
  | transfer => exact .inl (hany (by rw [hfrom, hk]; rfl))
  | income => exact .inr (hany (by rw [hto, hk]; rfl))
  | reallocate => exact absurd hk hkind
  | reconciliation => exact absurd hk hwritten

/-- The rows that a call leaves alone are kept. -/
theorem rowStep_of_same (htransactions : db'.transactions = db.transactions)
    (hrevisions : ∀ x ∈ db.revisions, x ∈ db'.revisions) (id : TransactionId) :
    RowStep real date db db' response id :=
  .kept (by rw [htransactions]) fun x hx _ => hrevisions x hx

/-- A row that a call writes under its operation is activity or silent, as it was before. -/
theorem rowStep_of_put {id : TransactionId} {t : Transaction} {rows : List TransactionRevision}
    {x : TransactionRevision} {o : OperationId}
    (htransactions : db'.transactions = db.transactions.insert id t)
    (hrevisions : db'.revisions = rows ++ db.revisions) (hx : x ∈ rows)
    (hid : x.transactionId = id) (ho : x.operationId = some o)
    (hnew : NewOperation db db' response o)
    (hsilent : ¬ IsActivity real date t → Silent real date t ∧
      ∀ old, db.transactions.lookup id = some old → Silent real date old)
    (id' : TransactionId) : RowStep real date db db' response id' := by
  by_cases hsame : id' = id
  · subst hsame
    have ht : db'.transactions.lookup id' = some t := by
      rw [htransactions, AList.lookup_insert_of, if_pos rfl]
    by_cases hactivity : IsActivity real date t
    · exact .seen ht hactivity (hrevisions ▸ List.mem_append_left _ hx) hid ho hnew
    · obtain ⟨hafter, hbefore⟩ := hsilent hactivity
      refine .silent hbefore fun u hu => ?_
      rw [ht] at hu
      cases hu
      exact hafter
  · refine .kept ?_ fun y hy _ => hrevisions ▸ List.mem_append_right _ hy
    rw [htransactions, AList.lookup_insert_of, if_neg hsame]

/-- An edit that is accepted for the first time makes no reallocation out of another kind, when the
entry is dated by the day. -/
def KeepsActivity (date : Date) (db : Database) (call : Call) : Prop :=
  ∀ p, call.request = .edit p → (handle db call).isOk = true →
    db.operations.lookup p.transaction.operationId = none → p.transaction.kind = .reallocate →
    ∀ old, db.transactions.lookup p.transaction.transactionId = some old →
      old.effectiveDate ≤ date → old.kind = .reallocate

/-- What a creation leaves in the log. -/
theorem Created.logged {clock : Clock} {w : WriteRequest} {r : ResolvedWrite}
    {v : TransactionValuation} {occurredAt : Option Timestamp} {accounts : List AccountUpdate}
    {db₁ db₂ : Database} {cs : List BudgetCategorySnapshot}
    (h : Created db clock w r v occurredAt accounts db₁ db₂ db' cs) :
    db'.operations = db.operations ∧
      db'.revisions = ⟨w.transactionId, 1, some w.operationId⟩ :: db.revisions := by
  obtain ⟨P, M, rfl⟩ := sync_frame h.synced
  obtain ⟨P, R, rfl⟩ := h.receipt.frame
  obtain ⟨_, A, rfl⟩ := postDeltas_changes h.posted
  exact ⟨rfl, rfl⟩

/-- An edit leaves the log to its caller. -/
theorem Edited.logged {clock : Clock} {payload : EditRequest} {old : Transaction}
    {r : ResolvedWrite} {stored : StoredEndpoints} {valuations : List ValuationRevision}
    {fromNative toNative : Decimal} {occurredAt : Option Timestamp} {accounts : List AccountUpdate}
    {db₁ db₂ : Database} {cs : List BudgetCategorySnapshot}
    (h : Edited db clock payload old r stored valuations fromNative toNative occurredAt accounts
      db₁ db₂ db' cs) :
    db'.operations = db.operations ∧ db'.revisions = db.revisions := by
  obtain ⟨P, M, rfl⟩ := sync_frame h.synced
  obtain ⟨P, R, rfl⟩ := h.receipt.frame
  obtain ⟨_, A, rfl⟩ := postDeltas_changes h.posted
  exact ⟨rfl, rfl⟩

/-- A deletion drops the revisions of its transaction. -/
theorem Deleted.logged {clock : Clock} {payload : DeleteRequest} {old : Transaction}
    {stored : StoredEndpoints} {accounts : List AccountUpdate} {db₁ : Database}
    {cs : List BudgetCategorySnapshot}
    (h : Deleted db clock payload old stored accounts db₁ db' cs) :
    db'.operations = db.operations ∧
      db'.revisions = db.revisions.filter fun x => x.transactionId ≠ payload.transactionId := by
  obtain ⟨P, M, rfl⟩ := sync_frame h.synced
  obtain ⟨_, A, rfl⟩ := postDeltas_changes h.posted
  exact ⟨rfl, rfl⟩

section Rows

variable {actor : Subject} {fingerprint : Fingerprint}

theorem Created.rowStep {clock : Clock} {w : WriteRequest} {r : ResolvedWrite}
    {v : TransactionValuation} {occurredAt : Option Timestamp} {accounts : List AccountUpdate}
    {db₁ db₂ db₃ : Database} {cs : List BudgetCategorySnapshot}
    (h : Created db clock w r v occurredAt accounts db₁ db₂ db₃ cs) (id : TransactionId) :
    RowStep db.isRealAccount date db
      (db₃.recordOperation w.operationId actor fingerprint response) response id := by
  obtain ⟨hoperations, hrevisions⟩ := h.logged
  have hrow := writtenTransaction_sides h.resolved occurredAt 1 [storedValuation 1 v]
  have hput : (db₃.recordOperation w.operationId actor fingerprint response).transactions
      = db.transactions.insert w.transactionId
        (writtenTransaction w r occurredAt 1 [storedValuation 1 v]) := h.facts.2
  have hlog : (db₃.recordOperation w.operationId actor fingerprint response).revisions
      = [⟨w.transactionId, 1, some w.operationId⟩] ++ db.revisions := hrevisions
  have hnew := newOperation_record
    (recordOperation_congr hoperations w.operationId actor fingerprint response)
  refine rowStep_of_put hput hlog List.mem_cons_self rfl rfl hnew ?_ id
  intro hquiet
  refine ⟨silent_of_not_activity hquiet fun _ => hrow, fun old hold => ?_⟩
  rw [h.fresh] at hold
  cases hold

theorem Edited.rowStep {p payload : EditRequest} {old : Transaction} {db₁ db₂ db₃ : Database}
    {r : ResolvedWrite} {stored : StoredEndpoints} {vs : List ValuationRevision}
    {fromNative toNative : Decimal} {occurredAt : Option Timestamp}
    {accounts : List AccountUpdate} {cs : List BudgetCategorySnapshot} {clock : Clock} {m : Month}
    (hsides : SidesSound db) (hdates : DatesSound today db)
    (hnormal : normalize p.transaction = .ok payload.transaction)
    (hkeeps : payload.transaction.kind = .reallocate → old.effectiveDate ≤ m.lastDate →
      old.kind = .reallocate)
    (h : Edited db clock payload old r stored vs fromNative toNative occurredAt accounts db₁ db₂
      db₃ cs) (id : TransactionId) :
    RowStep db.isRealAccount m.lastDate db
      ((withRevision db₃ payload.transaction.transactionId (old.revision + 1)
        payload.transaction.operationId).recordOperation payload.transaction.operationId actor
          fingerprint response) response id := by
  obtain ⟨hoperations, hrevisions⟩ := h.logged
  have hrow := writtenTransaction_sides h.resolved occurredAt (old.revision + 1) vs
  have hold := hsides _ old h.found h.live h.kind
  have hdate : old.effectiveDate ≤ m.lastDate ↔ payload.transaction.date ≤ m.lastDate := by
    have hmonth : old.effectiveDate.month = payload.transaction.date.month := h.month
    rw [(hdates _ old h.found).1.le_lastDate_iff, (normalize_date hnormal).le_lastDate_iff, hmonth]
  have hput : ((withRevision db₃ payload.transaction.transactionId (old.revision + 1)
      payload.transaction.operationId).recordOperation payload.transaction.operationId actor
        fingerprint response).transactions
      = db.transactions.insert payload.transaction.transactionId
        (writtenTransaction payload.transaction r occurredAt (old.revision + 1) vs) := h.facts.2
  have hlog : ((withRevision db₃ payload.transaction.transactionId (old.revision + 1)
      payload.transaction.operationId).recordOperation payload.transaction.operationId actor
        fingerprint response).revisions
      = [⟨payload.transaction.transactionId, old.revision + 1,
        some payload.transaction.operationId⟩] ++ db.revisions :=
    congrArg (List.cons _) hrevisions
  have hrecorded : (withRevision db₃ payload.transaction.transactionId (old.revision + 1)
      payload.transaction.operationId).operations = db.operations := hoperations
  have hnew := newOperation_record
    (recordOperation_congr hrecorded payload.transaction.operationId actor fingerprint response)
  refine rowStep_of_put hput hlog List.mem_cons_self rfl rfl hnew ?_ id
  intro hquiet
  refine ⟨silent_of_not_activity hquiet fun _ => hrow, fun old' hold' => ?_⟩
  obtain rfl : old = old' := Option.some.inj (h.found.symm.trans hold')
  refine silent_of_not_activity (fun hactivity => hquiet ?_) fun _ => hold
  -- activity that an edit leaves in its month stays activity, unless it becomes a reallocation
  have hkind : payload.transaction.kind ≠ .reallocate := fun hk =>
    hactivity.2.1 (hkeeps hk hactivity.1)
  exact ⟨hdate.1 hactivity.1, hkind, any_real_of_sides hrow (normalize_kind hnormal) hkind⟩

theorem Deleted.rowStep {payload : DeleteRequest} {old : Transaction} {stored : StoredEndpoints}
    {db₁ db₂ : Database} {accounts : List AccountUpdate} {cs : List BudgetCategorySnapshot}
    {clock : Clock} (hsides : SidesSound db)
    (h : Deleted db clock payload old stored accounts db₁ db₂ cs)
    (hdeletes : IsActivity db.isRealAccount date old → deletesActivity date response = true)
    (id : TransactionId) :
    RowStep db.isRealAccount date db
      (db₂.recordOperation payload.operationId actor fingerprint response) response id := by
  obtain ⟨hoperations, hrevisions⟩ := h.logged
  have hold := hsides _ old h.found h.live h.kind
  have htransactions := h.facts.2
  by_cases hid : id = payload.transactionId
  · subst hid
    by_cases hactivity : IsActivity db.isRealAccount date old
    · exact .removed (hdeletes hactivity)
        (newOperation_record (recordOperation_congr hoperations _ actor fingerprint response))
    · refine .silent (fun t ht => ?_) fun t ht => ?_
      · obtain rfl : old = t := Option.some.inj (h.found.symm.trans ht)
        exact silent_of_not_activity hactivity fun _ => hold
      · have ht' : db₂.transactions.lookup payload.transactionId = some t := ht
        rw [htransactions, AList.lookup_erase_of, if_pos rfl] at ht'
        cases ht'
  · refine .kept ?_ fun x hx hxid => ?_
    · show db₂.transactions.lookup id = db.transactions.lookup id
      rw [htransactions, AList.lookup_erase_of, if_neg hid]
    · show x ∈ db₂.revisions
      rw [hrevisions, List.mem_filter]
      exact ⟨hx, decide_eq_true (hxid ▸ hid)⟩

end Rows

/-! ## The rows of a reconciliation -/

/-- A row that adjusts a real account at the end of a day. -/
structure Adjusts (real : AccountId → Bool) (date : Date) (t : Transaction) : Prop where
  kind : t.kind = .reconciliation
  date : t.effectiveDate = date
  fromAccount : t.fromAccountId.any real = true

theorem Adjusts.activity {day : Date} {t : Transaction} (h : Adjusts real day t)
    (hle : day ≤ date) : IsActivity real date t :=
  ⟨h.date ▸ hle, by rw [h.kind]; decide, by rw [h.fromAccount, Bool.true_or]⟩

theorem Adjusts.silent {day : Date} {t : Transaction} (h : Adjusts real day t)
    (hlt : ¬ day ≤ date) : Silent real date t :=
  ⟨fun hactivity => hlt (h.date ▸ hactivity.1), fun a _ => if_neg (by rw [h.date]; exact hlt)⟩

section Adjustment

variable {payload : ReconciliationRequest} {systemAccount : WriteAccount}
  {systemCategory : CategoryId} {requested : ReconciliationAccount} {account : Account}
  {balance : Decimal} {existing : Option (TransactionId × Transaction)} {id : TransactionId}
  {activity : Activity} {v : TransactionValuation} {row : Transaction}

/-- The row of a reconciled account adjusts it, and so did the row that it replaces. -/
theorem Reconciled.adjusts
    (h : Reconciled db payload systemAccount systemCategory requested account balance existing id
      activity v row db') :
    Adjusts db.isRealAccount payload.date row ∧
      ∀ t, db.transactions.lookup id = some t → Adjusts db.isRealAccount payload.date t := by
  have hreal : (some requested.accountId).any db.isRealAccount = true := by
    rw [Option.any_some, isRealAccount_of_lookup h.loaded, h.real]
  obtain ⟨hkind, hdate, -⟩ := h.row_facts
  rcases adjustmentId_ok h.placed with ⟨e, hex, rfl⟩ | ⟨hnone, rfl, hfree⟩
  · obtain ⟨hl, hk, hd, hfrom, -⟩ := existingAdjustment_ok (hex ▸ h.found)
    have hold : Adjusts db.isRealAccount payload.date e.2 := ⟨hk, hd, by rw [hfrom]; exact hreal⟩
    refine ⟨⟨hkind, hdate, ?_⟩, fun t ht => ?_⟩
    · rw [h.written, hex]
      exact hold.fromAccount
    · obtain rfl : e.2 = t := Option.some.inj (hl.symm.trans ht)
      exact hold
  · refine ⟨⟨hkind, hdate, ?_⟩, fun t ht => ?_⟩
    · rw [h.written, hnone]
      exact hreal
    · rw [hfree] at ht
      cases ht

theorem Reconciled.isRealAccount_eq
    (h : Reconciled db payload systemAccount systemCategory requested account balance existing id
      activity v row db') : db'.isRealAccount = db.isRealAccount := by
  rw [h.result]
  exact isRealAccount_posted h.loaded (by exact rfl) (by exact rfl)

end Adjustment

/-- What the loop of a reconciliation has done to the rows: it adjusted them under its operation, or
left them. -/
structure Adjusting (db : Database) (day : Date) (operation : OperationId) (db' : Database) :
    Prop where
  real : db'.isRealAccount = db.isRealAccount
  revisions : ∀ x ∈ db.revisions, x ∈ db'.revisions
  rows : ∀ id, db'.transactions.lookup id = db.transactions.lookup id ∨
    (∃ t, db'.transactions.lookup id = some t ∧ Adjusts db.isRealAccount day t) ∧
    (∀ t, db.transactions.lookup id = some t → Adjusts db.isRealAccount day t) ∧
      ∃ x ∈ db'.revisions, x.transactionId = id ∧ x.operationId = some operation

theorem reconcileAccounts_adjusting {clock : Clock} {payload : ReconciliationRequest}
    {systemAccount : WriteAccount} {systemCategory : CategoryId} {s : ReconciliationState}
    {requests : List ReconciliationAccount}
    (h : requests.foldlM (reconcileAccount clock payload systemAccount systemCategory)
      ⟨db, [], []⟩ = .ok s) : Adjusting db payload.date payload.operationId s.db := by
  refine Except.foldlM_induction
    (fun s : ReconciliationState => Adjusting db payload.date payload.operationId s.db)
    h ⟨rfl, fun _ hx => hx, fun _ => .inl rfl⟩ fun requested _ s s' hs hstep => ?_
  obtain ⟨account, balance, existing, id, activity, v, row, hrec, _⟩ := reconcileAccount_ok hstep
  obtain ⟨hnew, hold⟩ := hrec.adjusts
  rw [hs.real] at hnew hold
  have hrows : s'.db.transactions = s.db.transactions.insert id row := by rw [hrec.result]; rfl
  have hrevisions : s'.db.revisions = ⟨id, row.revision, some payload.operationId⟩ :: s.db.revisions := by
    rw [hrec.result]
    rfl
  refine ⟨hrec.isRealAccount_eq.trans hs.real, fun x hx => ?_, fun id' => ?_⟩
  · rw [hrevisions]
    exact List.mem_cons_of_mem _ (hs.revisions x hx)
  · rw [hrows, hrevisions, AList.lookup_insert_of]
    by_cases hid : id' = id
    · subst hid
      refine .inr ⟨⟨row, if_pos rfl, hnew⟩, fun t ht => ?_, _, List.mem_cons_self, rfl, rfl⟩
      rcases hs.rows id' with hsame | ⟨-, hbefore, -⟩
      · exact hold t (hsame.trans ht)
      · exact hbefore t ht
    · rw [if_neg hid]
      rcases hs.rows id' with hsame | ⟨hafter, hbefore, x, hx, hrow⟩
      · exact .inl hsame
      · exact .inr ⟨hafter, hbefore, x, List.mem_cons_of_mem _ hx, hrow⟩

/-- After the loop a row is kept, or an adjustment that is activity by the day or silent. -/
theorem Adjusting.rowStep {day : Date} {operation : OperationId}
    (h : Adjusting db day operation db') (hnew : NewOperation db db' response operation)
    (id : TransactionId) : RowStep db.isRealAccount date db db' response id := by
  rcases h.rows id with hsame | ⟨⟨t, ht, hadjusts⟩, hbefore, x, hx, hid, ho⟩
  · exact .kept hsame fun x hx _ => h.revisions x hx
  · by_cases hle : day ≤ date
    · exact .seen ht (hadjusts.activity hle) hx hid ho hnew
    · refine .silent (fun u hu => (hbefore u hu).silent hle) fun u hu => ?_
      rw [ht] at hu
      cases hu
      exact hadjusts.silent hle

/-- The openings do not count. -/
theorem RowStep.of_openings {O : Table (CategoryId × Month) Decimal} {id : TransactionId}
    (h : RowStep real date { db with openings := O } db' response id) :
    RowStep real date db db' response id := by
  cases h with
  | kept hsame hrevisions => exact .kept hsame hrevisions
  | seen ht hactivity hx hid ho hnew => exact .seen ht hactivity hx hid ho hnew
  | silent hold hnew => exact .silent hold hnew
  | removed hdeletes hnew => exact .removed hdeletes hnew

/-- What a call does to the rows, for the end of a month. -/
theorem Effect.rowStep {m : Month} (h : Effect db call response db') (hsides : SidesSound db)
    (hdates : DatesSound today db) (hok : (handle db call).isOk = true)
    (hkeeps : KeepsActivity m.lastDate db call) (id : TransactionId) : RowStep db.isRealAccount m.lastDate db db' response id := by
  cases h with
  | replayed _ _ _ _ hinit =>
    rcases hinit with rfl | hinit
    · exact rowStep_of_same rfl (fun _ hx => hx) id
    · obtain ⟨hq, -⟩ := initializeOpenings_quiet hinit
      exact rowStep_of_same hq.transactions (fun _ hx => hq.revisions ▸ hx) id
  | created _ _ hinit _ h _ =>
    obtain ⟨O, rfl⟩ := initializeOpenings_frame hinit
    exact .of_openings (h.rowStep id)
  | @edited p payload old db₀ db₁ db₂ db₃ r stored vs fromNative toNative occurredAt accounts cs
      hrequest _ hnormal hinit hfresh h _ =>
    obtain ⟨O, rfl⟩ := initializeOpenings_frame hinit
    have hsides₀ : SidesSound { db with openings := O } := hsides
    have hdates₀ : DatesSound today { db with openings := O } := hdates
    refine .of_openings (h.rowStep hsides₀ hdates₀ hnormal ?_ id)
    intro hkind hle
    rw [(normalize_operationId hnormal).1] at hfresh
    refine hkeeps p hrequest hok hfresh ?_ old ?_ hle
    · rw [← (normalize_accounts hnormal).1]
      exact hkind
    · rw [← (normalize_operationId hnormal).2]
      exact h.found
  | deleted _ hinit _ h hresponse =>
    obtain ⟨O, rfl⟩ := initializeOpenings_frame hinit
    have hsides₀ : SidesSound { db with openings := O } := hsides
    refine .of_openings (h.rowStep hsides₀ ?_ id)
    intro hactivity
    rw [hresponse]
    simp only [deletesActivity, Bool.and_eq_true, decide_eq_true_eq]
    exact ⟨hactivity.1, hactivity.2.1⟩
  | @reconciled p payload db₀ db₁ systemAccount systemCategory s _ _ hinit _ _ _ _ hfold hresult _ =>
    obtain ⟨O, rfl⟩ := initializeOpenings_frame hinit
    have hadjusting := reconcileAccounts_adjusting hfold
    have hops : db₁.operations = db.operations := by
      rw [hresult]
      exact (reconcileAccounts_log hfold).1
    have hwritten : Adjusting { db with openings := O } payload.date payload.operationId
        (db₁.recordOperation payload.operationId call.actor (.reconcile payload) response) := by
      rw [hresult]
      exact ⟨hadjusting.real, hadjusting.revisions, hadjusting.rows⟩
    refine .of_openings (hwritten.rowStep ?_ id)
    exact newOperation_record (recordOperation_congr hops _ call.actor (.reconcile payload) response)
  | quiet h _ _ =>
    exact rowStep_of_same h.transactions (fun _ hx => h.revisions ▸ hx) id

/-! ## The run from the reconciliation to the close -/

/-- Recorded operations stay. -/
theorem LogEffect.keeps {actor : Subject} (h : LogEffect db actor response db') :
    Keeps db.operations db'.operations := by
  have hrecord : ∀ {id fingerprint}, db.operations.lookup id = none →
      db'.operations = (db.recordOperation id actor fingerprint response).operations →
      Keeps db.operations db'.operations := by
    intro id fingerprint hfresh ho o row hrow
    rw [ho, lookup_recordOperation, if_neg, hrow]
    rintro rfl
    rw [hfresh] at hrow
    cases hrow
  cases h with
  | kept _ ho => exact fun o row hrow => ho ▸ hrow
  | recorded _ hfresh ho _ _ _ => exact hrecord hfresh ho
  | deleted hfresh ho _ _ => exact hrecord hfresh ho

/-- Which accounts are real does not change. -/
theorem isRealAccount_of_profile
    (h : ∀ x, (db'.accounts.lookup x).map accountProfile
      = (db.accounts.lookup x).map accountProfile) : db'.isRealAccount = db.isRealAccount := by
  have hany : ∀ o : Option Account, (o.any (·.isReal)) = (o.map accountProfile).any (·.isReal) := by
    intro o
    cases o <;> rfl
  funext x
  rw [Database.isRealAccount, hany, h x, ← hany, Database.isRealAccount]

theorem isRealAccount_of_active {a : AccountId} (h : db.isActiveRealAccount a = true) :
    db.isRealAccount a = true := by
  rw [Database.isActiveRealAccount] at h
  rw [Database.isRealAccount]
  cases hlookup : db.accounts.lookup a with
  | none => simp [hlookup] at h
  | some account =>
    rw [hlookup, Option.any_some, Bool.and_eq_true] at h
    exact h.1

/-- Since the reconciliation at row `watermark` left `base`, the balances of the day are what they
were, or it is outdated. -/
structure Since (base : Database) (date : Date) (batch : OperationId) (row : Operation)
    (db : Database) : Prop where
  real : db.isRealAccount = base.isRealAccount
  recorded : db.operations.lookup batch = some row
  balanced : Outdated base.isRealAccount date row.rowid db ∨
    ∀ a, base.isRealAccount a = true → balanceThrough db date a = balanceThrough base date a

theorem Since.next {base : Database} {m : Month} {batch : OperationId} {row : Operation}
    (h : Since base m.lastDate batch row db) (hreach : Reachable today db)
    (hsound : Sound call.clock.today db) (hkeeps : KeepsActivity m.lastDate db call) :
    Since base m.lastDate batch row (step db call) := by
  cases hcall : handle db call with
  | error e => rwa [step_of_error hcall]
  | ok result =>
  obtain ⟨db', response⟩ := result
  have heffect : Effect db call response (step db call) := by
    rw [step_of_ok hcall]
    exact handle_effect hcall hsound
  have hok : (handle db call).isOk = true := by
    rw [hcall]
    rfl
  have hreal := isRealAccount_of_profile (step_changes call hsound).toExtends.accounts
  have hrows : ∀ id, RowStep base.isRealAccount m.lastDate db (step db call) response id := by
    intro id
    rw [← h.real]
    exact heffect.rowStep hreach.sidesSound hreach.sound.dates hok hkeeps id
  have hoperations := heffect.log.keeps
  have hw := hreach.logSound.rowids batch row h.recorded
  refine ⟨hreal.trans h.real, hoperations batch row h.recorded, ?_⟩
  rcases h.balanced with hout | hbalanced
  · exact .inl (hout.step hrows hoperations hw)
  · rcases outdated_or_balanced hrows hw with hout | hsame
    · exact .inl hout
    · exact .inr fun a ha => (hsame a ha).trans (hbalanced a ha)

/-- A reconciliation that is recorded has its row in the log. -/
theorem recorded_of_reconcile {p : ReconciliationRequest} (hrequest : call.request = .reconcile p)
    (hfresh : db.operations.lookup p.operationId = none)
    (h : handle db call = .ok (db', response)) :
    ∃ row, db'.operations.lookup p.operationId = some row := by
  obtain ⟨clock, actor, request⟩ := call
  obtain rfl : request = .reconcile p := hrequest
  simp only [handle, recordReconciliation, Except.bind_eq_ok, Except.mapError_eq_ok] at h
  obtain ⟨payload, hn, db₀, hinit, h⟩ := h
  have hid := normalizeReconciliation_operationId hn
  obtain ⟨O, rfl⟩ := initializeOpenings_frame hinit
  rcases once_ok h with ⟨row, hrow, -⟩ | ⟨-, db₁, -, rfl⟩
  · have hrow' : db.operations.lookup p.operationId = some row := hid ▸ hrow
    rw [hfresh] at hrow'
    cases hrow'
  · exact ⟨_, by rw [lookup_recordOperation, hid, if_pos rfl]⟩

/-- A close that is recorded has found the latest full batch to be current. -/
theorem current_of_close {payload : CloseRequest} {batch : OperationId × Nat}
    (hrequest : call.request = .close payload)
    (hnew : db.operations.lookup payload.operationId = none)
    (hrely : latestBatch (fullBatches db payload.month.lastDate) = some batch)
    (h : handle db call = .ok (db', response)) :
    reconciliationCurrent db payload.month.lastDate batch.1 = .ok true := by
  obtain ⟨clock, actor, request⟩ := call
  obtain rfl : request = .close payload := hrequest
  simp only [handle, closeMonth, Except.bind_eq_ok, Except.mapError_eq_ok] at h
  obtain ⟨_, -, db₀, hinit, h⟩ := h
  obtain ⟨O, rfl⟩ := initializeOpenings_frame hinit
  rcases once_ok h with ⟨row, hrow, -⟩ | ⟨-, db₁, hb, -⟩
  · have hrow' : db.operations.lookup payload.operationId = some row := hrow
    rw [hnew] at hrow'
    cases hrow'
  · simp only [closeBody, Except.bind_eq_ok, Except.ensure_eq_ok, Except.mapError_eq_ok,
      Except.fromOption_eq_ok] at hb
    obtain ⟨_, -, _, -, _, -, found, hfound, fresh, hcurrent, _, rfl, -⟩ := hb
    obtain rfl : batch = found := Option.some.inj (hrely.symm.trans hfound)
    exact hcurrent

/-- **A close relies on balances that its reconciliation has seen**, in runs that turn no activity
into reallocations: the sum of the stored transactions of an account at the end of the month is what
the reconciliation left. -/
theorem close_balanced {d₀ d : Date} {db₀ base db₁ : Database} {count close : Call}
    {p : ReconciliationRequest} {payload : CloseRequest} {r₁ r₂ : Response} {rowid : Nat}
    (hreach : Reachable d₀ db₀) (hvalid : count.clock.today.Valid)
    (hlater : d₀ ≤ count.clock.today) (hcount : count.request = .reconcile p)
    (hfresh : db₀.operations.lookup p.operationId = none)
    (hcounted : handle db₀ count = .ok (base, r₁))
    (hrun : RunWhere (KeepsActivity payload.month.lastDate) count.clock.today base d db)
    (hclose : close.request = .close payload)
    (hnew : db.operations.lookup payload.operationId = none)
    (hrely : latestBatch (fullBatches db payload.month.lastDate) = some (p.operationId, rowid))
    (hclosed : handle db close = .ok (db₁, r₂)) {a : AccountId}
    (ha : db.isActiveRealAccount a = true) :
    balanceThrough db payload.month.lastDate a = balanceThrough base payload.month.lastDate a := by
  obtain ⟨row, hrow⟩ := recorded_of_reconcile hcount hfresh hcounted
  have hbase : Reachable count.clock.today base := by
    rw [← step_of_ok hcounted]
    exact hreach.step hvalid hlater
  have key := hrun.induct
    (I := fun d db => Reachable d db ∧ Since base payload.month.lastDate p.operationId row db)
    ⟨hbase, rfl, hrow, .inr fun _ _ => rfl⟩
    fun _ _ _ _ hv hle hkeeps hI =>
      ⟨hI.1.step hv hle, hI.2.next hI.1 (hI.1.sound.later hv hle) hkeeps⟩
  obtain ⟨-, hsince⟩ := key
  have hcurrent := current_of_close hclose hnew hrely hclosed
  have hnot := not_outdated_of_current hcurrent hsince.recorded
  rw [hsince.real] at hnot
  refine hsince.balanced.resolve_left hnot a ?_
  rw [← hsince.real]
  exact isRealAccount_of_active ha

/-! An expense of October is counted; then it is made a reallocation, or another is entered. -/

def countedOctober : List Call := opened ++ [
  callOn october 3 (.create (spend 100 200 ⟨october, 3⟩ 25))]

def countOctober : Call :=
  callOn november 2 (.reconcile ⟨110, ⟨october, 31⟩, none, none, [⟨1, 975, 210, 1⟩]⟩)

def closeOctober : Call := callOn november 4 (.close ⟨120, october⟩)

/-- Another expense, of the month after. -/
def enteredLater : Call := callOn november 3 (.create (spend 101 201 ⟨november, 3⟩ 10))

theorem close_balanced_october :
    let base := step (run (household 1000) countedOctober) countOctober
    let db := step base enteredLater
    balanceThrough db october.lastDate 1 = balanceThrough base october.lastDate 1 := by
  intro base db
  have hreach : Reachable ⟨october, 3⟩ (run (household 1000) countedOctober) :=
    household_reachable 1000 (by decide : Chronological _ countedOctober)
  obtain ⟨⟨counted, r₁⟩, hcounted⟩ :=
    Except.exists_ok (by decide +kernel :
      (handle (run (household 1000) countedOctober) countOctober).isOk = true)
  obtain ⟨⟨closed, r₂⟩, hclosed⟩ :=
    Except.exists_ok (by decide +kernel : (handle db closeOctober).isOk = true)
  have hbase : counted = base := (step_of_ok hcounted).symm
  rw [hbase] at hcounted
  have hkeeps : KeepsActivity october.lastDate base enteredLater := by
    intro p h
    cases h
  have hrun : RunWhere (KeepsActivity october.lastDate) ⟨november, 2⟩ base ⟨november, 3⟩ db :=
    .step (.refl ⟨november, 2⟩ base) enteredLater (by decide) (by decide) hkeeps
  have hcount : countOctober.request = .reconcile
      ⟨110, ⟨october, 31⟩, none, none, [⟨1, 975, 210, 1⟩]⟩ := rfl
  have hfresh : (run (household 1000) countedOctober).operations.lookup 110 = none := by
    decide +kernel
  have hclose : closeOctober.request = .close ⟨120, october⟩ := rfl
  have hnew : db.operations.lookup 120 = none := by decide +kernel
  have hrely : latestBatch (fullBatches db october.lastDate) = some (110, 3) := by decide +kernel
  have hactive : db.isActiveRealAccount 1 = true := by decide +kernel
  exact close_balanced hreach (by decide) (by decide) hcount hfresh hcounted hrun hclose hnew hrely
    hclosed hactive

/-- The expense made a reallocation. -/
def reallocated : Call := callOn november 3 (.edit
  ⟨{ write 115 200 .reallocate ⟨october, 3⟩ 25 with
      fromCategoryId := some 1, toCategoryId := some UNALLOCATED }, 1, [(1, 2)]⟩)

/-- **A hidden change.** The close relies on a count that the account does not have any more. -/
theorem close_outdated :
    let base := step (run (household 1000) countedOctober) countOctober
    let db := step base reallocated
    Reachable ⟨october, 3⟩ (run (household 1000) countedOctober) ∧
      (handle (run (household 1000) countedOctober) countOctober).isOk = true ∧
      (handle base reallocated).isOk = true ∧
      (latestBatch (fullBatches db october.lastDate)).map Prod.fst = some 110 ∧
      (handle db closeOctober).isOk = true ∧ db.isActiveRealAccount 1 = true ∧
      balanceThrough db october.lastDate 1 ≠ balanceThrough base october.lastDate 1 :=
  ⟨household_reachable 1000 (by decide : Chronological _ countedOctober), by decide +kernel,
    by decide +kernel, by decide +kernel, by decide +kernel, by decide +kernel, by decide +kernel⟩

end Server
