import Presto.History

/-!
# The transaction handlers, taken apart

For each step of a handler: what it did when it succeeded (`..._ok`), and that it is a sequence of
changes (`..._changes`). `Created`, `Edited` and `Deleted` name the steps of the three operations.
-/

namespace Server

open Budget BudgetLedger

variable {today : Date} {db db' : Database}

/-! ## Openings -/

theorem mem_priorSnapshots {first : Month} {row : CategoryId × MonthSnapshot} :
    row ∈ priorSnapshots db first ↔
      db.snapshots.lookup (row.1, first.previous) = some row.2 ∧ db.isRealCategory row.1 = true := by
  unfold priorSnapshots
  rw [List.mem_map]
  constructor
  · rintro ⟨⟨⟨c, m⟩, s⟩, he, rfl⟩
    obtain ⟨he, hm⟩ := List.mem_filter.1 he
    obtain ⟨rfl, hr⟩ : m = first.previous ∧ db.isRealCategory c = true := by simpa using hm
    exact ⟨AList.mem_entries_iff.1 he, hr⟩
  · rintro ⟨hs, hr⟩
    exact ⟨⟨(row.1, first.previous), row.2⟩, List.mem_filter.2 ⟨AList.mem_entries_iff.2 hs,
      by simp [hr]⟩, rfl⟩

theorem initializeOpenings_changes (today : Date) (h : initializeOpenings db = .ok db') :
    Changes today db db' ∧ ∃ O, db' = { db with openings := O } := by
  unfold initializeOpenings at h
  cases hf : firstMonth db with
  | none =>
    simp only [hf, Except.ok.injEq] at h
    exact h ▸ ⟨.refl, db.openings, rfl⟩
  | some first =>
    simp only [hf] at h
    split at h
    · refine Except.foldlM_induction
        (fun s => Changes today db s ∧ ∃ O, s = { db with openings := O }) h
        ⟨.refl, db.openings, rfl⟩ fun row hrow s s' hs hstep => ?_
      obtain ⟨hsnap, hreal⟩ := mem_priorSnapshots.1 hrow
      obtain ⟨hchanges, O, rfl⟩ := hs
      simp only [seedOpening, Except.bind_eq_ok, Except.fromOption_eq_ok] at hstep
      obtain ⟨b, hb, hstep⟩ := hstep
      cases hl : O.lookup (row.1, first) with
      | some x =>
        simp only [hl, Except.pure_eq_ok] at hstep
        exact hstep ▸ ⟨hchanges, O, rfl⟩
      | none =>
        simp only [hl, Except.pure_eq_ok] at hstep
        subst hstep
        exact ⟨hchanges.tail (.seedOpening hf hreal hsnap hb hl), _, rfl⟩
    · simp only [Except.ok.injEq] at h
      exact h ▸ ⟨.refl, db.openings, rfl⟩

/-! ## Receipts -/

theorem income_ok {m through : Month} {e : ExpectedIncome}
    (h : income db m through = .ok (some e)) :
    ∃ row receipts, db.planIncome.lookup m = some row ∧
      matchedReceipts db m through row.amount row.currency row.amountEur = .ok receipts ∧
      e.month = m ∧ e.amount = row.amount ∧ e.currency = row.currency ∧
      e.amountEur = row.amountEur ∧ e.receivedEur = (receipts.map (·.actualEur)).sum ∧
      e.receivedAmount = (receipts.map (·.native)).sum ∧ e.completedMonth = row.completedMonth ∧
      (if row.completedMonth.any (· ≤ through) then .ok 0
        else fundingPortion (row.amount - (receipts.map (·.native)).sum).positive row.amount
          row.amountEur) = .ok e.outstandingEur := by
  unfold income at h
  cases hl : db.planIncome.lookup m with
  | none => simp [hl] at h
  | some row =>
    simp only [hl, Except.bind_eq_ok, Except.pure_eq_ok, Option.some.injEq] at h
    obtain ⟨receipts, hr, outstanding, ho, rfl⟩ := h
    exact ⟨row, receipts, rfl, hr, rfl, rfl, rfl, rfl, rfl, rfl, rfl, ho⟩

/-- What `receipt` does to the record of a transaction. -/
inductive ReceiptWritten (db : Database) (id : TransactionId) (treatment : Option Treatment)
    (expected : Option Month) : Database → Prop
  | inactive (h : db.start = none) : ReceiptWritten db id treatment expected db
  | dropped {t : Transaction} {r : IncomeReceipt} (hstart : db.start.isSome = true)
      (ht : db.transactions.lookup id = some t) (hkind : t.kind ≠ .income)
      (hoptions : treatment = none ∧ expected = none)
      (hr : db.receipts.lookup id = some r) (hl : r.treatment ≠ .legacy) :
      ReceiptWritten db id treatment expected { db with receipts := db.receipts.erase id }
  | none {t : Transaction} (hstart : db.start.isSome = true)
      (ht : db.transactions.lookup id = some t) (hkind : t.kind ≠ .income)
      (hoptions : treatment = none ∧ expected = none)
      (hr : ∀ r, db.receipts.lookup id = some r → r.treatment = .legacy) :
      ReceiptWritten db id treatment expected db
  | kept {t : Transaction} {r : IncomeReceipt} (hstart : db.start.isSome = true)
      (ht : db.transactions.lookup id = some t) (hkind : t.kind = .income)
      (hoptions : treatment = Option.none ∧ expected = Option.none)
      (hr : db.receipts.lookup id = some r) :
      ReceiptWritten db id treatment expected db
  | salary {t : Transaction} {s : Month} {db₁ : Database} {p : PlanIncome}
      (hstart : db.start = some s) (ht : db.transactions.lookup id = some t)
      (hkind : t.kind = .income)
      (hnew : ¬ (treatment = Option.none ∧ expected = Option.none ∧
        (db.receipts.lookup id).isSome = true))
      (htreatment : treatment.getD .salary = .salary)
      (hle : expected.getD t.month ≤ t.month) (hs : s ≤ expected.getD t.month)
      (hensure : ensureIncome db (expected.getD t.month) = .ok db₁)
      (hp : db₁.planIncome.lookup (expected.getD t.month) = some p)
      (hmatch : p.completedMonth = Option.none ∨
        db.receipts.lookup id = some ⟨.salary, some (expected.getD t.month)⟩) :
      ReceiptWritten db id treatment expected
        { db₁ with receipts := db₁.receipts.insert id ⟨.salary, some (expected.getD t.month)⟩ }
  | other {t : Transaction} {x : Treatment} (hstart : db.start.isSome = true)
      (ht : db.transactions.lookup id = some t) (hkind : t.kind = .income)
      (htreatment : treatment = some x) (hx : x = .unexpected ∨ x = .refund)
      (hexpected : expected = Option.none) :
      ReceiptWritten db id treatment expected
        { db with receipts := db.receipts.insert id ⟨x, Option.none⟩ }

theorem receipt_ok {id : TransactionId} {treatment : Option Treatment} {expected : Option Month}
    (h : receipt db id treatment expected = .ok db') :
    ReceiptWritten db id treatment expected db' := by
  unfold receipt at h
  cases hs : db.start with
  | none =>
    simp only [hs, Except.ok.injEq] at h
    exact h ▸ .inactive hs
  | some s =>
    have hstart : db.start.isSome = true := by simp [hs]
    simp only [hs, Except.bind_eq_ok, Except.fromOption_eq_ok] at h
    obtain ⟨t, ht, h⟩ := h
    split at h
    · rename_i hkind
      simp only [Except.bind_eq_ok, Except.ensure_eq_ok, Option.isNone_iff_eq_none] at h
      obtain ⟨_, hoptions, h⟩ := h
      cases hr : db.receipts.lookup id with
      | none =>
        simp only [hr, Except.pure_eq_ok] at h
        exact h ▸ .none hstart ht hkind hoptions (by simp [hr])
      | some r =>
        simp only [hr] at h
        split at h
        · rename_i hl
          rw [Except.pure_eq_ok] at h
          exact h ▸ .dropped hstart ht hkind hoptions hr hl
        · rename_i hl
          rw [Except.pure_eq_ok] at h
          refine h ▸ .none hstart ht hkind hoptions fun r' hr' => ?_
          rw [hr] at hr'
          cases hr'
          simpa using hl
    · rename_i hkind
      have hkind : t.kind = .income := by simpa using hkind
      split at h
      · rename_i hkept
        simp only [Bool.and_eq_true, Option.isNone_iff_eq_none] at hkept
        obtain ⟨⟨h1, h2⟩, h3⟩ := hkept
        obtain ⟨r, hr⟩ := Option.isSome_iff_exists.1 h3
        rw [Except.pure_eq_ok] at h
        exact h ▸ .kept hstart ht hkind ⟨h1, h2⟩ hr
      · rename_i hnew
        have hnew : ¬ (treatment = none ∧ expected = none ∧
            (db.receipts.lookup id).isSome = true) := by
          rintro ⟨h1, h2, h3⟩
          exact hnew (by simp [h1, h2, h3])
        cases htr : treatment.getD .salary with
        | salary =>
          simp only [htr, Except.bind_eq_ok, Except.ensure_eq_ok, Except.fromOption_eq_ok,
            Except.pure_eq_ok] at h
          obtain ⟨_, ⟨hle, hsle⟩, db₁, hensure, _, hinc, e, rfl, _, hmatch, rfl⟩ := h
          obtain ⟨p, _, hp, _, _, _, _, _, _, _, hc, _⟩ := income_ok hinc
          rw [hc] at hmatch
          have hsame : db₁.receipts = db.receipts := by
            obtain ⟨P, rfl, _⟩ := ensureIncome_ok hensure
            rfl
          rw [hsame] at hmatch
          exact .salary hs ht hkind hnew htr hle hsle hensure hp hmatch
        | legacy => simp [htr] at h
        | unexpected =>
          simp only [htr, Except.bind_eq_ok, Except.ensure_eq_ok, Option.isNone_iff_eq_none,
            Except.pure_eq_ok] at h
          obtain ⟨_, hexp, rfl⟩ := h
          have hx : treatment = some .unexpected := by
            cases treatment with
            | none => simp at htr
            | some x => simpa using htr
          exact .other hstart ht hkind hx (.inl rfl) hexp
        | refund =>
          simp only [htr, Except.bind_eq_ok, Except.ensure_eq_ok, Option.isNone_iff_eq_none,
            Except.pure_eq_ok] at h
          obtain ⟨_, hexp, rfl⟩ := h
          have hx : treatment = some .refund := by
            cases treatment with
            | none => simp at htr
            | some x => simpa using htr
          exact .other hstart ht hkind hx (.inr rfl) hexp

theorem ReceiptWritten.changes {id : TransactionId} {treatment : Option Treatment}
    {expected : Option Month} {t : Transaction} (h : ReceiptWritten db id treatment expected db')
    (ht : db.transactions.lookup id = some t) (hopen : IsOpen db today t.month) :
    Changes today db db' := by
  cases h with
  | inactive _ => exact .refl
  | dropped _ ht' hkind _ hr hl =>
    obtain rfl := Option.some.inj (ht.symm.trans ht')
    exact .single (.dropReceipt ht hkind hopen hr hl)
  | none _ _ _ _ _ => exact .refl
  | kept _ _ _ _ _ => exact .refl
  | salary hstart ht' hkind _ _ hle hs hensure hp hmatch =>
    obtain rfl := Option.some.inj (ht.symm.trans ht')
    have h1 := ensureIncome_changes hensure hstart hs (hle.trans hopen.reached)
    obtain ⟨P, rfl, _, _, _⟩ := ensureIncome_ok hensure
    refine h1.tail (.setReceipt ht hkind ⟨hopen.1, hopen.2, hopen.3, hopen.4⟩ (by simp) ?_ ?_)
    · exact Option.isSome_iff_exists.2 ⟨_, hstart⟩
    · intro m hm
      cases hm
      exact ⟨hle, (Option.any_eq_true _ _).2 ⟨_, hstart, decide_eq_true hs⟩, _, hp, hmatch⟩
  | other hstart ht' hkind _ hx _ =>
    obtain rfl := Option.some.inj (ht.symm.trans ht')
    refine .single (.setReceipt ht hkind hopen ?_ hstart (by simp))
    rcases hx with rfl | rfl <;> simp

/-! ## Posting -/

theorem postDelta_changes {acc acc' : Database × List AccountUpdate} {e : AccountId × Decimal}
    (h : postDelta today acc e = .ok acc') :
    Changes today acc.1 acc'.1 ∧ ∃ A, acc'.1 = { acc.1 with accounts := A } := by
  simp only [postDelta, Except.bind_eq_ok, Except.fromOption_eq_ok] at h
  obtain ⟨account, ha, h⟩ := h
  split at h
  · rw [Except.pure_eq_ok] at h
    exact h ▸ ⟨.refl, acc.1.accounts, rfl⟩
  · rename_i hreal
    obtain ⟨hr, hact⟩ := not_not.1 hreal
    simp only [Except.bind_eq_ok, Except.fromOption_eq_ok, Except.pure_eq_ok] at h
    obtain ⟨balance, _, _, _, rfl⟩ := h
    exact ⟨.single (.postAccount e.1 _ ha hr hact), _, rfl⟩

theorem postDeltas_changes {deltas : List (AccountId × Decimal)} {accounts : List AccountUpdate}
    (h : postDeltas db today deltas = .ok (db', accounts)) :
    Changes today db db' ∧ ∃ A, db' = { db with accounts := A } := by
  refine Except.foldlM_induction
    (fun s : Database × List AccountUpdate =>
      Changes today db s.1 ∧ ∃ A, s.1 = { db with accounts := A })
    h ⟨.refl, db.accounts, rfl⟩ fun e _ s s' hs hstep => ?_
  obtain ⟨hc, A, hA⟩ := hs
  obtain ⟨hc', A', hA'⟩ := postDelta_changes hstep
  exact ⟨hc.trans hc', A', by rw [hA', hA]⟩

/-! ## Transactions -/

theorem requireOpen_iff {m : Month} : requireOpen db today m = .ok () ↔ IsOpen db today m := by
  simp only [requireOpen, Except.bind_eq_ok, Except.fromOption_eq_ok, Except.ensure_eq_ok]
  constructor
  · rintro ⟨f, hf, _, hc, _, hm, hopen⟩
    rw [not_or, not_lt, not_lt] at hm
    exact ⟨hc, ⟨f, hf, hm.1⟩, hm.2, hopen⟩
  · rintro ⟨hc, ⟨f, hf, hle⟩, hm, hopen⟩
    exact ⟨f, hf, (), hc, (), not_or.2 ⟨hle.not_gt, hm.not_gt⟩, hopen⟩

theorem requireOpen_ok {m : Month} (h : requireOpen db today m = .ok ()) : IsOpen db today m :=
  requireOpen_iff.1 h

/-- A month stays open through changes that close nothing. -/
theorem IsOpen.of_eq {m : Month} (h : IsOpen db today m) (hi : db'.importMonths = db.importMonths)
    (hc : db'.closures = db.closures) : IsOpen db' today m := by
  obtain ⟨h1, ⟨f, hf, hle⟩, h3, h4⟩ := h
  refine ⟨h1, ⟨f, ?_, hle⟩, h3, ?_⟩
  · unfold firstMonth at *
    rw [hi]
    exact hf
  · unfold Database.isClosed at *
    rw [hc]
    exact h4

/-- The database with a created row, before anything is posted. -/
def inserted (db : Database) (w : WriteRequest) (r : ResolvedWrite) (v : TransactionValuation)
    (occurredAt : Option Timestamp) : Database :=
  { db with
    transactions := db.transactions.insert w.transactionId
      (writtenTransaction w r occurredAt 1 [storedValuation 1 v])
    revisions := ⟨w.transactionId, 1, some w.operationId⟩ :: db.revisions }

/-- The steps of a creation. -/
structure Created (db : Database) (clock : Clock) (w : WriteRequest) (r : ResolvedWrite)
    (v : TransactionValuation) (occurredAt : Option Timestamp) (accounts : List AccountUpdate)
    (db₁ db₂ db' : Database) (cs : List BudgetCategorySnapshot) : Prop where
  resolved : resolveWrite db w = .ok r
  valued : valueWrite db w r = .ok v
  isOpen : IsOpen db clock.today w.date.month
  fresh : db.transactions.lookup w.transactionId = none
  posted : postDeltas (inserted db w r v occurredAt) clock.today (deltaList (writeDeltas r v))
    = .ok (db₁, accounts)
  receipt : ReceiptWritten db₁ w.transactionId w.incomeTreatment w.expectedIncomeMonth db₂
  synced : sync db₂ clock.today (some w.operationId) = .ok db'
  categories : categories db' clock.today w.date.month = .ok cs

theorem settleWrite_ok {w : WriteRequest} {cs : List BudgetCategorySnapshot}
    (h : settleWrite db today w = .ok (db', cs)) :
    ∃ db₁, ReceiptWritten db w.transactionId w.incomeTreatment w.expectedIncomeMonth db₁ ∧
      sync db₁ today (some w.operationId) = .ok db' ∧
      categories db' today w.date.month = .ok cs := by
  simp only [settleWrite, Except.bind_eq_ok, Except.mapError_eq_ok, Except.pure_eq_ok,
    Prod.mk.injEq] at h
  obtain ⟨db₁, hr, db₂, hs, cs', hc, rfl, rfl⟩ := h
  exact ⟨db₁, receipt_ok hr, hs, hc⟩

theorem createBody_ok {clock : Clock} {w : WriteRequest} {response : Response}
    (h : createBody db clock w = .ok (db', response)) :
    ∃ r v occurredAt accounts db₁ db₂ cs,
      Created db clock w r v occurredAt accounts db₁ db₂ db' cs ∧
      response = .created w.operationId w.transactionId w.kind w.date.month accounts cs := by
  simp only [createBody, Except.bind_eq_ok, Except.mapError_eq_ok, Except.ensure_eq_ok,
    Except.pure_eq_ok, Prod.exists, Prod.mk.injEq] at h
  obtain ⟨r, hr, v, hv, _, ho, _, hf, occurredAt, _, _, _, db₁, accounts, hp, db₂, cs, hs, rfl, rfl⟩
    := h
  obtain ⟨db₃, hrec, hsync, hcs⟩ := settleWrite_ok hs
  exact ⟨r, v, occurredAt, accounts, db₁, db₃, cs,
    ⟨hr, hv, requireOpen_ok ho, by simpa using hf, hp, hrec, hsync, hcs⟩, rfl⟩

/-- A row as a write leaves it. -/
theorem written_of {p w : WriteRequest} {r : ResolvedWrite} (hn : normalize p = .ok w)
    (hr : resolveWrite db w = .ok r) (occurredAt : Option Timestamp) (revision : Nat)
    {valuations : List ValuationRevision} {v : ValuationRevision}
    (hv : valuations.head? = some v) (hfull : Full v) :
    Written db (writtenTransaction w r occurredAt revision valuations) :=
  ⟨p, w, r, occurredAt, revision, valuations, hn, hr, rfl, v, hv, hfull⟩

theorem normalize_date {p w : WriteRequest} (h : normalize p = .ok w) : w.date.Valid := by
  simp only [normalize, Except.bind_eq_ok, Except.ensure_eq_ok, Except.pure_eq_ok] at h
  obtain ⟨_, _, _, ⟨hd, _⟩, _, _, _, _, _, _, _, _, _, _, rfl⟩ := h
  exact hd

theorem normalize_kind {p w : WriteRequest} (h : normalize p = .ok w) : w.kind ≠ .reconciliation := by
  simp only [normalize, Except.bind_eq_ok, Except.ensure_eq_ok, Except.pure_eq_ok] at h
  obtain ⟨_, _, _, _, _, hkind, _, _, _, _, _, _, _, _, rfl⟩ := h
  exact hkind

/-- The end of a write: the receipt, then `sync`. -/
theorem settle_changes {id : TransactionId} {treatment : Option Treatment}
    {expected : Option Month} {t : Transaction} {operation : Option OperationId}
    {db₁ db₂ : Database} (hc : Changes today db db₁) (hsound : Sound today db)
    (hr : ReceiptWritten db₁ id treatment expected db₂)
    (ht : db₁.transactions.lookup id = some t) (hopen : IsOpen db₁ today t.month)
    (hs : sync db₂ today operation = .ok db') : Changes today db db₂ ∧ Changes today db₂ db' := by
  have h2 : Changes today db db₂ := hc.trans (hr.changes ht hopen)
  exact ⟨h2, sync_changes hs (h2.sound hsound)⟩

theorem Created.changes {clock : Clock} {p w : WriteRequest} {r : ResolvedWrite}
    {v : TransactionValuation} {occurredAt : Option Timestamp} {accounts : List AccountUpdate}
    {db₁ db₂ : Database} {cs : List BudgetCategorySnapshot}
    (h : Created db clock w r v occurredAt accounts db₁ db₂ db' cs) (hn : normalize p = .ok w)
    (hsound : Sound clock.today db) : Changes clock.today db db₂ ∧ Changes clock.today db₂ db' := by
  have h1 : Change clock.today db (inserted db w r v occurredAt) :=
    .insertTransaction w.operationId h.fresh h.isOpen (normalize_date hn)
      (written_of hn h.resolved occurredAt 1 rfl ⟨rfl, rfl, rfl, rfl⟩)
  obtain ⟨h2, A, rfl⟩ := postDeltas_changes h.posted
  exact settle_changes ((Relation.ReflTransGen.single h1).trans h2) hsound h.receipt
    (AList.lookup_insert _) (h.isOpen.of_eq rfl rfl) h.synced

/-- The time of an edited row: an edit that keeps the date and names no time keeps it. -/
def editedTime (clock : Clock) (old : Transaction) (w : WriteRequest) :
    Except ApiError (Option Timestamp) :=
  if ¬ w.dateOnly ∧ w.occurredAt = none ∧ old.effectiveDate = w.date then .ok old.occurredAt
  else resolveTimestamp clock w.date w.occurredAt w.dateOnly

/-- The steps of an edit. -/
structure Edited (db : Database) (clock : Clock) (payload : EditRequest) (old : Transaction)
    (r : ResolvedWrite) (stored : StoredEndpoints) (valuations : List ValuationRevision)
    (fromNative toNative : Decimal) (occurredAt : Option Timestamp) (accounts : List AccountUpdate)
    (db₁ db₂ db₃ : Database) (cs : List BudgetCategorySnapshot) : Prop where
  found : db.transactions.lookup payload.transaction.transactionId = some old
  live : old.canonicalLive = true
  revision : old.revision = payload.expectedRevision
  kind : old.kind ≠ .reconciliation
  month : old.month = payload.transaction.date.month
  isOpen : IsOpen db clock.today old.month
  uncorrected : ¬ db.corrections.entries.any fun e =>
    e.2.originalTransactionId = payload.transaction.transactionId
  resolved : resolveWrite db payload.transaction = .ok r
  loaded : loadStored db old = .ok stored
  valued : editValuation db old payload.transaction r
    (inputsUnchanged old stored.fromAccount stored.toAccount payload.transaction r) stored
    = .ok (valuations, fromNative, toNative)
  timed : editedTime clock old payload.transaction = .ok occurredAt
  posted : postDeltas { db with
      transactions := db.transactions.insert payload.transaction.transactionId
        (writtenTransaction payload.transaction r occurredAt (old.revision + 1) valuations) }
    clock.today (deltaList (differenceMaps
      (accountDeltas r.endpoints.fromAccount.id r.endpoints.toAccount.id fromNative toNative)
      (accountDeltas stored.fromAccount.id stored.toAccount.id stored.fromNative stored.toNative)))
    = .ok (db₁, accounts)
  receipt : ReceiptWritten db₁ payload.transaction.transactionId payload.transaction.incomeTreatment
    payload.transaction.expectedIncomeMonth db₂
  synced : sync db₂ clock.today (some payload.transaction.operationId) = .ok db₃
  categories : categories db₃ clock.today payload.transaction.date.month = .ok cs

/-- The database after an edit, its revision row added. -/
def withRevision (db : Database) (id : TransactionId) (revision : Nat) (operation : OperationId) :
    Database :=
  { db with revisions := ⟨id, revision, some operation⟩ :: db.revisions }

theorem loadEditable_ok {id : TransactionId} {expectedRevision : Nat}
    {missing imported stale unsupported : String} {old : Transaction}
    (h : loadEditable db id expectedRevision missing imported stale unsupported = .ok old) :
    db.transactions.lookup id = some old ∧ old.canonicalLive = true ∧
      old.revision = expectedRevision ∧ old.kind ≠ .reconciliation := by
  simp only [loadEditable, Except.bind_eq_ok, Except.fromOption_eq_ok, Except.ensure_eq_ok,
    Except.pure_eq_ok] at h
  obtain ⟨_, h1, _, h2, _, h3, _, h4, rfl⟩ := h
  exact ⟨h1, h2, h3, h4⟩

theorem editBody_ok {clock : Clock} {payload : EditRequest} {response : Response}
    (h : editBody db clock payload = .ok (db', response)) :
    ∃ old r stored valuations fromNative toNative occurredAt accounts db₁ db₂ db₃ cs,
      Edited db clock payload old r stored valuations fromNative toNative occurredAt accounts
        db₁ db₂ db₃ cs ∧
      db' = withRevision db₃ payload.transaction.transactionId (old.revision + 1)
        payload.transaction.operationId ∧
      response = .updated payload.transaction.operationId payload.transaction.transactionId
        (old.revision + 1) accounts cs := by
  simp only [editBody, Except.bind_eq_ok, Except.mapError_eq_ok, Except.ensure_eq_ok,
    Except.pure_eq_ok, Prod.exists, Prod.mk.injEq] at h
  obtain ⟨old, hold, _, hm, _, ho, _, hcor, r, hr, stored, hst, vs, fromNative, toNative, hv, _, _,
    occurredAt, htime, _, _, db₁, accounts, hp, db₂, cs, hs, rfl, rfl⟩ := h
  obtain ⟨h1, h2, h3, h4⟩ := loadEditable_ok hold
  obtain ⟨db₃, hrec, hsync, hcs⟩ := settleWrite_ok hs
  exact ⟨old, r, stored, vs, fromNative, toNative, occurredAt, accounts, db₁, db₃, db₂, cs,
    ⟨h1, h2, h3, h4, hm, requireOpen_ok ho, hcor, hr, hst, hv, htime, hp, hrec, hsync, hcs⟩,
    rfl, rfl⟩

/-- A system account is the only one of its name, and not real. -/
theorem loadSystemAccount_ok {name : FoldedName} {a : WriteAccount}
    (h : loadSystemAccount db name = .ok a) :
    ∃ x, db.accounts.lookup a.id = some x ∧ a = writeAccount a.id x ∧ x.sourceName.folded = name ∧
      x.isReal = false ∧ ∀ id y, db.accounts.lookup id = some y → y.sourceName.folded = name →
        id = a.id := by
  unfold loadSystemAccount at h
  split at h
  · rename_i e he
    obtain ⟨hlookup, hname, honly⟩ := AList.of_filter_eq_singleton he
    split at h
    · cases h
    · rename_i hreal
      cases h
      refine ⟨e.2, hlookup, rfl, of_decide_eq_true hname, Bool.not_eq_true _ ▸ hreal, ?_⟩
      exact fun id y hid hy => congrArg Sigma.fst (honly id y hid (decide_eq_true hy))
  · cases h

/-- A system category bears its name and is not real. -/
theorem loadSystemCategory_ok {name : FoldedName} {c : CategoryId}
    (h : loadSystemCategory db name = .ok c) :
    ∃ x, db.categories.lookup c = some x ∧ x.name.folded = name ∧ x.isReal = false := by
  unfold loadSystemCategory at h
  split at h
  · rename_i e he
    obtain ⟨hlookup, hname, _⟩ := AList.of_filter_eq_singleton he
    split at h
    · cases h
    · rename_i hreal
      cases h
      exact ⟨e.2, hlookup, of_decide_eq_true hname, Bool.not_eq_true _ ▸ hreal⟩
  · cases h

theorem loadAccount_ok {id : AccountId} {a : WriteAccount} (h : loadAccount db id = .ok a) :
    ∃ x, db.accounts.lookup id = some x ∧ a = writeAccount id x := by
  unfold loadAccount at h
  cases hl : db.accounts.lookup id with
  | none => simp [hl] at h
  | some x =>
    simp only [hl, Except.ok.injEq] at h
    exact ⟨x, rfl, h.symm⟩

theorem loadAccount_id {id : AccountId} {a : WriteAccount} (h : loadAccount db id = .ok a) :
    a.id = id := by
  obtain ⟨x, _, rfl⟩ := loadAccount_ok h
  rfl

/-- The stored endpoints of a row. -/
structure Loaded (db : Database) (old : Transaction) (s : StoredEndpoints) : Prop where
  fromAccountId : old.fromAccountId = some s.fromAccount.id
  toAccountId : old.toAccountId = some s.toAccount.id
  fromCategoryId : old.fromCategoryId = some s.fromCategory
  toCategoryId : old.toCategoryId = some s.toCategory
  fromAccount : loadAccount db s.fromAccount.id = .ok s.fromAccount
  toAccount : loadAccount db s.toAccount.id = .ok s.toAccount
  fromNative : old.fromNative = some s.fromNative
  toNative : old.toNative = some s.toNative
  valuation : ∃ v, old.valuations.head? = some v ∧ Full v

theorem loadStored_ok {old : Transaction} {s : StoredEndpoints} (h : loadStored db old = .ok s) :
    Loaded db old s := by
  simp only [loadStored, loadStoredAmounts, Except.bind_eq_ok, Except.fromOption_eq_ok,
    Except.pure_eq_ok] at h
  obtain ⟨f, hf, t, ht, fc, hfc, tc, htc, fa, hfa, ta, hta, fs, ⟨x, hx, fn, hfn, fe, hfe, rfl⟩, ts,
    ⟨y, hy, tn, htn, te, hte, rfl⟩, rfl⟩ := h
  obtain ⟨v, hv, rfl⟩ := Option.map_eq_some_iff.1 hx
  rw [hv, Option.map_some, Option.some.injEq] at hy
  subst hy
  have h1 := loadAccount_id hfa
  have h2 := loadAccount_id hta
  exact ⟨by rw [hf, h1], by rw [ht, h2], hfc, htc, by rw [h1, hfa], by rw [h2, hta],
    by simp [Transaction.fromNative, hv, hfn], by simp [Transaction.toNative, hv, htn],
    v, hv, by simp [Full, hfn, hfe, htn, hte]⟩

theorem editValuation_full {old : Transaction} {w : WriteRequest} {r : ResolvedWrite}
    {unchanged : Bool} {s : StoredEndpoints} {vs : List ValuationRevision}
    {fromNative toNative : Decimal} (hs : Loaded db old s)
    (h : editValuation db old w r unchanged s = .ok (vs, fromNative, toNative)) :
    ∃ v, vs.head? = some v ∧ Full v ∧ v.fromSide.amountNative = some fromNative ∧
      v.toSide.amountNative = some toNative := by
  unfold editValuation at h
  split at h
  · simp only [Except.ok.injEq, Prod.mk.injEq] at h
    obtain ⟨rfl, rfl, rfl⟩ := h
    obtain ⟨v, hv, hfull⟩ := hs.valuation
    have hf := hs.fromNative
    have ht := hs.toNative
    simp only [Transaction.fromNative, Transaction.toNative, Transaction.latest, hv,
      Option.bind_some] at hf ht
    exact ⟨v, hv, hfull, hf, ht⟩
  · simp only [Except.bind_eq_ok, Except.pure_eq_ok, Prod.mk.injEq] at h
    obtain ⟨v, _, rfl, rfl, rfl⟩ := h
    exact ⟨_, rfl, ⟨rfl, rfl, rfl, rfl⟩, rfl, rfl⟩

section

variable {clock : Clock} {payload : EditRequest} {old : Transaction} {r : ResolvedWrite}
  {stored : StoredEndpoints} {valuations : List ValuationRevision} {fromNative toNative : Decimal}
  {occurredAt : Option Timestamp} {accounts : List AccountUpdate} {db₁ db₂ db₃ : Database}
  {cs : List BudgetCategorySnapshot}

theorem Edited.changes {p : WriteRequest}
    (h : Edited db clock payload old r stored valuations fromNative toNative occurredAt accounts
      db₁ db₂ db₃ cs) (hn : normalize p = .ok payload.transaction)
    (hsound : Sound clock.today db) :
    Changes clock.today db db₂ ∧ Changes clock.today db₂ db₃ := by
  obtain ⟨v, hv, hfull, _, _⟩ := editValuation_full (loadStored_ok h.loaded) h.valued
  have hopen : IsOpen db clock.today payload.transaction.date.month := h.month ▸ h.isOpen
  have hw := written_of hn h.resolved occurredAt (old.revision + 1) hv hfull
  have h1 := Change.updateTransaction
    (t := writtenTransaction payload.transaction r occurredAt (old.revision + 1) valuations)
    h.found h.live h.kind h.month.symm hopen (normalize_date hn) hw
  obtain ⟨h2, A, rfl⟩ := postDeltas_changes h.posted
  exact settle_changes ((Relation.ReflTransGen.single h1).trans h2) hsound h.receipt
    (AList.lookup_insert _) (hopen.of_eq rfl rfl) h.synced

end

/-- The database with a row deleted; receipts have no foreign key. -/
def erased (db : Database) (id : TransactionId) : Database :=
  { db with
    transactions := db.transactions.erase id
    revisions := db.revisions.filter fun r => r.transactionId ≠ id }

/-- The steps of a deletion. -/
structure Deleted (db : Database) (clock : Clock) (payload : DeleteRequest) (old : Transaction)
    (stored : StoredEndpoints) (accounts : List AccountUpdate) (db₁ db' : Database)
    (cs : List BudgetCategorySnapshot) : Prop where
  found : db.transactions.lookup payload.transactionId = some old
  live : old.canonicalLive = true
  revision : old.revision = payload.expectedRevision
  kind : old.kind ≠ .reconciliation
  unreferenced : ¬ db.batches.entries.any fun e =>
    e.2.items.any fun i => i.transactionId = payload.transactionId
  uncorrected : ¬ db.corrections.entries.any fun e =>
    e.2.originalTransactionId = payload.transactionId
  isOpen : IsOpen db clock.today old.month
  loaded : loadStored db old = .ok stored
  posted : postDeltas db clock.today
    (((deltaList (accountDeltas stored.fromAccount.id stored.toAccount.id stored.fromNative
      stored.toNative)).filter fun e => e.2 ≠ 0).map fun e => (e.1, -e.2)) = .ok (db₁, accounts)
  synced : sync (erased db₁ payload.transactionId) clock.today (some payload.operationId) = .ok db'
  categories : categories db' clock.today old.month = .ok cs

theorem deleteBody_ok {clock : Clock} {payload : DeleteRequest} {response : Response}
    (h : deleteBody db clock payload = .ok (db', response)) :
    ∃ old stored accounts db₁ cs, Deleted db clock payload old stored accounts db₁ db' cs ∧
      response = .deleted payload.operationId accounts cs
        ⟨payload.transactionId, old.kind, old.effectiveDate, old.amountDecimal, old.inputCurrency,
          stored.fromCategory, stored.toCategory, stored.fromAccount.id, stored.toAccount.id,
          old.revision⟩ := by
  simp only [deleteBody, Except.bind_eq_ok, Except.mapError_eq_ok, Except.ensure_eq_ok,
    Except.pure_eq_ok, Prod.exists, Prod.mk.injEq, not_or] at h
  obtain ⟨old, hold, _, ⟨hcor, hbat⟩, _, ho, stored, hst, _, _, db₁, accounts, hp, db₂, hs, cs, hcs,
    rfl, rfl⟩ := h
  obtain ⟨h1, h2, h3, h4⟩ := loadEditable_ok hold
  exact ⟨old, stored, accounts, db₁, cs,
    ⟨h1, h2, h3, h4, hbat, hcor, requireOpen_ok ho, hst, hp, hs, hcs⟩, rfl⟩

/-- The order of the expected revisions makes no difference to what is deleted. -/
theorem Deleted.of_normalized {clock : Clock} {payload : DeleteRequest} {old : Transaction}
    {stored : StoredEndpoints} {accounts : List AccountUpdate} {db₁ : Database}
    {cs : List BudgetCategorySnapshot}
    (h : Deleted db clock (normalizedDelete payload) old stored accounts db₁ db' cs) :
    Deleted db clock payload old stored accounts db₁ db' cs :=
  ⟨h.found, h.live, h.revision, h.kind, h.unreferenced, h.uncorrected, h.isOpen, h.loaded, h.posted,
    h.synced, h.categories⟩

theorem Deleted.changes {clock : Clock} {payload : DeleteRequest} {old : Transaction}
    {stored : StoredEndpoints} {accounts : List AccountUpdate} {db₁ : Database}
    {cs : List BudgetCategorySnapshot}
    (h : Deleted db clock payload old stored accounts db₁ db' cs) (hsound : Sound clock.today db) :
    Changes clock.today db (erased db₁ payload.transactionId) ∧
      Changes clock.today (erased db₁ payload.transactionId) db' := by
  obtain ⟨h1, A, rfl⟩ := postDeltas_changes h.posted
  have h2 : Changes clock.today db (erased { db with accounts := A } payload.transactionId) :=
    h1.tail (.eraseTransaction h.found h.live h.kind (h.isOpen.of_eq rfl rfl))
  exact ⟨h2, sync_changes h.synced (h2.sound hsound)⟩

end Server
