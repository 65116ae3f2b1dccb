import Presto.ClosedExcess

/-!
# Refunds and Unallocated

A refund restores a spending category. The rule is checked on the request; the treatment that takes
effect may be the stored one, and the category a default. As long as no entry leaves its options out
on a stored refund and lands on Unallocated, no refund does, and no transaction recorded after the
activation spends from Unallocated or restores it.
-/

namespace Server

open Budget BudgetLedger

variable {today : Date} {db db' : Database} {call : Call} {response : Response} {id : TransactionId}

/-! ## What the ledger holds of a transaction -/

/-- Transactions are booked in the months from the ledger start on. -/
def BookedFromStart (db : Database) : Prop :=
  ∀ e ∈ db.movements, ∀ id, e.key.key = .transaction id →
    ∃ start, db.start = some start ∧ start ≤ e.key.month

theorem BookedFromStart.sync {operation : Option OperationId}
    (h : BudgetLedger.sync db today operation = .ok db') (hdb : BookedFromStart db) :
    BookedFromStart db' := by
  have key : db'.start = db.start ∧ BookedFromStart db' := by
    refine sync_moved (I := fun x => x.start = db.start ∧ BookedFromStart x) (fun x x' m he hx => ?_)
      (fun x t x' hm ht hx => ?_) h ⟨rfl, hdb⟩
    · obtain ⟨P, rfl, _⟩ := ensureIncome_ok he
      exact hx
    · obtain ⟨hstart, hbooked⟩ := hx
      unfold movement at hm
      split at hm
      · cases hm
        exact ⟨hstart, hbooked⟩
      · split at hm
        · cases hm
        · cases hm
          refine ⟨hstart, fun e he id hid => ?_⟩
          rcases Journal.mem_settle he with he | ⟨hkey, _⟩
          · exact hbooked e he id hid
          · rw [hkey] at hid ⊢
            obtain ⟨start, hs, hle⟩ := ht id hid
            exact ⟨start, hstart.trans hs, hle⟩
  exact key.2

theorem keptBy_bookedFromStart (db : Database) (call : Call) : KeptBy db call BookedFromStart where
  budget _ _ _ h := h
  log _ _ h := h
  sync hs h := h.sync hs
  created _ _ _ _ hc h := by
    obtain ⟨P, R, hR⟩ := hc.receipt.frame
    obtain ⟨_, A, hA⟩ := postDeltas_changes hc.posted
    rw [hR, hA]
    exact h
  edited _ _ _ he h := by
    obtain ⟨P, R, hR⟩ := he.receipt.frame
    obtain ⟨_, A, hA⟩ := postDeltas_changes he.posted
    rw [hR, hA]
    exact h
  deleted _ _ hd h := by
    obtain ⟨_, A, hA⟩ := postDeltas_changes hd.posted
    rw [hA]
    exact h
  reconciled hdate hb h := by
    obtain ⟨T, R, A, B, rfl⟩ := reconcileBody_frame hb hdate
    exact h
  corrected _ _ h := h
  completed _ _ _ _ h := h
  closed _ _ hclosed h := by
    rw [hclosed.result]
    exact h
  incomes _ _ _ h := h
  activated _ ha h := by
    intro e he id hid
    obtain ⟨start, hstart, _⟩ := h e he id hid
    rw [ha.inactive] at hstart
    cases hstart

theorem Reachable.bookedFromStart (h : Reachable today db) : BookedFromStart db := by
  obtain ⟨d₀, db₀, himp, hrun⟩ := h
  have key := hrun.induct (I := fun d db => Sound d db ∧ BookedFromStart db)
    ⟨himp.sound, fun e he => by rw [himp.movements] at he; cases he⟩ fun _ db₁ call _ hv hle _ hs => by
      have hl := hs.1.later hv hle
      refine ⟨(step_changes call hl).sound hl, ?_⟩
      unfold Server.step
      cases h : handle db₁ call with
      | ok r => exact handle_kept (keptBy_bookedFromStart db₁ call) h hl hs.2
      | error e => exact hs.2
  exact key.2

/-- The ledger holds something of a transaction only in its month, and while it is there. -/
def Held (db : Database) : Prop :=
  ∀ s id, s.key = .transaction id → Journal.balance db.movements s ≠ 0 →
    ∃ t, db.transactions.lookup id = some t ∧ t.kind ≠ .reconciliation ∧ t.month = s.month

/-- What the facts ask for, they ask for a transaction of the month. -/
theorem exists_of_recompute {s : Source} {current : Month} {x : Decimal}
    (hkey : s.key = .transaction id) (h : recompute db current s = .ok x) (hx : x ≠ 0) :
    ∃ t, db.transactions.lookup id = some t ∧ t.kind ≠ .reconciliation ∧ t.month = s.month := by
  obtain ⟨m, c, k, key⟩ := s
  obtain rfl : key = .transaction id := hkey
  by_contra hnone
  have hother : ∀ t, db.transactions.lookup id = some t → t.kind ≠ .reconciliation → t.month ≠ m :=
    fun t ht hkind hmonth => hnone ⟨t, ht, hkind, hmonth⟩
  refine hx (Except.ok.inj (h.symm.trans ?_))
  simp only [recompute]
  cases ht : db.transactions.lookup id with
  | none => rfl
  | some t =>
    simp only
    by_cases hkind : t.kind = .reconciliation
    · split
      · exact rowWants_reconciliation hkind c k
      · rfl
    · exact if_neg (hother t ht hkind)

/-- A month is closed with what its transactions ask for. -/
theorem ClosedBy.balance {p : CloseRequest} {clock : Clock} {batch : OperationId × Nat} {first : Month}
    {db₁ : Database} {cs : List BudgetCategorySnapshot} {cov : Option Coverage}
    (h : ClosedBy db clock p batch first db₁ cs cov db') (hsound : Sound clock.today db)
    {start : Month} (hstart : db.start = some start) {s : Source} (hmonth : s.month = p.month)
    (hle : start ≤ s.month) :
    recompute db' clock.today.month s = .ok (Journal.balance db'.movements s) := by
  obtain ⟨ts, hts⟩ := sync_synced h.synced hstart hsound
  rw [h.result]
  exact hts.balance (hmonth ▸ h.calendar) hle (hmonth ▸ h.before.le) (hmonth ▸ h.isOpen)

/-- The balance of a closed month stays. -/
theorem Extends.balance_eq (h : Extends db db') {s : Source} (hclosed : db.isClosed s.month = true) :
    Journal.balance db'.movements s = Journal.balance db.movements s := by
  obtain ⟨new, hnew, hopen⟩ := h.movements
  have hzero : Journal.balance new s = 0 := by
    refine Journal.balance_eq_zero fun e he hkey => ?_
    have hfalse := hopen e he
    rw [hkey, hclosed] at hfalse
    cases hfalse
  rw [hnew, Journal.balance_append, hzero, add_zero]

/-- What the close of a month leaves. -/
theorem closedBy_of_handle {clock : Clock} {actor : Subject} {p : CloseRequest}
    (h : handle db ⟨clock, actor, .close p⟩ = .ok (db', response)) (hsound : Sound clock.today db)
    (hopen : db.isClosed p.month = false) (hclosed : db'.isClosed p.month = true) :
    ∃ O batch first db₁ cs cov db₂, Sound clock.today { db with openings := O } ∧
      ClosedBy { db with openings := O } clock p batch first db₁ cs cov db₂ ∧
      db'.movements = db₂.movements ∧ db'.start = db.start ∧
      ∀ s, recompute db' clock.today.month s = recompute db₂ clock.today.month s := by
  simp only [handle, closeMonth, Except.bind_eq_ok, Except.mapError_eq_ok] at h
  obtain ⟨_, _, db₀, hinit, h⟩ := h
  have hsound₀ := (initializeOpenings_changes clock.today hinit).1.sound hsound
  obtain ⟨O, rfl⟩ := initializeOpenings_frame hinit
  rcases once_ok h with ⟨_, _, _, _, _, rfl, _⟩ | ⟨_, db₂, hb, rfl⟩
  · exact absurd (hopen.symm.trans hclosed) Bool.false_ne_true
  · obtain ⟨batch, first, db₁, cs, cov, hclosed, _⟩ := closeBody_ok hb hsound₀
    refine ⟨O, batch, first, db₁, cs, cov, db₂, hsound₀, hclosed, rfl, ?_, fun s => rfl⟩
    obtain ⟨P, M, rfl⟩ := sync_frame hclosed.synced
    rw [hclosed.result]
    rfl

/-- What a call leaves in the ledger of a transaction is what the facts ask for, or what was there
before, the transaction being as it was. -/
theorem handle_booked (h : handle db call = .ok (db', response)) (hsound : Sound call.clock.today db)
    (hbooked : BookedFromStart db') {s : Source} (hkey : s.key = .transaction id)
    (hne : Journal.balance db'.movements s ≠ 0) :
    recompute db' call.clock.today.month s = .ok (Journal.balance db'.movements s) ∨
      (Journal.balance db'.movements s = Journal.balance db.movements s ∧
        ∀ t, t.kind ≠ .reconciliation → t.month = s.month → db.transactions.lookup id = some t →
          db'.transactions.lookup id = some t) := by
  have hchanges := handle_changes h hsound
  have hextends := hchanges.toExtends
  have hentry : ∃ e ∈ db'.movements, e.key = s := by
    by_contra hnone
    exact hne (Journal.balance_eq_zero fun e he hk => hnone ⟨e, he, hk⟩)
  obtain ⟨e, he, rfl⟩ := hentry
  obtain ⟨start, hstart, hle⟩ := hbooked e he id hkey
  obtain ⟨⟨hcalendar, _⟩, hreached⟩ := (hchanges.sound hsound).movements e he
  by_cases hclosed : db.isClosed e.key.month = true
  · refine .inr ⟨hextends.balance_eq hclosed, fun t _ hmonth ht => ?_⟩
    exact (hextends.transactions id t (hmonth ▸ hclosed)).1 ht
  rw [Bool.not_eq_true] at hclosed
  by_cases hsync : Synchronises db call
  · left
    by_cases hopen : db'.isClosed e.key.month = false
    · have hworked : Worked call.clock.today db db' := (handle_worked h hsound).2 hsync
      exact hworked.balance hsound hstart hcalendar hle hreached hopen
    · -- the month was closed by this call
      rw [Bool.not_eq_false] at hopen
      rcases handle_kept (keptBy_closures db call) h hsound (fun _ hm => .inl hm) _ hopen with
        hbefore | ⟨p, hrequest, hmonth⟩
      · exact absurd (hclosed.symm.trans hbefore) Bool.false_ne_true
      · obtain ⟨clock, actor, request⟩ := call
        obtain rfl : request = .close p := hrequest
        obtain ⟨O, _, _, _, _, _, db₂, hsound₀, hclose, hmovements, hsame, hrecompute⟩ :=
          closedBy_of_handle h hsound (hmonth ▸ hclosed) (hmonth ▸ hopen)
        have hbalance := hclose.balance hsound₀ (hsame.symm.trans hstart) hmonth.symm hle
        rw [← hrecompute, ← hmovements] at hbalance
        exact hbalance
  · have hfacts := @handle_sameFacts _ _ _ _ call.clock.today.month h hsound hsync le_rfl
    refine .inr ⟨?_, fun t hkind _ ht => (hfacts.lookup id t hkind).2 ht⟩
    obtain ⟨_, _, _, _, _, _, _, hdb⟩ := hfacts.plan
    rw [hdb]

/-- A call leaves nothing in the ledger of a transaction that is gone. -/
theorem handle_held (h : handle db call = .ok (db', response)) (hsound : Sound call.clock.today db)
    (hheld : Held db) (hbooked : BookedFromStart db') : Held db' := by
  intro s id hkey hne
  rcases handle_booked h hsound hbooked hkey hne with hrecompute | ⟨hsame, hkept⟩
  · exact exists_of_recompute hkey hrecompute hne
  · rw [hsame] at hne
    obtain ⟨t, ht, hkind, hmonth⟩ := hheld s id hkey hne
    exact ⟨t, hkept t hkind hmonth ht, hkind, hmonth⟩

/-- **Nothing is held of a transaction that is gone.** -/
theorem Reachable.held (h : Reachable today db) : Held db := by
  obtain ⟨d₀, db₀, himp, hrun⟩ := h
  have key := hrun.induct (I := fun d db => Reachable d db ∧ Held db) ⟨⟨d₀, db₀, himp, .refl _ _⟩, ?_⟩
    fun _ db₁ call _ hv hle _ hs => by
      have hnext := hs.1.step hv hle
      refine ⟨hnext, ?_⟩
      have hbooked := hnext.bookedFromStart
      unfold Server.step at hbooked ⊢
      cases h : handle db₁ call with
      | ok r =>
        rw [h] at hbooked
        exact handle_held h (hs.1.sound.later hv hle) hs.2 hbooked
      | error e => exact hs.2
  · exact key.2
  · intro s id _ hne
    rw [himp.movements] at hne
    exact absurd rfl hne

/-! ## Sides -/

/-- An expense has no side on Unallocated, an income none that it comes from. -/
def Sided (t : Transaction) : Prop :=
  (t.kind = .expense → t.fromCategoryId ≠ some UNALLOCATED ∧ t.toCategoryId ≠ some UNALLOCATED) ∧
    (t.kind = .income → t.fromCategoryId ≠ some UNALLOCATED)

/-- A system category is not Unallocated. -/
theorem loadSystemCategory_ne {name : FoldedName} {c : CategoryId} (hsound : UnallocatedSound db)
    (h : loadSystemCategory db name = .ok c) : c ≠ UNALLOCATED := by
  obtain ⟨x, hx, _, hreal⟩ := loadSystemCategory_ok h
  rintro rfl
  cases hs : db.start with
  | none =>
    rw [hsound.2 hs] at hx
    cases hx
  | some start =>
    have hunallocated := hsound.1 (by rw [hs]; rfl)
    rw [Database.isRealCategory, hx, Option.any_some, hreal] at hunallocated
    cases hunallocated

/-- What normalisation makes sure of. -/
structure Normalized (p w : WriteRequest) : Prop where
  kind : w.kind = p.kind
  transactionId : w.transactionId = p.transactionId
  operationId : w.operationId = p.operationId
  treatment : w.incomeTreatment = p.incomeTreatment
  expected : w.expectedIncomeMonth = p.expectedIncomeMonth
  expense : w.kind = .expense → w.fromCategoryId ≠ some UNALLOCATED
  refund : w.incomeTreatment = some .refund → w.toCategoryId ≠ some UNALLOCATED
  category : w.toCategoryId = some UNALLOCATED → p.toCategoryId.getD UNALLOCATED = UNALLOCATED

theorem normalized_of_ok {p w : WriteRequest} (h : normalize p = .ok w) : Normalized p w := by
  simp only [normalize, Except.bind_eq_ok, Except.ensure_eq_ok, Except.pure_eq_ok, not_or, not_and] at h
  obtain ⟨_, _, _, _, _, _, _, _, _, _, _, _, _, ⟨hexpense, hrefund⟩, rfl⟩ := h
  refine ⟨rfl, rfl, rfl, rfl, rfl, hexpense, hrefund, fun hcategory => ?_⟩
  dsimp only at hcategory
  split at hcategory
  · rename_i hdefault
    rw [hdefault.2.1]
    rfl
  · rw [hcategory]
    rfl

/-- The sides of a resolved write. -/
theorem resolveWrite_sides {w : WriteRequest} {r : ResolvedWrite} (hsound : UnallocatedSound db)
    (h : resolveWrite db w = .ok r) :
    (w.kind = .expense → w.fromCategoryId = some r.endpoints.fromCategory ∧
      r.endpoints.toCategory ≠ UNALLOCATED) ∧
    (w.kind = .income → w.toCategoryId = some r.endpoints.toCategory ∧
      r.endpoints.fromCategory ≠ UNALLOCATED ∧
      (db.categories.lookup r.endpoints.toCategory).isSome = true) := by
  simp only [resolveWrite, Except.bind_eq_ok, Except.pure_eq_ok] at h
  obtain ⟨e, he, _, _, _, _, rfl⟩ := h
  constructor
  · intro hkind
    simp only [resolveEndpoints, hkind, requiredId, loadUserCategory, Except.bind_eq_ok,
      Except.fromOption_eq_ok, Except.pure_eq_ok] at he
    obtain ⟨_, _, _, _, c, hc, _, _, _, ⟨_, _, _, _, rfl⟩, _, _, s, hs, rfl⟩ := he
    exact ⟨hc, loadSystemCategory_ne hsound hs⟩
  · intro hkind
    simp only [resolveEndpoints, hkind, requiredId, loadUserCategory, Except.bind_eq_ok,
      Except.fromOption_eq_ok, Except.pure_eq_ok] at he
    obtain ⟨_, _, _, _, c, hc, _, _, _, ⟨x, hx, _, _, rfl⟩, _, _, s, hs, rfl⟩ := he
    exact ⟨hc, loadSystemCategory_ne hsound hs, by rw [hx]; rfl⟩

theorem Written.sided {t : Transaction} (hsound : UnallocatedSound db) (h : Written db t) : Sided t := by
  obtain ⟨p, w, r, occurredAt, revision, valuations, hn, hr, rfl, _⟩ := h
  obtain ⟨hexpense, hincome⟩ := resolveWrite_sides hsound hr
  refine ⟨fun hkind => ?_, fun hkind => ?_⟩
  · obtain ⟨hfrom, hto⟩ := hexpense hkind
    refine ⟨?_, fun h => hto (Option.some.inj h)⟩
    have hne := (normalized_of_ok hn).expense hkind
    rw [hfrom] at hne
    exact hne
  · exact fun h => (hincome hkind).2.1 (Option.some.inj h)

/-- What the server writes is sided. -/
theorem Change.sided (h : Change today db db') (hsound : Sound today db)
    (hdb : ∀ t, db.transactions.lookup id = some t → Sided t) :
    ∀ t, db'.transactions.lookup id = some t → Sided t := by
  have hwritten : ∀ {i : TransactionId} {x t : Transaction}, Sided x →
      (db.transactions.insert i x).lookup id = some t → Sided t := by
    intro i x t hx ht
    rw [AList.lookup_insert_of] at ht
    split at ht
    · cases ht
      exact hx
    · exact hdb t ht
  intro t ht
  cases h with
  | insertTransaction _ _ _ _ hw => exact hwritten (hw.sided hsound.unallocated) ht
  | updateTransaction _ _ _ _ _ _ hw => exact hwritten (hw.sided hsound.unallocated) ht
  | eraseTransaction =>
    refine hdb t ?_
    rw [AList.lookup_erase_of] at ht
    split at ht
    · cases ht
    · exact ht
  | adjust _ _ _ _ hkind =>
    refine hwritten ⟨fun h => ?_, fun h => ?_⟩ ht
    · rw [hkind] at h
      cases h
    · rw [hkind] at h
      cases h
  | _ => exact hdb t ht

theorem Reachable.sided {d : Date} (hreach : Reachable today db) (hrun : Run today db d db')
    (hnew : db.transactions.lookup id = none) :
    ∀ t, db'.transactions.lookup id = some t → Sided t := by
  have key := hrun.induct (I := fun d x => Sound d x ∧ ∀ t, x.transactions.lookup id = some t → Sided t)
    ⟨hreach.sound, fun t ht => by rw [hnew] at ht; cases ht⟩ fun _ _ call _ hv hle _ hs => by
      have hl := hs.1.later hv hle
      have hc := step_changes call hl
      refine ⟨hc.sound hl, ?_⟩
      generalize Server.step _ call = x at hc
      induction hc with
      | refl => exact hs.2
      | tail hc hstep ih => exact hstep.sided (Changes.sound hc hl) ih
  exact key.2

/-! ## Where incomes are placed -/

/-- An income whose receipt has one of the treatments is not placed on Unallocated. -/
def Placed (treatments : List Treatment) (id : TransactionId) (db : Database) : Prop :=
  ∀ t r, db.transactions.lookup id = some t → t.kind = .income →
    db.receipts.lookup id = some r → r.treatment ∈ treatments → t.toCategoryId ≠ some UNALLOCATED

/-- An income entry of the transaction that leaves the options out, is placed on Unallocated, and
finds a receipt with one of the treatments. -/
def EntryMisplaces (treatments : List Treatment) (id : TransactionId) (db : Database)
    (p : WriteRequest) : Prop :=
  p.transactionId = id ∧ p.kind = .income ∧ p.incomeTreatment = none ∧
    p.expectedIncomeMonth = none ∧ p.toCategoryId.getD UNALLOCATED = UNALLOCATED ∧
    (db.receipts.lookup id).any fun r => r.treatment ∈ treatments

/-- A call that is accepted for the first time with such an entry. -/
def Misplaces (treatments : List Treatment) (id : TransactionId) (db : Database) (call : Call) : Prop :=
  (handle db call).isOk = true ∧ match call.request with
    | .create p => db.operations.lookup p.operationId = none ∧ EntryMisplaces treatments id db p
    | .edit p => db.operations.lookup p.transaction.operationId = none ∧
        EntryMisplaces treatments id db p.transaction
    | .delete _ | .reconcile _ | .correct _ | .complete _ | .close _ | .createCategory _
    | .cancelBudget _ | .saveBudget _ | .saveExpectedIncome _ | .refresh | .startup => False

instance (treatments : List Treatment) (id : TransactionId) (db : Database) (p : WriteRequest) :
    Decidable (EntryMisplaces treatments id db p) := inferInstanceAs (Decidable (_ ∧ _))

instance (treatments : List Treatment) (id : TransactionId) (db : Database) (call : Call) :
    Decidable (Misplaces treatments id db call) := match call with
  | ⟨_, _, .create _⟩ | ⟨_, _, .edit _⟩ => inferInstanceAs (Decidable (_ ∧ _ ∧ _))
  | ⟨_, _, .delete _⟩ | ⟨_, _, .reconcile _⟩ | ⟨_, _, .correct _⟩ | ⟨_, _, .complete _⟩ | ⟨_, _, .close _⟩
  | ⟨_, _, .createCategory _⟩ | ⟨_, _, .cancelBudget _⟩ | ⟨_, _, .saveBudget _⟩ | ⟨_, _, .saveExpectedIncome _⟩
  | ⟨_, _, .refresh⟩ | ⟨_, _, .startup⟩ => inferInstanceAs (Decidable (_ ∧ False))

section Placed

variable {treatments : List Treatment}

theorem Placed.same (h : Placed treatments id db) (htransactions : db'.transactions = db.transactions)
    (hreceipts : db'.receipts = db.receipts) : Placed treatments id db' := by
  intro t r ht hkind hr
  exact h t r (htransactions ▸ ht) hkind (hreceipts ▸ hr)

/-- What an entry leaves: its transaction is placed, unless the entry misplaces it. -/
theorem ReceiptWritten.placed {db₁ : Database} {p w : WriteRequest} {r : ResolvedWrite}
    {occurredAt : Option Timestamp} {revision : Nat} {valuations : List ValuationRevision}
    (h : ReceiptWritten db₁ w.transactionId w.incomeTreatment w.expectedIncomeMonth db')
    (hsound : UnallocatedSound db) (hn : normalize p = .ok w) (hr : resolveWrite db w = .ok r)
    (htreatments : treatments ⊆ [.refund, .legacy])
    (htransactions : db₁.transactions = db.transactions.insert w.transactionId
      (writtenTransaction w r occurredAt revision valuations))
    (hreceipts : db₁.receipts = db.receipts) (hstart : db₁.start = db.start)
    (hnot : ¬ EntryMisplaces treatments id db p) (hdb : Placed treatments id db) :
    Placed treatments id db' := by
  obtain ⟨P, R, hframe⟩ := h.frame
  have hrows : db'.transactions = db₁.transactions := by rw [hframe]
  intro t rec ht hkind hrec hin
  rw [hrows, htransactions] at ht
  by_cases hid : id = w.transactionId
  · subst hid
    rw [AList.lookup_insert, Option.some.injEq] at ht
    subst ht
    intro hto
    have hkind : w.kind = .income := hkind
    obtain ⟨hcategory, _, hexists⟩ := (resolveWrite_sides hsound hr).2 hkind
    obtain hto : r.endpoints.toCategory = UNALLOCATED := Option.some.inj hto
    rw [hto] at hcategory hexists
    have hrow := AList.lookup_insert (a := w.transactionId) (b := writtenTransaction w r occurredAt
      revision valuations) db.transactions
    rw [← htransactions] at hrow
    have hnormalized := normalized_of_ok hn
    cases h with
    | inactive hinactive =>
      rw [hsound.2 (hstart.symm.trans hinactive)] at hexists
      cases hexists
    | dropped _ ht' hnokind => exact hnokind (Option.some.inj (hrow.symm.trans ht') ▸ hkind)
    | none _ ht' hnokind => exact hnokind (Option.some.inj (hrow.symm.trans ht') ▸ hkind)
    | kept _ _ _ hoptions _ =>
      refine hnot ⟨hnormalized.transactionId.symm, hnormalized.kind.symm.trans hkind,
        hnormalized.treatment.symm.trans hoptions.1, hnormalized.expected.symm.trans hoptions.2,
        hnormalized.category hcategory, ?_⟩
      rw [← hreceipts, hrec]
      exact decide_eq_true hin
    | salary =>
      rw [AList.lookup_insert, Option.some.injEq] at hrec
      rw [← hrec] at hin
      exact absurd (htreatments hin) (by simp)
    | @other _ x _ _ _ htreatment hx =>
      rw [AList.lookup_insert, Option.some.injEq] at hrec
      rw [← hrec] at hin
      rcases hx with rfl | rfl
      · exact absurd (htreatments hin) (by decide)
      · exact hnormalized.refund htreatment hcategory
  · rw [AList.lookup_insert_ne hid] at ht
    refine hdb t rec ht hkind ?_ hin
    rw [← hrec, ← hreceipts]
    cases h with
    | dropped => exact (AList.lookup_erase_ne hid).symm
    | salary _ _ _ _ _ _ _ hensure =>
      obtain ⟨P', rfl, _⟩ := ensureIncome_ok hensure
      exact (AList.lookup_insert_ne hid).symm
    | other => exact (AList.lookup_insert_ne hid).symm
    | _ => rfl

/-- The transaction stays placed under the writes of a call that does not misplace it. An activation
makes the receipts legacy ones. -/
theorem keptBy_placed (hsound : Sound call.clock.today db)
    (htreatments : treatments ⊆ [.refund, .legacy])
    (hcreate : ∀ p, call.request = .create p → db.operations.lookup p.operationId = none →
      ¬ EntryMisplaces treatments id db p)
    (hedit : ∀ p, call.request = .edit p → ¬ EntryMisplaces treatments id db p.transaction) :
    KeptBy db call fun x => (Treatment.legacy ∈ treatments → x.start.isSome = true) ∧
      Placed treatments id x where
  budget _ _ _ h := h
  log _ _ h := h
  sync hs h := by
    obtain ⟨P, M, rfl⟩ := sync_frame hs
    exact h
  created {p w _ x₁ _ _ r v occurredAt _ _} hrequest hn hinit hfresh hc h := by
    obtain ⟨O, rfl⟩ := initializeOpenings_frame hinit
    obtain ⟨_, A, hA⟩ := postDeltas_changes hc.posted
    obtain ⟨P, R, hR⟩ := hc.receipt.frame
    have hrows : x₁.transactions = db.transactions.insert w.transactionId
        (writtenTransaction w r occurredAt 1 [storedValuation 1 v]) := by rw [hA]; rfl
    have hreceipts : x₁.receipts = db.receipts := by rw [hA]; rfl
    have hstart : x₁.start = db.start := by rw [hA]; rfl
    rw [(normalized_of_ok hn).operationId] at hfresh
    refine ⟨?_, hc.receipt.placed hsound.unallocated hn hc.resolved htreatments hrows hreceipts hstart
      (hcreate p hrequest hfresh) h.2⟩
    rw [hR, hA]
    exact h.1
  edited {p payload old _ x₁ _ _ r _ valuations _ _ occurredAt _ _} hrequest hn hinit he h := by
    obtain ⟨O, rfl⟩ := initializeOpenings_frame hinit
    obtain ⟨_, A, hA⟩ := postDeltas_changes he.posted
    obtain ⟨P, R, hR⟩ := he.receipt.frame
    have hrows : x₁.transactions = db.transactions.insert payload.transaction.transactionId
        (writtenTransaction payload.transaction r occurredAt (old.revision + 1) valuations) := by rw [hA]
    have hreceipts : x₁.receipts = db.receipts := by rw [hA]
    have hstart : x₁.start = db.start := by rw [hA]; rfl
    refine ⟨?_, he.receipt.placed hsound.unallocated hn he.resolved htreatments hrows hreceipts hstart
      (hedit p hrequest) h.2⟩
    rw [hR, hA]
    exact h.1
  deleted {payload _ _ x _ _ _ _} _ _ hd h := by
    obtain ⟨_, A, hA⟩ := postDeltas_changes hd.posted
    rw [hA]
    refine ⟨h.1, fun t r ht hkind hr => ?_⟩
    change (x.transactions.erase payload.transactionId).lookup id = some t at ht
    rw [AList.lookup_erase_of] at ht
    split at ht
    · cases ht
    · exact h.2 t r ht hkind hr
  reconciled hdate hb h := by
    obtain ⟨T, R, A, B, hdb⟩ := reconcileBody_frame hb hdate
    have hsame := reconcileBody_sameFacts call.clock.today.month hb
    refine ⟨?_, fun t r ht hkind hr => ?_⟩
    · rw [hdb]
      exact h.1
    · have hbefore := (hsame.lookup id t (by rw [hkind]; decide)).1 ht
      rw [hdb] at hr
      exact h.2 t r hbefore hkind hr
  corrected _ _ h := h
  completed _ _ _ _ h := h
  closed _ _ hclosed h := by
    rw [hclosed.result]
    exact h
  incomes _ _ _ h := h
  activated {x _ _ _ _ _ _ _} _ ha h := by
    refine ⟨fun _ => rfl, fun t r ht hkind hr hin => ?_⟩
    change x.transactions.lookup id = some t at ht
    change (legacyReceipts x call.clock.today.month).lookup id = some r at hr
    rw [lookup_legacyReceipts, ht] at hr
    simp only [hkind, if_true, Option.some.injEq] at hr
    rw [← hr] at hin
    have hstart := h.1 hin
    rw [ha.inactive] at hstart
    cases hstart

/-- A call that does not misplace the transaction keeps it placed. -/
theorem handle_placed (h : handle db call = .ok (db', response)) (hsound : Sound call.clock.today db)
    (htreatments : treatments ⊆ [.refund, .legacy]) (hnot : ¬ Misplaces treatments id db call)
    (hstart : Treatment.legacy ∈ treatments → db.start.isSome = true)
    (hdb : Placed treatments id db) : Placed treatments id db' := by
  have hok : (handle db call).isOk = true := by
    rw [h]
    rfl
  by_cases hlogged : ∃ p row, call.request = .edit p ∧
      db.operations.lookup p.transaction.operationId = some row
  · -- an edit that is logged is answered from the log
    obtain ⟨p, row, hrequest, hrow⟩ := hlogged
    obtain ⟨clock, actor, request⟩ := call
    obtain rfl : request = .edit p := hrequest
    simp only [handle, editTransaction, Except.bind_eq_ok, Except.mapError_eq_ok] at h
    obtain ⟨w, hn, _, _, _, _, db₁, hinit, h⟩ := h
    obtain ⟨O, rfl⟩ := initializeOpenings_frame hinit
    rcases once_ok h with ⟨_, _, _, _, _, rfl, _⟩ | ⟨hnew, _⟩
    · exact hdb.same rfl rfl
    · rw [(normalized_of_ok hn).operationId] at hnew
      exact absurd (hrow.symm.trans hnew) (Option.some_ne_none row)
  · have hkept := @keptBy_placed _ _ id _ hsound htreatments
      (fun p hrequest hfresh hentry => hnot ⟨hok, by rw [hrequest]; exact ⟨hfresh, hentry⟩⟩)
      fun p hrequest hentry => hnot ⟨hok, by
        rw [hrequest]
        refine ⟨Option.eq_none_iff_forall_not_mem.2 fun row hrow => hlogged ⟨p, row, hrequest, hrow⟩,
          hentry⟩⟩
    exact (handle_kept hkept h hsound ⟨hstart, hdb⟩).2

theorem run_placed {d : Date} (hsound : Sound today db) (htreatments : treatments ⊆ [.refund, .legacy])
    (hrun : RunWhere (fun db call => ¬ Misplaces treatments id db call) today db d db')
    (hstart : Treatment.legacy ∈ treatments → db.start.isSome = true)
    (hdb : Placed treatments id db) : Placed treatments id db' := by
  have key := hrun.induct (I := fun d x => Sound d x ∧
      (Treatment.legacy ∈ treatments → x.start.isSome = true) ∧ Placed treatments id x)
    ⟨hsound, hstart, hdb⟩ fun _ x call _ hv hle hnot hs => by
      have hl := hs.1.later hv hle
      have hchanges := step_changes call hl
      refine ⟨hchanges.sound hl, fun hlegacy => ?_, ?_⟩
      · obtain ⟨start, h⟩ := Option.isSome_iff_exists.1 (hs.2.1 hlegacy)
        rw [hchanges.toExtends.start h]
        rfl
      · unfold Server.step
        cases h : handle x call with
        | ok r => exact handle_placed h hl htreatments hnot hs.2.1 hs.2.2
        | error e => exact hs.2.2
  exact key.2.2

end Placed

/-! ## Spending on Unallocated -/

/-- The spending that a transaction books on Unallocated in a month. -/
def unallocatedSpending (id : TransactionId) (m : Month) : Source :=
  ⟨m, UNALLOCATED, .spending, .transaction id⟩

/-- A row with its sides elsewhere wants nothing of Unallocated. -/
theorem sidesWant_elsewhere {r : LedgerRow} (hfrom : r.fromCategoryId ≠ some UNALLOCATED)
    (hto : r.toCategoryId ≠ some UNALLOCATED) : sidesWant db r UNALLOCATED = .ok 0 := by
  unfold sidesWant
  split
  · rw [sideWants, sideWants, if_neg hfrom, if_neg hto]
    rfl
  · rfl

/-- A placed transaction with its sides elsewhere wants no spending of Unallocated. -/
theorem rowWants_placed {t : Transaction} (ht : db.transactions.lookup id = some t)
    (hplaced : Placed [.refund, .legacy] id db) (hsided : Sided t) :
    rowWants db (t.row id) UNALLOCATED .spending = .ok 0 := by
  unfold rowWants
  split
  · rename_i hbooks
    obtain ⟨hbooks, hspending⟩ := hbooks
    cases hkind : t.kind with
    | expense => exact sidesWant_elsewhere (hsided.1 hkind).1 (hsided.1 hkind).2
    | income =>
      have hrow : (t.row id).kind = .income := hkind
      refine sidesWant_elsewhere (hsided.2 hkind) ?_
      simp only [booksSides, hrow] at hbooks
      replace hbooks : (db.receipts.lookup id).map (·.treatment) = some .refund ∨
        (db.receipts.lookup id).map (·.treatment) = some .legacy := of_decide_eq_true hbooks
      cases hr : db.receipts.lookup id with
      | none => simp [hr] at hbooks
      | some r =>
        refine hplaced t r ht hkind hr ?_
        simpa [hr] using hbooks
    | reallocate =>
      have hrow : (t.row id).kind = .reallocate := hkind
      rw [sideKind, if_pos hrow] at hspending
      cases hspending
    | transfer =>
      have hrow : (t.row id).kind = .transfer := hkind
      simp [booksSides, hrow] at hbooks
    | reconciliation =>
      have hrow : (t.row id).kind = .reconciliation := hkind
      simp [booksSides, hrow] at hbooks
  · exact if_neg fun h => MovementKind.noConfusion h.2.1

theorem recompute_unallocatedSpending (hplaced : Placed [.refund, .legacy] id db)
    (hsided : ∀ t, db.transactions.lookup id = some t → Sided t) (current m : Month) :
    recompute db current (unallocatedSpending id m) = .ok 0 := by
  simp only [recompute, unallocatedSpending]
  cases ht : db.transactions.lookup id with
  | none => rfl
  | some t =>
    by_cases hmonth : t.month = m
    · exact (if_pos hmonth).trans (rowWants_placed ht hplaced (hsided t ht))
    · exact if_neg hmonth

/-- Nothing is booked as spending of a transaction on Unallocated. -/
def UnspentOnUnallocated (id : TransactionId) (db : Database) : Prop :=
  ∀ m, Journal.balance db.movements (unallocatedSpending id m) = 0

theorem handle_unspent (h : handle db call = .ok (db', response)) (hsound : Sound call.clock.today db)
    (hbooked : BookedFromStart db') (hplaced : Placed [.refund, .legacy] id db')
    (hsided : ∀ t, db'.transactions.lookup id = some t → Sided t)
    (hdb : UnspentOnUnallocated id db) : UnspentOnUnallocated id db' := by
  intro m
  by_contra hne
  have hkey : (unallocatedSpending id m).key = .transaction id := rfl
  rcases handle_booked h hsound hbooked hkey hne with hrecompute | ⟨hsame, _⟩
  · rw [recompute_unallocatedSpending hplaced hsided] at hrecompute
    exact hne (Except.ok.inj hrecompute).symm
  · exact hne (hsame.trans (hdb m))

/-- **Refunds restore a spending category.** In a run from the import in which no entry leaves its
options out on a stored refund and lands on Unallocated, no refund is placed on Unallocated. And what
is not there at some time of the active ledger never books spending on Unallocated afterwards, as long
as no entry of it does so on a stored refund or on a receipt from before the ledger. -/
theorem refunds_restore {d₀ : Date} {db₀ : Database} (himported : Imported d₀ db₀) :
    (∀ id today db,
      RunWhere (fun db call => ¬ Misplaces [.refund] id db call) d₀ db₀ today db →
        Placed [.refund] id db) ∧
    ∀ id d₁ db₁ today db, Run d₀ db₀ d₁ db₁ → db₁.start.isSome = true →
      db₁.transactions.lookup id = none →
      RunWhere (fun db call => ¬ Misplaces [.refund, .legacy] id db call) d₁ db₁ today db →
        UnspentOnUnallocated id db := by
  constructor
  · intro id today db hrun
    refine run_placed himported.sound (by simp) hrun (by simp) fun t r _ _ hr => ?_
    rw [himported.receipts] at hr
    cases hr
  · intro id d₁ db₁ today db hbefore hstart hnew hrun
    have hreach : Reachable d₁ db₁ := ⟨d₀, db₀, himported, hbefore⟩
    have key := hrun.induct (I := fun d x => UnspentOnUnallocated id x) (fun m => ?_)
      fun d x call hx hv hle hnot hs => ?_
    · exact key
    · by_contra hne
      obtain ⟨t, ht, _⟩ := hreach.held (unallocatedSpending id m) id rfl hne
      rw [hnew] at ht
      cases ht
    · have hnext := RunWhere.step hx call hv hle hnot
      have hsound := (hreach.trans hx).sound.later hv hle
      have hbooked := (hreach.trans hnext).bookedFromStart
      have hplaced := run_placed hreach.sound (by simp) hnext (fun _ => hstart)
        fun t _ ht => by rw [hnew] at ht; cases ht
      have hsided := hreach.sided (hnext.mono fun _ _ _ => trivial) hnew
      unfold Server.step at hbooked hplaced hsided ⊢
      cases h : handle x call with
      | ok r =>
        rw [h] at hbooked hplaced hsided
        exact handle_unspent h hsound hbooked hplaced hsided hs
      | error e => exact hs

/-- A refund of 15 EUR to a spending category. -/
def refunded : Call :=
  callOn october 3 (.create { earn 100 200 ⟨october, 3⟩ 15 (some .refund) with toCategoryId := some 1 })

/-- An edit of it that leaves the options out. -/
def refundEdited (category : Option CategoryId) : Call :=
  callOn october 4 (.edit ⟨{ earn 101 200 ⟨october, 3⟩ 20 none with toCategoryId := category }, 1, [(1, 1)]⟩)

theorem refunds_restore_october :
    let db := run (household 1000) opened
    Placed [.refund] 200 (run db [refunded, refundEdited (some 1)]) ∧
      UnspentOnUnallocated 200 (run db [refunded, refundEdited (some 1)]) := by
  intro db
  obtain ⟨hplaced, hunspent⟩ := refunds_restore (household_imported 1000)
  have hopened : Run ⟨october, 1⟩ (household 1000) ⟨october, 2⟩ db :=
    run_of_chronological (.refl _ _) (by decide : Chronological _ opened)
  refine ⟨hplaced 200 ⟨october, 4⟩ _ ?_, hunspent 200 ⟨october, 2⟩ db ⟨october, 4⟩ _ hopened
    (by decide +kernel) (by decide +kernel) ?_⟩
  · have hrun : RunWhere (fun db call => ¬ Misplaces [.refund] 200 db call) ⟨october, 1⟩ (household 1000)
        ⟨october, 2⟩ db :=
      runWhere_of_chronological (.refl _ _) (by decide : Chronological _ opened) (by decide +kernel)
    exact runWhere_of_chronological hrun
      (by decide : Chronological _ [refunded, refundEdited (some 1)]) (by decide +kernel)
  · exact runWhere_of_chronological (.refl _ _)
      (by decide : Chronological _ [refunded, refundEdited (some 1)]) (by decide +kernel)

/-- **A refund on Unallocated.** An edit that leaves out the options and the category keeps the stored
refund and takes Unallocated as the category: the refund is booked there as spending. -/
theorem refund_unallocated :
    let db := run (household 1000) opened
    let db' := run db [refunded, refundEdited none]
    Reachable ⟨october, 2⟩ db ∧ db.start.isSome = true ∧ db.transactions.lookup 200 = none ∧
      Run ⟨october, 2⟩ db ⟨october, 4⟩ db' ∧
      (∃ t, db'.transactions.lookup 200 = some t ∧ t.kind = .income ∧
        t.toCategoryId = some UNALLOCATED) ∧
      db'.receipts.lookup 200 = some ⟨.refund, none⟩ ∧ ¬ Placed [.refund] 200 db' ∧
      Journal.balance db'.movements (unallocatedSpending 200 october) = 20 := by
  intro db db'
  have hrun : Run ⟨october, 2⟩ db ⟨october, 4⟩ db' :=
    run_of_chronological (.refl _ _) (by decide : Chronological _ [refunded, refundEdited none])
  have hreceipt : db'.receipts.lookup 200 = some ⟨.refund, none⟩ := by decide +kernel
  obtain ⟨t, ht, hfacts⟩ := (Option.any_eq_true _ _).1 (by decide +kernel :
    (db'.transactions.lookup 200).any (fun t => t.kind = .income ∧ t.toCategoryId = some UNALLOCATED))
  obtain ⟨hkind, hto⟩ := of_decide_eq_true hfacts
  refine ⟨household_reachable 1000 (by decide : Chronological _ opened), by decide +kernel,
    by decide +kernel, hrun, ⟨t, ht, hkind, hto⟩, hreceipt, fun hplaced => ?_, by decide +kernel⟩
  exact hplaced t _ ht hkind hreceipt List.mem_cons_self hto

end Server
