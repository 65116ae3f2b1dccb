import Presto.Accounts

/-!
# What a recorded reconciliation leaves

A reconciliation is recorded account by account. At each account it lists, it leaves the balance that
was observed plus what was booked afterwards, one adjustment, and an item with the balance of the
closing date; at the other accounts it leaves everything as it was. Since a submission replaces the
adjustment of the one before, the balance before the adjustment of a date stays the same over any
number of them.
-/

namespace Server

open Budget BudgetLedger

variable {today : Date} {db db' : Database} {call : Call} {response : Response} {a : AccountId}

/-- An account, its adjustments of a date and its transactions after the date are as they were. -/
structure SameAt (date : Date) (a : AccountId) (db db' : Database) : Prop where
  account : db'.accounts.lookup a = db.accounts.lookup a
  adjustments : existingAdjustments db' a date = existingAdjustments db a date
  activity : activityRows db' a date = activityRows db a date

namespace SameAt

variable {date : Date} {db'' : Database}

theorem refl (date : Date) (a : AccountId) (db : Database) : SameAt date a db db := ⟨rfl, rfl, rfl⟩

theorem trans (h : SameAt date a db db') (h' : SameAt date a db' db'') : SameAt date a db db'' :=
  ⟨h'.account.trans h.account, h'.adjustments.trans h.adjustments, h'.activity.trans h.activity⟩

theorem existingAdjustment (h : SameAt date a db db') :
    existingAdjustment db' a date = Server.existingAdjustment db a date := by
  rw [Server.existingAdjustment, Server.existingAdjustment, h.adjustments]

theorem requestedActivity {payload : ReconciliationRequest} (h : SameAt payload.date a db db') :
    requestedActivity db' payload a = Server.requestedActivity db payload a := by
  unfold Server.requestedActivity reconciliationActivity
  rw [h.activity]

end SameAt

/-! ## One account -/

/-- The reconciliation account and category are in place. -/
structure SystemRows (db : Database) (systemAccount : AccountId) (systemCategory : CategoryId) :
    Prop where
  account : (db.accounts.lookup systemAccount).any fun a => a.sourceName.folded = .reconciliation
  category : (db.categories.lookup systemCategory).any fun c => c.name.folded = .reconciliation

/-- What the recorder loads. -/
theorem systemRows_of_ok {systemAccount : WriteAccount} {systemCategory : CategoryId}
    (haccount : loadSystemAccount db .reconciliation = .ok systemAccount)
    (hcategory : loadSystemCategory db .reconciliation = .ok systemCategory) :
    SystemRows db systemAccount.id systemCategory := by
  obtain ⟨x, hx, _, hname, _⟩ := loadSystemAccount_ok haccount
  obtain ⟨c, hc, hcname, _⟩ := loadSystemCategory_ok hcategory
  constructor
  · rw [hx]
    exact decide_eq_true hname
  · rw [hc]
    exact decide_eq_true hcname

section Reconciled

variable {payload : ReconciliationRequest} {systemAccount : WriteAccount}
  {systemCategory : CategoryId} {requested : ReconciliationAccount} {account : Account}
  {balance : Decimal} {existing : Option (TransactionId × Transaction)} {id : TransactionId}
  {activity : Activity} {v : TransactionValuation} {row : Transaction}

theorem Reconciled.systemRows
    (h : Reconciled db payload systemAccount systemCategory requested account balance existing id
      activity v row db') {x : AccountId} {c : CategoryId} (hsystem : SystemRows db x c) :
    SystemRows db' x c where
  account := (h.systemAccountNamed_eq (some x)).trans hsystem.account
  category := by
    rw [h.categories_eq]
    exact hsystem.category

/-- The other accounts are left alone. -/
theorem Reconciled.sameAt
    (h : Reconciled db payload systemAccount systemCategory requested account balance existing id
      activity v row db') (hother : requested.accountId ≠ a) : SameAt payload.date a db db' where
  account := by
    rw [h.result]
    exact AList.lookup_insert_ne hother.symm
  adjustments := h.existingAdjustments_eq hother
  activity := h.activityRows_eq a

/-- The account keeps exactly one adjustment of the date. -/
theorem Reconciled.existingAdjustments_self
    (h : Reconciled db payload systemAccount systemCategory requested account balance existing id
      activity v row db') (hsystem : SystemRows db systemAccount.id systemCategory) :
    existingAdjustments db' requested.accountId payload.date = [(id, row)] := by
  -- the row is an adjustment, and it takes the place of the only one there was
  have hrow : row.kind = .reconciliation ∧ row.effectiveDate = payload.date ∧
      row.fromAccountId = some requested.accountId ∧
      ((row.toAccountId.bind db.accounts.lookup).any fun x =>
        x.sourceName.folded = .reconciliation) ∧
      (row.fromCategoryId.bind db.categories.lookup).any fun c =>
        c.name.folded = .reconciliation := by
    obtain ⟨hkind, hdate, _⟩ := h.row_facts
    refine ⟨hkind, hdate, ?_⟩
    rw [h.written]
    cases existing with
    | none => exact ⟨rfl, hsystem.account, hsystem.category⟩
    | some e =>
      have hmem := existingAdjustment_mem h.found
      obtain ⟨⟨x, t⟩, hin, rfl⟩ := List.mem_map.1 hmem
      obtain ⟨_, _, h3, h4, h5⟩ := of_decide_eq_true (List.mem_filter.1 hin).2
      exact ⟨h3, h4, h5⟩
  have honly : ∀ e ∈ existingAdjustments db requested.accountId payload.date, e.1 = id := by
    rcases adjustmentId_ok h.placed with ⟨e, rfl, rfl⟩ | ⟨rfl, _, _⟩
    · rw [existingAdjustment_some h.found]
      intro e' he'
      rw [List.mem_singleton.1 he']
    · rw [existingAdjustment_none h.found]
      simp
  unfold existingAdjustments at honly ⊢
  simp only [h.systemAccountNamed_eq, h.categories_eq]
  rw [h.result]
  simp only [adjusted]
  rw [AList.filter_insert_only]
  · rfl
  · exact decide_eq_true hrow
  · intro e he
    exact honly (e.1, e.2) (List.mem_map_of_mem he)

end Reconciled

/-- What recording a reconciliation leaves at an account it lists, from the state before. -/
structure RecordedAt (db db' : Database) (items : List ReconciliationItem)
    (payload : ReconciliationRequest) (r : ReconciliationAccount) (account : Account)
    (balance : Decimal) (existing : Option (TransactionId × Transaction)) (id : TransactionId)
    (activity : Activity) (row : Transaction) : Prop where
  loaded : db.accounts.lookup r.accountId = some account
  balanced : account.currentNativeBalance = some balance
  current : account.ledgerRevision = r.expectedRevision
  found : existingAdjustment db r.accountId payload.date = .ok existing
  observed : requestedActivity db payload r.accountId = .ok activity
  amount : row.amountDecimal = adjustmentOf balance ((existing.map (·.2.amountDecimal)).getD 0)
    (r.actualBalance + activity.afterObservation)
  native : row.fromNative = some row.amountDecimal
  stored : db'.accounts.lookup r.accountId = some { account with
    currentNativeBalance := some (r.actualBalance + activity.afterObservation)
    ledgerRevision := account.ledgerRevision + 1 }
  adjustment : existingAdjustments db' r.accountId payload.date = [(id, row)]
  unmoved : activityRows db' r.accountId payload.date = activityRows db r.accountId payload.date
  listed : recordedItem payload r account id activity row.amountDecimal ∈ items

namespace RecordedAt

variable {items items' : List ReconciliationItem} {payload : ReconciliationRequest}
  {r : ReconciliationAccount} {account : Account} {balance : Decimal}
  {existing : Option (TransactionId × Transaction)} {id : TransactionId} {activity : Activity}
  {row : Transaction} {db₀ db₁ : Database}

/-- What happens at other accounts before does not count. -/
theorem before (h : RecordedAt db db' items payload r account balance existing id activity row)
    (hsame : SameAt payload.date r.accountId db₀ db) :
    RecordedAt db₀ db' items payload r account balance existing id activity row :=
  { h with
    loaded := hsame.account ▸ h.loaded
    found := hsame.existingAdjustment ▸ h.found
    observed := hsame.requestedActivity ▸ h.observed
    unmoved := h.unmoved.trans hsame.activity }

/-- What happens at other accounts afterwards does not count. -/
theorem after (h : RecordedAt db db' items payload r account balance existing id activity row)
    (hsame : SameAt payload.date r.accountId db' db₁) (hitems : ∀ i ∈ items, i ∈ items') :
    RecordedAt db db₁ items' payload r account balance existing id activity row :=
  { h with
    stored := hsame.account.trans h.stored
    adjustment := hsame.adjustments.trans h.adjustment
    unmoved := hsame.activity.trans h.unmoved
    listed := hitems _ h.listed }

end RecordedAt

theorem Reconciled.recordedAt {payload : ReconciliationRequest} {systemAccount : WriteAccount}
    {systemCategory : CategoryId} {requested : ReconciliationAccount} {account : Account}
    {balance : Decimal} {existing : Option (TransactionId × Transaction)} {id : TransactionId}
    {activity : Activity} {v : TransactionValuation} {row : Transaction}
    {items : List ReconciliationItem}
    (h : Reconciled db payload systemAccount systemCategory requested account balance existing id
      activity v row db') (hsystem : SystemRows db systemAccount.id systemCategory)
    (hitem : recordedItem payload requested account id activity (adjustmentOf balance
      ((existing.map (·.2.amountDecimal)).getD 0)
      (requested.actualBalance + activity.afterObservation)) ∈ items) :
    RecordedAt db db' items payload requested account balance existing id activity row := by
  have hamount : row.amountDecimal = adjustmentOf balance
      ((existing.map (·.2.amountDecimal)).getD 0)
      (requested.actualBalance + activity.afterObservation) := by
    rw [h.written]
    cases existing <;> rfl
  refine ⟨h.loaded, h.balanced, h.current, h.found, h.observed, hamount, ?_, ?_,
    h.existingAdjustments_self hsystem, h.activityRows_eq _, hamount ▸ hitem⟩
  · have hvalued := calculateValuation_fromNative h.valued
    rw [adjustmentOf, Decimal.roundPosted_of_within (Decimal.within_roundPosted _)] at hvalued
    rw [hamount, adjustmentOf, ← hvalued, h.written]
    cases existing <;> rfl
  · rw [h.result]
    exact AList.lookup_insert _

/-! ## A whole submission -/

/-- A submission reconciles the accounts it lists, each from the state before the submission, and
leaves the others alone. -/
theorem reconcileAccounts_recorded {clock : Clock} {payload : ReconciliationRequest}
    {systemAccount : WriteAccount} {systemCategory : CategoryId}
    {requests : List ReconciliationAccount} :
    ∀ {s s' : ReconciliationState},
      requests.foldlM (reconcileAccount clock payload systemAccount systemCategory) s = .ok s' →
      (requests.map (·.accountId)).Nodup → SystemRows s.db systemAccount.id systemCategory →
      (∀ a ∉ requests.map (·.accountId), SameAt payload.date a s.db s'.db) ∧
      (∀ i ∈ s.items, i ∈ s'.items) ∧
      ∀ r ∈ requests, ∃ account balance existing id activity row,
        RecordedAt s.db s'.db s'.items payload r account balance existing id activity row := by
  induction requests with
  | nil =>
    intro s s' h _ _
    rw [List.foldlM_nil, Except.pure_eq_ok] at h
    subst h
    exact ⟨fun a _ => .refl _ _ _, fun _ hi => hi, by simp⟩
  | cons requested requests ih =>
    intro s s' h hnodup hsystem
    rw [List.foldlM_cons, Except.bind_eq_ok] at h
    obtain ⟨mid, h1, h2⟩ := h
    obtain ⟨account, balance, existing, id, activity, v, row, hrec, hitems⟩ := reconcileAccount_ok h1
    rw [List.map_cons, List.nodup_cons] at hnodup
    obtain ⟨hsame, hkept, hrecorded⟩ := ih h2 hnodup.2 (hrec.systemRows hsystem)
    have hhead : RecordedAt s.db mid.db mid.items payload requested account balance existing id
        activity row := hrec.recordedAt hsystem (by simp [hitems])
    refine ⟨fun a ha => ?_, fun i hi => hkept i (by simp [hitems, hi]), fun r hr => ?_⟩
    · rw [List.map_cons, List.mem_cons, not_or] at ha
      exact (hrec.sameAt (Ne.symm ha.1)).trans (hsame a ha.2)
    · rcases List.mem_cons.1 hr with rfl | hr
      · exact ⟨_, _, _, _, _, _, hhead.after (hsame _ hnodup.1) hkept⟩
      · have hother : requested.accountId ≠ r.accountId := fun h =>
          hnodup.1 (h ▸ List.mem_map_of_mem hr)
        obtain ⟨_, _, _, _, _, _, hrecorded⟩ := hrecorded r hr
        exact ⟨_, _, _, _, _, _, hrecorded.before (hrec.sameAt hother)⟩

/-- What the static checks leave as it is; the balances are taken in cents. -/
theorem normalizeReconciliation_fields {p payload : ReconciliationRequest}
    (h : normalizeReconciliation p = .ok payload) :
    payload.date = p.date ∧ payload.observedAt = p.observedAt ∧
      payload.observedDate = p.observedDate ∧
      ∀ r ∈ p.accounts, { r with actualBalance := r.actualBalance.roundPosted } ∈
        payload.accounts := by
  simp only [normalizeReconciliation, Except.bind_eq_ok, Except.pure_eq_ok] at h
  obtain ⟨_, _, _, _, _, _, rfl⟩ := h
  refine ⟨rfl, rfl, rfl, fun r hr => ?_⟩
  rw [List.mem_insertionSort]
  exact List.mem_map_of_mem (f := fun a : ReconciliationAccount =>
    { a with actualBalance := a.actualBalance.roundPosted }) hr

/-- A submission that is accepted for the first time. -/
theorem recordReconciliation_recorded {clock : Clock} {actor : Subject} {p : ReconciliationRequest}
    (h : handle db ⟨clock, actor, .reconcile p⟩ = .ok (db', response))
    (hnew : db.operations.lookup p.operationId = none) :
    ∃ payload items, normalizeReconciliation p = .ok payload ∧
      db'.batches.lookup p.operationId = some ⟨p.date, items⟩ ∧
      (∀ a ∉ payload.accounts.map (·.accountId), SameAt p.date a db db') ∧
      ∀ r ∈ payload.accounts, ∃ account balance existing id activity row,
        RecordedAt db db' items payload r account balance existing id activity row := by
  simp only [handle, recordReconciliation, Except.bind_eq_ok, Except.mapError_eq_ok] at h
  obtain ⟨payload, hn, db₀, hinit, h⟩ := h
  have hid := normalizeReconciliation_operationId hn
  have hdate := (normalizeReconciliation_fields hn).1
  obtain ⟨O, rfl⟩ := initializeOpenings_frame hinit
  rcases once_ok h with ⟨row, hrow, _⟩ | ⟨_, db₁, hb, rfl⟩
  · rw [hid] at hrow
    exact absurd (hnew.symm.trans hrow) (by simp)
  obtain ⟨sa, sc, s, _, _, _, hsys, hcat, hs, rfl, _⟩ := reconcileBody_ok hb
  obtain ⟨hsame, _, hrecorded⟩ := reconcileAccounts_recorded hs (normalizeReconciliation_nodup hn)
    (systemRows_of_ok hsys hcat)
  refine ⟨payload, s.items, hn, ?_, fun a ha => ?_, fun r hr => ?_⟩
  · rw [← hid, ← hdate]
    exact AList.lookup_insert _
  · have hlisted := hsame a ha
    rw [hdate] at hlisted
    exact ⟨hlisted.account, hlisted.adjustments, hlisted.activity⟩
  · obtain ⟨account, balance, existing, id, activity, row, hr⟩ := hrecorded r hr
    exact ⟨account, balance, existing, id, activity, row, hr.loaded, hr.balanced, hr.current,
      hr.found, hr.observed, hr.amount, hr.native, hr.stored, hr.adjustment, hr.unmoved, hr.listed⟩

/-! ## The same date again -/

/-- The amount of the adjustment of a date, zero when there is none. -/
def adjustmentAmount (db : Database) (a : AccountId) (date : Date) : Decimal :=
  ((existingAdjustments db a date).head?.map (·.2.amountDecimal)).getD 0

/-- The stored balance without the adjustment of a date. -/
def unadjusted (db : Database) (a : AccountId) (date : Date) : Decimal :=
  balanceOf db a + adjustmentAmount db a date

/-- Balance, adjustment and later transactions of an account are in cents. -/
structure InCents (db : Database) (a : AccountId) (date : Date) : Prop where
  balance : (balanceOf db a).Within 2
  adjustment : (adjustmentAmount db a date).Within 2
  activity : ∀ e ∈ activityRows db a date, ∀ net, netNative a (e.2.row e.1) = .ok net → net.Within 2

/-- Activity in cents adds up to cents. -/
theorem reconciliationActivity_within {closingDate observedDate : Date}
    {observedAt : Option Timestamp} {activity : Activity}
    (h : reconciliationActivity db a closingDate observedDate observedAt = .ok activity)
    (hrows : ∀ e ∈ activityRows db a closingDate, ∀ net,
      netNative a (e.2.row e.1) = .ok net → net.Within 2) :
    activity.throughObservation.Within 2 ∧ activity.afterObservation.Within 2 := by
  refine Except.foldlM_induction
    (fun acc : Activity => acc.throughObservation.Within 2 ∧ acc.afterObservation.Within 2) h
    ⟨.zero 2, .zero 2⟩ fun e he acc acc' hacc hstep => ?_
  simp only [activityStep, Except.bind_eq_ok] at hstep
  obtain ⟨net, hnet, hstep⟩ := hstep
  have hwithin := hrows e he net hnet
  split at hstep
  · rw [Except.pure_eq_ok] at hstep
    subst hstep
    exact ⟨hacc.1.add hwithin, hacc.2⟩
  · rw [Except.pure_eq_ok] at hstep
    subst hstep
    exact ⟨hacc.1, hacc.2.add hwithin⟩

theorem requestedActivity_within {payload : ReconciliationRequest} {activity : Activity}
    (h : requestedActivity db payload a = .ok activity)
    (hrows : ∀ e ∈ activityRows db a payload.date, ∀ net,
      netNative a (e.2.row e.1) = .ok net → net.Within 2) :
    activity.afterObservation.Within 2 := by
  unfold requestedActivity at h
  split at h
  · exact (reconciliationActivity_within h hrows).2
  · cases h
    exact .zero 2

/-- Neither the later transactions nor, in cents, the balance before the adjustment have changed. -/
structure SameBase (date : Date) (a : AccountId) (db db' : Database) : Prop where
  activity : activityRows db' a date = activityRows db a date
  cents : InCents db a date → InCents db' a date ∧ unadjusted db' a date = unadjusted db a date

namespace SameBase

variable {date : Date} {db'' : Database}

theorem refl (date : Date) (a : AccountId) (db : Database) : SameBase date a db db :=
  ⟨rfl, fun h => ⟨h, rfl⟩⟩

theorem trans (h : SameBase date a db db') (h' : SameBase date a db' db'') :
    SameBase date a db db'' where
  activity := h'.activity.trans h.activity
  cents hdb := by
    obtain ⟨h1, heq1⟩ := h.cents hdb
    obtain ⟨h2, heq2⟩ := h'.cents h1
    exact ⟨h2, heq2.trans heq1⟩

end SameBase

theorem SameAt.sameBase {date : Date} (h : SameAt date a db db') : SameBase date a db db' := by
  have hbalance : balanceOf db' a = balanceOf db a := by rw [balanceOf, balanceOf, h.account]
  have hamount : adjustmentAmount db' a date = adjustmentAmount db a date := by
    rw [adjustmentAmount, adjustmentAmount, h.adjustments]
  refine ⟨h.activity, fun hdb => ⟨⟨?_, ?_, ?_⟩, ?_⟩⟩
  · rw [hbalance]
    exact hdb.balance
  · rw [hamount]
    exact hdb.adjustment
  · rw [h.activity]
    exact hdb.activity
  · rw [unadjusted, unadjusted, hbalance, hamount]

namespace RecordedAt

variable {items : List ReconciliationItem} {payload : ReconciliationRequest}
  {r : ReconciliationAccount} {account : Account} {balance : Decimal}
  {existing : Option (TransactionId × Transaction)} {id : TransactionId} {activity : Activity}
  {row : Transaction}

theorem balanceOf_before
    (h : RecordedAt db db' items payload r account balance existing id activity row) :
    balanceOf db r.accountId = balance := by
  simp [balanceOf, h.loaded, h.balanced]

theorem balanceOf_after
    (h : RecordedAt db db' items payload r account balance existing id activity row) :
    balanceOf db' r.accountId = r.actualBalance + activity.afterObservation := by
  simp [balanceOf, h.stored]

theorem adjustmentAmount_before
    (h : RecordedAt db db' items payload r account balance existing id activity row) :
    adjustmentAmount db r.accountId payload.date
      = (existing.map (·.2.amountDecimal)).getD 0 := by
  unfold adjustmentAmount
  have hfound := h.found
  cases existing with
  | none => rw [existingAdjustment_none hfound]; rfl
  | some e => rw [existingAdjustment_some hfound]; rfl

/-- In cents the adjustment is what separates the balance from the target. -/
theorem amount_eq
    (h : RecordedAt db db' items payload r account balance existing id activity row)
    (hcents : InCents db r.accountId payload.date) (hactual : r.actualBalance.Within 2) :
    row.amountDecimal = unadjusted db r.accountId payload.date
      - (r.actualBalance + activity.afterObservation) := by
  have hafter := requestedActivity_within h.observed hcents.activity
  have hwithin : (unadjusted db r.accountId payload.date
      - (r.actualBalance + activity.afterObservation)).Within 2 :=
    (hcents.balance.add hcents.adjustment).sub (hactual.add hafter)
  rw [h.amount, adjustmentOf, ← h.balanceOf_before, ← h.adjustmentAmount_before]
  exact Decimal.roundPosted_of_within hwithin

theorem sameBase
    (h : RecordedAt db db' items payload r account balance existing id activity row)
    (hactual : r.actualBalance.Within 2) : SameBase payload.date r.accountId db db' := by
  have hamount' : adjustmentAmount db' r.accountId payload.date = row.amountDecimal := by
    rw [adjustmentAmount, h.adjustment]
    rfl
  refine ⟨h.unmoved, fun hdb => ⟨⟨?_, ?_, ?_⟩, ?_⟩⟩
  · rw [h.balanceOf_after]
    exact hactual.add (requestedActivity_within h.observed hdb.activity)
  · rw [hamount', h.amount]
    exact Decimal.within_roundPosted _
  · rw [h.unmoved]
    exact hdb.activity
  · rw [unadjusted, h.balanceOf_after, hamount', h.amount_eq hdb hactual]
    abel

end RecordedAt

/-- A submission for a date keeps what the next one for the date starts from. -/
theorem step_sameBase {p : ReconciliationRequest} (hcall : call.request = .reconcile p)
    (a : AccountId) : SameBase p.date a db (step db call) := by
  obtain ⟨clock, actor, request⟩ := call
  obtain rfl : request = .reconcile p := hcall
  cases h : handle db ⟨clock, actor, .reconcile p⟩ with
  | error e =>
    have hstep : step db ⟨clock, actor, .reconcile p⟩ = db := by simp [step, h]
    rw [hstep]
    exact .refl _ _ _
  | ok result =>
    obtain ⟨db', response⟩ := result
    rw [step_of_ok h]
    cases hold : db.operations.lookup p.operationId with
    | some row =>
      -- the submission was recorded before, and is answered from that
      simp only [handle, recordReconciliation, Except.bind_eq_ok, Except.mapError_eq_ok] at h
      obtain ⟨payload, hn, db₀, hinit, h⟩ := h
      obtain ⟨O, rfl⟩ := initializeOpenings_frame hinit
      rcases once_ok h with ⟨_, _, _, _, _, rfl, _⟩ | ⟨hnew, _⟩
      · exact SameAt.sameBase ⟨rfl, rfl, rfl⟩
      · rw [normalizeReconciliation_operationId hn] at hnew
        exact absurd (hold.symm.trans hnew) (by simp)
    | none =>
      obtain ⟨payload, items, hn, _, hsame, hrecorded⟩ := recordReconciliation_recorded h hold
      by_cases ha : a ∈ payload.accounts.map (·.accountId)
      · obtain ⟨r, hr, rfl⟩ := List.mem_map.1 ha
        obtain ⟨_, _, _, _, _, _, hrec⟩ := hrecorded r hr
        rw [← (normalizeReconciliation_fields hn).1]
        exact hrec.sameBase ((normalizeReconciliation_ok hn).2 r hr)
      · exact (hsame a ha).sameBase

theorem run_sameBase {date : Date} {calls : List Call}
    (hcalls : ∀ call ∈ calls, ∃ p, call.request = .reconcile p ∧ p.date = date) (a : AccountId) :
    SameBase date a db (run db calls) := by
  induction calls generalizing db with
  | nil => exact .refl _ _ _
  | cons call calls ih =>
    obtain ⟨p, hp, rfl⟩ := hcalls call List.mem_cons_self
    have hrest := @ih (step db call) fun c hc => hcalls c (List.mem_cons_of_mem _ hc)
    exact (step_sameBase hp a).trans hrest

/-- **What a reconciliation leaves.** However often a date was reconciled before, the stored balance
is the observed one plus what was booked after the observation, the recorded closing balance is what
remains without the activity after the date, and there is one adjustment, valued at its amount. In
cents its amount, too, depends on the first balance and the last submission only. -/
theorem reconciliation_sound {earlier : List Call} {last : Call} {p : ReconciliationRequest}
    {r : ReconciliationAccount} {observedAt : Timestamp} {observedDate : Date}
    (hearlier : ∀ call ∈ earlier, ∃ q, call.request = .reconcile q ∧ q.date = p.date)
    (hlast : last.request = .reconcile p) (hat : p.observedAt = some observedAt)
    (hon : p.observedDate = some observedDate)
    (h : handle (run db earlier) last = .ok (db', response))
    (hnew : (run db earlier).operations.lookup p.operationId = none) (hr : r ∈ p.accounts)
    (hactual : r.actualBalance.Within 2) :
    ∃ balance activity items item id row,
      (db'.accounts.lookup r.accountId).bind (·.currentNativeBalance) = some balance ∧
      reconciliationActivity db r.accountId p.date observedDate (some observedAt) = .ok activity ∧
      reconciliationActivity db' r.accountId p.date observedDate (some observedAt) = .ok activity ∧
      balance - activity.afterObservation = r.actualBalance ∧
      db'.batches.lookup p.operationId = some ⟨p.date, items⟩ ∧ item ∈ items ∧
      item.accountId = r.accountId ∧ item.observedNativeBalance = some r.actualBalance ∧
      balance - (activity.throughObservation + activity.afterObservation) = item.closingBalance ∧
      existingAdjustments db' r.accountId p.date = [(id, row)] ∧
      row.fromNative = some row.amountDecimal ∧ item.varianceNative = row.amountDecimal ∧
      (InCents db r.accountId p.date → row.amountDecimal
        = unadjusted db r.accountId p.date - (r.actualBalance + activity.afterObservation)) := by
  obtain ⟨clock, actor, request⟩ := last
  obtain rfl : request = .reconcile p := hlast
  obtain ⟨payload, items, hn, hbatch, _, hrecorded⟩ := recordReconciliation_recorded h hnew
  obtain ⟨hdate, hpat, hpon, hlisted⟩ := normalizeReconciliation_fields hn
  have hmem : r ∈ payload.accounts := by
    have hmem := hlisted r hr
    rwa [Decimal.roundPosted_of_within hactual] at hmem
  obtain ⟨account, balance, existing, id, activity, row, hrec⟩ := hrecorded r hmem
  have hbase : SameBase p.date r.accountId db (run db earlier) := run_sameBase hearlier _
  have hobserved : reconciliationActivity (run db earlier) r.accountId p.date observedDate
      (some observedAt) = .ok activity := by
    have hobserved := hrec.observed
    rw [requestedActivity, hpon, hon, hpat, hat, hdate] at hobserved
    exact hobserved
  have hunmoved := hrec.unmoved
  rw [hdate] at hunmoved
  refine ⟨r.actualBalance + activity.afterObservation, activity, items, _, id, row, ?_, ?_, ?_,
    add_sub_cancel_right _ _, hbatch, hrec.listed, rfl, ?_, ?_, hdate ▸ hrec.adjustment, hrec.native,
    rfl, fun hcents => ?_⟩
  · simp [hrec.stored]
  · rw [reconciliationActivity, hbase.activity] at hobserved
    exact hobserved
  · rw [reconciliationActivity, hunmoved]
    exact hobserved
  · simp [recordedItem, hpat, hat]
  · show _ = r.actualBalance - activity.throughObservation
    abel
  · obtain ⟨hlater, hsame⟩ := hbase.cents hcents
    rw [← hsame, ← hdate]
    exact hrec.amount_eq (hdate ▸ hlater) hactual

/-- A reconciliation of the household's account at the end of September, observed on 4 October. -/
def countSeptember (operation : OperationId) (id : TransactionId) (actual : Decimal)
    (revision : Nat) : Call :=
  callOn october 5 (.reconcile ⟨operation, september.lastDate, some 10, some ⟨october, 4⟩,
    [⟨1, actual, id, revision⟩]⟩)

theorem reconciliation_sound_september :
    let db := run (household 1000) (opened ++ [callOn october 3 (.create (spend 100 200 ⟨october, 3⟩ 25))])
    let db' := step (run db [countSeptember 110 210 900 1]) (countSeptember 111 211 950 2)
    ∃ balance activity items item id row,
      ((db'.accounts.lookup 1).bind (·.currentNativeBalance) = some balance) ∧
      reconciliationActivity db 1 september.lastDate ⟨october, 4⟩ (some 10) = .ok activity ∧
      reconciliationActivity db' 1 september.lastDate ⟨october, 4⟩ (some 10) = .ok activity ∧
      balance - activity.afterObservation = 950 ∧
      db'.batches.lookup 111 = some ⟨september.lastDate, items⟩ ∧ item ∈ items ∧
      item.accountId = 1 ∧ item.observedNativeBalance = some 950 ∧
      balance - (activity.throughObservation + activity.afterObservation) = item.closingBalance ∧
      existingAdjustments db' 1 september.lastDate = [(id, row)] ∧
      row.fromNative = some row.amountDecimal ∧ item.varianceNative = row.amountDecimal ∧
      (InCents db 1 september.lastDate → row.amountDecimal
        = unadjusted db 1 september.lastDate - (950 + activity.afterObservation)) := by
  intro db db'
  obtain ⟨response, h⟩ := @exists_ok_of_step (run db [countSeptember 110 210 900 1])
    (countSeptember 111 211 950 2) (by decide +kernel)
  exact @reconciliation_sound _ _ _ _ _ _ ⟨1, 950, 211, 2⟩ _ _
    (by simp [countSeptember, callOn]) rfl rfl rfl h (by decide +kernel) (by decide) (by decide)

/-- A transaction of the import day whose imported valuation is half a cent. -/
def halfCent : Transaction where
  kind := .expense
  effectiveDate := ⟨october, 1⟩
  occurredAt := none
  amountDecimal := .normalized 5 3
  inputCurrency := some .eur
  toAmountDecimal := none
  fromCategoryId := some 1
  toCategoryId := some 2
  fromAccountId := some 1
  toAccountId := some 2
  revision := 1
  canonicalLive := false
  valuations := [⟨1, ⟨some (.normalized 5 3), some (.normalized 5 3)⟩,
    ⟨some (.normalized 5 3), some (.normalized 5 3)⟩⟩]

/-- An import may bring any transactions that are not in the future. -/
theorem Imported.withTransaction (h : Imported today db) (id : TransactionId) {t : Transaction}
    (ht : t.effectiveDate.Valid ∧ t.month ≤ today.month ∧ t.canonicalLive = false) :
    Imported today { db with transactions := db.transactions.insert id t } :=
  { h with
    dates := by
      intro x t' ht'
      rw [AList.lookup_insert_of] at ht'
      split at ht'
      · cases ht'
        exact ht
      · exact h.dates x t' ht' }

def fractional : Database := { household 0 with
  transactions := (household 0).transactions.insert 300 halfCent }

theorem fractional_reachable : Reachable ⟨october, 1⟩ fractional :=
  ⟨_, _, (household_imported 0).withTransaction 300 (by decide), .refl _ _⟩

/-- A reconciliation at the end of August, observed on the day before the import. -/
def countAugust (operation : OperationId) (id : TransactionId) (actual : Decimal) (revision : Nat) :
    Call :=
  callOn october 1 (.reconcile ⟨operation, september.previous.lastDate, some 10,
    some ⟨september, 30⟩, [⟨1, actual, id, revision⟩]⟩)

/-- An imported half cent after the observation: the adjustment of the last submission depends on
the one before it, since each is rounded to cents on its own. -/
theorem reconciliation_rounds :
    let first := countAugust 110 210 (.normalized 1 2) 0
    Reachable ⟨october, 1⟩ fractional ∧ (balanceOf fractional 1).Within 2 ∧
      (handle fractional first).isOk = true ∧
      (handle (step fractional first) (countAugust 111 210 0 1)).isOk = true ∧
      (handle fractional (countAugust 111 210 0 0)).isOk = true ∧
      adjustmentAmount (run fractional [first, countAugust 111 210 0 1]) 1
        september.previous.lastDate = .normalized 1 2 ∧
      adjustmentAmount (run fractional [countAugust 111 210 0 0]) 1
        september.previous.lastDate = 0 :=
  ⟨fractional_reachable, by decide +kernel, by decide +kernel, by decide +kernel, by decide +kernel,
    by decide +kernel, by decide +kernel⟩

end Server
