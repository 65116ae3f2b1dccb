import Presto.Log

/-!
# Account balances and the transactions behind them

The stored balance of an active real account is kept by four handlers. What it holds beyond the sum
of the stored transactions is `unexplained`; creations, edits and deletions never change it, and a
reconciliation changes it by what rounding its adjustment to cents leaves over.
-/

namespace Server

open Budget BudgetLedger

variable {today : Date} {db db' : Database} {call : Call} {response : Response} {a : AccountId}

/-- What a transaction adds to an account, at its newest valuation. -/
def netEffect (a : AccountId) (t : Transaction) : Decimal :=
  (if t.toAccountId = some a then t.toNative.getD 0 else 0) -
    if t.fromAccountId = some a then t.fromNative.getD 0 else 0

/-- The stored native balance of an account. -/
def balanceOf (db : Database) (a : AccountId) : Decimal :=
  ((db.accounts.lookup a).bind (·.currentNativeBalance)).getD 0

/-- The stored balance less the stored transactions. -/
def unexplained (db : Database) (a : AccountId) : Decimal :=
  balanceOf db a - db.transactions.total fun _ t => netEffect a t

/-! ## Posting -/

/-- The sum of a list of deltas at an account. -/
def postedTo (deltas : List (AccountId × Decimal)) (a : AccountId) : Decimal :=
  (deltas.map fun e => if e.1 = a then e.2 else 0).sum

theorem postedTo_deltaList (deltas : Table AccountId Decimal) :
    postedTo (deltaList deltas) a = deltaAt deltas a := by
  have htotal : postedTo (deltaList deltas) a = deltas.total fun x d => if x = a then d else 0 := by
    simp [postedTo, deltaList, AList.total, Function.comp_def]
  rw [htotal, AList.total_single a fun x y _ hx => if_neg hx, deltaAt]
  cases deltas.lookup a <;> simp

/-- Reversing deltas, zeros left out. -/
theorem postedTo_reverse (deltas : List (AccountId × Decimal)) :
    postedTo ((deltas.filter fun e => e.2 ≠ 0).map fun e => (e.1, -e.2)) a = -postedTo deltas a := by
  induction deltas with
  | nil => simp [postedTo]
  | cons e deltas ih =>
    by_cases h0 : e.2 = 0
    · rw [List.filter_cons_of_neg (by simp [h0]), ih]
      by_cases ha : e.1 = a <;> simp [postedTo, ha, h0]
    · rw [List.filter_cons_of_pos (by simp [h0]), List.map_cons]
      simp only [postedTo, List.map_cons, List.sum_cons] at ih ⊢
      rw [ih]
      by_cases ha : e.1 = a <;> simp [ha, add_comm]

/-- A posted delta arrives at its account, when that is real and active. -/
theorem postDelta_balance {acc acc' : Database × List AccountUpdate} {e : AccountId × Decimal}
    (h : postDelta today acc e = .ok acc') (ha : acc.1.isActiveRealAccount a = true) :
    acc'.1.isActiveRealAccount a = true ∧
      balanceOf acc'.1 a = balanceOf acc.1 a + if e.1 = a then e.2 else 0 := by
  simp only [postDelta, Except.bind_eq_ok, Except.fromOption_eq_ok] at h
  obtain ⟨account, hacc, h⟩ := h
  split at h
  · rename_i hreal
    rw [Except.pure_eq_ok] at h
    subst h
    refine ⟨ha, ?_⟩
    rw [if_neg, add_zero]
    rintro rfl
    simp [Database.isActiveRealAccount, hacc] at ha
    exact hreal ha
  · simp only [Except.bind_eq_ok, Except.fromOption_eq_ok, Except.pure_eq_ok] at h
    obtain ⟨balance, hb, _, _, rfl⟩ := h
    by_cases he : e.1 = a
    · subst he
      simp only [Database.isActiveRealAccount, hacc] at ha
      refine ⟨by simpa [Database.isActiveRealAccount] using ha, ?_⟩
      simp [balanceOf, hacc, hb]
    · have hne : a ≠ e.1 := Ne.symm he
      refine ⟨by simpa [Database.isActiveRealAccount, hne] using ha, ?_⟩
      simp [balanceOf, he, hne]

/-- Posting deltas adds their sum to the account, whatever was done to the other tables before. -/
theorem postDeltas_balance {deltas : List (AccountId × Decimal)} {db₀ db₁ : Database}
    {updates : List AccountUpdate} (h : postDeltas db₀ today deltas = .ok (db₁, updates))
    (hstart : db₀.accounts = db.accounts) (ha : db.isActiveRealAccount a = true) :
    balanceOf db₁ a = balanceOf db a + postedTo deltas a := by
  have hrun : ∀ {deltas : List (AccountId × Decimal)} {acc acc' : Database × List AccountUpdate},
      deltas.foldlM (postDelta today) acc = .ok acc' → acc.1.isActiveRealAccount a = true →
      balanceOf acc'.1 a = balanceOf acc.1 a + postedTo deltas a := by
    intro deltas
    induction deltas with
    | nil =>
      intro acc acc' h _
      rw [List.foldlM_nil, Except.pure_eq_ok] at h
      subst h
      simp [postedTo]
    | cons e deltas ih =>
      intro acc acc' h ha
      rw [List.foldlM_cons, Except.bind_eq_ok] at h
      obtain ⟨mid, h1, h2⟩ := h
      obtain ⟨hactive, hbalance⟩ := postDelta_balance h1 ha
      rw [ih h2 hactive, hbalance]
      simp [postedTo, add_assoc]
  have hbalance : balanceOf db₀ a = balanceOf db a := by simp [balanceOf, hstart]
  have hactive : db₀.isActiveRealAccount a = true := by
    simpa [Database.isActiveRealAccount, hstart] using ha
  rw [hrun h hactive, hbalance]

/-! ## Creations, edits and deletions -/

/-- The effect of a written row is what its projection posts. -/
theorem netEffect_written {w : WriteRequest} {r : ResolvedWrite} {occurredAt : Option Timestamp}
    {revision : Nat} {valuations : List ValuationRevision} {v : ValuationRevision}
    {fromNative toNative : Decimal} (hv : valuations.head? = some v)
    (hfrom : v.fromSide.amountNative = some fromNative)
    (hto : v.toSide.amountNative = some toNative) :
    netEffect a (writtenTransaction w r occurredAt revision valuations)
      = deltaAt (accountDeltas r.endpoints.fromAccount.id r.endpoints.toAccount.id fromNative
          toNative) a := by
  rw [deltaAt_accountDeltas]
  simp [netEffect, writtenTransaction, Transaction.toNative, Transaction.fromNative,
    Transaction.latest, hv, hfrom, hto, eq_comm]

/-- The effect of a loaded row is what its projection posted. -/
theorem netEffect_loaded {old : Transaction} {s : StoredEndpoints} (h : Loaded db old s) :
    netEffect a old
      = deltaAt (accountDeltas s.fromAccount.id s.toAccount.id s.fromNative s.toNative) a := by
  rw [deltaAt_accountDeltas]
  simp [netEffect, h.fromAccountId, h.toAccountId, h.fromNative, h.toNative, eq_comm]

/-- Only accounts and transactions count. -/
theorem unexplained_congr (haccounts : db'.accounts = db.accounts)
    (htransactions : db'.transactions = db.transactions) : unexplained db' a = unexplained db a := by
  simp [unexplained, balanceOf, haccounts, htransactions]

/-- The accounts and transactions that a creation leaves. -/
theorem Created.facts {clock : Clock} {w : WriteRequest} {r : ResolvedWrite}
    {v : TransactionValuation} {occurredAt : Option Timestamp} {accounts : List AccountUpdate}
    {db₁ db₂ : Database} {cs : List BudgetCategorySnapshot}
    (h : Created db clock w r v occurredAt accounts db₁ db₂ db' cs) :
    db'.accounts = db₁.accounts ∧ db'.transactions = db.transactions.insert w.transactionId
      (writtenTransaction w r occurredAt 1 [storedValuation 1 v]) := by
  obtain ⟨P, M, rfl⟩ := sync_frame h.synced
  obtain ⟨P, R, rfl⟩ := h.receipt.frame
  obtain ⟨_, A, rfl⟩ := postDeltas_changes h.posted
  exact ⟨rfl, rfl⟩

/-- The accounts and transactions that an edit leaves. -/
theorem Edited.facts {clock : Clock} {payload : EditRequest} {old : Transaction}
    {r : ResolvedWrite} {stored : StoredEndpoints} {valuations : List ValuationRevision}
    {fromNative toNative : Decimal} {occurredAt : Option Timestamp} {accounts : List AccountUpdate}
    {db₁ db₂ : Database} {cs : List BudgetCategorySnapshot}
    (h : Edited db clock payload old r stored valuations fromNative toNative occurredAt accounts
      db₁ db₂ db' cs) :
    db'.accounts = db₁.accounts ∧
      db'.transactions = db.transactions.insert payload.transaction.transactionId
        (writtenTransaction payload.transaction r occurredAt (old.revision + 1) valuations) := by
  obtain ⟨P, M, rfl⟩ := sync_frame h.synced
  obtain ⟨P, R, rfl⟩ := h.receipt.frame
  obtain ⟨_, A, rfl⟩ := postDeltas_changes h.posted
  exact ⟨rfl, rfl⟩

/-- The accounts and transactions that a deletion leaves. -/
theorem Deleted.facts {clock : Clock} {payload : DeleteRequest} {old : Transaction}
    {stored : StoredEndpoints} {accounts : List AccountUpdate} {db₁ : Database}
    {cs : List BudgetCategorySnapshot}
    (h : Deleted db clock payload old stored accounts db₁ db' cs) :
    db'.accounts = db₁.accounts ∧ db'.transactions = db.transactions.erase payload.transactionId := by
  obtain ⟨P, M, rfl⟩ := sync_frame h.synced
  obtain ⟨_, A, rfl⟩ := postDeltas_changes h.posted
  exact ⟨rfl, rfl⟩

theorem Created.unexplained_eq {clock : Clock} {w : WriteRequest} {r : ResolvedWrite}
    {v : TransactionValuation} {occurredAt : Option Timestamp} {accounts : List AccountUpdate}
    {db₁ db₂ : Database} {cs : List BudgetCategorySnapshot}
    (h : Created db clock w r v occurredAt accounts db₁ db₂ db' cs)
    (ha : db.isActiveRealAccount a = true) : unexplained db' a = unexplained db a := by
  obtain ⟨haccounts, htransactions⟩ := h.facts
  have hposted : balanceOf db' a = balanceOf db a + deltaAt (writeDeltas r v) a := by
    rw [← postedTo_deltaList, balanceOf, haccounts]
    exact postDeltas_balance h.posted rfl ha
  have hnet : netEffect a (writtenTransaction w r occurredAt 1 [storedValuation 1 v])
      = deltaAt (writeDeltas r v) a := netEffect_written rfl rfl rfl
  rw [unexplained, unexplained, hposted, htransactions, AList.total_insert_new h.fresh, hnet]
  abel

theorem Edited.unexplained_eq {clock : Clock} {payload : EditRequest} {old : Transaction}
    {r : ResolvedWrite} {stored : StoredEndpoints} {valuations : List ValuationRevision}
    {fromNative toNative : Decimal} {occurredAt : Option Timestamp} {accounts : List AccountUpdate}
    {db₁ db₂ : Database} {cs : List BudgetCategorySnapshot}
    (h : Edited db clock payload old r stored valuations fromNative toNative occurredAt accounts
      db₁ db₂ db' cs) (ha : db.isActiveRealAccount a = true) :
    unexplained db' a = unexplained db a := by
  obtain ⟨haccounts, htransactions⟩ := h.facts
  have hloaded := loadStored_ok h.loaded
  obtain ⟨v, hv, _, hfrom, hto⟩ := editValuation_full hloaded h.valued
  have hnew : netEffect a
      (writtenTransaction payload.transaction r occurredAt (old.revision + 1) valuations)
        = deltaAt (accountDeltas r.endpoints.fromAccount.id r.endpoints.toAccount.id fromNative
          toNative) a := netEffect_written hv hfrom hto
  have hold : netEffect a old = deltaAt (accountDeltas stored.fromAccount.id stored.toAccount.id
      stored.fromNative stored.toNative) a := netEffect_loaded hloaded
  have hposted : balanceOf db' a = balanceOf db a + (netEffect a
      (writtenTransaction payload.transaction r occurredAt (old.revision + 1) valuations)
        - netEffect a old) := by
    rw [hnew, hold, ← deltaAt_differenceMaps, ← postedTo_deltaList, balanceOf, haccounts]
    exact postDeltas_balance h.posted rfl ha
  rw [unexplained, unexplained, hposted, htransactions, AList.total_replace h.found]
  abel

theorem Deleted.unexplained_eq {clock : Clock} {payload : DeleteRequest} {old : Transaction}
    {stored : StoredEndpoints} {accounts : List AccountUpdate} {db₁ : Database}
    {cs : List BudgetCategorySnapshot}
    (h : Deleted db clock payload old stored accounts db₁ db' cs)
    (ha : db.isActiveRealAccount a = true) : unexplained db' a = unexplained db a := by
  obtain ⟨haccounts, htransactions⟩ := h.facts
  have hposted : balanceOf db' a = balanceOf db a - netEffect a old := by
    rw [netEffect_loaded (loadStored_ok h.loaded), ← postedTo_deltaList, sub_eq_add_neg,
      ← postedTo_reverse, balanceOf, haccounts]
    exact postDeltas_balance h.posted rfl ha
  rw [unexplained, unexplained, hposted, htransactions, AList.total_delete h.found]
  abel

/-! ## Reconciliations -/

/-- What reconciling one account leaves over: what rounding its adjustment adds, and the difference
between the amount of the replaced adjustment and its stored valuation. -/
def adjustmentResidue (db : Database) (payload : ReconciliationRequest)
    (requested : ReconciliationAccount) : Decimal :=
  match existingAdjustment db requested.accountId payload.date,
    requestedActivity db payload requested.accountId with
  | .ok existing, .ok activity =>
    let prior := (existing.map (·.2.amountDecimal)).getD 0
    let replaced := (existing.bind (·.2.fromNative)).getD 0
    let difference := balanceOf db requested.accountId + prior
      - (requested.actualBalance + activity.afterObservation)
    difference.roundPosted - difference + (prior - replaced)
  | _, _ => 0

/-- The residue that a reconciliation leaves at an account: none when it does not list it. -/
def reconciliationResidue (db : Database) (payload : ReconciliationRequest) (a : AccountId) :
    Decimal :=
  (payload.accounts.map fun r =>
    if r.accountId = a then adjustmentResidue db payload r else 0).sum

/-- The opening balances do not count for a residue. -/
theorem adjustmentResidue_openings (db : Database) (O : Table (CategoryId × Month) Decimal)
    (payload : ReconciliationRequest) (requested : ReconciliationAccount) :
    adjustmentResidue { db with openings := O } payload requested
      = adjustmentResidue db payload requested := by
  rfl

/-- An account that bears the name of the reconciliation account is not a real one. -/
def SystemOnly (db : Database) : Prop :=
  ∀ id account, db.accounts.lookup id = some account →
    account.sourceName.folded = .reconciliation → account.isReal = false

/-- Names and settings of the accounts are kept by every operation. -/
theorem isActiveRealAccount_of_profile
    (h : ∀ x, (db'.accounts.lookup x).map accountProfile
      = (db.accounts.lookup x).map accountProfile) (x : AccountId) :
    db'.isActiveRealAccount x = db.isActiveRealAccount x := by
  have hany : ∀ o : Option Account, (o.any fun a => a.isReal && a.isActive)
      = (o.map accountProfile).any fun p => p.isReal && p.isActive := by
    intro o
    cases o <;> rfl
  rw [Database.isActiveRealAccount, hany, h x, ← hany, Database.isActiveRealAccount]

theorem SystemOnly.of_profile (hnames : SystemOnly db)
    (h : ∀ x, (db'.accounts.lookup x).map accountProfile
      = (db.accounts.lookup x).map accountProfile) : SystemOnly db' := by
  intro id account hid hname
  have hprofile := h id
  rw [hid, Option.map_some] at hprofile
  obtain ⟨account₀, h₀, heq⟩ := Option.map_eq_some_iff.1 hprofile.symm
  simp only [accountProfile, AccountProfile.mk.injEq] at heq
  have hreal := hnames id account₀ h₀ (by rw [heq.1]; exact hname)
  rw [← hreal, heq.2.2.1]

theorem loadSystemAccount_systemOnly {systemAccount : WriteAccount}
    (h : loadSystemAccount db .reconciliation = .ok systemAccount) :
    SystemOnly db ∧ db.isActiveRealAccount systemAccount.id = false := by
  obtain ⟨x, hx, _, _, hreal, honly⟩ := loadSystemAccount_ok h
  refine ⟨fun id account hid hname => ?_, ?_⟩
  · rw [honly id account hid hname] at hid
    obtain rfl : x = account := Option.some.inj (hx.symm.trans hid)
    exact hreal
  · rw [Database.isActiveRealAccount, hx, Option.any_some, hreal]
    rfl

section Reconciled

variable {payload : ReconciliationRequest} {systemAccount : WriteAccount}
  {systemCategory : CategoryId} {requested : ReconciliationAccount} {account : Account}
  {balance : Decimal} {existing : Option (TransactionId × Transaction)} {id : TransactionId}
  {activity : Activity} {v : TransactionValuation} {row : Transaction}

theorem Reconciled.accountProfile_eq
    (h : Reconciled db payload systemAccount systemCategory requested account balance existing id
      activity v row db') (x : AccountId) :
    (db'.accounts.lookup x).map accountProfile = (db.accounts.lookup x).map accountProfile := by
  rw [h.result]
  exact lookup_accountProfile h.loaded (b := { account with
    currentNativeBalance := some (requested.actualBalance + activity.afterObservation)
    ledgerRevision := account.ledgerRevision + 1 }) rfl x

/-- An adjustment lies between the reconciled account and one that is not real and active. -/
theorem Reconciled.otherSide
    (h : Reconciled db payload systemAccount systemCategory requested account balance existing id
      activity v row db') (hnames : SystemOnly db)
    (hsystem : db.isActiveRealAccount systemAccount.id = false)
    (ha : db.isActiveRealAccount a = true) :
    (row.fromAccountId = some requested.accountId ∧ row.toAccountId ≠ some a) ∧
      ∀ e, existing = some e →
        e.2.fromAccountId = some requested.accountId ∧ e.2.toAccountId ≠ some a := by
  rw [h.written]
  cases existing with
  | none =>
    refine ⟨⟨rfl, fun hto => ?_⟩, by simp⟩
    rw [Option.some.inj hto, ha] at hsystem
    cases hsystem
  | some e =>
    obtain ⟨_, _, _, hfrom, hname⟩ := existingAdjustment_ok h.found
    have hto : e.2.toAccountId ≠ some a := by
      intro hto
      rw [hto, Option.bind_some] at hname
      obtain ⟨x, hx, hfolded⟩ := (Option.any_eq_true _ _).1 hname
      have hreal := hnames a x hx (of_decide_eq_true hfolded)
      simp [Database.isActiveRealAccount, hx, hreal] at ha
    refine ⟨⟨hfrom, hto⟩, fun e' he' => ?_⟩
    cases he'
    exact ⟨hfrom, hto⟩

/-- An adjustment row debits the reconciled account by the adjustment, and no other active real
account. -/
theorem Reconciled.netEffect_row
    (h : Reconciled db payload systemAccount systemCategory requested account balance existing id
      activity v row db') (hnames : SystemOnly db)
    (hsystem : db.isActiveRealAccount systemAccount.id = false)
    (ha : db.isActiveRealAccount a = true) :
    netEffect a row = (if requested.accountId = a then
      -adjustmentOf balance ((existing.map (·.2.amountDecimal)).getD 0)
        (requested.actualBalance + activity.afterObservation) else 0) ∧
    ∀ e, existing = some e → netEffect a e.2 = if requested.accountId = a then
      -e.2.fromNative.getD 0 else 0 := by
  have hvalued := calculateValuation_fromNative h.valued
  rw [adjustmentOf, Decimal.roundPosted_of_within (Decimal.within_roundPosted _)] at hvalued
  obtain ⟨⟨hfrom, hto⟩, hold⟩ := h.otherSide hnames hsystem ha
  constructor
  · have hnative : row.fromNative = some (adjustmentOf balance
        ((existing.map (·.2.amountDecimal)).getD 0)
        (requested.actualBalance + activity.afterObservation)) := by
      rw [adjustmentOf, ← hvalued, h.written]
      cases existing <;> rfl
    by_cases hr : requested.accountId = a <;> simp [netEffect, hfrom, hto, hnative, hr]
  · intro e he
    obtain ⟨hfrom, hto⟩ := hold e he
    by_cases hr : requested.accountId = a <;> simp [netEffect, hto, hfrom, hr]

/-- Reconciling one account changes what is unexplained there by its residue, and elsewhere not at
all. -/
theorem Reconciled.unexplained_eq
    (h : Reconciled db payload systemAccount systemCategory requested account balance existing id
      activity v row db') (hnames : SystemOnly db)
    (hsystem : db.isActiveRealAccount systemAccount.id = false)
    (ha : db.isActiveRealAccount a = true) :
    unexplained db' a = unexplained db a +
      if requested.accountId = a then adjustmentResidue db payload requested else 0 := by
  obtain ⟨hrow, hold⟩ := h.netEffect_row hnames hsystem ha
  have hbalance : balanceOf db requested.accountId = balance := by
    simp [balanceOf, h.loaded, h.balanced]
  have hafter : balanceOf db' a = if requested.accountId = a then
      requested.actualBalance + activity.afterObservation else balanceOf db a := by
    rw [h.result]
    by_cases hr : requested.accountId = a
    · simp [balanceOf, adjusted, hr]
    · simp [balanceOf, adjusted, Ne.symm hr, hr]
  have htotal : db'.transactions.total (fun _ t => netEffect a t)
      = db.transactions.total (fun _ t => netEffect a t) + (netEffect a row -
        (existing.map (netEffect a ·.2)).getD 0) := by
    rw [h.result]
    rcases adjustmentId_ok h.placed with ⟨e, rfl, rfl⟩ | ⟨rfl, rfl, hnone⟩
    · obtain ⟨hl, _⟩ := existingAdjustment_ok h.found
      exact AList.total_replace hl _ _
    · show AList.total (db.transactions.insert _ _) _ = _
      rw [AList.total_insert_new hnone]
      simp [add_comm]
  rw [unexplained, unexplained, hafter, htotal, hrow]
  by_cases hr : requested.accountId = a
  · subst hr
    simp only [if_true, adjustmentResidue, h.found, h.observed, hbalance, adjustmentOf]
    cases existing with
    | none => simp; abel
    | some e =>
      have he := hold e rfl
      simp only [if_true] at he
      simp [he]
      abel
  · cases existing with
    | none => simp [hr]
    | some e =>
      have he := hold e rfl
      simp [hr, he]

/-- The names that identify an adjustment are kept. -/
theorem Reconciled.systemAccountNamed_eq
    (h : Reconciled db payload systemAccount systemCategory requested account balance existing id
      activity v row db') (o : Option AccountId) :
    ((o.bind db'.accounts.lookup).any fun x => x.sourceName.folded = .reconciliation)
      = (o.bind db.accounts.lookup).any fun x => x.sourceName.folded = .reconciliation := by
  have hany : ∀ o : Option Account, (o.any fun x => x.sourceName.folded = .reconciliation)
      = (o.map accountProfile).any fun p => p.sourceName.folded = .reconciliation := by
    intro o
    cases o <;> rfl
  cases o with
  | none => rfl
  | some x => rw [Option.bind_some, Option.bind_some, hany, h.accountProfile_eq, ← hany]

theorem Reconciled.categories_eq
    (h : Reconciled db payload systemAccount systemCategory requested account balance existing id
      activity v row db') : db'.categories = db.categories := by
  rw [h.result]
  rfl

/-- The adjustments of the other accounts stay as they are. -/
theorem Reconciled.existingAdjustments_eq
    (h : Reconciled db payload systemAccount systemCategory requested account balance existing id
      activity v row db') (hother : requested.accountId ≠ a) :
    existingAdjustments db' a payload.date = existingAdjustments db a payload.date := by
  have hrow : row.fromAccountId = some requested.accountId := by
    rw [h.written]
    cases existing with
    | none => rfl
    | some e => exact (existingAdjustment_ok h.found).2.2.2.1
  unfold existingAdjustments
  simp only [h.systemAccountNamed_eq, h.categories_eq]
  congr 1
  rw [h.result]
  refine AList.filter_insert (by simp [hrow, hother]) fun old hold => ?_
  rcases adjustmentId_ok h.placed with ⟨e, rfl, rfl⟩ | ⟨_, _, hnone⟩
  · obtain ⟨hl, _, _, hfrom, _⟩ := existingAdjustment_ok h.found
    rw [hl] at hold
    cases hold
    simp [hfrom, hother]
  · rw [hnone] at hold
    cases hold

/-- What was booked after the closing date stays as it is. -/
theorem Reconciled.activityRows_eq
    (h : Reconciled db payload systemAccount systemCategory requested account balance existing id
      activity v row db') (x : AccountId) :
    activityRows db' x payload.date = activityRows db x payload.date := by
  have hrow := h.row_facts.2.1
  unfold activityRows
  congr 2
  rw [h.result]
  refine AList.filter_insert (by simp [hrow]) fun old hold => ?_
  rcases adjustmentId_ok h.placed with ⟨e, rfl, rfl⟩ | ⟨_, _, hnone⟩
  · obtain ⟨hl, _, hdate, _⟩ := existingAdjustment_ok h.found
    rw [hl] at hold
    cases hold
    simp [hdate]
  · rw [hnone] at hold
    cases hold

theorem Reconciled.requestedActivity_eq
    (h : Reconciled db payload systemAccount systemCategory requested account balance existing id
      activity v row db') (x : AccountId) :
    requestedActivity db' payload x = requestedActivity db payload x := by
  unfold requestedActivity reconciliationActivity
  rw [h.activityRows_eq]

/-- The residues of the accounts still to come stay as they are. -/
theorem Reconciled.adjustmentResidue_eq {r : ReconciliationAccount}
    (h : Reconciled db payload systemAccount systemCategory requested account balance existing id
      activity v row db') (hother : requested.accountId ≠ r.accountId) :
    adjustmentResidue db' payload r = adjustmentResidue db payload r := by
  have hbalance : balanceOf db' r.accountId = balanceOf db r.accountId := by
    rw [h.result]
    simp [balanceOf, adjusted, hother.symm]
  rw [adjustmentResidue, adjustmentResidue, h.requestedActivity_eq, hbalance, existingAdjustment,
    existingAdjustment, h.existingAdjustments_eq hother]

end Reconciled

/-- The accounts of a request are reconciled one after the other; each leaves its own residue. -/
theorem reconcileAccounts_unexplained {clock : Clock} {payload : ReconciliationRequest}
    {systemAccount : WriteAccount} {systemCategory : CategoryId}
    {requests : List ReconciliationAccount} :
    ∀ {s s' : ReconciliationState},
      requests.foldlM (reconcileAccount clock payload systemAccount systemCategory) s = .ok s' →
      (requests.map (·.accountId)).Nodup → SystemOnly s.db →
      s.db.isActiveRealAccount systemAccount.id = false → s.db.isActiveRealAccount a = true →
      unexplained s'.db a = unexplained s.db a + (requests.map fun r =>
        if r.accountId = a then adjustmentResidue s.db payload r else 0).sum := by
  induction requests with
  | nil =>
    intro s s' h _ _ _ _
    rw [List.foldlM_nil, Except.pure_eq_ok] at h
    simp [h]
  | cons requested requests ih =>
    intro s s' h hnodup hnames hsystem ha
    rw [List.foldlM_cons, Except.bind_eq_ok] at h
    obtain ⟨mid, h1, h2⟩ := h
    obtain ⟨account, balance, existing, id, activity, v, row, hrec, _⟩ := reconcileAccount_ok h1
    rw [List.map_cons, List.nodup_cons] at hnodup
    have hactive : ∀ x, mid.db.isActiveRealAccount x = s.db.isActiveRealAccount x :=
      isActiveRealAccount_of_profile hrec.accountProfile_eq
    have hnames' : SystemOnly mid.db := hnames.of_profile hrec.accountProfile_eq
    have hrest : (requests.map fun r =>
          if r.accountId = a then adjustmentResidue mid.db payload r else 0)
        = requests.map fun r =>
          if r.accountId = a then adjustmentResidue s.db payload r else 0 := by
      refine List.map_congr_left fun r hr => ?_
      have hother : requested.accountId ≠ r.accountId := fun h =>
        hnodup.1 (h ▸ List.mem_map_of_mem hr)
      rw [hrec.adjustmentResidue_eq hother]
    rw [ih h2 hnodup.2 hnames' (hactive _ ▸ hsystem) (hactive _ ▸ ha), hrest,
      hrec.unexplained_eq hnames hsystem ha, List.map_cons, List.sum_cons, add_assoc]

/-! ## Whole runs -/

/-- The residue of a call: only a reconciliation that is accepted for the first time leaves one. -/
def residueOf (db : Database) (call : Call) (a : AccountId) : Decimal :=
  match call.request, handle db call with
  | .reconcile p, .ok _ =>
    match normalizeReconciliation p, db.operations.lookup p.operationId with
    | .ok payload, none => reconciliationResidue db payload a
    | _, _ => 0
  | _, _ => 0

/-- The residues of the calls of a run. -/
def residues (a : AccountId) : Database → List Call → Decimal
  | _, [] => 0
  | db, call :: calls => residueOf db call a + residues a (step db call) calls

theorem normalizeReconciliation_nodup {p payload : ReconciliationRequest}
    (h : normalizeReconciliation p = .ok payload) : (payload.accounts.map (·.accountId)).Nodup := by
  simp only [normalizeReconciliation, Except.bind_eq_ok, Except.ensure_eq_ok,
    Except.pure_eq_ok] at h
  obtain ⟨_, _, _, _, _, ⟨hnodup, _⟩, rfl⟩ := h
  refine ((List.perm_insertionSort _ _).map _).nodup_iff.2 ?_
  simpa [List.map_map, Function.comp_def] using hnodup

theorem recordReconciliation_unexplained {clock : Clock} {actor : Subject}
    {p : ReconciliationRequest} (h : handle db ⟨clock, actor, .reconcile p⟩ = .ok (db', response))
    (ha : db.isActiveRealAccount a = true) :
    unexplained db' a = unexplained db a + residueOf db ⟨clock, actor, .reconcile p⟩ a := by
  have hhandled := h
  simp only [handle, recordReconciliation, Except.bind_eq_ok, Except.mapError_eq_ok] at h
  obtain ⟨payload, hn, db₀, hinit, h⟩ := h
  have hid := normalizeReconciliation_operationId hn
  obtain ⟨O, rfl⟩ := initializeOpenings_frame hinit
  rcases once_ok h with ⟨row, hrow, _, _, _, rfl, _⟩ | ⟨hnew, db₁, hb, rfl⟩
  · have hresidue : residueOf db ⟨clock, actor, .reconcile p⟩ a = 0 := by
      have hrow' : db.operations.lookup p.operationId = some row := hid ▸ hrow
      simp only [residueOf, hhandled, hn, hrow']
    rw [hresidue, add_zero]
    exact unexplained_congr rfl rfl
  · have hresidue : residueOf db ⟨clock, actor, .reconcile p⟩ a
        = reconciliationResidue db payload a := by
      have hnew' : db.operations.lookup p.operationId = none := hid ▸ hnew
      simp only [residueOf, hhandled, hn, hnew']
    obtain ⟨sa, sc, s, _, _, _, hsys, _, hs, rfl, _⟩ := reconcileBody_ok hb
    obtain ⟨hnames, hsystem⟩ := loadSystemAccount_systemOnly hsys
    have hfold := reconcileAccounts_unexplained hs (normalizeReconciliation_nodup hn) hnames
      hsystem ha
    simp only [adjustmentResidue_openings] at hfold
    rw [hresidue, reconciliationResidue]
    refine Eq.trans (unexplained_congr ?_ ?_) (hfold.trans ?_)
    · rfl
    · rfl
    · rw [unexplained_congr]
      · rfl
      · rfl

theorem handle_unexplained (h : handle db call = .ok (db', response))
    (hsound : Sound call.clock.today db) (ha : db.isActiveRealAccount a = true) :
    unexplained db' a = unexplained db a + residueOf db call a := by
  by_cases hreconcile : ∃ p, call.request = .reconcile p
  · obtain ⟨clock, actor, request⟩ := call
    obtain ⟨p, rfl⟩ := hreconcile
    exact recordReconciliation_unexplained h ha
  have hresidue : residueOf db call a = 0 := by
    unfold residueOf
    split
    · rename_i p _ hp _
      exact absurd ⟨p, hp⟩ hreconcile
    · rfl
  rw [hresidue, add_zero]
  cases handle_effect h hsound with
  | replayed hid hrow hactor hresponse hinit =>
    rcases hinit with rfl | hinit
    · rfl
    · obtain ⟨O, rfl⟩ := initializeOpenings_frame hinit
      rfl
  | created hrequest hnormal hinit hfresh h hresponse =>
    obtain ⟨O, rfl⟩ := initializeOpenings_frame hinit
    exact h.unexplained_eq ha
  | edited hrequest hpayload hnormal hinit hfresh h hresponse =>
    obtain ⟨O, rfl⟩ := initializeOpenings_frame hinit
    exact h.unexplained_eq ha
  | deleted hrequest hinit hfresh h hresponse =>
    obtain ⟨O, rfl⟩ := initializeOpenings_frame hinit
    exact h.unexplained_eq ha
  | reconciled hrequest hnormal hinit hfresh hopen hreached hsystem hfold hresult hresponse =>
    exact absurd ⟨_, hrequest⟩ hreconcile
  | quiet h hlogs hdeletion => exact unexplained_congr h.accounts h.transactions

theorem step_unexplained (call : Call) (hsound : Sound call.clock.today db)
    (ha : db.isActiveRealAccount a = true) :
    unexplained (step db call) a = unexplained db a + residueOf db call a := by
  unfold step
  cases h : handle db call with
  | ok r => exact handle_unexplained h hsound ha
  | error e => simp [residueOf, h]

/-- **The account balance over a run.** Creations, edits and deletions post to a balance exactly what
they change in the transactions; a reconciliation leaves its residue. -/
theorem unexplained_run {calls : List Call} (hreach : Reachable today db)
    (hcalls : Chronological today calls) (ha : db.isActiveRealAccount a = true) :
    unexplained (run db calls) a = unexplained db a + residues a db calls := by
  induction calls generalizing today db with
  | nil => simp [run, residues]
  | cons call calls ih =>
    obtain ⟨hvalid, hlater, hcalls⟩ := hcalls
    have hsound := hreach.sound.later hvalid hlater
    have hactive : (step db call).isActiveRealAccount a = true := by
      rwa [isActiveRealAccount_of_profile (step_changes call hsound).toExtends.accounts]
    rw [run, List.foldl_cons, ← run, ih (hreach.step hvalid hlater) hcalls hactive,
      step_unexplained call hsound ha, residues, add_assoc]

/-- An expense, and the reconciliation of the account to whole cents. -/
def counted : List Call := [
  callOn october 3 (.create (spend 100 200 ⟨october, 3⟩ 25)),
  callOn october 4 (.reconcile ⟨110, ⟨october, 4⟩, none, none, [⟨1, 5225, 210, 1⟩]⟩)]

theorem unexplained_run_counted :
    unexplained (run (run (household 5250) opened) counted) 1
      = unexplained (run (household 5250) opened) 1
        + residues 1 (run (household 5250) opened) counted :=
  unexplained_run (household_reachable 5250 (by decide)) (by decide) (by decide +kernel)

/-- An imported balance may carry more than two decimals; counting it in cents leaves the rest over,
since the adjustment is posted in cents. -/
theorem unexplained_changes :
    let db := run (household (.normalized 5250300512973243 12)) opened
    let count := callOn october 4 (.reconcile
      ⟨110, ⟨october, 4⟩, none, none, [⟨1, .normalized 525030 2, 210, 0⟩]⟩)
    Reachable ⟨october, 2⟩ db ∧ db.isActiveRealAccount 1 = true ∧ (handle db count).isOk = true ∧
      unexplained (run db [count]) 1 ≠ unexplained db 1 :=
  ⟨household_reachable _ (by decide : Chronological _ opened), by decide +kernel, by decide +kernel,
    by decide +kernel⟩

end Server
