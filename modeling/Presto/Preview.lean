import Presto.Server.Preview
import Presto.Closing

/-!
# Submitting what the preview shows

The preview and the recorder compute the same quantities in opposite directions: one takes the
activity off the stored balance, the other adds it to the observed one. Submitting the previewed
balances is therefore accepted, as far as the recorder accepts anything for the date, and changes no
balance and no adjustment.
-/

namespace Server

open Budget BudgetLedger

variable {today : Date} {db db' : Database} {call : Call} {response : Response} {a : AccountId}

/-! ## What a preview contains -/

/-- An entry of a preview shows an active real account whose currency has a rate. -/
structure PreviewedFrom (db : Database) (closingDate observedDate : Date) (observedAt : Timestamp)
    (q : PreviewAccount) (account : Account) : Prop where
  loaded : db.accounts.lookup q.id = some account
  real : account.isReal = true
  active : account.isActive = true
  shown : previewAccount db closingDate observedDate observedAt q.id account = .ok q
  rate : ∃ quote, selectPriorRate (account.currency.getD .eur) closingDate db.exchangeRates = .ok quote

theorem previewAccount_id {closingDate observedDate : Date} {observedAt : Timestamp} {id : AccountId}
    {account : Account} {q : PreviewAccount}
    (h : previewAccount db closingDate observedDate observedAt id account = .ok q) :
    q.id = id ∧ q.currency = account.currency.getD .eur := by
  simp only [previewAccount, Except.bind_eq_ok, Except.pure_eq_ok] at h
  obtain ⟨_, _, _, _, _, _, rfl⟩ := h
  exact ⟨rfl, rfl⟩

theorem previewStep_ok {preview preview' : ReconciliationPreview} {e : AccountId × Account}
    (h : previewStep db preview e = .ok preview') :
    ∃ q, previewAccount db preview.closingDate preview.observedDate preview.observedAt e.1 e.2
        = .ok q ∧
      (∃ quote, selectPriorRate (e.2.currency.getD .eur) preview.closingDate db.exchangeRates
        = .ok quote) ∧
      preview'.accounts = preview.accounts ++ [q] ∧ preview'.closingDate = preview.closingDate ∧
      preview'.observedDate = preview.observedDate ∧ preview'.observedAt = preview.observedAt := by
  simp only [previewStep, Except.bind_eq_ok, Except.mapError_eq_ok, Except.pure_eq_ok] at h
  obtain ⟨q, hq, _, _, _, _, _, _, quote, hquote, rfl⟩ := h
  rw [(previewAccount_id hq).2] at hquote
  exact ⟨q, hq, ⟨quote, hquote⟩, rfl, rfl, rfl, rfl⟩

/-- The loop shows the accounts one after the other. -/
theorem previewSteps_ok {accounts : List (AccountId × Account)} :
    ∀ {preview preview' : ReconciliationPreview},
      accounts.foldlM (previewStep db) preview = .ok preview' →
      (∀ e ∈ accounts, db.accounts.lookup e.1 = some e.2 ∧ e.2.isReal = true ∧ e.2.isActive = true) →
      preview'.closingDate = preview.closingDate ∧ preview'.observedDate = preview.observedDate ∧
      preview'.observedAt = preview.observedAt ∧
      preview'.accounts.map (·.id) = preview.accounts.map (·.id) ++ accounts.map (·.1) ∧
      ∀ q ∈ preview'.accounts, q ∈ preview.accounts ∨ ∃ account,
        PreviewedFrom db preview.closingDate preview.observedDate preview.observedAt q account := by
  induction accounts with
  | nil =>
    intro preview preview' h _
    rw [List.foldlM_nil, Except.pure_eq_ok] at h
    subst h
    exact ⟨rfl, rfl, rfl, by simp, fun q hq => .inl hq⟩
  | cons e accounts ih =>
    intro preview preview' h haccounts
    rw [List.foldlM_cons, Except.bind_eq_ok] at h
    obtain ⟨mid, h1, h2⟩ := h
    obtain ⟨q, hq, hrate, hadded, hclosing, hdate, hat⟩ := previewStep_ok h1
    obtain ⟨hclosing', hdate', hat', hids, hshown⟩ :=
      ih h2 fun e he => haccounts e (List.mem_cons_of_mem _ he)
    obtain ⟨hid, _⟩ := previewAccount_id hq
    refine ⟨hclosing'.trans hclosing, hdate'.trans hdate, hat'.trans hat, ?_, fun x hx => ?_⟩
    · rw [hids, hadded]
      simp [hid]
    · rcases hshown x hx with hx | ⟨account, hx⟩
      · rw [hadded, List.mem_append, List.mem_singleton] at hx
        rcases hx with hx | rfl
        · exact .inl hx
        · obtain ⟨hloaded, hreal, hactive⟩ := haccounts e List.mem_cons_self
          exact .inr ⟨e.2, hid ▸ hloaded, hreal, hactive, hid ▸ hq, hrate⟩
      · rw [hclosing, hdate, hat] at hx
        exact .inr ⟨account, hx⟩

/-- A preview is of the end of a month completed before the observation, a day next to today's; it
lists every active real account once. -/
structure Previewed (db : Database) (clock : Clock) (preview : ReconciliationPreview) : Prop where
  valid : preview.observedDate.Valid
  near : preview.observedDate.IsNear clock.today
  completed : preview.closingDate.month.Calendar →
    preview.closingDate.month < preview.observedDate.month ∧
      preview.closingDate ≤ preview.observedDate.month.previous.lastDate
  monthEnd : preview.closingDate = preview.closingDate.month.lastDate
  nodup : (preview.accounts.map (·.id)).Nodup
  shown : ∀ q ∈ preview.accounts, ∃ account, PreviewedFrom db preview.closingDate
    preview.observedDate preview.observedAt q account

theorem getReconciliationPreview_ok {clock : Clock} {query : PreviewQuery}
    {preview : ReconciliationPreview}
    (h : getReconciliationPreview db clock query = .ok preview) : Previewed db clock preview := by
  simp only [getReconciliationPreview, Except.bind_eq_ok, Except.ensure_eq_ok] at h
  obtain ⟨_, hvalid, _, hnear, closing, hclosing, h⟩ := h
  obtain ⟨h1, h2, h3, hids, hshown⟩ := previewSteps_ok h fun e he => by
    obtain ⟨⟨id, account⟩, hin, rfl⟩ := List.mem_map.1 he
    obtain ⟨hin, hp⟩ := List.mem_filter.1 hin
    obtain ⟨hreal, hactive⟩ := of_decide_eq_true hp
    exact ⟨AList.mem_entries_iff.1 hin, hreal, hactive⟩
  have hnodup : (preview.accounts.map (·.id)).Nodup := by
    rw [hids, List.map_map]
    exact List.Nodup.sublist (List.filter_sublist.map Sigma.fst) db.accounts.nodupKeys
  have hmonth : (closing = closing.month.lastDate) ∧ (closing.month.Calendar →
      closing.month < query.observedDate.month ∧
        closing ≤ query.observedDate.month.previous.lastDate) := by
    unfold previewClosingDate at hclosing
    split at hclosing
    · rename_i month _
      simp only [Except.bind_eq_ok, Except.ensure_eq_ok, Except.pure_eq_ok] at hclosing
      obtain ⟨_, hlt, rfl⟩ := hclosing
      exact ⟨rfl, fun hcal => ⟨hlt,
        Month.lastDate_mono (Month.previous_spec hvalid.1 hcal hlt).2.1⟩⟩
    · cases hclosing
      exact ⟨rfl, fun _ => ⟨Month.previous_lt hvalid.1, le_rfl⟩⟩
  obtain ⟨hend, hcompleted⟩ := hmonth
  refine ⟨?_, ?_, ?_, ?_, hnodup, fun q hq => ?_⟩
  · rw [h2]
    exact hvalid
  · rw [h2]
    exact hnear
  · rw [h1, h2]
    exact hcompleted
  · rw [h1]
    exact hend
  · rcases hshown q hq with hq | ⟨account, hq⟩
    · cases hq
    · rw [h1, h2, h3]
      exact ⟨account, hq⟩

/-! ## When a submission is accepted -/

section Ready

variable {payload : ReconciliationRequest} {r : ReconciliationAccount} {account : Account}
  {balance : Decimal} {existing : Option (TransactionId × Transaction)} {activity : Activity}
  {systemCurrency : Currency}

/-- What reconciling an account to its own balance needs. -/
structure Ready (db : Database) (today : Date) (payload : ReconciliationRequest)
    (systemCurrency : Currency) (r : ReconciliationAccount) (account : Account) (balance : Decimal)
    (existing : Option (TransactionId × Transaction)) (activity : Activity) : Prop where
  loaded : db.accounts.lookup r.accountId = some account
  real : account.isReal = true
  active : account.isActive = true
  balanced : account.currentNativeBalance = some balance
  current : account.ledgerRevision = r.expectedRevision
  found : existingAdjustment db r.accountId payload.date = .ok existing
  free : db.transactions.lookup r.transactionId = none
  observed : requestedActivity db payload r.accountId = .ok activity
  rate : ∃ quote, selectPriorRate (account.currency.getD .eur) payload.date db.exchangeRates
    = .ok quote
  todayRate : ∃ quote, selectPriorRate (account.currency.getD .eur) today db.exchangeRates = .ok quote
  systemRate : ∃ quote, selectPriorRate systemCurrency payload.date db.exchangeRates = .ok quote
  target : r.actualBalance + activity.afterObservation = balance
  prior : Decimal.Within 2 ((existing.map (·.2.amountDecimal)).getD 0)

theorem adjustmentId_free {requested : TransactionId}
    (h : db.transactions.lookup requested = none) :
    ∃ id, adjustmentId db requested existing = .ok id := by
  cases existing with
  | none => exact ⟨requested, by simp [adjustmentId, h, Except.ensure, bind, Except.bind, pure,
      Except.pure]⟩
  | some e => exact ⟨e.1, by simp [adjustmentId, h, Except.ensure, bind, Except.bind, pure,
      Except.pure]⟩

namespace Ready

/-- The adjustment stays as it is. -/
theorem adjustment_eq (h : Ready db today payload systemCurrency r account balance existing activity) :
    adjustmentOf balance ((existing.map (·.2.amountDecimal)).getD 0)
      (r.actualBalance + activity.afterObservation) = (existing.map (·.2.amountDecimal)).getD 0 := by
  rw [adjustmentOf, h.target, add_sub_cancel_left]
  exact Decimal.roundPosted_of_within h.prior

theorem accepts {clock : Clock} {systemAccount : WriteAccount} {systemCategory : CategoryId}
    {s : ReconciliationState}
    (h : Ready s.db clock.today payload systemAccount.currency r account balance existing activity) :
    ∃ s', reconcileAccount clock payload systemAccount systemCategory s r = .ok s' := by
  obtain ⟨id, hid⟩ := @adjustmentId_free _ existing _ h.free
  obtain ⟨quote, hquote⟩ := h.rate
  obtain ⟨systemQuote, hsystemQuote⟩ := h.systemRate
  obtain ⟨todayQuote, htoday⟩ := h.todayRate
  obtain ⟨v, hv⟩ := exists_calculateValuation hquote hsystemQuote
    (adjustmentOf balance ((existing.map (·.2.amountDecimal)).getD 0)
      (r.actualBalance + activity.afterObservation)) 0
  obtain ⟨eur, heur⟩ := exists_accountBalanceEur htoday
    (r.actualBalance + activity.afterObservation)
  have haccount : loadAccount s.db r.accountId = .ok (writeAccount r.accountId account) := by
    simp [loadAccount, h.loaded]
  simp only [reconcileAccount, Except.bind_eq_ok, Except.ensure_eq_ok, Except.fromOption_eq_ok,
    Except.mapError_eq_ok, Except.pure_eq_ok]
  exact ⟨_, _, haccount, ⟨⟩, ⟨h.real, h.active⟩, account, h.loaded, balance, h.balanced, ⟨⟩, h.current,
    existing, h.found, id, hid, activity, h.observed, v, hv, eur, heur, rfl⟩

/-- What happens at other accounts does not count. -/
theorem after (h : Ready db today payload systemCurrency r account balance existing activity)
    (hsame : SameAt payload.date r.accountId db db')
    (hfree : db'.transactions.lookup r.transactionId = none)
    (hrates : db'.exchangeRates = db.exchangeRates) :
    Ready db' today payload systemCurrency r account balance existing activity :=
  { h with
    loaded := hsame.account.trans h.loaded
    found := hsame.existingAdjustment.trans h.found
    free := hfree
    observed := hsame.requestedActivity.trans h.observed
    rate := hrates ▸ h.rate
    todayRate := hrates ▸ h.todayRate
    systemRate := hrates ▸ h.systemRate }

end Ready

end Ready

/-- Every stored amount is as it was. -/
def AmountsKept (db db' : Database) : Prop :=
  ∀ id t, db.transactions.lookup id = some t →
    ∃ t', db'.transactions.lookup id = some t' ∧ t'.amountDecimal = t.amountDecimal

theorem AmountsKept.trans {db'' : Database} (h : AmountsKept db db') (h' : AmountsKept db' db'') :
    AmountsKept db db'' := by
  intro id t ht
  obtain ⟨t', ht', hamount⟩ := h id t ht
  obtain ⟨t'', ht'', hamount'⟩ := h' id t' ht'
  exact ⟨t'', ht'', hamount'.trans hamount⟩

section Reconciled

variable {payload : ReconciliationRequest} {systemAccount : WriteAccount}
  {systemCategory : CategoryId} {requested : ReconciliationAccount} {account : Account}
  {balance : Decimal} {existing : Option (TransactionId × Transaction)} {id : TransactionId}
  {activity : Activity} {v : TransactionValuation} {row : Transaction}

theorem Reconciled.amountsKept
    (h : Reconciled db payload systemAccount systemCategory requested account balance existing id
      activity v row db')
    (hamount : adjustmentOf balance ((existing.map (·.2.amountDecimal)).getD 0)
      (requested.actualBalance + activity.afterObservation)
        = (existing.map (·.2.amountDecimal)).getD 0) : AmountsKept db db' := by
  intro x t ht
  rw [h.result]
  show ∃ t', (db.transactions.insert id row).lookup x = some t' ∧ _
  by_cases hx : x = id
  · subst hx
    refine ⟨row, AList.lookup_insert _, ?_⟩
    rw [h.written]
    rcases adjustmentId_ok h.placed with ⟨e, rfl, rfl⟩ | ⟨_, _, hnone⟩
    · obtain ⟨hl, _⟩ := existingAdjustment_ok h.found
      obtain rfl : e.2 = t := Option.some.inj (hl.symm.trans ht)
      exact hamount
    · exact absurd (hnone.symm.trans ht) (by simp)
  · exact ⟨t, by rw [AList.lookup_insert_ne hx, ht], rfl⟩

/-- A reconciliation takes up its own transaction id at most. -/
theorem Reconciled.stillFree
    (h : Reconciled db payload systemAccount systemCategory requested account balance existing id
      activity v row db') {x : TransactionId} (hx : db.transactions.lookup x = none)
    (hother : requested.transactionId ≠ x) : db'.transactions.lookup x = none := by
  have hid : x ≠ id := by
    rintro rfl
    rcases adjustmentId_ok h.placed with ⟨e, rfl, rfl⟩ | ⟨_, hrequested, _⟩
    · obtain ⟨hl, _⟩ := existingAdjustment_ok h.found
      exact absurd (hl.symm.trans hx) (by simp)
    · exact hother hrequested.symm
  rw [h.result]
  show (db.transactions.insert id row).lookup x = none
  rw [AList.lookup_insert_ne hid, hx]

end Reconciled

/-- Accounts that are ready are reconciled, one after the other. -/
theorem reconcileAccounts_accepts {clock : Clock} {payload : ReconciliationRequest}
    {systemAccount : WriteAccount} {systemCategory : CategoryId}
    {requests : List ReconciliationAccount} :
    ∀ {s : ReconciliationState}, (requests.map (·.accountId)).Nodup →
      (requests.map (·.transactionId)).Nodup →
      (∀ r ∈ requests, ∃ account balance existing activity,
        Ready s.db clock.today payload systemAccount.currency r account balance existing activity) →
      ∃ s', requests.foldlM (reconcileAccount clock payload systemAccount systemCategory) s = .ok s' ∧
        AmountsKept s.db s'.db := by
  induction requests with
  | nil =>
    intro s _ _ _
    exact ⟨s, rfl, fun id t ht => ⟨t, ht, rfl⟩⟩
  | cons requested requests ih =>
    intro s hids htxs hready
    obtain ⟨account, balance, existing, activity, hhead⟩ := hready requested List.mem_cons_self
    obtain ⟨mid, h1⟩ : ∃ mid, reconcileAccount clock payload systemAccount systemCategory s requested
        = .ok mid := hhead.accepts
    obtain ⟨account', balance', existing', id, activity', v, row, hrec, _⟩ := reconcileAccount_ok h1
    obtain rfl : account = account' := Option.some.inj (hhead.loaded.symm.trans hrec.loaded)
    obtain rfl : balance = balance' := Option.some.inj (hhead.balanced.symm.trans hrec.balanced)
    obtain rfl : existing = existing' := Except.ok.inj (hhead.found.symm.trans hrec.found)
    obtain rfl : activity = activity' := Except.ok.inj (hhead.observed.symm.trans hrec.observed)
    rw [List.map_cons, List.nodup_cons] at hids htxs
    have hrates : mid.db.exchangeRates = s.db.exchangeRates := by rw [hrec.result]; rfl
    obtain ⟨s', h2, hkept⟩ := ih hids.2 htxs.2 fun r hr => by
      obtain ⟨account, balance, existing, activity, hr'⟩ := hready r (List.mem_cons_of_mem _ hr)
      have hother : requested.accountId ≠ r.accountId := fun h =>
        hids.1 (h ▸ List.mem_map_of_mem hr)
      have hfree : requested.transactionId ≠ r.transactionId := fun h =>
        htxs.1 (h ▸ List.mem_map_of_mem hr)
      exact ⟨account, balance, existing, activity,
        hr'.after (hrec.sameAt hother) (hrec.stillFree hr'.free hfree) hrates⟩
    refine ⟨s', ?_, (hrec.amountsKept hhead.adjustment_eq).trans hkept⟩
    rw [List.foldlM_cons, Except.bind_eq_ok]
    exact ⟨mid, h1, h2⟩

theorem reconcileBody_accepts {clock : Clock} {payload : ReconciliationRequest}
    {systemAccount : WriteAccount} {systemCategory : CategoryId}
    (hopen : db.isClosed payload.date.month = false)
    (hreached : payload.date.month ≤ clock.today.month)
    (hcheck : checkObservation clock payload = .ok ())
    (hbatch : db.batches.lookup payload.operationId = none)
    (hsystem : loadSystemAccount db .reconciliation = .ok systemAccount)
    (hcategory : loadSystemCategory db .reconciliation = .ok systemCategory)
    (hids : (payload.accounts.map (·.accountId)).Nodup)
    (htxs : (payload.accounts.map (·.transactionId)).Nodup)
    (hready : ∀ r ∈ payload.accounts, ∃ account balance existing activity,
      Ready db clock.today payload systemAccount.currency r account balance existing activity) :
    ∃ db' response, reconcileBody db clock payload = .ok (db', response) ∧ AmountsKept db db' := by
  obtain ⟨s, hs, hkept⟩ := @reconcileAccounts_accepts clock payload systemAccount systemCategory
    payload.accounts ⟨db, [], []⟩ hids htxs hready
  refine ⟨{ s.db with
    batches := s.db.batches.insert payload.operationId ⟨payload.date, s.items⟩ },
    .reconciled payload.operationId payload.date s.results, ?_, fun id t ht => hkept id t ht⟩
  simp only [reconcileBody, Except.bind_eq_ok, Except.ensure_eq_ok, Except.pure_eq_ok]
  exact ⟨⟨⟩, by simp [hopen, hreached], ⟨⟩, hcheck, ⟨⟩, by simp [hbatch], systemAccount, hsystem,
    systemCategory, hcategory, s, hs, rfl⟩

/-- The recorder's query for the adjustment is narrower than the preview's. -/
theorem existingAdjustment_of_prior {date : Date} (h : (priorAdjustments db a date).length ≤ 1) :
    ∃ existing, existingAdjustment db a date = .ok existing := by
  have hlength : (existingAdjustments db a date).length ≤ 1 := by
    refine le_trans ?_ h
    rw [existingAdjustments, priorAdjustments, List.length_map, List.length_map]
    refine (List.monotone_filter_right _ fun e he => ?_).length_le
    obtain ⟨h1, h2, h3, _⟩ := of_decide_eq_true he
    exact decide_eq_true ⟨h1, h2, h3⟩
  unfold existingAdjustment
  split
  · exact ⟨none, rfl⟩
  · exact ⟨_, rfl⟩
  · rename_i hnil hone
    match hl : existingAdjustments db a date, hlength with
    | [], _ => exact absurd hl hnil
    | [e], _ => exact absurd hl (hone e)
    | _ :: _ :: _, hlength => simp at hlength

/-- The submission of a preview: every previewed balance with its revision. -/
def submission (preview : ReconciliationPreview) (operation : OperationId)
    (ids : AccountId → TransactionId) : ReconciliationRequest where
  operationId := operation
  date := preview.closingDate
  observedAt := some preview.observedAt
  observedDate := some preview.observedDate
  accounts := preview.accounts.map fun q => ⟨q.id, q.balanceNative, ids q.id, q.ledgerRevision⟩

/-- What the recorder requires for a date besides what a preview shows: an open month, the system
rows, and rates. -/
structure Recordable (db : Database) (date : Date) : Prop where
  canonical : date.Valid
  isOpen : db.isClosed date.month = false
  openings : ∃ db₀, initializeOpenings db = .ok db₀
  system : ∃ systemAccount systemCategory quote,
    loadSystemAccount db .reconciliation = .ok systemAccount ∧
    loadSystemCategory db .reconciliation = .ok systemCategory ∧
    selectPriorRate systemAccount.currency date db.exchangeRates = .ok quote
  quotes : ∀ r ∈ db.exchangeRates, 0 < r.currencyUnitsPerEur.coefficient

section Submission

variable {clock : Clock} {query : PreviewQuery} {preview : ReconciliationPreview}
  {operation : OperationId} {ids : AccountId → TransactionId}

/-- The submission passes the static checks; its balances are in cents already. -/
theorem normalizeReconciliation_submission (hvalid : preview.closingDate.Valid)
    (hsome : preview.accounts ≠ []) (hmany : preview.accounts.length ≤ 100)
    (hnodup : (preview.accounts.map (·.id)).Nodup)
    (hids : (preview.accounts.map fun q => ids q.id).Nodup)
    (hcents : ∀ q ∈ preview.accounts, q.balanceNative.Within 2) :
    ∃ payload, normalizeReconciliation (submission preview operation ids) = .ok payload ∧
      (payload.accounts.map (·.transactionId)).Nodup ∧
      ∀ r ∈ payload.accounts, ∃ q ∈ preview.accounts,
        r = ⟨q.id, q.balanceNative, ids q.id, q.ledgerRevision⟩ := by
  have hmap : ((submission preview operation ids).accounts.map fun a : ReconciliationAccount =>
      { a with actualBalance := a.actualBalance.roundPosted })
        = (submission preview operation ids).accounts := by
    refine (List.map_congr_left fun r hr => ?_).trans (List.map_id _)
    obtain ⟨q, hq, rfl⟩ := List.mem_map.1 hr
    show (⟨_, q.balanceNative.roundPosted, _, _⟩ : ReconciliationAccount) = ⟨_, _, _, _⟩
    rw [Decimal.roundPosted_of_within (hcents q hq)]
  refine ⟨{ submission preview operation ids with
    accounts := (submission preview operation ids).accounts.insertionSort
      fun a b => a.accountId ≤ b.accountId }, ?_, ?_, fun r hr => ?_⟩
  · simp only [normalizeReconciliation, Except.bind_eq_ok, Except.ensure_eq_ok, Except.pure_eq_ok]
    refine ⟨⟨⟩, hvalid, ⟨⟩, ⟨?_, ?_⟩, ⟨⟩, ⟨?_, ?_⟩, ?_⟩
    · simpa [submission] using hsome
    · simpa [submission] using hmany
    · simpa [submission, Function.comp_def] using hnodup
    · simpa [submission, Function.comp_def] using hids
    · rw [hmap]
  · refine ((List.perm_insertionSort _ _).map _).nodup_iff.2 ?_
    simpa [submission, Function.comp_def] using hids
  · obtain ⟨q, hq, rfl⟩ := List.mem_map.1 ((List.mem_insertionSort _).1 hr)
    exact ⟨q, hq, rfl⟩

/-- A previewed account is ready to be submitted. -/
theorem PreviewedFrom.ready {later : Date} {q : PreviewAccount} {account : Account}
    {payload : ReconciliationRequest} {systemCurrency : Currency} {systemQuote : Decimal}
    (h : PreviewedFrom db preview.closingDate preview.observedDate preview.observedAt q account)
    (hdate : payload.date = preview.closingDate)
    (hon : payload.observedDate = some preview.observedDate)
    (hat : payload.observedAt = some preview.observedAt)
    (hsystem : selectPriorRate systemCurrency preview.closingDate db.exchangeRates = .ok systemQuote)
    (hquotes : ∀ r ∈ db.exchangeRates, 0 < r.currencyUnitsPerEur.coefficient)
    (hlater : preview.closingDate ≤ later) (hfree : db.transactions.lookup (ids q.id) = none)
    (hprior : (adjustmentAmount db q.id preview.closingDate).Within 2) :
    ∃ balance existing activity, Ready db later payload systemCurrency
        ⟨q.id, q.balanceNative, ids q.id, q.ledgerRevision⟩ account balance existing activity ∧
      q.closingBalanceNative = q.balanceNative - activity.throughObservation ∧
      q.activityNative = activity.throughObservation := by
  have hshown := h.shown
  simp only [previewAccount, Except.bind_eq_ok, Except.fromOption_eq_ok, Except.ensure_eq_ok,
    Except.pure_eq_ok] at hshown
  obtain ⟨balance, hbalance, activity, hactivity, _, hone, hq⟩ := hshown
  obtain ⟨existing, hexisting⟩ := existingAdjustment_of_prior hone
  have hbalanceNative : q.balanceNative = balance - activity.afterObservation := by rw [← hq]
  have hrevision : account.ledgerRevision = q.ledgerRevision := by rw [← hq]
  obtain ⟨quote, hquote⟩ := h.rate
  have hamount : (existing.map (·.2.amountDecimal)).getD 0
      = adjustmentAmount db q.id preview.closingDate := by
    unfold adjustmentAmount
    cases existing with
    | none => rw [existingAdjustment_none hexisting]; rfl
    | some e => rw [existingAdjustment_some hexisting]; rfl
  refine ⟨balance, existing, activity, ⟨h.loaded, h.real, h.active, hbalance, hrevision, ?_, hfree,
    ?_, ⟨quote, hdate ▸ hquote⟩, selectPriorRate_later hquote hlater hquotes,
    ⟨systemQuote, hdate ▸ hsystem⟩, ?_, hamount ▸ hprior⟩, ?_, by rw [← hq]⟩
  · rw [hdate]
    exact hexisting
  · rw [requestedActivity, hon, hat, hdate]
    exact hactivity
  · show q.balanceNative + _ = _
    rw [hbalanceNative, sub_add_cancel]
  · rw [hbalanceNative, ← hq]

/-- **Submitting what the preview shows.** The submission of a preview is accepted when the month is
open, the system rows and rates are there, and the observation is still current; it keeps every
stored balance and every stored amount, and records what was previewed. -/
theorem preview_submitted {later : Clock} {actor : Subject}
    (hpreview : getReconciliationPreview db clock query = .ok preview)
    (hrec : Recordable db preview.closingDate) (hsome : preview.accounts ≠ [])
    (hmany : preview.accounts.length ≤ 100) (hlater : clock.today ≤ later.today)
    (hcurrent : later.accepts preview.observedDate preview.observedAt = true)
    (hnew : db.operations.lookup operation = none) (hbatch : db.batches.lookup operation = none)
    (hfree : ∀ q ∈ preview.accounts, db.transactions.lookup (ids q.id) = none)
    (hids : (preview.accounts.map fun q => ids q.id).Nodup)
    (hcents : ∀ q ∈ preview.accounts, q.balanceNative.Within 2 ∧
      (adjustmentAmount db q.id preview.closingDate).Within 2) :
    ∃ db' response items,
      handle db ⟨later, actor, .reconcile (submission preview operation ids)⟩ = .ok (db', response) ∧
      (∀ a, (db'.accounts.lookup a).bind (·.currentNativeBalance)
        = (db.accounts.lookup a).bind (·.currentNativeBalance)) ∧
      AmountsKept db db' ∧
      db'.batches.lookup operation = some ⟨preview.closingDate, items⟩ ∧
      ∀ q ∈ preview.accounts, ∃ item ∈ items, item.accountId = q.id ∧
        item.closingBalance = q.closingBalanceNative ∧
        item.postMonthActivity = q.activityNative := by
  have hp := getReconciliationPreview_ok hpreview
  obtain ⟨payload, hn, htxs, haccounts⟩ := @normalizeReconciliation_submission _ operation _
    hrec.canonical hsome hmany hp.nodup hids fun q hq => (hcents q hq).1
  obtain ⟨hdate, hat, hon, hlisted⟩ := normalizeReconciliation_fields hn
  have hop : payload.operationId = operation := normalizeReconciliation_operationId hn
  obtain ⟨hcompleted, hclosing⟩ := hp.completed hrec.canonical.1
  have hreached : preview.closingDate ≤ later.today := by
    rw [hp.monthEnd]
    exact (hp.near.lastDate_le hrec.canonical.1 hcompleted).trans hlater
  obtain ⟨systemAccount, systemCategory, quote, hsystem, hcategory, hquote⟩ := hrec.system
  have hready : ∀ q ∈ preview.accounts, ∃ account balance existing activity,
      Ready db later.today payload systemAccount.currency
        ⟨q.id, q.balanceNative, ids q.id, q.ledgerRevision⟩ account balance existing activity ∧
      q.closingBalanceNative = q.balanceNative - activity.throughObservation ∧
      q.activityNative = activity.throughObservation := by
    intro q hq
    obtain ⟨account, hshown⟩ := hp.shown q hq
    obtain ⟨balance, existing, activity, h⟩ := hshown.ready hdate hon hat hquote hrec.quotes
      hreached (hfree q hq) (hcents q hq).2
    exact ⟨account, balance, existing, activity, h⟩
  -- the observation still passes
  have hcheck : checkObservation later payload = .ok () := by
    simp only [checkObservation, hat, hon, submission, Except.bind_eq_ok, Except.ensure_eq_ok]
    refine ⟨⟨⟩, hp.valid, hcurrent, ?_, ?_⟩
    · rw [hdate]
      exact hclosing
    · rw [hdate]
      exact hp.monthEnd
  obtain ⟨db₀, hinit⟩ := hrec.openings
  obtain ⟨O, hO⟩ := initializeOpenings_frame hinit
  have hbody : ∃ db₁ response, reconcileBody db₀ later payload = .ok (db₁, response) ∧
      AmountsKept db₀ db₁ := by
    subst hO
    refine @reconcileBody_accepts _ _ _ systemAccount systemCategory
      ?_ ?_ hcheck ?_ hsystem hcategory (normalizeReconciliation_nodup hn) htxs fun r hr => ?_
    · rw [hdate]
      exact hrec.isOpen
    · rw [hdate]
      exact Date.month_mono hreached
    · rw [hop]
      exact hbatch
    · obtain ⟨q, hq, rfl⟩ := haccounts r hr
      obtain ⟨account, balance, existing, activity, h, _⟩ := hready q hq
      exact ⟨account, balance, existing, activity, h.after ⟨rfl, rfl, rfl⟩ h.free rfl⟩
  obtain ⟨db₁, response, hbody, hkept⟩ := hbody
  have hnew₀ : db₀.operations.lookup payload.operationId = none := by
    subst hO
    rw [hop]
    exact hnew
  have hhandle : handle db ⟨later, actor, .reconcile (submission preview operation ids)⟩
      = .ok (db₁.recordOperation payload.operationId actor (.reconcile payload) response,
        response) := by
    simp only [handle, recordReconciliation, hn, hinit, Except.mapError, bind, Except.bind, once,
      hnew₀, hbody, pure, Except.pure]
  obtain ⟨payload', items, hn', hbatches, hsame, hrecorded⟩ := recordReconciliation_recorded hhandle
    hnew
  obtain rfl : payload = payload' := Except.ok.inj (hn.symm.trans hn')
  -- each previewed account is recorded as it was shown
  have hresult : ∀ q ∈ preview.accounts, ∃ account balance existing id activity row,
      RecordedAt db (db₁.recordOperation payload.operationId actor (.reconcile payload) response)
        items payload ⟨q.id, q.balanceNative, ids q.id, q.ledgerRevision⟩ account balance existing
        id activity row ∧
      q.balanceNative + activity.afterObservation = balance ∧
      q.closingBalanceNative = q.balanceNative - activity.throughObservation ∧
      q.activityNative = activity.throughObservation := by
    intro q hq
    have hmem : (⟨q.id, q.balanceNative, ids q.id, q.ledgerRevision⟩ : ReconciliationAccount)
        ∈ payload.accounts := by
      have hmem := hlisted _ (List.mem_map_of_mem hq)
      simp only [Decimal.roundPosted_of_within (hcents q hq).1] at hmem
      exact hmem
    obtain ⟨account, balance, existing, id, activity, row, hrow⟩ := hrecorded _ hmem
    obtain ⟨account', balance', existing', activity', hq', hclosing, hactivity⟩ := hready q hq
    obtain rfl : account' = account := Option.some.inj (hq'.loaded.symm.trans hrow.loaded)
    obtain rfl : balance' = balance := Option.some.inj (hq'.balanced.symm.trans hrow.balanced)
    obtain rfl : activity' = activity := Except.ok.inj (hq'.observed.symm.trans hrow.observed)
    exact ⟨_, _, _, _, _, _, hrow, hq'.target, hclosing, hactivity⟩
  refine ⟨_, response, items, hhandle, fun a => ?_, fun id t ht => ?_, hbatches, fun q hq => ?_⟩
  · by_cases ha : a ∈ payload.accounts.map (·.accountId)
    · obtain ⟨r, hr, rfl⟩ := List.mem_map.1 ha
      obtain ⟨q, hq, rfl⟩ := haccounts r hr
      obtain ⟨account, balance, existing, id, activity, row, hrow, htarget, _⟩ := hresult q hq
      rw [hrow.stored, hrow.loaded, Option.bind_some, Option.bind_some, hrow.balanced, ← htarget]
    · rw [(hsame a ha).account]
  · subst hO
    exact hkept id t ht
  · obtain ⟨account, balance, existing, id, activity, row, hrow, _, hclosing, hactivity⟩ :=
      hresult q hq
    exact ⟨_, hrow.listed, rfl, hclosing.symm, hactivity.symm⟩

end Submission

/-- An expense after the closing date. -/
def previewed : List Call := opened ++ [callOn october 3 (.create (spend 100 200 ⟨october, 3⟩ 25))]

/-- What the preview of 5 October shows: the expense, and 1000 EUR at the end of September. -/
def octoberPreview : ReconciliationPreview where
  closingDate := september.lastDate
  observedAt := 0
  observedDate := ⟨october, 5⟩
  accounts := [⟨1, ⟨.other 1, 0⟩, .eur, 975, 1000, -25, 0, [⟨200, 1, ⟨october, 3⟩, some 0, -25⟩], 1⟩]
  totalEur := 975
  closingTotalEur := 1000
  rates := [⟨.eur, 1, 1⟩]

theorem preview_submitted_october :
    let db := run (household 1000) previewed
    ∃ db' response items,
      handle db ⟨⟨⟨october, 5⟩, 0, fun _ _ => true⟩, 1,
        .reconcile (submission octoberPreview 110 fun a => 210 + a)⟩ = .ok (db', response) ∧
      (∀ a, (db'.accounts.lookup a).bind (·.currentNativeBalance)
        = (db.accounts.lookup a).bind (·.currentNativeBalance)) ∧
      AmountsKept db db' ∧ db'.batches.lookup 110 = some ⟨september.lastDate, items⟩ ∧
      ∀ q ∈ octoberPreview.accounts, ∃ item ∈ items, item.accountId = q.id ∧
        item.closingBalance = q.closingBalanceNative ∧
        item.postMonthActivity = q.activityNative := by
  intro db
  have hpreview : getReconciliationPreview db ⟨⟨october, 5⟩, 0, fun _ _ => true⟩
      ⟨⟨october, 5⟩, none⟩ = .ok octoberPreview := by decide +kernel
  have hrec : Recordable db octoberPreview.closingDate := by
    refine ⟨by decide, by decide +kernel, ?_, ⟨⟨5, .eur, false, true⟩, 5, 1, ?_, ?_, ?_⟩, ?_⟩
    · obtain ⟨db₀, h, _⟩ := Except.exists_ok_of_any (x := initializeOpenings db)
        (p := fun _ => true) (by decide +kernel)
      exact ⟨db₀, h⟩
    · decide +kernel
    · decide +kernel
    · decide +kernel
    · decide +kernel
  exact @preview_submitted _ _ _ _ _ (fun a => 210 + a) _ _ hpreview hrec (by decide) (by decide) (by decide)
    rfl (by decide +kernel) (by decide +kernel) (by decide +kernel) (by decide) (by decide +kernel)

/-- October is reconciled and closed. -/
def octoberClosed : List Call := opened ++ [
  callOn november 6 (.reconcile ⟨25, ⟨october, 31⟩, none, none, [⟨1, 1000, 30, 0⟩]⟩),
  callOn november 7 (.close ⟨26, october⟩)]

/-- A closed month has a preview, and its submission is refused. -/
theorem preview_of_closed_month :
    let db := run (household 1000) octoberClosed
    let clock : Clock := ⟨⟨november, 8⟩, 0, fun _ _ => true⟩
    Reachable ⟨november, 7⟩ db ∧ ∃ preview,
      getReconciliationPreview db clock ⟨⟨november, 8⟩, some october⟩ = .ok preview ∧
      preview.accounts ≠ [] ∧ (∀ q ∈ preview.accounts, q.balanceNative.Within 2) ∧
      ¬ (handle db ⟨clock, 1, .reconcile (submission preview 40 fun a => 400 + a)⟩).isOk = true := by
  intro db clock
  refine ⟨household_reachable 1000 (by decide : Chronological _ octoberClosed), ?_⟩
  obtain ⟨preview, hpreview, hfacts⟩ := Except.exists_ok_of_any
    (x := getReconciliationPreview db clock ⟨⟨november, 8⟩, some october⟩)
    (p := fun preview => decide (preview.accounts ≠ [] ∧
      (∀ q ∈ preview.accounts, q.balanceNative.Within 2) ∧
      ¬ (handle db ⟨clock, 1, .reconcile (submission preview 40 fun a => 400 + a)⟩).isOk = true))
    (by decide +kernel)
  exact ⟨preview, hpreview, of_decide_eq_true hfacts⟩

end Server
