import Presto.Accounts
import Presto.Rounding

/-!
# Conversions

What the two sides of a recorded transaction are worth: the newest valuation of every recorded
transaction is calculated from its own columns and from the quotes that the server had when it was
made, over every run of calls and of backfilled quotes. An edit that changes none of these columns
keeps the valuation, whatever the quotes are by then. The source side is converted from the input currency; the destination side is the entered amount as it stands,
taken to be in the currency of the destination account. That is what a cross-currency transfer needs,
which names the amount received; for an income, and for a transfer within one currency, that is
entered in another currency, the amount stays unconverted.
-/

namespace Server

open Budget BudgetLedger

variable {today : Date} {db db' : Database} {call : Call} {response : Response}

/-! ## Resolved writes -/

/-- Both sides are different accounts that a user may post to. -/
structure BetweenUsers (w : WriteRequest) (e : Endpoints) (source destination : Account) : Prop where
  fromAccountId : w.fromAccountId = some e.fromAccount.id
  toAccountId : w.toAccountId = some e.toAccount.id
  distinct : e.fromAccount.id ≠ e.toAccount.id
  sourceReal : source.isReal = true
  sourceActive : source.isActive = true
  destinationReal : destination.isReal = true
  destinationActive : destination.isActive = true

/-- The accounts and amounts of a resolved write. -/
structure Resolution (db : Database) (w : WriteRequest) (r : ResolvedWrite) (source destination : Account) :
    Prop where
  fromAccount : db.accounts.lookup r.endpoints.fromAccount.id = some source
  toAccount : db.accounts.lookup r.endpoints.toAccount.id = some destination
  fromCurrency : r.endpoints.fromAccount.currency = source.currency.getD .eur
  toCurrency : r.endpoints.toAccount.currency = destination.currency.getD .eur
  toAmount : r.valuationToAmount = w.toAmount.getD w.amount
  single : w.kind ≠ .transfer → w.toAmount = none
  input : r.inputCurrency = w.currency.getD
    (defaultInputCurrency w.kind r.endpoints.fromAccount.currency r.endpoints.toAccount.currency)
  sameCurrency : w.kind = .transfer →
    r.endpoints.fromAccount.currency = r.endpoints.toAccount.currency → w.toAmount = none
  transfer : w.kind = .transfer → BetweenUsers w r.endpoints source destination
  income : w.kind = .income → w.toAccountId = some r.endpoints.toAccount.id ∧
    source.isReal = false ∧ destination.isReal = true ∧ destination.isActive = true

theorem loadUserAccount_ok {id : AccountId} {a : WriteAccount} (h : loadUserAccount db id = .ok a) :
    a.id = id ∧ ∃ x, db.accounts.lookup a.id = some x ∧ a = writeAccount a.id x ∧ x.isReal = true ∧
      x.isActive = true := by
  simp only [loadUserAccount, Except.bind_eq_ok, Except.ensure_eq_ok, Except.pure_eq_ok] at h
  obtain ⟨b, hb, _, ⟨hreal, hactive⟩, rfl⟩ := h
  obtain ⟨x, hx, rfl⟩ := loadAccount_ok hb
  exact ⟨rfl, x, hx, rfl, hreal, hactive⟩

/-- The accounts behind the endpoints of a write. -/
theorem resolveEndpoints_ok {w : WriteRequest} {e : Endpoints} (h : resolveEndpoints db w = .ok e) :
    ∃ source destination, db.accounts.lookup e.fromAccount.id = some source ∧
      e.fromAccount = writeAccount e.fromAccount.id source ∧
      db.accounts.lookup e.toAccount.id = some destination ∧
      e.toAccount = writeAccount e.toAccount.id destination ∧
      (w.kind ≠ .transfer → w.toAmount = none) ∧
      (w.kind = .transfer → BetweenUsers w e source destination) ∧
      (w.kind = .income → w.toAccountId = some e.toAccount.id ∧
        source.isReal = false ∧ destination.isReal = true ∧ destination.isActive = true) := by
  unfold resolveEndpoints at h
  split at h
  · rename_i hk
    simp only [Except.bind_eq_ok, Except.ensure_eq_ok, Except.pure_eq_ok] at h
    obtain ⟨_, ⟨_, _, hnone⟩, _, _, _, _, a, ha, _, _, b, hb, _, _, rfl⟩ := h
    obtain ⟨_, x, hx, hax, _⟩ := loadUserAccount_ok ha
    obtain ⟨y, hy, hby, _, hsystem, _⟩ := loadSystemAccount_ok hb
    exact ⟨x, y, hx, hax, hy, hby, fun _ => hnone, by simp [hk], by simp [hk]⟩
  · rename_i hk
    simp only [Except.bind_eq_ok, Except.ensure_eq_ok, Except.pure_eq_ok] at h
    obtain ⟨_, ⟨_, _, hnone⟩, _, hid, _, _, a, ha, _, _, b, hb, _, _, rfl⟩ := h
    obtain ⟨rfl, x, hx, hax, hreal, hactive⟩ := loadUserAccount_ok ha
    obtain ⟨y, hy, hby, _, hsystem, _⟩ := loadSystemAccount_ok hb
    exact ⟨y, x, hy, hby, hx, hax, fun _ => hnone, by simp [hk],
      fun _ => ⟨Except.fromOption_eq_ok.1 hid, hsystem, hreal, hactive⟩⟩
  · rename_i hk
    simp only [Except.bind_eq_ok, Except.ensure_eq_ok, Except.pure_eq_ok] at h
    obtain ⟨_, _, _, hfrom, _, hto, _, hne, a, ha, b, hb, _, _, rfl⟩ := h
    obtain ⟨rfl, x, hx, hax, hreal, hactive⟩ := loadUserAccount_ok ha
    obtain ⟨rfl, y, hy, hby, hreal', hactive'⟩ := loadUserAccount_ok hb
    exact ⟨x, y, hx, hax, hy, hby, by simp [hk], fun _ => ⟨Except.fromOption_eq_ok.1 hfrom,
      Except.fromOption_eq_ok.1 hto, hne, hreal, hactive, hreal', hactive'⟩, by simp [hk]⟩
  · rename_i hk
    simp only [Except.bind_eq_ok, Except.ensure_eq_ok, Except.pure_eq_ok] at h
    obtain ⟨_, ⟨_, _, _, hnone⟩, _, _, _, _, _, _, _, _, _, _, b, hb, rfl⟩ := h
    obtain ⟨y, hy, hby, _, hsystem, _⟩ := loadSystemAccount_ok hb
    exact ⟨y, y, hy, hby, hy, hby, fun _ => hnone, by simp [hk], by simp [hk]⟩
  · cases h

theorem resolveWrite_ok {w : WriteRequest} {r : ResolvedWrite} (h : resolveWrite db w = .ok r) :
    ∃ source destination, Resolution db w r source destination := by
  simp only [resolveWrite, Except.bind_eq_ok, Except.ensure_eq_ok, Except.pure_eq_ok] at h
  obtain ⟨e, he, _, _, _, hcross, rfl⟩ := h
  obtain ⟨x, y, hx, hex, hy, hey, hsingle, htransfer, hincome⟩ := resolveEndpoints_ok he
  refine ⟨x, y, hx, hy, by rw [hex]; rfl, by rw [hey]; rfl, rfl, hsingle, rfl, fun hk hsame => ?_,
    htransfer, hincome⟩
  cases ha : w.toAmount with
  | none => rfl
  | some a =>
    have hboth : decide (w.kind = .transfer ∧ e.fromAccount.currency ≠ e.toAccount.currency) = false :=
      decide_eq_false fun hd => hd.2 hsame
    exact absurd ⟨hk, by rw [hboth, ha]; exact Bool.false_ne_true⟩ hcross

/-! ## Quotes -/

/-- `write_rows` (`backfill_ecb_rates.py:315`): a quote takes the place of the one for its currency and
day. -/
def writeRows (quotes rates : List RateObservation) : List RateObservation :=
  quotes.foldl (fun rates quote =>
    (rates.filter fun r => ¬ (r.currency = quote.currency ∧ r.date = quote.date)) ++ [quote]) rates

/-- `db` is reached on day `today` from an imported database by calls, between which quotes may be
backfilled. -/
inductive ReachableQuoted : Date → Database → Prop
  | imported {today : Date} {db : Database} (h : Imported today db) : ReachableQuoted today db
  | call {today : Date} {db : Database} (h : ReachableQuoted today db) (call : Call)
      (valid : call.clock.today.Valid) (later : today ≤ call.clock.today) :
      ReachableQuoted call.clock.today (step db call)
  | backfill {today : Date} {db : Database} (h : ReachableQuoted today db)
      (quotes : List RateObservation)
      (ecb : ∀ q ∈ quotes, q.currency ≠ .eur ∧ q.date.Valid ∧ 0 < q.currencyUnitsPerEur) :
      ReachableQuoted today { db with exchangeRates := writeRows quotes db.exchangeRates }

theorem Reachable.quoted (h : Reachable today db) : ReachableQuoted today db := by
  obtain ⟨d₀, db₀, himp, hrun⟩ := h
  exact hrun.induct (.imported himp) fun _ _ call _ hvalid hlater _ hquoted =>
    .call hquoted call hvalid hlater

/-- No rule for the tables reads the quotes. -/
theorem Sound.backfill (h : Sound today db) (R : List RateObservation) :
    Sound today { db with exchangeRates := R } :=
  { h with }

theorem ReachableQuoted.sound (h : ReachableQuoted today db) : Sound today db := by
  induction h with
  | imported h => exact h.sound
  | call _ call valid later ih => exact (step_changes call (ih.later valid later)).sound (ih.later valid later)
  | backfill _ quotes _ ih => exact ih.backfill _

/-! ## The newest valuation -/

/-- The newest valuation of a transaction is the one calculated from its columns and `rates`. -/
def Valued (rates : List RateObservation) (db : Database) (t : Transaction) : Prop :=
  ∃ f source g destination input v revision,
    t.fromAccountId = some f ∧ db.accounts.lookup f = some source ∧
    t.toAccountId = some g ∧ db.accounts.lookup g = some destination ∧
    t.inputCurrency = some input ∧ (t.kind ≠ .transfer → t.toAmountDecimal = none) ∧
    calculateValuation t.amountDecimal input (source.currency.getD .eur)
      (t.toAmountDecimal.getD t.amountDecimal) (destination.currency.getD .eur) t.effectiveDate
      rates postingRoundingMode = .ok v ∧
    t.latest = some (storedValuation revision v)

/-- Every transaction that the server recorded is valued by the quotes of some day. -/
def ValuationsSound (db : Database) : Prop :=
  ∀ id t, db.transactions.lookup id = some t → t.canonicalLive = true → t.kind ≠ .reconciliation →
    ∃ rates, Valued rates db t

variable {rates : List RateObservation}

/-- Accounts keep their currencies. -/
theorem Valued.mono {t : Transaction} (h : Valued rates db t)
    (haccounts : ∀ id, (db'.accounts.lookup id).map accountProfile
      = (db.accounts.lookup id).map accountProfile) : Valued rates db' t := by
  obtain ⟨f, source, g, destination, input, v, revision, hf, hsource, hg, hdestination, hrest⟩ := h
  have hcurrency : ∀ {id : AccountId} {a : Account}, db.accounts.lookup id = some a →
      ∃ b, db'.accounts.lookup id = some b ∧ b.currency = a.currency := by
    intro id a ha
    have hprofile := haccounts id
    rw [ha, Option.map_some] at hprofile
    obtain ⟨b, hb, he⟩ := Option.map_eq_some_iff.1 hprofile
    exact ⟨b, hb, congrArg AccountProfile.currency he⟩
  obtain ⟨source', hsource', hs⟩ := hcurrency hsource
  obtain ⟨destination', hdestination', hd⟩ := hcurrency hdestination
  refine ⟨f, source', g, destination', input, v, revision, hf, hsource', hg, hdestination', ?_⟩
  rw [hs, hd]
  exact hrest

/-- A row as a write leaves it, valued by its own write. -/
theorem valued_written {w : WriteRequest} {r : ResolvedWrite} {v : TransactionValuation}
    {occurredAt : Option Timestamp} {revision revision' : Nat} {valuations : List ValuationRevision}
    (hr : resolveWrite db w = .ok r) (hv : valueWrite db w r = .ok v)
    (hhead : valuations.head? = some (storedValuation revision' v)) :
    Valued db.exchangeRates db (writtenTransaction w r occurredAt revision valuations) := by
  obtain ⟨source, destination, h⟩ := resolveWrite_ok hr
  rw [valueWrite, Except.mapError_eq_ok, h.fromCurrency, h.toCurrency, h.toAmount] at hv
  refine ⟨_, source, _, destination, r.inputCurrency, v, revision', rfl, h.fromAccount, rfl, h.toAccount,
    rfl, fun hk => by simp only [writtenTransaction]; exact if_neg hk, ?_, hhead⟩
  have hto : (if w.kind = .transfer then w.toAmount else none).getD w.amount =
      w.toAmount.getD w.amount := by
    split
    · rfl
    · rw [h.single (by assumption)]
  simp only [writtenTransaction, hto]
  exact hv

/-- A valuation that is kept is the one of the new row: its inputs are the same. -/
theorem valued_unchanged {old : Transaction} {w : WriteRequest} {r : ResolvedWrite}
    {s : StoredEndpoints} {occurredAt : Option Timestamp} {revision : Nat}
    (hold : Valued rates db old) (hs : Loaded db old s) (hr : resolveWrite db w = .ok r)
    (hsame : inputsUnchanged old s.fromAccount s.toAccount w r = true) :
    Valued rates db (writtenTransaction w r occurredAt revision old.valuations) := by
  obtain ⟨source, destination, h⟩ := resolveWrite_ok hr
  obtain ⟨f, source', g, destination', input, v, revision', hf, hsource', hg, hdestination', hinput,
    hsingle, hv, hlatest⟩ := hold
  simp only [inputsUnchanged, hinput, Option.getD_some, Bool.and_eq_true, decide_eq_true_eq] at hsame
  obtain ⟨⟨⟨⟨⟨hamount, hdate⟩, hin⟩, hfrom⟩, hto⟩, htoAmount⟩ := hsame
  have hfromCurrency : s.fromAccount.currency = source'.currency.getD .eur := by
    obtain ⟨x, hx, he⟩ := loadAccount_ok hs.fromAccount
    obtain rfl : f = s.fromAccount.id := Option.some.inj (hf.symm.trans hs.fromAccountId)
    obtain rfl : x = source' := Option.some.inj (hx.symm.trans hsource')
    rw [he]
    rfl
  have htoCurrency : s.toAccount.currency = destination'.currency.getD .eur := by
    obtain ⟨x, hx, he⟩ := loadAccount_ok hs.toAccount
    obtain rfl : g = s.toAccount.id := Option.some.inj (hg.symm.trans hs.toAccountId)
    obtain rfl : x = destination' := Option.some.inj (hx.symm.trans hdestination')
    rw [he]
    rfl
  have holdAmount : (if old.kind = .transfer then old.toAmountDecimal.getD old.amountDecimal
      else old.amountDecimal) = old.toAmountDecimal.getD old.amountDecimal := by
    split
    · rfl
    · rw [hsingle (by assumption)]
      rfl
  have hnewAmount : (if w.kind = .transfer then w.toAmount else none).getD w.amount =
      w.toAmount.getD w.amount := by
    split
    · rfl
    · rw [h.single (by assumption)]
  refine ⟨_, source, _, destination, r.inputCurrency, v, revision', rfl, h.fromAccount, rfl, h.toAccount,
    rfl, fun hk => by simp only [writtenTransaction]; exact if_neg hk, ?_, hlatest⟩
  simp only [writtenTransaction, hnewAmount]
  rw [← h.toAmount, ← htoAmount, holdAmount, ← hamount, ← hdate, ← hin, ← h.fromCurrency, ← h.toCurrency,
    ← hfrom, ← hto, hfromCurrency, htoCurrency]
  exact hv

/-- The rows after one of them was written. -/
theorem written_row {T : Table TransactionId Transaction} {written id : TransactionId}
    {row t : Transaction} {P : Transaction → Prop} (hT : T = db.transactions.insert written row)
    (ht : T.lookup id = some t) (hrow : P row) : db.transactions.lookup id = some t ∨ P t := by
  subst hT
  by_cases he : id = written
  · rw [he, AList.lookup_insert, Option.some.injEq] at ht
    exact .inr (ht ▸ hrow)
  · exact .inl (by rwa [AList.lookup_insert_ne he] at ht)

/-- Reconciliations write no other kind of row. -/
theorem reconcileAccounts_others {clock : Clock} {payload : ReconciliationRequest}
    {systemAccount : WriteAccount} {systemCategory : CategoryId} {s : ReconciliationState}
    {requests : List ReconciliationAccount}
    (h : requests.foldlM (reconcileAccount clock payload systemAccount systemCategory)
      ⟨db, [], []⟩ = .ok s) {id : TransactionId} {t : Transaction}
    (ht : s.db.transactions.lookup id = some t) (hkind : t.kind ≠ .reconciliation) :
    db.transactions.lookup id = some t := by
  have key := Except.foldlM_induction
    (fun s : ReconciliationState => s.db.transactions.lookup id = some t →
      db.transactions.lookup id = some t) h (fun h => h) fun requested _ s s' hs hstep ht => by
      obtain ⟨account, balance, existing, id', activity, v, row, hrec, _⟩ := reconcileAccount_ok hstep
      rw [hrec.result] at ht
      rcases written_row (P := fun t => t.kind = .reconciliation) rfl ht hrec.row_facts.1 with hold | hnew
      · exact hs hold
      · exact absurd hnew hkind
  exact key ht

/-- Rows that are not new stay valued. -/
theorem ValuationsSound.mono (h : ValuationsSound db) (hx : Extends db db')
    (hold : ∀ id t, db'.transactions.lookup id = some t → t.kind ≠ .reconciliation →
      db.transactions.lookup id = some t ∨ ∃ rates, Valued rates db' t) : ValuationsSound db' := by
  intro id t ht hlive hkind
  rcases hold id t ht hkind with hdb | hv
  · obtain ⟨rates, hv⟩ := h id t hdb hlive hkind
    exact ⟨rates, hv.mono hx.accounts⟩
  · exact hv

theorem ValuationsSound.step (hvalued : ValuationsSound db) (call : Call)
    (hsound : Sound call.clock.today db) : ValuationsSound (Server.step db call) := by
  have hx := (step_changes call hsound).toExtends
  rcases step_effect call hsound with e | ⟨response, heffect⟩
  · rwa [e]
  generalize Server.step db call = db' at heffect hx
  refine hvalued.mono hx fun id t ht hkind => ?_
  cases heffect with
  | replayed hid hrow hactor hresponse hinit =>
    rcases hinit with rfl | hinit
    · exact .inl ht
    · obtain ⟨O, rfl⟩ := initializeOpenings_frame hinit
      exact .inl ht
  | created hrequest hnormal hinit hfresh h hresponse =>
    obtain ⟨O, rfl⟩ := initializeOpenings_frame hinit
    exact written_row (P := fun t => ∃ rates, Valued rates _ t) h.facts.2 ht
      ⟨_, (valued_written h.resolved h.valued rfl).mono hx.accounts⟩
  | edited hrequest hpayload hnormal hinit hfresh h hresponse =>
    obtain ⟨O, rfl⟩ := initializeOpenings_frame hinit
    refine written_row (P := fun t => ∃ rates, Valued rates _ t) h.facts.2 ht ?_
    have hloaded := loadStored_ok h.loaded
    have hedit := h.valued
    unfold editValuation at hedit
    split at hedit
    · cases hedit
      obtain ⟨rates, hold⟩ := hvalued _ _ h.found h.live h.kind
      have hkept : Valued rates { db with openings := O } _ := hold
      exact ⟨rates, (valued_unchanged hkept hloaded h.resolved (by assumption)).mono hx.accounts⟩
    · simp only [Except.bind_eq_ok, Except.pure_eq_ok, Prod.mk.injEq] at hedit
      obtain ⟨v, hv, rfl, rfl, rfl⟩ := hedit
      exact ⟨_, (valued_written h.resolved hv rfl).mono hx.accounts⟩
  | deleted hrequest hinit hfresh h hresponse =>
    obtain ⟨O, rfl⟩ := initializeOpenings_frame hinit
    replace ht := (congrArg (AList.lookup id) h.facts.2).symm.trans ht
    rw [AList.lookup_erase_of] at ht
    split at ht
    · cases ht
    · exact .inl ht
  | reconciled hrequest hnormal hinit hfresh hopen hreached hsystem hfold hresult hresponse =>
    obtain ⟨O, rfl⟩ := initializeOpenings_frame hinit
    subst hresult
    exact .inl (reconcileAccounts_others hfold ht hkind)
  | quiet h hlogs hdeletion => exact .inl (by rwa [h.transactions] at ht)

/-- **Every recorded transaction is valued**, over every run. -/
theorem ReachableQuoted.valuationsSound (h : ReachableQuoted today db) : ValuationsSound db := by
  induction h with
  | imported h =>
    intro id t ht hlive
    rw [(h.dates id t ht).2.2] at hlive
    cases hlive
  | call h call valid later ih => exact ih.step call (h.sound.later valid later)
  | backfill _ quotes _ ih => exact ih

/-! ## Accepted entries -/

/-- The entry that a call writes. -/
def Request.entry : Request → Option WriteRequest
  | .create p => some p
  | .edit p => some p.transaction
  | .delete _ | .reconcile _ | .correct _ | .complete _ | .close _ | .createCategory _
  | .cancelBudget _ | .saveBudget _ | .saveExpectedIncome _ | .refresh | .startup => none

theorem roundPositive_ok {value amount : Decimal} {field : String}
    (h : roundPositive value field = .ok amount) : amount = value.roundPosted := by
  simp only [roundPositive] at h
  split at h
  · cases h
  · exact (Except.ok.inj h).symm

/-- Normalisation rounds the amounts and leaves the rest, but for the category of an income. -/
theorem normalize_ok {p w : WriteRequest} (h : normalize p = .ok w) :
    ∃ toAmount toCategoryId, w = { p with
      amount := p.amount.roundPosted, toAmount := toAmount, toCategoryId := toCategoryId } := by
  simp only [normalize, Except.bind_eq_ok, Except.ensure_eq_ok, Except.pure_eq_ok] at h
  obtain ⟨_, _, _, _, _, _, amount, hamount, toAmount, _, _, _, _, _, rfl⟩ := h
  rw [roundPositive_ok hamount]
  exact ⟨toAmount, _, rfl⟩

/-- The call edits a transaction and changes nothing that its valuation was calculated from. -/
def KeepsValuation (db : Database) (call : Call) (old : Transaction) : Prop :=
  ∃ p w r s, call.request = .edit p ∧ normalize p.transaction = .ok w ∧
    db.transactions.lookup w.transactionId = some old ∧ resolveWrite db w = .ok r ∧
    loadStored db old = .ok s ∧ inputsUnchanged old s.fromAccount s.toAccount w r = true

/-- The quotes by which the entry of a call is valued: those that the server has, or those by which
the row was valued that the call replaces and whose valuation it keeps. -/
inductive QuotesOf (db : Database) (call : Call) : List RateObservation → Prop
  | current (h : ∀ old, ¬ KeepsValuation db call old) : QuotesOf db call db.exchangeRates
  | kept {old : Transaction} {rates : List RateObservation} (h : KeepsValuation db call old)
      (hvalued : Valued rates db old) : QuotesOf db call rates

/-- What an accepted entry leaves: its row, with the columns of the request. -/
structure Recorded (db db' : Database) (p : WriteRequest) (t : Transaction)
    (source destination : Account) (e : Endpoints) : Prop where
  transactions : db'.transactions = db.transactions.insert p.transactionId t
  live : t.canonicalLive = true
  kind : t.kind = p.kind
  date : t.effectiveDate = p.date
  amount : t.amountDecimal = p.amount.roundPosted
  input : t.inputCurrency = some (p.currency.getD (defaultInputCurrency p.kind
    (source.currency.getD .eur) (destination.currency.getD .eur)))
  toAmount : p.kind ≠ .transfer ∨ source.currency.getD .eur = destination.currency.getD .eur →
    t.toAmountDecimal = none
  fromAccountId : t.fromAccountId = some e.fromAccount.id
  toAccountId : t.toAccountId = some e.toAccount.id
  fromAccount : db.accounts.lookup e.fromAccount.id = some source
  toAccount : db.accounts.lookup e.toAccount.id = some destination
  transfer : p.kind = .transfer → BetweenUsers p e source destination
  income : p.kind = .income → p.toAccountId = some e.toAccount.id ∧
    source.isReal = false ∧ destination.isReal = true ∧ destination.isActive = true

theorem KeepsValuation.found {old : Transaction} (h : KeepsValuation db call old) :
    ∃ id, db.transactions.lookup id = some old := by
  obtain ⟨_, _, _, _, _, _, hfound, _⟩ := h
  exact ⟨_, hfound⟩

theorem KeepsValuation.unique {old old' : Transaction} (h : KeepsValuation db call old)
    (h' : KeepsValuation db call old') : old = old' := by
  obtain ⟨_, _, _, _, hrequest, hn, hfound, _⟩ := h
  obtain ⟨_, _, _, _, hrequest', hn', hfound', _⟩ := h'
  cases hrequest.symm.trans hrequest'
  obtain rfl := Except.ok.inj (hn.symm.trans hn')
  exact Option.some.inj (hfound.symm.trans hfound')

/-- The valuations of the row that an entry writes: calculated, or those of the row it replaces. -/
inductive ValuationsOf (db : Database) (call : Call) (w : WriteRequest) (r : ResolvedWrite) :
    List ValuationRevision → Prop
  | calculated {revision : Nat} {v : TransactionValuation} {older : List ValuationRevision}
      (hvalued : valueWrite db w r = .ok v) (hnot : ∀ old, ¬ KeepsValuation db call old) :
      ValuationsOf db call w r (storedValuation revision v :: older)
  | kept {old : Transaction} {s : StoredEndpoints} (hkeeps : KeepsValuation db call old)
      (hlive : old.canonicalLive = true) (hkind : old.kind ≠ .reconciliation)
      (hstored : loadStored db old = .ok s) (hsame : inputsUnchanged old s.fromAccount s.toAccount w r = true) :
      ValuationsOf db call w r old.valuations

/-- The row that an accepted entry writes, when its operation is new. -/
theorem entry_written {p : WriteRequest} (h : handle db call = .ok (db', response))
    (hentry : call.request.entry = some p) (hnew : db.operations.lookup p.operationId = none) :
    ∃ w r occurredAt revision valuations, normalize p = .ok w ∧ resolveWrite db w = .ok r ∧
      ValuationsOf db call w r valuations ∧
      db'.transactions = db.transactions.insert p.transactionId
        (writtenTransaction w r occurredAt revision valuations) := by
  obtain ⟨clock, actor, request⟩ := call
  cases request with
  | create payload =>
    cases hentry
    simp only [handle, createTransaction, Except.bind_eq_ok, Except.mapError_eq_ok] at h
    obtain ⟨w, hn, db₀, hinit, h⟩ := h
    obtain ⟨O, rfl⟩ := initializeOpenings_frame hinit
    obtain ⟨hid, htransaction⟩ := normalize_operationId hn
    rcases once_ok h with ⟨row, hrow, _⟩ | ⟨_, db₁, hb, rfl⟩
    · rw [hid] at hrow
      exact absurd (hnew.symm.trans hrow) (by simp)
    · obtain ⟨r, v, occurredAt, accounts, d₁, d₂, cs, hcr, _⟩ := createBody_ok hb
      refine ⟨w, r, occurredAt, 1, _, hn, hcr.resolved, .calculated hcr.valued ?_,
        htransaction ▸ hcr.facts.2⟩
      rintro old ⟨_, _, _, _, hrequest, _⟩
      cases hrequest
  | edit payload =>
    cases hentry
    simp only [handle, editTransaction, Except.bind_eq_ok, Except.mapError_eq_ok] at h
    obtain ⟨w, hn, _, _, _, _, db₀, hinit, h⟩ := h
    obtain ⟨O, rfl⟩ := initializeOpenings_frame hinit
    obtain ⟨hid, htransaction⟩ := normalize_operationId hn
    rcases once_ok h with ⟨row, hrow, _⟩ | ⟨_, db₁, hb, rfl⟩
    · rw [hid] at hrow
      exact absurd (hnew.symm.trans hrow) (by simp)
    · obtain ⟨old, r, stored, vs, fromNative, toNative, occurredAt, accounts, d₁, d₂, d₃, cs, he, rfl,
        _⟩ := editBody_ok hb
      refine ⟨w, r, occurredAt, _, vs, hn, he.resolved, ?_, htransaction ▸ he.facts.2⟩
      have hedit := he.valued
      unfold editValuation at hedit
      split at hedit
      · rename_i hsame
        cases hedit
        exact .kept ⟨_, w, r, stored, rfl, hn, he.found, he.resolved, he.loaded, hsame⟩ he.live he.kind
          he.loaded hsame
      · rename_i hchanged
        simp only [Except.bind_eq_ok, Except.pure_eq_ok, Prod.mk.injEq] at hedit
        obtain ⟨v, hv, rfl, rfl, rfl⟩ := hedit
        refine .calculated hv ?_
        rintro old' ⟨_, w', r', s', hrequest, hn', hfound, hr', hs', hsame⟩
        cases hrequest
        obtain rfl := Except.ok.inj (hn.symm.trans hn')
        obtain rfl := Option.some.inj (he.found.symm.trans hfound)
        obtain rfl := Except.ok.inj (he.resolved.symm.trans hr')
        obtain rfl := Except.ok.inj (he.loaded.symm.trans hs')
        exact hchanged hsame
  | _ => cases hentry

/-- Such a row is valued by the quotes of its call, and there are such quotes. -/
theorem ValuationsOf.valued {w : WriteRequest} {r : ResolvedWrite} {occurredAt : Option Timestamp}
    {revision : Nat} {valuations : List ValuationRevision} (h : ValuationsOf db call w r valuations)
    (hr : resolveWrite db w = .ok r) (hsound : ValuationsSound db) :
    (∃ rates, QuotesOf db call rates) ∧ ∀ rates, QuotesOf db call rates →
      Valued rates db (writtenTransaction w r occurredAt revision valuations) := by
  cases h with
  | calculated hv hnot =>
    refine ⟨⟨_, .current hnot⟩, fun rates hquotes => ?_⟩
    cases hquotes with
    | current => exact valued_written hr hv rfl
    | kept hkeeps => exact absurd hkeeps (hnot _)
  | kept hkeeps hlive hkind hstored hsame =>
    refine ⟨?_, fun rates hquotes => ?_⟩
    · obtain ⟨id, hfound⟩ := hkeeps.found
      obtain ⟨rates, hvalued⟩ := hsound id _ hfound hlive hkind
      exact ⟨rates, .kept hkeeps hvalued⟩
    · cases hquotes with
      | current hnot => exact absurd hkeeps (hnot _)
      | kept hkeeps' hvalued =>
        obtain rfl := hkeeps.unique hkeeps'
        exact valued_unchanged hvalued (loadStored_ok hstored) hr hsame

/-- **An accepted entry is recorded**, when its operation is new, and valued by the quotes of its
call. -/
theorem recorded_of_entry {p : WriteRequest} (h : handle db call = .ok (db', response))
    (hentry : call.request.entry = some p) (hnew : db.operations.lookup p.operationId = none)
    (hsound : ValuationsSound db) :
    ∃ t source destination e, Recorded db db' p t source destination e ∧
      (∃ rates, QuotesOf db call rates) ∧ ∀ rates, QuotesOf db call rates → Valued rates db t := by
  obtain ⟨w, r, occurredAt, revision, valuations, hn, hr, hvaluations, hrows⟩ :=
    entry_written h hentry hnew
  obtain ⟨source, destination, hres⟩ := resolveWrite_ok hr
  have hvalued := @ValuationsOf.valued _ _ _ _ occurredAt revision _ hvaluations hr hsound
  obtain ⟨toAmount, toCategoryId, rfl⟩ := normalize_ok hn
  refine ⟨_, source, destination, r.endpoints, {
    transactions := hrows
    live := rfl
    kind := rfl
    date := rfl
    amount := rfl
    input := ?_
    toAmount := ?_
    fromAccountId := rfl
    toAccountId := rfl
    fromAccount := hres.fromAccount
    toAccount := hres.toAccount
    transfer := fun hk => ?_
    income := hres.income }, hvalued⟩
  · rw [← hres.fromCurrency, ← hres.toCurrency]
    exact congrArg some hres.input
  · intro hsame
    show (if p.kind = .transfer then toAmount else none) = none
    by_cases hk : p.kind = .transfer
    · rw [if_pos hk]
      rcases hsame with hne | hsame
      · exact absurd hk hne
      · exact hres.sameCurrency hk (by rw [hres.fromCurrency, hres.toCurrency, hsame])
    · exact if_neg hk
  · obtain ⟨h1, h2, h3, h4, h5, h6, h7⟩ := hres.transfer hk
    exact ⟨h1, h2, h3, h4, h5, h6, h7⟩

/-! ## Balances -/

/-- What the row stored under an id adds to an account. -/
def storedEffect (db : Database) (a : AccountId) (id : TransactionId) : Decimal :=
  (db.transactions.lookup id).elim 0 (netEffect a)

/-- An accepted entry moves a balance from what its earlier row added to what its row adds. -/
theorem entry_balance {p : WriteRequest} {t : Transaction} {source destination : Account}
    {e : Endpoints} {a : AccountId} (h : handle db call = .ok (db', response))
    (hsound : Sound call.clock.today db) (hentry : call.request.entry = some p)
    (hrec : Recorded db db' p t source destination e) (ha : db.isActiveRealAccount a = true) :
    balanceOf db' a = balanceOf db a - storedEffect db a p.transactionId + netEffect a t := by
  have hresidue : residueOf db call a = 0 := by
    unfold residueOf
    split
    · rename_i hp _
      rw [hp] at hentry
      cases hentry
    · rfl
  have hunexplained := handle_unexplained h hsound ha
  have htotal : (db'.transactions.total fun _ t => netEffect a t) =
      (db.transactions.total fun _ t => netEffect a t) - storedEffect db a p.transactionId +
        netEffect a t := by
    rw [hrec.transactions, storedEffect]
    cases hold : db.transactions.lookup p.transactionId with
    | none =>
      rw [AList.total_insert_new hold, Option.elim_none]
      abel
    | some old =>
      rw [AList.total_replace hold, Option.elim_some]
      abel
  rw [hresidue, add_zero, unexplained, unexplained, htotal] at hunexplained
  rw [sub_eq_sub_iff_add_eq_add] at hunexplained
  rw [eq_sub_of_add_eq hunexplained]
  abel

/-- The active real accounts in a currency. -/
def accountsIn (db : Database) (c : Currency) : Finset AccountId :=
  db.accounts.keys.toFinset.filter fun a => (db.accounts.lookup a).any fun x =>
    x.isReal && x.isActive && x.currency.getD .eur = c

/-- The household's total balance in a currency. -/
def moneyIn (db : Database) (c : Currency) : Decimal := ∑ a ∈ accountsIn db c, balanceOf db a

theorem mem_accountsIn {c : Currency} {a : AccountId} : a ∈ accountsIn db c ↔
    ∃ x, db.accounts.lookup a = some x ∧ x.isReal = true ∧ x.isActive = true ∧
      x.currency.getD .eur = c := by
  rw [accountsIn, Finset.mem_filter, List.mem_toFinset, Option.any_eq_true]
  constructor
  · rintro ⟨_, x, hx, hp⟩
    simp only [Bool.and_eq_true, decide_eq_true_eq] at hp
    exact ⟨x, hx, hp.1.1, hp.1.2, hp.2⟩
  · rintro ⟨x, hx, hreal, hactive, hc⟩
    refine ⟨AList.lookup_isSome.1 (by rw [hx]; rfl), x, hx, ?_⟩
    simp [hreal, hactive, hc]

theorem active_of_mem {c : Currency} {a : AccountId} (h : a ∈ accountsIn db c) :
    db.isActiveRealAccount a = true := by
  obtain ⟨x, hx, hreal, hactive, _⟩ := mem_accountsIn.1 h
  simp [Database.isActiveRealAccount, hx, hreal, hactive]

theorem accountsIn_eq (hx : Extends db db') (c : Currency) : accountsIn db' c = accountsIn db c := by
  have key : ∀ {d d' : Database}, (∀ id, (d'.accounts.lookup id).map accountProfile
      = (d.accounts.lookup id).map accountProfile) → ∀ a, a ∈ accountsIn d c → a ∈ accountsIn d' c := by
    intro d d' hprofile a ha
    obtain ⟨x, hx, hreal, hactive, hc⟩ := mem_accountsIn.1 ha
    have hp := hprofile a
    rw [hx, Option.map_some] at hp
    obtain ⟨y, hy, he⟩ := Option.map_eq_some_iff.1 hp
    rw [accountProfile, accountProfile, AccountProfile.mk.injEq] at he
    obtain ⟨_, hcy, hry, hay⟩ := he
    exact mem_accountsIn.2 ⟨y, hy, hry ▸ hreal, hay ▸ hactive, hcy ▸ hc⟩
  ext a
  exact ⟨key (fun id => (hx.accounts id).symm) a, key hx.accounts a⟩

/-- The valuation of an accepted entry is calculated from the columns of its row. -/
theorem Recorded.valuation {p : WriteRequest} {t : Transaction} {source destination : Account}
    {e : Endpoints} (hrec : Recorded db db' p t source destination e) (hvalued : Valued rates db t) :
    ∃ v, calculateValuation p.amount.roundPosted (p.currency.getD (defaultInputCurrency p.kind
        (source.currency.getD .eur) (destination.currency.getD .eur))) (source.currency.getD .eur)
        (t.toAmountDecimal.getD p.amount.roundPosted) (destination.currency.getD .eur) p.date
        rates postingRoundingMode = .ok v ∧
      t.fromNative = some v.fromSide.amountNative ∧ t.toNative = some v.toSide.amountNative ∧
      t.toEur = some v.toSide.amountEur := by
  obtain ⟨f, x, g, y, input, v, revision, hf, hfx, hg, hgy, hinput, _, hv, hlatest⟩ := hvalued
  obtain rfl : e.fromAccount.id = f := Option.some.inj (hrec.fromAccountId.symm.trans hf)
  obtain rfl : e.toAccount.id = g := Option.some.inj (hrec.toAccountId.symm.trans hg)
  obtain rfl : source = x := Option.some.inj (hrec.fromAccount.symm.trans hfx)
  obtain rfl : destination = y := Option.some.inj (hrec.toAccount.symm.trans hgy)
  rw [hrec.input, Option.some.injEq] at hinput
  subst hinput
  rw [hrec.amount, hrec.date] at hv
  refine ⟨v, hv, ?_, ?_, ?_⟩
  all_goals
    simp only [Transaction.fromNative, Transaction.toNative, Transaction.toEur, hlatest]
    rfl

/-! ## Transfers within a currency -/

/-- A posted product is the factor itself when the other factor is lost in rounding. -/
theorem posted_eq_iff {amount posted : Decimal} {rate : ℚ} (ha : amount.Within 2)
    (hp : posted.Within 2) (h : HalfEven (amount.toRat * rate * 100) posted.cents) :
    posted = amount ↔ Negligible rate amount.cents := by
  have hcents : amount.toRat * rate * 100 = amount.cents * rate := by
    rw [Decimal.cents_toRat ha]
    ring
  rw [hcents] at h
  rw [negligible_iff, ← Decimal.cents_inj hp ha]
  constructor
  · intro heq
    rwa [heq] at h
  · intro hself
    exact h.unique hself

/-- What a row adds to a set of accounts that holds both its sides. -/
theorem sum_netEffect {S : Finset AccountId} {t : Transaction} {f g : AccountId} {x y : Decimal}
    (hf : t.fromAccountId = some f) (hg : t.toAccountId = some g) (hx : t.fromNative = some x)
    (hy : t.toNative = some y) (hfS : f ∈ S) (hgS : g ∈ S) : ∑ a ∈ S, netEffect a t = y - x := by
  simp only [netEffect, hf, hg, hx, hy, Option.some.injEq, Option.getD_some]
  rw [Finset.sum_sub_distrib, Finset.sum_ite_eq, Finset.sum_ite_eq, if_pos hgS, if_pos hfS]

variable {p : WriteRequest} {a b : AccountId} {source destination : Account}

/-- **Transfers within a currency.** By the quotes of the call, the amount debited is the amount
credited, and the household's money in the currency stays what it was without the entry, exactly when
the rate at which the source is debited is lost in rounding: always when the amount is entered in the
currency of the accounts. -/
theorem transfer_conserves_iff (hreach : ReachableQuoted today db) (hvalid : call.clock.today.Valid)
    (hlater : today ≤ call.clock.today) (h : handle db call = .ok (db', response))
    (hentry : call.request.entry = some p) (hnew : db.operations.lookup p.operationId = none)
    (hkind : p.kind = .transfer) (hfrom : p.fromAccountId = some a) (hto : p.toAccountId = some b)
    (ha : db.accounts.lookup a = some source) (hb : db.accounts.lookup b = some destination)
    (hsame : source.currency.getD .eur = destination.currency.getD .eur) :
    (∃ rates, QuotesOf db call rates) ∧ ∀ rates, QuotesOf db call rates →
      ∃ inputQuote accountQuote t debited credited,
        selectPriorRate (p.currency.getD (source.currency.getD .eur)) p.date rates
          = .ok inputQuote ∧
        selectPriorRate (source.currency.getD .eur) p.date rates = .ok accountQuote ∧
        db'.transactions.lookup p.transactionId = some t ∧
        t.fromNative = some debited ∧ t.toNative = some credited ∧
        (debited = credited ↔ Negligible (sourceRate (p.currency.getD (source.currency.getD .eur))
          (source.currency.getD .eur) inputQuote accountQuote) p.amount.roundPosted.cents) ∧
        (moneyIn db' (source.currency.getD .eur) = moneyIn db (source.currency.getD .eur) -
            (∑ x ∈ accountsIn db (source.currency.getD .eur), storedEffect db x p.transactionId) ↔
          Negligible (sourceRate (p.currency.getD (source.currency.getD .eur))
            (source.currency.getD .eur) inputQuote accountQuote) p.amount.roundPosted.cents) := by
  have hsound := hreach.sound.later hvalid hlater
  obtain ⟨t, x, y, e, hrec, hexists, hvalued⟩ :=
    recorded_of_entry h hentry hnew hreach.valuationsSound
  refine ⟨hexists, fun rates hquotes => ?_⟩
  have husers := hrec.transfer hkind
  obtain rfl : a = e.fromAccount.id := Option.some.inj (hfrom.symm.trans husers.fromAccountId)
  obtain rfl : b = e.toAccount.id := Option.some.inj (hto.symm.trans husers.toAccountId)
  obtain rfl : source = x := Option.some.inj (ha.symm.trans hrec.fromAccount)
  obtain rfl : destination = y := Option.some.inj (hb.symm.trans hrec.toAccount)
  have hx : Extends db db' := step_of_ok h ▸ (step_changes call hsound).toExtends
  obtain ⟨v, hv, hdebited, hcredited, _⟩ := hrec.valuation (hvalued rates hquotes)
  rw [hkind, hrec.toAmount (.inr hsame)] at hv
  obtain ⟨qi, qf, _, hqi, hqf, _, hnative, _, hpost, _⟩ := calculateValuation_rates hv
  have hwithin : p.amount.roundPosted.Within 2 := Decimal.within_roundPosted _
  rw [Option.getD_none, Decimal.roundPosted_of_within hwithin] at hpost
  have hiff : v.fromSide.amountNative = v.toSide.amountNative ↔
      Negligible (sourceRate (p.currency.getD (source.currency.getD .eur))
        (source.currency.getD .eur) qi qf) p.amount.roundPosted.cents := by
    rw [hpost]
    exact posted_eq_iff hwithin (calculateValuation_ok hv).1 hnative
  refine ⟨qi, qf, t, _, _, hqi, hqf, by rw [hrec.transactions, AList.lookup_insert], hdebited,
    hcredited, hiff, ?_⟩
  rw [← hiff, moneyIn, accountsIn_eq hx, Finset.sum_congr rfl fun x hx =>
    entry_balance h hsound hentry hrec (active_of_mem hx), Finset.sum_add_distrib,
    Finset.sum_sub_distrib, moneyIn,
    sum_netEffect hrec.fromAccountId hrec.toAccountId hdebited hcredited
      (mem_accountsIn.2 ⟨source, ha, husers.sourceReal, husers.sourceActive, rfl⟩)
      (mem_accountsIn.2 ⟨destination, hb, husers.destinationReal, husers.destinationActive, hsame.symm⟩),
    add_eq_left, sub_eq_zero]
  exact eq_comm

/-- Accounts and rates are taken from an import as they are. -/
theorem Imported.withAccounts {d : Date} (h : Imported d db) (A : Table AccountId Account)
    (R : List RateObservation) : Imported d { db with accounts := A, exchangeRates := R } :=
  { h with }

/-- The household with a second EUR account and one EUR at 1.25 USD. -/
def abroad : Database := { household 1000 with
  accounts := (household 1000).accounts.insert 6
    ⟨⟨.other 2, 0⟩, some .eur, true, true, some 0, 0⟩
  exchangeRates := [⟨.usd, ⟨october, 1⟩, .normalized 125 2⟩] }

theorem abroad_reachable : Reachable ⟨october, 1⟩ abroad :=
  ⟨_, _, (household_imported 1000).withAccounts _ _, .refl _ _⟩

/-- A transfer of 100 USD between the two EUR accounts. -/
def dollars (operation : OperationId) (date : Date) : WriteRequest :=
  { write operation 6 .transfer date 100 with
    currency := some .usd, fromAccountId := some 1, toAccountId := some 6 }

def moveDollars : Call := callOn october 3 (.create (dollars 11 ⟨october, 3⟩))

/-- The quote of the day is put right: with the surcharge, one USD is one EUR. -/
def requoted : Database :=
  { step abroad moveDollars with
    exchangeRates := writeRows [⟨.usd, ⟨october, 1⟩, .normalized 102 2⟩]
      (step abroad moveDollars).exchangeRates }

/-- The transfer is described anew. -/
def describeDollars : Call := callOn october 4
  (.edit ⟨{ dollars 12 ⟨october, 3⟩ with description := "moved" }, 1, [(1, 1), (6, 1)]⟩)

theorem requoted_reachable : ReachableQuoted ⟨october, 3⟩ requoted :=
  .backfill (.call (abroad_reachable.quoted) moveDollars (by decide) (by decide)) _ (by decide +kernel)

theorem transfer_conserves_iff_dollars :
    (∃ rates, QuotesOf requoted describeDollars rates) ∧ ∀ rates, QuotesOf requoted describeDollars rates →
      ∃ inputQuote accountQuote t debited credited,
        selectPriorRate .usd ⟨october, 3⟩ rates = .ok inputQuote ∧
        selectPriorRate .eur ⟨october, 3⟩ rates = .ok accountQuote ∧
        (step requoted describeDollars).transactions.lookup 6 = some t ∧
        t.fromNative = some debited ∧ t.toNative = some credited ∧
        (debited = credited ↔ Negligible (sourceRate .usd .eur inputQuote accountQuote)
          (Decimal.roundPosted 100).cents) ∧
        (moneyIn (step requoted describeDollars) .eur = moneyIn requoted .eur -
            (∑ x ∈ accountsIn requoted .eur, storedEffect requoted x 6) ↔
          Negligible (sourceRate .usd .eur inputQuote accountQuote)
            (Decimal.roundPosted 100).cents) := by
  obtain ⟨response, h⟩ := @exists_ok_of_step requoted describeDollars (by decide +kernel)
  exact @transfer_conserves_iff _ _ _ _ _ _ _ _
    ⟨⟨.other 1, 0⟩, some .eur, true, true, some (.normalized 91840 2), 1⟩
    ⟨⟨.other 2, 0⟩, some .eur, true, true, some 100, 1⟩ requoted_reachable (by decide)
    (by decide) h rfl (by decide +kernel) rfl rfl rfl (by decide +kernel) (by decide +kernel) rfl

/-- The transfer debits 81.60 EUR and credits 100 EUR: the household gains 18.40 EUR. -/
theorem transfer_not_conserved :
    Reachable ⟨october, 1⟩ abroad ∧ (handle abroad moveDollars).isOk = true ∧
      (((step abroad moveDollars).transactions.lookup 6).bind (·.fromNative)
        = some (.normalized 8160 2)) ∧
      (((step abroad moveDollars).transactions.lookup 6).bind (·.toNative) = some 100) ∧
      moneyIn abroad .eur = 1000 ∧ moneyIn (step abroad moveDollars) .eur = .normalized 101840 2 :=
  ⟨abroad_reachable, by decide +kernel, by decide +kernel, by decide +kernel, by decide +kernel,
    by decide +kernel⟩

/-! ## Incomes in another currency -/

/-- `native` is `amount` converted from the input currency to that of the account, by the quotes of
both and with or without the surcharge. -/
def ConvertedNative (amount : Decimal) (input : Currency)
    (inputQuote accountQuote native : Decimal) : Prop :=
  ∃ surcharge ∈ [1, sourceAdjustment input], HalfEven
    (amount.toRat * (surcharge.toRat * accountQuote.toRat / inputQuote.toRat) * 100) native.cents

/-- `eur` is the EUR value of `amount`, with or without the surcharge. -/
def ConvertedEur (amount : Decimal) (input : Currency) (inputQuote eur : Decimal) : Prop :=
  ∃ surcharge ∈ [1, sourceAdjustment input], HalfEven
    (amount.toRat * (surcharge.toRat / inputQuote.toRat) * 100) eur.cents

/-- The quotes of two currencies agree as far as `amount` shows it: neither the rate between them nor
the difference of its EUR values survives rounding. -/
def QuotesAgree (amount : Decimal) (input : Currency) (inputQuote accountQuote : Decimal) : Prop :=
  (∃ surcharge ∈ [1, sourceAdjustment input],
    Negligible (surcharge.toRat * accountQuote.toRat / inputQuote.toRat) amount.cents) ∧
  ∃ surcharge ∈ [1, sourceAdjustment input], SameRounding (amount.toRat * (1 / accountQuote.toRat) * 100)
    (amount.toRat * (surcharge.toRat / inputQuote.toRat) * 100)

/-- **Incomes in another currency.** By the quotes of the call, the account is credited the converted
amount, and the recorded EUR value is that of the entered amount, exactly when the quotes of the two
currencies agree at the amount: the amount is credited as entered, and valued as if it were in the
currency of the account. -/
theorem income_converted_iff {account : Account} {input : Currency}
    (hreach : ReachableQuoted today db) (hvalid : call.clock.today.Valid)
    (hlater : today ≤ call.clock.today) (h : handle db call = .ok (db', response))
    (hentry : call.request.entry = some p) (hnew : db.operations.lookup p.operationId = none)
    (hkind : p.kind = .income) (hto : p.toAccountId = some a)
    (ha : db.accounts.lookup a = some account) (hcurrency : p.currency = some input) :
    (∃ rates, QuotesOf db call rates) ∧ ∀ rates, QuotesOf db call rates →
      ∃ inputQuote accountQuote t credited eur,
        selectPriorRate input p.date rates = .ok inputQuote ∧
        selectPriorRate (account.currency.getD .eur) p.date rates = .ok accountQuote ∧
        db'.transactions.lookup p.transactionId = some t ∧
        t.toNative = some credited ∧ t.toEur = some eur ∧
        balanceOf db' a = balanceOf db a - storedEffect db a p.transactionId + credited ∧
        (ConvertedNative p.amount.roundPosted input inputQuote accountQuote credited ∧
            ConvertedEur p.amount.roundPosted input inputQuote eur ↔
          QuotesAgree p.amount.roundPosted input inputQuote accountQuote) := by
  have hsound := hreach.sound.later hvalid hlater
  obtain ⟨t, source, x, e, hrec, hexists, hvalued⟩ :=
    recorded_of_entry h hentry hnew hreach.valuationsSound
  refine ⟨hexists, fun rates hquotes => ?_⟩
  obtain ⟨hid, hsystem, hreal, hactive⟩ := hrec.income hkind
  obtain rfl : a = e.toAccount.id := Option.some.inj (hto.symm.trans hid)
  obtain rfl : account = x := Option.some.inj (ha.symm.trans hrec.toAccount)
  obtain ⟨v, hv, _, hcredited, heur⟩ := hrec.valuation (hvalued rates hquotes)
  rw [hcurrency, Option.getD_some, hrec.toAmount (.inl (by rw [hkind]; decide)), Option.getD_none] at hv
  obtain ⟨qi, _, qt, hqi, _, hqt, _, _, hpost, hvalue⟩ := calculateValuation_rates hv
  have hwithin : p.amount.roundPosted.Within 2 := Decimal.within_roundPosted _
  rw [Decimal.roundPosted_of_within hwithin] at hpost
  rw [hpost] at hcredited
  refine ⟨qi, qt, t, _, _, hqi, hqt, by rw [hrec.transactions, AList.lookup_insert], hcredited, heur,
    ?_, ?_⟩
  · have hne : e.fromAccount.id ≠ e.toAccount.id := by
      intro he
      obtain rfl : source = account :=
        Option.some.inj (hrec.fromAccount.symm.trans (he ▸ hrec.toAccount))
      rw [hsystem] at hreal
      cases hreal
    have hnet : netEffect e.toAccount.id t = p.amount.roundPosted := by
      rw [netEffect, hrec.toAccountId, hrec.fromAccountId, if_pos rfl,
        if_neg fun heq => hne (Option.some.inj heq), hcredited, Option.getD_some, sub_zero]
    rw [entry_balance h hsound hentry hrec (by simp [Database.isActiveRealAccount, ha, hreal, hactive]),
      hnet]
  · refine and_congr ?_ ?_
    · refine exists_congr fun surcharge => and_congr_right fun _ => ?_
      rw [negligible_iff, Decimal.cents_toRat hwithin]
      ring_nf
    · exact exists_congr fun surcharge => and_congr_right fun _ => hvalue.same_iff.symm

/-- 100 USD of income on the EUR account. -/
def earnDollars : Call := callOn october 3 (.create
  { earn 12 7 ⟨october, 3⟩ 100 none with currency := some .usd, toCategoryId := some 1 })

theorem income_converted_iff_dollars :
    (∃ rates, QuotesOf abroad earnDollars rates) ∧ ∀ rates, QuotesOf abroad earnDollars rates →
      ∃ inputQuote accountQuote t credited eur,
        selectPriorRate .usd ⟨october, 3⟩ rates = .ok inputQuote ∧
        selectPriorRate .eur ⟨october, 3⟩ rates = .ok accountQuote ∧
        (step abroad earnDollars).transactions.lookup 7 = some t ∧
        t.toNative = some credited ∧ t.toEur = some eur ∧
        balanceOf (step abroad earnDollars) 1 = balanceOf abroad 1 - storedEffect abroad 1 7 + credited ∧
        (ConvertedNative (Decimal.roundPosted 100) .usd inputQuote accountQuote credited ∧
            ConvertedEur (Decimal.roundPosted 100) .usd inputQuote eur ↔
          QuotesAgree (Decimal.roundPosted 100) .usd inputQuote accountQuote) := by
  obtain ⟨response, h⟩ := @exists_ok_of_step abroad earnDollars (by decide +kernel)
  exact @income_converted_iff _ _ _ _ _ _ _ ⟨⟨.other 1, 0⟩, some .eur, true, true, some 1000, 0⟩ _
    abroad_reachable.quoted (by decide) (by decide) h rfl (by decide) rfl rfl (by decide) rfl

/-- The account is credited 100 EUR for 100 USD, and the income is valued at 100 EUR; converted it is
80 EUR, or 81.60 EUR with the surcharge. -/
theorem income_not_converted :
    Reachable ⟨october, 1⟩ abroad ∧ (handle abroad earnDollars).isOk = true ∧
      (((step abroad earnDollars).transactions.lookup 7).bind (·.toNative) = some 100) ∧
      (((step abroad earnDollars).transactions.lookup 7).bind (·.toEur) = some 100) ∧
      balanceOf (step abroad earnDollars) 1 = 1100 ∧
      ¬ ConvertedNative 100 .usd (.normalized 125 2) 1 100 ∧
      ¬ ConvertedEur 100 .usd (.normalized 125 2) 100 := by
  have hamount : (100 : Decimal).toRat = 100 := (Decimal.toRat_ofNat 98).trans (by norm_num)
  have hcents : (100 : Decimal).cents = 10000 := by decide
  have hsurcharge : ∀ s ∈ [1, sourceAdjustment .usd], s.toRat ≤ 102 / 100 := by
    intro s hs
    rcases List.mem_pair.1 hs with rfl | rfl
    · norm_num
    · rw [sourceAdjustment, if_neg (by decide), sourceFxAdjustment, Decimal.toRat_normalized]
      norm_num
  refine ⟨abroad_reachable, by decide +kernel, by decide +kernel, by decide +kernel, by decide +kernel,
    ?_, ?_⟩
  · rintro ⟨s, hs, hround⟩
    have hlow := hround.between.1
    rw [hamount, Decimal.toRat_one, hcents, Decimal.toRat_normalized] at hlow
    have := hsurcharge s hs
    norm_num at hlow
    linarith
  · rintro ⟨s, hs, hround⟩
    have hlow := hround.between.1
    rw [hamount, hcents, Decimal.toRat_normalized] at hlow
    have := hsurcharge s hs
    norm_num at hlow
    linarith

end Server
