import Presto.BudgetLedger

/-!
# Creating, editing and deleting transactions (`server.rs`)

| source (`server.rs`)                          | model                    |
|-----------------------------------------------|--------------------------|
| `normalize_db_transaction_write` (`:4669`)    | `normalize`              |
| account and category resolution (`:3171`, `:3758`) | `resolveWrite`      |
| `create_db_transaction` (`:3097`)             | `createTransaction`      |
| `edit_db_transaction` (`:3583`)               | `editTransaction`        |
| `delete_db_transaction` (`:4298`)             | `deleteTransaction`      |
| replay blocks (`:3135`, `:3660`, `:4369`)     | `once`                   |

Every handler runs in one `BEGIN IMMEDIATE` transaction: an error leaves the database as it was.
Requests carry parsed amounts, trimmed texts and well-formed identifiers; what does not parse is
refused before the database is opened. A date is a `Date`: no value of it stands for a text whose day has
a sign (`2027-01-+5`). `valid_date` accepts such a text, and the `GLOB` on `effective_date` refuses it
when the row is written.
-/

/-- The status codes the handlers answer with. -/
inductive Status
  | badRequest
  | unauthorized
  | forbidden
  | notFound
  | conflict
  | internal
  | badGateway
  | serviceUnavailable
deriving DecidableEq

structure ApiError where
  status : Status
  message : String
deriving DecidableEq

namespace ApiError

def badRequest (message : String) : ApiError := ⟨.badRequest, message⟩
def unauthorized (message : String) : ApiError := ⟨.unauthorized, message⟩
def forbidden (message : String) : ApiError := ⟨.forbidden, message⟩
def notFound (message : String) : ApiError := ⟨.notFound, message⟩
def conflict (message : String) : ApiError := ⟨.conflict, message⟩
def upstream (message : String) : ApiError := ⟨.badGateway, message⟩
def unavailable (message : String) : ApiError := ⟨.serviceUnavailable, message⟩

/-- `ApiError::internal` hides the cause. -/
def internal (_ : String) : ApiError := ⟨.internal, "The server could not complete this request."⟩

end ApiError

/-- What a request reads from outside the database: the Madrid date, the instant, and whether a
supplied timestamp is close enough to them (`resolve_transaction_timestamp`, `server.rs:4634`). -/
structure Clock where
  today : Date
  now : Timestamp
  accepts : Date → Timestamp → Bool

namespace Server

open Budget BudgetLedger

/-! ## Normalisation -/

/-- `round_positive`: posted amounts are positive cents. -/
def roundPositive (value : Decimal) (field : String) : Except ApiError Decimal :=
  let rounded := value.roundPosted
  if rounded = 0 ∨ rounded.isNegative then
    .error (.badRequest (field ++ " must be greater than zero."))
  else .ok rounded

/-- `normalize_db_transaction_write`. -/
def normalize (payload : WriteRequest) : Except ApiError WriteRequest := do
  Except.ensure (¬ (payload.dateOnly ∧ payload.occurredAt.isSome))
    (ApiError.badRequest "Use a full UTC timestamp, or a date-only transaction.")
  Except.ensure (payload.date.Valid ∧ payload.description.length ≠ 0 ∧
      payload.description.length ≤ 500)
    (ApiError.badRequest "A valid date and a description of at most 500 characters are required.")
  Except.ensure (payload.kind ≠ .reconciliation) (ApiError.badRequest "Unsupported transaction kind.")
  let amount ← roundPositive payload.amount "amount"
  let toAmount ← (match payload.toAmount with
    | none => .ok none
    | some a => (roundPositive a "toAmount").map some)
  Except.ensure (payload.incomeTreatment ≠ some .legacy ∧
      (payload.expectedIncomeMonth.all fun m => 21 ≤ m.index) ∧
      (payload.kind = .income ∨
        payload.incomeTreatment = none ∧ payload.expectedIncomeMonth = none))
    (ApiError.badRequest "Choose valid income treatment and expected-income month.")
  let toCategoryId := if payload.kind = .income ∧ payload.toCategoryId = none ∧
      payload.incomeTreatment ≠ some .refund then some UNALLOCATED else payload.toCategoryId
  Except.ensure (¬ (payload.kind = .expense ∧ payload.fromCategoryId = some UNALLOCATED ∨
      payload.incomeTreatment = some .refund ∧ toCategoryId = some UNALLOCATED))
    (ApiError.badRequest "Allocate Unallocated funds to a spending category first; refunds restore a spending category.")
  return { payload with amount := amount, toAmount := toAmount, toCategoryId := toCategoryId }

/-! ## Accounts and categories of a write -/

/-- `DbWriteAccount`. -/
structure WriteAccount where
  id : AccountId
  currency : Currency
  isReal : Bool
  isActive : Bool
deriving DecidableEq

def writeAccount (id : AccountId) (a : Account) : WriteAccount :=
  ⟨id, a.currency.getD .eur, a.isReal, a.isActive⟩

def requiredId {α : Type} (value : Option α) (field : String) : Except ApiError α :=
  Except.fromOption value (.badRequest (field ++ " is required."))

/-- `load_db_account`. -/
def loadAccount (db : Database) (id : AccountId) : Except ApiError WriteAccount :=
  match db.accounts.lookup id with
  | some a => .ok (writeAccount id a)
  | none => .error (.badRequest "An account was not found.")

/-- `load_system_db_account`: the one account of that name, which must not be real. -/
def loadSystemAccount (db : Database) (name : FoldedName) : Except ApiError WriteAccount :=
  match db.accounts.entries.filter fun e => e.2.sourceName.folded = name with
  | [e] =>
    if e.2.isReal then
      .error (.conflict "A required system account is configured as a real account.")
    else .ok (writeAccount e.1 e.2)
  | _ => .error (.conflict "A required system account is missing or ambiguous.")

/-- `load_system_db_category`. -/
def loadSystemCategory (db : Database) (name : FoldedName) : Except ApiError CategoryId :=
  match db.categories.entries.filter fun e => e.2.name.folded = name with
  | [e] =>
    if e.2.isReal then
      .error (.conflict "A required system category is configured as a real category.")
    else .ok e.1
  | _ => .error (.conflict "A required system category is missing or ambiguous.")

/-- An account that a user may post to. -/
def loadUserAccount (db : Database) (id : AccountId) : Except ApiError WriteAccount := do
  let account ← loadAccount db id
  Except.ensure (account.isReal ∧ account.isActive)
    (ApiError.badRequest "Transactions must use active real accounts with a supported currency.")
  return account

/-- A category that a user may post to. -/
def loadUserCategory (db : Database) (id : CategoryId) : Except ApiError CategoryId := do
  let category ← Except.fromOption (db.categories.lookup id)
    (ApiError.badRequest "A category was not found.")
  Except.ensure category.isReal (ApiError.badRequest "Transactions must use real budget categories.")
  return id

/-- Both sides of a transaction. -/
structure Endpoints where
  fromAccount : WriteAccount
  toAccount : WriteAccount
  fromCategory : CategoryId
  toCategory : CategoryId
deriving DecidableEq

/-- Which sides the user chooses and which the system fills in, by kind. -/
def resolveEndpoints (db : Database) (w : WriteRequest) : Except ApiError Endpoints :=
  match w.kind with
  | .expense => do
    Except.ensure (w.toAccountId = none ∧ w.toCategoryId = none ∧ w.toAmount = none)
      (ApiError.badRequest "Expense transactions accept only a from account and category.")
    let accountId ← requiredId w.fromAccountId "fromAccountId"
    let categoryId ← requiredId w.fromCategoryId "fromCategoryId"
    let account ← loadUserAccount db accountId
    let category ← loadUserCategory db categoryId
    let systemAccount ← loadSystemAccount db .expense
    let systemCategory ← loadSystemCategory db .expense
    return ⟨account, systemAccount, category, systemCategory⟩
  | .income => do
    Except.ensure (w.fromAccountId = none ∧ w.fromCategoryId = none ∧ w.toAmount = none)
      (ApiError.badRequest "Income transactions accept only a to account and category.")
    let accountId ← requiredId w.toAccountId "toAccountId"
    let categoryId ← requiredId w.toCategoryId "toCategoryId"
    let account ← loadUserAccount db accountId
    let category ← loadUserCategory db categoryId
    let systemAccount ← loadSystemAccount db .income
    let systemCategory ← loadSystemCategory db .income
    return ⟨systemAccount, account, systemCategory, category⟩
  | .transfer => do
    Except.ensure (w.fromCategoryId = none ∧ w.toCategoryId = none)
      (ApiError.badRequest "Transfer categories are assigned automatically.")
    let fromId ← requiredId w.fromAccountId "fromAccountId"
    let toId ← requiredId w.toAccountId "toAccountId"
    Except.ensure (fromId ≠ toId) (ApiError.badRequest "Transfer accounts must differ.")
    let fromAccount ← loadUserAccount db fromId
    let toAccount ← loadUserAccount db toId
    let systemCategory ← loadSystemCategory db .balanceTransfer
    return ⟨fromAccount, toAccount, systemCategory, systemCategory⟩
  | .reallocate => do
    Except.ensure (w.fromAccountId = none ∧ w.toAccountId = none ∧ w.currency = none ∧
        w.toAmount = none)
      (ApiError.badRequest "Reallocations accept only two categories and a EUR amount.")
    let fromId ← requiredId w.fromCategoryId "fromCategoryId"
    let toId ← requiredId w.toCategoryId "toCategoryId"
    Except.ensure (fromId ≠ toId) (ApiError.badRequest "Reallocation categories must differ.")
    let fromCategory ← loadUserCategory db fromId
    let toCategory ← loadUserCategory db toId
    let systemAccount ← loadSystemAccount db .reallocation
    return ⟨systemAccount, systemAccount, fromCategory, toCategory⟩
  | .reconciliation => .error (.badRequest "Unsupported transaction kind.")

/-- The currency a write is entered in when it names none. -/
def defaultInputCurrency (kind : TransactionKind) (fromCurrency toCurrency : Currency) : Currency :=
  match kind with
  | .income => toCurrency
  | .reallocate => .eur
  | _ => fromCurrency

structure ResolvedWrite where
  endpoints : Endpoints
  inputCurrency : Currency
  valuationToAmount : Decimal
deriving DecidableEq

/-- Endpoints, input currency and destination amount of a write. -/
def resolveWrite (db : Database) (w : WriteRequest) : Except ApiError ResolvedWrite := do
  let e ← resolveEndpoints db w
  let inputCurrency := w.currency.getD
    (defaultInputCurrency w.kind e.fromAccount.currency e.toAccount.currency)
  Except.ensure (¬ (w.kind = .reallocate ∧ inputCurrency ≠ .eur))
    (ApiError.badRequest "Reallocation amounts use EUR.")
  let cross := decide (w.kind = .transfer ∧ e.fromAccount.currency ≠ e.toAccount.currency)
  Except.ensure (¬ (w.kind = .transfer ∧ cross ≠ w.toAmount.isSome))
    (ApiError.badRequest (if cross then "Cross-currency transfers require toAmount."
      else "Same-currency transfers must not include toAmount."))
  return ⟨e, inputCurrency, w.toAmount.getD w.amount⟩

/-- The valuation of a resolved write with the rates of its date. -/
def valueWrite (db : Database) (w : WriteRequest) (r : ResolvedWrite) :
    Except ApiError TransactionValuation :=
  (calculateValuation w.amount r.inputCurrency r.endpoints.fromAccount.currency r.valuationToAmount
    r.endpoints.toAccount.currency w.date db.exchangeRates postingRoundingMode).mapError .conflict

/-- `resolve_transaction_timestamp`. -/
def resolveTimestamp (clock : Clock) (date : Date) (supplied : Option Timestamp) (dateOnly : Bool) :
    Except ApiError (Option Timestamp) :=
  if dateOnly then .ok none
  else match supplied with
    | some t =>
      if clock.accepts date t then .ok (some t)
      else .error (.badRequest "The transaction timestamp must match its posting date and cannot be in the future.")
    | none => .ok (if date = clock.today then some clock.now else none)

/-- `validate_db_correction`: an account correction refers to a transaction that is out of reach. -/
def validateCorrection (db : Database) (today : Date) (w : WriteRequest) : Except ApiError Unit :=
  match w.correctsTransactionId with
  | none => .ok ()
  | some original => do
    Except.ensure (original ≠ w.transactionId ∧ (w.kind = .expense ∨ w.kind = .income) ∧
        w.date.month = today.month)
      (ApiError.badRequest "Record account corrections as expenses or income in the current open month.")
    let t ← Except.fromOption (db.transactions.lookup original)
      (ApiError.notFound "Original transaction not found.")
    Except.ensure (db.isClosed t.month ∨ (firstMonth db).any (t.month < ·))
      (ApiError.conflict "Edit the original transaction while its month is open.")

/-! ## Posting to accounts -/

/-- Add a delta to the stored balance of a real active account; other accounts keep no balance. -/
def postDelta (today : Date) (acc : Database × List AccountUpdate) (e : AccountId × Decimal) :
    Except ApiError (Database × List AccountUpdate) := do
  let account ← Except.fromOption (acc.1.accounts.lookup e.1)
    (ApiError.badRequest "An account was not found.")
  if ¬ (account.isReal ∧ account.isActive) then return acc
  else
    let balance ← Except.fromOption account.currentNativeBalance
      (ApiError.conflict "A touched account has no canonical native balance.")
    let newBalance := balance + e.2
    -- the EUR value is a cache, but its rate must exist
    let _ ← (accountBalanceEur newBalance (account.currency.getD .eur) today
      acc.1.exchangeRates).mapError ApiError.conflict
    let row := { account with
      currentNativeBalance := some newBalance, ledgerRevision := account.ledgerRevision + 1 }
    return ({ acc.1 with accounts := acc.1.accounts.insert e.1 row },
      acc.2 ++ [⟨e.1, newBalance, row.ledgerRevision⟩])

/-- Post several deltas; returns the account updates of the response. -/
def postDeltas (db : Database) (today : Date) (deltas : List (AccountId × Decimal)) :
    Except ApiError (Database × List AccountUpdate) :=
  deltas.foldlM (postDelta today) (db, [])

/-- The deltas as a list; `difference_maps` and the deletion loop leave zeros out. -/
def deltaList (deltas : Table AccountId Decimal) : List (AccountId × Decimal) :=
  deltas.entries.map fun e => (e.1, e.2)

/-! ## Replay -/

/-- An operation id is used once. A second request with it is answered from the recorded response
when actor, payload and `accepts` agree, and refused otherwise. -/
def once (db : Database) (id : OperationId) (actor : Subject) (fingerprint : Fingerprint)
    (accepts : Response → Bool) (body : Except ApiError (Database × Response)) :
    Except ApiError (Database × Response) :=
  match db.operations.lookup id with
  | some row =>
    if row.actorSubject = actor ∧ row.fingerprint = fingerprint ∧ accepts row.response then
      .ok (db, row.response)
    else .error (.conflict "operationId was already used for a different finance operation.")
  | none => do
    let (db', response) ← body
    return (db'.recordOperation id actor fingerprint response, response)

/-- `EXISTS (SELECT 1 FROM finance_transaction_revisions r WHERE r.operation_id = ?)`. -/
def hasRevision (db : Database) (id : OperationId) : Bool :=
  db.revisions.any fun r => r.operationId = some id

/-- The transaction that an operation revised, from the left join of the edit replay. -/
def revisedTransaction (db : Database) (id : OperationId) : Option TransactionId :=
  (db.revisions.find? fun r => r.operationId = some id).map (·.transactionId)

/-! ## Create -/

/-- The stored sides of a computed valuation. -/
def storedValuation (revision : Nat) (v : TransactionValuation) : ValuationRevision :=
  ⟨revision, ⟨some v.fromSide.amountNative, some v.fromSide.amountEur⟩,
    ⟨some v.toSide.amountNative, some v.toSide.amountEur⟩⟩

/-- The columns a write sets. -/
def writtenTransaction (w : WriteRequest) (r : ResolvedWrite) (occurredAt : Option Timestamp)
    (revision : Nat) (valuations : List ValuationRevision) : Transaction where
  kind := w.kind
  effectiveDate := w.date
  occurredAt := occurredAt
  amountDecimal := w.amount
  inputCurrency := some r.inputCurrency
  toAmountDecimal := if w.kind = .transfer then w.toAmount else none
  fromCategoryId := some r.endpoints.fromCategory
  toCategoryId := some r.endpoints.toCategory
  fromAccountId := some r.endpoints.fromAccount.id
  toAccountId := some r.endpoints.toAccount.id
  revision := revision
  canonicalLive := true
  valuations := valuations

/-- `account_deltas` of a valued write. -/
def writeDeltas (r : ResolvedWrite) (v : TransactionValuation) : Table AccountId Decimal :=
  accountDeltas r.endpoints.fromAccount.id r.endpoints.toAccount.id v.fromSide.amountNative
    v.toSide.amountNative

/-- The common end of create and edit: receipt, sync, and the categories of the month. -/
def settleWrite (db : Database) (today : Date) (w : WriteRequest) :
    Except ApiError (Database × List BudgetCategorySnapshot) := do
  let db ← (receipt db w.transactionId w.incomeTreatment w.expectedIncomeMonth).mapError
    ApiError.badRequest
  let db ← (sync db today (some w.operationId)).mapError ApiError.internal
  let categories ← (categories db today w.date.month).mapError ApiError.internal
  return (db, categories)

def createBody (db : Database) (clock : Clock) (w : WriteRequest) :
    Except ApiError (Database × Response) := do
  let resolved ← resolveWrite db w
  let valuation ← valueWrite db w resolved
  (requireOpen db clock.today w.date.month).mapError ApiError.conflict
  Except.ensure ((db.transactions.lookup w.transactionId).isNone)
    (ApiError.conflict "transactionId already exists.")
  let occurredAt ← resolveTimestamp clock w.date w.occurredAt w.dateOnly
  validateCorrection db clock.today w
  let row := writtenTransaction w resolved occurredAt 1 [storedValuation 1 valuation]
  let db := { db with
    transactions := db.transactions.insert w.transactionId row
    revisions := ⟨w.transactionId, 1, some w.operationId⟩ :: db.revisions }
  let (db, accounts) ← postDeltas db clock.today (deltaList (writeDeltas resolved valuation))
  let (db, categories) ← settleWrite db clock.today w
  return (db, .created w.operationId w.transactionId w.kind w.date.month accounts categories)

/-- `create_db_transaction`. -/
def createTransaction (db : Database) (clock : Clock) (actor : Subject) (payload : WriteRequest) :
    Except ApiError (Database × Response) := do
  let w ← normalize payload
  let db ← (initializeOpenings db).mapError ApiError.internal
  once db w.operationId actor (.create w) (fun _ => hasRevision db w.operationId)
    (createBody db clock w)

/-! ## Edit -/

/-- The expected revisions a client may send: at most 100, each account once. -/
def validExpectedRevisions (revisions : List (AccountId × Nat)) : Bool :=
  decide (revisions.length ≤ 100) && decide (revisions.map Prod.fst).Nodup

/-- The client must know the current revision of exactly the real accounts involved. -/
def checkRevisions (db : Database) (involved : List AccountId) (expected : List (AccountId × Nat))
    (missing stale : String) : Except ApiError Unit := do
  Except.ensure ((∀ e ∈ expected, e.1 ∈ involved) ∧ ∀ id ∈ involved, ∃ e ∈ expected, e.1 = id)
    (ApiError.badRequest missing)
  Except.ensure (∀ id ∈ involved, ∀ e ∈ expected, e.1 = id →
      (db.accounts.lookup id).map (·.ledgerRevision) = some e.2)
    (ApiError.conflict stale)

/-- `load_stored_side_valuation` for both sides. -/
def loadStoredAmounts (side : Option SideAmounts) : Except ApiError (Decimal × Decimal) := do
  let side ← Except.fromOption side
    (ApiError.conflict "The transaction has no saved valuation to revise.")
  let native ← Except.fromOption side.amountNative
    (ApiError.conflict "The saved transaction valuation is incomplete.")
  let eur ← Except.fromOption side.amountEur
    (ApiError.conflict "The saved transaction valuation is incomplete.")
  return (native, eur)

/-- Whether the stored valuation still applies (`server.rs:4004`). -/
def inputsUnchanged (old : Transaction) (oldFrom oldTo : WriteAccount) (w : WriteRequest)
    (r : ResolvedWrite) : Bool :=
  let oldInput := old.inputCurrency.getD
    (defaultInputCurrency old.kind oldFrom.currency oldTo.currency)
  let oldToAmount := if old.kind = .transfer then old.toAmountDecimal.getD old.amountDecimal
    else old.amountDecimal
  decide (old.amountDecimal = w.amount) && decide (old.effectiveDate = w.date) &&
  decide (oldInput = r.inputCurrency) &&
  decide (oldFrom.currency = r.endpoints.fromAccount.currency) &&
  decide (oldTo.currency = r.endpoints.toAccount.currency) &&
  decide (oldToAmount = r.valuationToAmount)

/-- The row to edit or delete, recorded by the server and at the expected revision. -/
def loadEditable (db : Database) (id : TransactionId) (expectedRevision : Nat)
    (missing imported stale unsupported : String) : Except ApiError Transaction := do
  let old ← Except.fromOption (db.transactions.lookup id) (ApiError.notFound missing)
  Except.ensure old.canonicalLive (ApiError.conflict imported)
  Except.ensure (old.revision = expectedRevision) (ApiError.conflict stale)
  Except.ensure (old.kind ≠ .reconciliation) (ApiError.conflict unsupported)
  return old

/-- The stored endpoints of a transaction. -/
structure StoredEndpoints where
  fromAccount : WriteAccount
  toAccount : WriteAccount
  fromCategory : CategoryId
  toCategory : CategoryId
  fromNative : Decimal
  toNative : Decimal
deriving DecidableEq

def loadStored (db : Database) (old : Transaction) : Except ApiError StoredEndpoints := do
  let fromAccountId ← Except.fromOption old.fromAccountId (ApiError.internal "unexpected null")
  let toAccountId ← Except.fromOption old.toAccountId (ApiError.internal "unexpected null")
  let fromCategory ← Except.fromOption old.fromCategoryId (ApiError.internal "unexpected null")
  let toCategory ← Except.fromOption old.toCategoryId (ApiError.internal "unexpected null")
  let fromAccount ← loadAccount db fromAccountId
  let toAccount ← loadAccount db toAccountId
  let fromSide ← loadStoredAmounts (old.latest.map (·.fromSide))
  let toSide ← loadStoredAmounts (old.latest.map (·.toSide))
  return ⟨fromAccount, toAccount, fromCategory, toCategory, fromSide.1, toSide.1⟩

/-- The real accounts among some. -/
def realAccounts (accounts : List WriteAccount) : List AccountId :=
  (accounts.filter (·.isReal)).map (·.id)

/-- The valuations of an edited row: the stored ones, or a new revision in front of them. -/
def editValuation (db : Database) (old : Transaction) (w : WriteRequest) (r : ResolvedWrite)
    (unchanged : Bool) (stored : StoredEndpoints) :
    Except ApiError (List ValuationRevision × Decimal × Decimal) :=
  if unchanged then .ok (old.valuations, stored.fromNative, stored.toNative)
  else do
    let v ← valueWrite db w r
    return (storedValuation (old.revision + 1) v :: old.valuations,
      v.fromSide.amountNative, v.toSide.amountNative)

def editBody (db : Database) (clock : Clock) (payload : EditRequest) :
    Except ApiError (Database × Response) := do
  let w := payload.transaction
  let old ← loadEditable db w.transactionId payload.expectedRevision
    "The transaction to edit was not found."
    "Imported source transactions are not editable through this route."
    "The transaction changed after it was loaded. Refresh and retry the edit."
    "This transaction kind cannot be edited."
  Except.ensure (old.month = w.date.month)
    (ApiError.conflict "An edit must stay in its original month.")
  (requireOpen db clock.today old.month).mapError ApiError.conflict
  Except.ensure (¬ db.corrections.entries.any fun e => e.2.originalTransactionId = w.transactionId)
    (ApiError.conflict "A transaction with a recorded category correction cannot be edited.")
  let resolved ← resolveWrite db w
  let stored ← loadStored db old
  let unchanged := inputsUnchanged old stored.fromAccount stored.toAccount w resolved
  let (valuations, fromNative, toNative) ← editValuation db old w resolved unchanged stored
  let deltas := differenceMaps
    (accountDeltas resolved.endpoints.fromAccount.id resolved.endpoints.toAccount.id fromNative
      toNative)
    (accountDeltas stored.fromAccount.id stored.toAccount.id stored.fromNative stored.toNative)
  checkRevisions db (realAccounts [stored.fromAccount, stored.toAccount,
      resolved.endpoints.fromAccount, resolved.endpoints.toAccount])
    payload.expectedAccountRevisions
    "Provide the current ledger revision for every real account affected by this edit."
    "An account changed after it was loaded. Refresh and retry the edit."
  let occurredAt ← (if ¬ w.dateOnly ∧ w.occurredAt = none ∧ old.effectiveDate = w.date
    then .ok old.occurredAt
    else resolveTimestamp clock w.date w.occurredAt w.dateOnly)
  validateCorrection db clock.today w
  let row := writtenTransaction w resolved occurredAt (old.revision + 1) valuations
  let db := { db with transactions := db.transactions.insert w.transactionId row }
  let (db, accounts) ← postDeltas db clock.today (deltaList deltas)
  let (db, categories) ← settleWrite db clock.today w
  let revision : TransactionRevision := ⟨w.transactionId, old.revision + 1, some w.operationId⟩
  return ({ db with revisions := revision :: db.revisions },
    .updated w.operationId w.transactionId (old.revision + 1) accounts categories)

/-- `sort_by(|left, right| left.account_id.cmp(&right.account_id))`. -/
def sortedRevisions (revisions : List (AccountId × Nat)) : List (AccountId × Nat) :=
  revisions.insertionSort fun left right => left.1 ≤ right.1

/-- The payload that is fingerprinted and carried out. -/
def normalizedEdit (payload : EditRequest) (w : WriteRequest) : EditRequest :=
  { payload with
    transaction := w
    expectedAccountRevisions := sortedRevisions payload.expectedAccountRevisions }

/-- `edit_db_transaction`. -/
def editTransaction (db : Database) (clock : Clock) (actor : Subject) (payload : EditRequest) :
    Except ApiError (Database × Response) := do
  let w ← normalize payload.transaction
  Except.ensure (1 ≤ payload.expectedRevision)
    (ApiError.badRequest "operationId and transactionId must be UUIDv7 values and valid revisions are required.")
  Except.ensure (validExpectedRevisions payload.expectedAccountRevisions)
    (ApiError.badRequest "Expected account revisions must have unique account IDs and nonnegative values.")
  let payload := normalizedEdit payload w
  let db ← (initializeOpenings db).mapError ApiError.internal
  once db w.operationId actor (.edit payload)
    (fun _ => revisedTransaction db w.operationId = some w.transactionId)
    (editBody db clock payload)

/-! ## Delete -/

def deleteBody (db : Database) (clock : Clock) (payload : DeleteRequest) :
    Except ApiError (Database × Response) := do
  let old ← loadEditable db payload.transactionId payload.expectedRevision
    "The transaction to delete was not found."
    "Imported source transactions cannot be deleted through this route."
    "The transaction changed after it was loaded. Refresh and retry the deletion."
    "This transaction kind cannot be deleted."
  Except.ensure (¬ ((db.corrections.entries.any fun e =>
        e.2.originalTransactionId = payload.transactionId) ∨
      db.batches.entries.any fun e => e.2.items.any fun i => i.transactionId = payload.transactionId))
    (ApiError.conflict "This transaction is referenced by a reconciliation or category correction and cannot be deleted.")
  (requireOpen db clock.today old.month).mapError ApiError.conflict
  let stored ← loadStored db old
  checkRevisions db (realAccounts [stored.fromAccount, stored.toAccount])
    payload.expectedAccountRevisions
    "Provide the current ledger revision for every real account affected by this deletion."
    "An account changed after it was loaded. Refresh and retry the deletion."
  let deltas := accountDeltas stored.fromAccount.id stored.toAccount.id stored.fromNative
    stored.toNative
  let (db, accounts) ← postDeltas db clock.today
    (((deltaList deltas).filter fun e => e.2 ≠ 0).map fun e => (e.1, -e.2))
  -- the foreign keys cascade to revisions and valuations, but receipts have none
  let db := { db with
    transactions := db.transactions.erase payload.transactionId
    revisions := db.revisions.filter fun r => r.transactionId ≠ payload.transactionId }
  let db ← (sync db clock.today (some payload.operationId)).mapError ApiError.internal
  let categories ← (categories db clock.today old.month).mapError ApiError.internal
  return (db, .deleted payload.operationId accounts categories
    ⟨payload.transactionId, old.kind, old.effectiveDate, old.amountDecimal, old.inputCurrency,
      stored.fromCategory, stored.toCategory, stored.fromAccount.id, stored.toAccount.id,
      old.revision⟩)

/-- `response["deleted"] == true`. -/
def isDeletion : Response → Bool
  | .deleted .. => true
  | _ => false

/-- The payload that is fingerprinted and carried out. -/
def normalizedDelete (payload : DeleteRequest) : DeleteRequest :=
  { payload with
    expectedAccountRevisions := sortedRevisions payload.expectedAccountRevisions }

/-- `delete_db_transaction`. -/
def deleteTransaction (db : Database) (clock : Clock) (actor : Subject) (payload : DeleteRequest) :
    Except ApiError (Database × Response) := do
  Except.ensure (1 ≤ payload.expectedRevision)
    (ApiError.badRequest "operationId and transactionId must be UUIDv7 values and valid revisions are required.")
  Except.ensure (validExpectedRevisions payload.expectedAccountRevisions)
    (ApiError.badRequest "Expected account revisions must have unique account IDs and nonnegative values.")
  let payload := normalizedDelete payload
  let db ← (initializeOpenings db).mapError ApiError.internal
  once db payload.operationId actor (.delete payload) isDeletion (deleteBody db clock payload)

end Server
