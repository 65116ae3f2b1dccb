import Mathlib.Data.List.DropRight
import Mathlib.Data.List.MinMax
import Presto.Phone

/-!
# Entries on the phone (`core/Entry.kt`, `core/Models.kt`)

| source                                              | model                        |
|-----------------------------------------------------|------------------------------|
| `Account`, `Category` (`Models.kt:73`, `:87`)       | `Account`, `Category`        |
| `Transaction`, `Draft` (`Models.kt:100`, `:195`)    | `Transaction`, `Draft`       |
| `WritePayload` (`Models.kt:168`)                    | `WritePayload`               |
| `captureTimestamp` (`Models.kt:51`)                 | `captureTimestamp`           |
| `realAccountIds` (`Entry.kt:263`)                   | `realAccountIds`             |
| `writeEntry` (`Entry.kt:270`)                       | `writeEntry`                 |
| `suggestBalance` (`Entry.kt:231`)                   | `suggestBalance`             |
| `defaultDraft` (`Models.kt:227`)                    | `defaultDraft`               |
| `budgetOverlay` (`Entry.kt:426`)                    | `budgetOverlay`              |
| `OutboxRow` (`Storage.kt:23`)                       | `OutboxRow`                  |
| `repairBookkeepingRevisions` (`Diagnostics.kt:35`)  | `repairBookkeepingRevisions` |
| `rebuild` (`Repository.kt:143`)                     | `rebuild`                    |

`Presto.Phone` follows the queue between the phone and the server and leaves out what an entry is
made of; here are the entry, its overlay on the budgets and the balances that the phone shows.
Amounts are numbers: `BigDecimal` values that differ in their trailing zeros are one `Decimal`.
-/

namespace Entry

structure Account where
  id : AccountId
  name : String
  currency : Option Currency
  ledgerRevision : Nat
deriving DecidableEq

structure Category where
  categoryId : CategoryId
  name : String
  expenseEur : Option Decimal
  remainingEur : Option Decimal
deriving DecidableEq

structure Transaction where
  id : TransactionId
  kind : TransactionKind
  effectiveDate : Date
  description : String
  amount : Decimal
  inputCurrency : Option Currency
  occurredAt : Option Timestamp
  toAmount : Option Decimal
  toCurrency : Option Currency
  fromCategory : Option String
  toCategory : Option String
  fromCategoryId : Option CategoryId
  toCategoryId : Option CategoryId
  fromAccount : Option String
  toAccount : Option String
  fromAccountId : Option AccountId
  toAccountId : Option AccountId
  revision : Nat
  canEdit : Bool
  correctsTransactionId : Option TransactionId
  incomeTreatment : Option Treatment
  expectedIncomeMonth : Option Month
  pending : Bool
deriving DecidableEq

structure Snapshot where
  budgetMonth : Month
  transactionCount : Nat
  recentTransactions : List Transaction
  budgets : List Category
  accounts : List Account
deriving DecidableEq

structure AccountRevision where
  accountId : AccountId
  revision : Nat
deriving DecidableEq

structure WritePayload where
  operationId : OperationId
  transactionId : TransactionId
  kind : TransactionKind
  date : Date
  description : String
  amount : Decimal
  occurredAt : Option Timestamp
  dateOnly : Bool
  currency : Option Currency
  toAmount : Option Decimal
  fromCategoryId : Option CategoryId
  toCategoryId : Option CategoryId
  fromAccountId : Option AccountId
  toAccountId : Option AccountId
  incomeTreatment : Option Treatment
  expectedIncomeMonth : Option Month
  correctsTransactionId : Option TransactionId
  expectedRevision : Option Nat
  expectedAccountRevisions : Option (List AccountRevision)
deriving DecidableEq

/-- A form. `correctionOf` is empty when its text is blank. -/
structure Draft where
  kind : TransactionKind
  amount : String
  currency : Currency
  description : String
  date : String
  note : String
  toAmount : String
  categoryFrom : Option CategoryId
  categoryTo : Option CategoryId
  accountFrom : Option AccountId
  accountTo : Option AccountId
  correctionOf : Option TransactionId
  incomeTreatment : Treatment
  expectedIncomeMonth : String
  original : Option Transaction
  balancing : Bool
  queuedTransactionId : Option TransactionId
deriving DecidableEq

/-- What a phone brings along: its clock and fresh ids, and the readers of texts: amounts
(`parseMoney`, `Amounts.kt:59`, which rounds to two places), dates and months. -/
structure Device where
  today : Date
  now : Timestamp
  operationId : OperationId
  transactionId : TransactionId
  parseMoney : String → Option Decimal
  parseDate : String → Option Date
  parseMonth : String → Option Month
  money_within : ∀ text amount, parseMoney text = some amount → amount.Within 2
  date_valid : ∀ text date, parseDate text = some date → date.Valid

/-- `Char.isWhitespace`. -/
def isWhitespace (c : Char) : Bool :=
  (9 ≤ c.toNat && c.toNat ≤ 13) || (28 ≤ c.toNat && c.toNat ≤ 32) || c.toNat = 160 ||
  c.toNat = 5760 || (8192 ≤ c.toNat && c.toNat ≤ 8202) || c.toNat = 8232 || c.toNat = 8233 ||
  c.toNat = 8239 || c.toNat = 8287 || c.toNat = 12288

def isBlank (text : String) : Bool := text.toList.all isWhitespace

def trim (text : String) : String :=
  String.ofList ((text.toList.dropWhile isWhitespace).rdropWhile isWhitespace)

/-! ## Writing an entry -/

def realAccountIds (t : Transaction) : List AccountId :=
  match t.kind with
  | .expense => t.fromAccountId.toList
  | .income => t.toAccountId.toList
  | .transfer => (t.fromAccountId.toList ++ t.toAccountId.toList).eraseDups
  | _ => []

def captureTimestamp (device : Device) (date : Date) (original : Option Transaction) :
    Option Timestamp :=
  match original.filter fun t => t.effectiveDate = date with
  | some t => t.occurredAt
  | none => if date = device.today then some device.now else none

def currencyText : Option Currency → String
  | some .eur => "EUR"
  | some .php => "PHP"
  | some .usd => "USD"
  | none => "null"

/-- The endpoints that an entry of the kind needs. -/
def checkEndpoints (d : Draft) (date : Date) (amount : Decimal)
    (fromCategory toCategory : Option Category) (source target : Option Account) :
    Except String Unit :=
  match d.kind with
  | .expense =>
    Except.ensure (fromCategory.isSome ∧ source.isSome) "Choose a budget category and account."
  | .income =>
    Except.ensure (target.isSome ∧
        (toCategory.isSome ∨ d.incomeTreatment = .salary ∨ d.incomeTreatment = .unexpected))
      "Choose a budget category and account."
  | .transfer =>
    Except.ensure (source.isSome ∧ target.isSome ∧ source.map (·.id) ≠ target.map (·.id))
      "Choose two different accounts for a transfer."
  | .reallocate => do
    Except.ensure (fromCategory.isSome ∧ toCategory.isSome ∧
        fromCategory.map (·.categoryId) ≠ toCategory.map (·.categoryId))
      "Choose two different budget categories."
    Except.ensure (date.day = date.month.lastDay) "Budget moves must be dated on month-end."
    let donor := (fromCategory.bind (·.remainingEur)).getD 0
    let receiver := (toCategory.bind (·.remainingEur)).getD 0
    Except.ensure (d.balancing = false ∨ 0 < donor ∧ receiver < 0)
      "Choose a positive donor and negative category."
    Except.ensure (d.balancing = false ∨ amount ≤ donor)
      "The donor does not have enough budget left."
  | .reconciliation => .error "Unsupported transaction type."

def accountRevision (accounts : List Account) (id : AccountId) : Except String AccountRevision :=
  match accounts.find? fun a => a.id = id with
  | some a => .ok ⟨id, a.ledgerRevision⟩
  | none => .error "An affected account is unavailable. Refresh before editing."

/-- The revisions that an edit expects: of the real accounts it takes money off and puts it on. -/
def expectedRevisions (original : Option Transaction) (fromAccountId toAccountId : Option AccountId)
    (accounts : List Account) : Except String (Option (List AccountRevision)) :=
  match original with
  | some t => ((realAccountIds t ++ (fromAccountId.toList ++ toAccountId.toList)).eraseDups.mapM
      (accountRevision accounts)).map some
  | none => .ok none

def writeEntry (device : Device) (d : Draft) (snapshot : Snapshot) :
    Except String (WritePayload × Transaction) := do
  let amount ← Except.fromOption ((device.parseMoney d.amount).filter (0 < ·))
    "Enter a positive amount with at most two decimal places."
  Except.ensure (isBlank d.description = false)
    "Add a description. Categories are selected separately."
  let description := "\n".intercalate ([trim d.description, trim d.note].filter (· ≠ ""))
  Except.ensure (description.length ≤ 500) "Keep the description and note within 500 characters."
  let date ← Except.fromOption (device.parseDate d.date) "Choose a valid date."
  let fromCategory := snapshot.budgets.find? fun c => some c.categoryId = d.categoryFrom
  let unallocated := d.kind = .income ∧
    (d.incomeTreatment = .salary ∨ d.incomeTreatment = .unexpected)
  let toCategory := if unallocated then snapshot.budgets.find? fun c => c.categoryId = UNALLOCATED
    else snapshot.budgets.find? fun c => some c.categoryId = d.categoryTo
  let source := snapshot.accounts.find? fun a => some a.id = d.accountFrom
  let target := snapshot.accounts.find? fun a => some a.id = d.accountTo
  checkEndpoints d date amount fromCategory toCategory source target
  let crossCurrency := d.kind = .transfer ∧
    source.bind (·.currency) ≠ target.bind (·.currency)
  let toAmount := if crossCurrency then device.parseMoney d.toAmount else none
  Except.ensure (¬ crossCurrency ∨ toAmount.any (0 < ·))
    ("Enter the amount received in " ++ currencyText (target.bind (·.currency)) ++ ".")
  Except.ensure (d.original.all fun t => t.canEdit && !t.pending && t.kind ≠ .reconciliation)
    "This transaction is read only or has a pending write."
  Except.ensure (d.correctionOf = none ∨
      ((d.kind = .expense ∨ d.kind = .income) ∧ date.month = device.today.month))
    "Corrections must be expense or income entries in the current month."
  let expectedMonth ← (if d.kind = .income ∧ d.incomeTreatment = .salary then
      if isBlank d.expectedIncomeMonth then .ok (some date.month)
      else (Except.fromOption (device.parseMonth d.expectedIncomeMonth)
        "Enter the expected salary month as YYYY-MM.").map some
    else .ok none)
  let id := ((d.original.map (·.id)).or d.queuedTransactionId).getD device.transactionId
  let captured := captureTimestamp device date d.original
  let fromAccountId := (source.map (·.id)).filter fun _ => d.kind = .expense ∨ d.kind = .transfer
  let toAccountId := (target.map (·.id)).filter fun _ => d.kind = .income ∨ d.kind = .transfer
  let fromCategoryId := (fromCategory.map (·.categoryId)).filter fun _ =>
    d.kind = .expense ∨ d.kind = .reallocate
  let toCategoryId := (toCategory.map (·.categoryId)).filter fun _ =>
    d.kind = .income ∨ d.kind = .reallocate
  let revisions ← expectedRevisions d.original fromAccountId toAccountId snapshot.accounts
  let payload : WritePayload := {
    operationId := device.operationId
    transactionId := id
    kind := d.kind
    date := date
    description := description
    amount := amount
    occurredAt := captured
    dateOnly := captured.isNone
    currency := if d.kind = .reallocate then none else some d.currency
    toAmount := toAmount
    fromCategoryId := fromCategoryId
    toCategoryId := toCategoryId
    fromAccountId := fromAccountId
    toAccountId := toAccountId
    incomeTreatment := if d.kind = .income ∧ d.incomeTreatment ≠ .legacy then
      some d.incomeTreatment else none
    expectedIncomeMonth := expectedMonth
    correctsTransactionId := d.correctionOf
    expectedRevision := d.original.map (·.revision)
    expectedAccountRevisions := revisions }
  return (payload, {
    id := id
    kind := d.kind
    effectiveDate := date
    description := description
    amount := amount
    inputCurrency := if d.kind = .reallocate then some .eur else some d.currency
    occurredAt := captured
    toAmount := toAmount
    toCurrency := target.bind (·.currency)
    fromCategory := if fromCategoryId.isSome then fromCategory.map (·.name) else none
    toCategory := if toCategoryId.isSome then toCategory.map (·.name) else none
    fromCategoryId := fromCategoryId
    toCategoryId := toCategoryId
    fromAccount := if fromAccountId.isSome then source.map (·.name) else none
    toAccount := if toAccountId.isSome then target.map (·.name) else none
    fromAccountId := fromAccountId
    toAccountId := toAccountId
    revision := (d.original.map (·.revision)).getD 1
    canEdit := true
    correctsTransactionId := d.correctionOf
    incomeTreatment := if d.kind = .income then some d.incomeTreatment else none
    expectedIncomeMonth := expectedMonth
    pending := true })

/-- The request that the server decodes from a payload. -/
def WritePayload.request (p : WritePayload) : WriteRequest where
  operationId := p.operationId
  transactionId := p.transactionId
  kind := p.kind
  date := p.date
  occurredAt := p.occurredAt
  dateOnly := p.dateOnly
  description := p.description
  amount := p.amount
  currency := p.currency
  toAmount := p.toAmount
  fromCategoryId := p.fromCategoryId
  toCategoryId := p.toCategoryId
  fromAccountId := p.fromAccountId
  toAccountId := p.toAccountId
  incomeTreatment := p.incomeTreatment
  correctsTransactionId := p.correctsTransactionId
  expectedIncomeMonth := p.expectedIncomeMonth

/-- The account revisions of a payload, as the server reads them. -/
def WritePayload.accountRevisions (p : WritePayload) : List (AccountId × Nat) :=
  (p.expectedAccountRevisions.getD []).map fun r => (r.accountId, r.revision)

/-! ## The queue -/

/-- A queued entry: what is sent, what is shown, and for an edit what was edited. -/
structure OutboxRow where
  id : OperationId
  payload : WritePayload
  optimistic : Transaction
  original : Option Transaction
  editing : Bool
  status : Phone.RowStatus
  error : Option String
  confirmedRevision : Option Nat
deriving DecidableEq

/-- `String.contains`. -/
def containsText (text part : String) : Bool := decide (part.toList <:+: text.toList)

/-- The error of a row names the rejected list of revisions. -/
def rejectedRevisions (error : String) : Bool :=
  containsText error "HTTP 400" && containsText error
    "Provide the current ledger revision for every real account affected by this edit."

def repairBookkeepingRevisions (row : OutboxRow) : Option OutboxRow :=
  if row.editing = false ∨ row.status ≠ .blocked ∨ row.error.any rejectedRevisions = false then
    none
  else
    match row.original, row.payload.expectedAccountRevisions with
    | some original, some before =>
      let needed := realAccountIds original ++ realAccountIds row.optimistic
      let after := before.filter fun r => r.accountId ∈ needed
      if after.length = before.length ∨ ¬ (∀ a ∈ needed, a ∈ after.map (·.accountId)) then none
      else some { row with
        payload := { row.payload with expectedAccountRevisions := some after }
        status := .pending
        error := none }
    | _, _ => none

/-! ## Balancing -/

/-- The ids `"income"` and `"expense"`. -/
def SYSTEM_CATEGORIES : List CategoryId := [1000001, 1000002]

def Category.system (c : Category) : Bool := SYSTEM_CATEGORIES.contains c.categoryId

/-- `remainingEur ?: ZERO`. -/
def Category.remaining (c : Category) : Decimal := c.remainingEur.getD 0

structure BalanceSuggestion where
  source : Option Category
  destination : Option Category
  amount : Decimal
deriving DecidableEq

/-- The last donor and the last recipient, while they qualify, else the largest of each kind. -/
def suggestBalance (categories : List Category) (donor recipient : Option CategoryId) :
    BalanceSuggestion :=
  let budgets := categories.filter fun c => !c.system
  let destination := (budgets.find? fun c => some c.categoryId = recipient ∧ c.remaining < 0).or
    ((budgets.filter fun c => c.remaining < 0).argmin Category.remaining)
  let other (c : Category) : Bool := some c.categoryId ≠ destination.map (·.categoryId)
  let source := (budgets.find? fun c =>
      some c.categoryId = donor ∧ other c = true ∧ 0 < c.remaining).or
    ((budgets.filter fun c => other c = true ∧ 0 < c.remaining).argmax Category.remaining)
  { source := source
    destination := destination
    amount := match source, destination with
      | some s, some d => min s.remaining (-d.remaining)
      | _, _ => 0 }

/-- An empty form. -/
def defaultDraft (snapshot : Snapshot) (today : String) : Draft :=
  let budgets := snapshot.budgets.filter fun c => !c.system
  { kind := .expense
    amount := ""
    currency := (snapshot.accounts.head?.bind (·.currency)).getD .eur
    description := ""
    date := today
    note := ""
    toAmount := ""
    categoryFrom := budgets.head?.map (·.categoryId)
    categoryTo := (budgets[1]?.or budgets.head?).map (·.categoryId)
    accountFrom := snapshot.accounts.head?.map (·.id)
    accountTo := (snapshot.accounts[1]?.or snapshot.accounts.head?).map (·.id)
    correctionOf := none
    incomeTreatment := .salary
    expectedIncomeMonth := ""
    original := none
    balancing := false
    queuedTransactionId := none }

/-- The first suggestion as the budget screen puts it into the form (`Ui.kt:304`): the texts are today's
date, the plain string of the amount and the end of the month before. -/
def balancingDraft (snapshot : Snapshot) (today amount previousMonthEnd : String)
    (suggestion : BalanceSuggestion) : Draft :=
  { defaultDraft snapshot today with
    kind := .reallocate
    amount := amount
    description := "Month-end budget balancing"
    date := previousMonthEnd
    currency := .eur
    categoryFrom := suggestion.source.map (·.categoryId)
    categoryTo := suggestion.destination.map (·.categoryId)
    balancing := true }

/-- The next suggestion in the form that was saved (`Repository.kt:552`). -/
def continueBalancing (d : Draft) (amount : String) (suggestion : BalanceSuggestion) : Draft :=
  { d with
    amount := amount
    categoryFrom := suggestion.source.map (·.categoryId)
    categoryTo := suggestion.destination.map (·.categoryId)
    original := none
    correctionOf := none }

/-! ## Balances -/

/-- What an entry moves in a category, by its amount. -/
def overlayDelta (t : Transaction) (amount : Decimal) (category : CategoryId) : Decimal :=
  match t.kind with
  | .expense => if t.fromCategoryId = some category then -amount else 0
  | .income =>
    if t.incomeTreatment ≠ some .salary ∧ t.incomeTreatment ≠ some .unexpected ∧
        t.toCategoryId = some category then amount else 0
  | .reallocate =>
    if t.fromCategoryId = some category then -amount
    else if t.toCategoryId = some category then amount else 0
  | _ => 0

/-- Entries in another currency, corrections and other months wait for the server. -/
def overlays (t : Transaction) (month : Month) : Bool :=
  t.inputCurrency = some .eur && t.correctsTransactionId = none && t.effectiveDate.month = month

def budgetOverlay (categories : List Category) (t : Transaction) (direction : Int) (month : Month) :
    List Category :=
  if overlays t month then
    categories.map fun c =>
      let delta := overlayDelta t (direction • t.amount) c.categoryId
      { c with
        remainingEur := c.remainingEur.map (· + delta)
        expenseEur := if t.kind = .expense then c.expenseEur.map (· - delta) else c.expenseEur }
  else categories

/-- `associateBy { it.id }`: of two with one id the later one. -/
def associateById (ts : List Transaction) : Table TransactionId Transaction :=
  ts.foldl (fun rows t => rows.insert t.id t) ∅

/-- The entry that the cached balances count where `op` stands now, as far as the phone can tell. -/
def previousOf (base : Snapshot) (confirmed : Option Transaction) (op : OutboxRow) :
    Option Transaction :=
  confirmed.or (op.original.filter fun _ =>
    base.recentTransactions.length < base.transactionCount)

/-- The overlay of an entry in the place of another. -/
def overlayOver (previous : Option Transaction) (t : Transaction) (month : Month)
    (categories : List Category) : List Category :=
  match previous with
  | some p => budgetOverlay (budgetOverlay categories p (-1) month) t 1 month
  | none => budgetOverlay categories t 1 month

/-- One turn of the loop of `rebuild`. -/
def overlayRow (base : Snapshot) (acc : List Category × Table TransactionId Transaction)
    (op : OutboxRow) : List Category × Table TransactionId Transaction :=
  let t := op.optimistic
  let confirmed := acc.2.lookup t.id
  if op.status = .acknowledged ∧
      confirmed.any fun c => op.confirmedRevision.getD 1 ≤ c.revision then acc
  else
    (overlayOver (previousOf base confirmed op) t base.budgetMonth acc.1,
      acc.2.insert t.id { t with pending := op.status ≠ .acknowledged })

/-- `occurredAt ?: ""`: an entry without a timestamp comes before all others. -/
def timestampKey (t : Transaction) : Nat := (t.occurredAt.map (· + 1)).getD 0

/-- By falling date, timestamp and id. -/
def newerFirst (a b : Transaction) : Bool :=
  decide (b.effectiveDate < a.effectiveDate ∨ b.effectiveDate = a.effectiveDate ∧
    (timestampKey b < timestampKey a ∨ timestampKey b = timestampKey a ∧ b.id ≤ a.id))

def rebuild (base : Snapshot) (operations : List OutboxRow) : Snapshot :=
  let shown := operations.foldl (overlayRow base)
    (base.budgets, associateById base.recentTransactions)
  { base with
    budgets := shown.1
    recentTransactions := (shown.2.entries.map (·.2)).insertionSort fun a b => newerFirst a b }

end Entry
