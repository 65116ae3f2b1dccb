import Mathlib.Data.Prod.Lex
import Mathlib.Data.Sum.Order
import Mathlib.Data.String.Basic
import Presto.Lib.Fallible
import Presto.Lib.Query

/-!
# Pages of transactions (`finance_read_model.rs:287-436`)

| source (`finance_read_model.rs`)     | model                |
|--------------------------------------|----------------------|
| tables of the migrations             | `Tables`             |
| `TRANSACTION_SELECT` (`:287`), joins | `named`, `valued`    |
| `TRANSACTION_SELECT`, columns        | `mapTransaction`     |
| `filter` of `transactions_sorted`    | `TransactionFilter.accepts` |
| `order`, `ORDER BY`                  | `orderExpression`, `orderRows` |
| `TransactionPage` (`:324`)           | `TransactionPage`    |
| `transactions_sorted` (`:355`)       | `transactionsSorted` |

Texts are texts here, dates and ids among them. The primary keys of the tables are fields of `Tables`.
`CAST(.. AS REAL)`, and `abs` and `-` on the result, are those of `Reals`: all that matters of SQLite's
doubles is that they are ordered.
-/

namespace ReadModel

open Query

/-! ## Tables -/

structure TransactionRow where
  id : String
  kind : String
  effectiveDate : String
  occurredAt : Option String
  description : String
  amountDecimal : String
  inputCurrency : Option String
  toAmountDecimal : Option String
  toCurrency : Option String
  fromCategoryId : Option String
  toCategoryId : Option String
  fromAccountId : Option String
  toAccountId : Option String
  createdAt : Option String
  createdBy : Option String
  revision : Int
  sourceWorkbookId : String
  sourceRow : Int
  /-- `json_extract(source_row_json, '$.correctsTransactionId')`. -/
  correctsTransactionId : Option String
deriving DecidableEq

structure CategoryRow where
  id : String
  name : String
deriving DecidableEq

structure AccountRow where
  id : String
  sourceName : String
  isReal : Bool
  isActive : Bool
deriving DecidableEq

structure ValuationRow where
  transactionId : String
  side : String
  revision : Int
  amountNative : Option String
  amountEur : Option String
deriving DecidableEq

structure RevisionRow where
  transactionId : String
  revision : Int
  /-- `json_extract(snapshot_json, '$.recordedByName')`. -/
  recordedByName : Option String
deriving DecidableEq

structure SessionRow where
  subject : String
  username : String
  createdAt : Int
deriving DecidableEq

structure ReceiptRow where
  transactionId : String
  treatment : String
  expectedMonth : Option String
deriving DecidableEq

/-- The tables of a database, with their primary keys. -/
structure Tables where
  transactions : List TransactionRow
  categories : List CategoryRow
  accounts : List AccountRow
  valuations : List ValuationRow
  revisions : List RevisionRow
  sessions : List SessionRow
  receipts : List ReceiptRow
  /-- `original_transaction_id` of `finance_category_corrections`. -/
  corrections : List String
  /-- `effective_before_month` of `budget_opening_state`. -/
  openings : List String
  /-- `month` of `budget_month_closures`. -/
  closures : List String
  transactions_key : (transactions.map (·.id)).Nodup
  categories_key : (categories.map (·.id)).Nodup
  accounts_key : (accounts.map (·.id)).Nodup
  valuations_key : (valuations.map fun v => (v.transactionId, v.side, v.revision)).Nodup

/-! ## Joins -/

/-- A transaction with the names of its endpoints. -/
structure Named where
  t : TransactionRow
  fc : Option CategoryRow
  tc : Option CategoryRow
  fa : Option AccountRow
  ta : Option AccountRow
deriving DecidableEq

/-- The four joins that both queries begin with. -/
def named (db : Tables) : List Named :=
  (leftJoin (leftJoin (leftJoin (leftJoin db.transactions
      db.categories fun t fc => some fc.id = t.fromCategoryId)
      db.categories fun row tc => some tc.id = row.1.toCategoryId)
      db.accounts fun row fa => some fa.id = row.1.1.fromAccountId)
      db.accounts fun row ta => some ta.id = row.1.1.1.toAccountId).map
    fun ((((t, fc), tc), fa), ta) => ⟨t, fc, tc, fa, ta⟩

/-- `SELECT MAX(v2.revision)`. -/
def lastRevision (db : Tables) (id side : String) : Option Int :=
  ((db.valuations.filter fun v => v.transactionId = id ∧ v.side = side).map (·.revision)).max?

/-- The current valuation of one side. -/
def currentValuation (db : Tables) (side : String) (t : TransactionRow) (v : ValuationRow) : Bool :=
  v.transactionId = t.id && v.side = side && some v.revision = lastRevision db t.id side

structure Valued extends Named where
  vf : Option ValuationRow
  vt : Option ValuationRow
deriving DecidableEq

/-- All joins of `TRANSACTION_SELECT`. -/
def valued (db : Tables) : List Valued :=
  (leftJoin (leftJoin (named db)
      db.valuations fun row => currentValuation db "from" row.t)
      db.valuations fun row => currentValuation db "to" row.1.t).map
    fun ((row, vf), vt) => { row with vf := vf, vt := vt }

/-! ## Filter -/

/-- SQLite's `lower`, which knows ASCII only. -/
def lower (value : String) : String := String.ofList (value.toList.map Char.toLower)

/-- `instr(text, part) > 0`. -/
def instr (text part : String) : Bool := text.toList.tails.any part.toList.isPrefixOf

def month7 (date : String) : String := String.ofList (date.toList.take 7)

structure TransactionFilter where
  month : Option String
  search : String
  kind : Option String
  category : Option String
  account : Option String
deriving DecidableEq

/-- The text that is searched. -/
def Named.searchText (row : Named) : String :=
  row.t.description ++ " " ++ ((row.fc.map (·.name)).getD "") ++ " " ++
    ((row.tc.map (·.name)).getD "") ++ " " ++ ((row.fa.map (·.sourceName)).getD "") ++ " " ++
    ((row.ta.map (·.sourceName)).getD "")

/-- The `WHERE` clause; a comparison with `NULL` does not hold. -/
def TransactionFilter.accepts (f : TransactionFilter) (row : Named) : Bool :=
  (f.month.all fun month => month7 row.t.effectiveDate = month) &&
    (f.search = "" || instr (lower row.searchText) (lower f.search)) &&
    (f.kind.all fun kind => row.t.kind = kind) &&
    (f.category.all fun category =>
      row.fc.map (·.name) = some category || row.tc.map (·.name) = some category) &&
    (f.account.all fun account =>
      row.fa.map (·.sourceName) = some account || row.ta.map (·.sourceName) = some account)

/-! ## Columns -/

structure RecentTransaction where
  createdBy : Option String
  createdAt : Option String
  id : String
  kind : String
  effectiveDate : String
  occurredAt : Option String
  description : String
  amount : String
  inputCurrency : Option String
  toAmount : Option String
  toCurrency : Option String
  fromCategory : Option String
  toCategory : Option String
  fromCategoryId : Option String
  toCategoryId : Option String
  fromAccount : Option String
  toAccount : Option String
  fromAccountId : Option String
  toAccountId : Option String
  fromAmountNative : Option String
  fromAmountEur : Option String
  toAmountNative : Option String
  toAmountEur : Option String
  correctsTransactionId : Option String
  incomeTreatment : Option String
  expectedIncomeMonth : Option String
  hasCategoryCorrection : Bool
  revision : Int
  canEdit : Bool
deriving DecidableEq

/-- `ORDER BY created_at DESC LIMIT 1`. -/
def latestSession : List SessionRow → Option SessionRow
  | [] => none
  | s :: ss =>
    match latestSession ss with
    | some last => if last.createdAt < s.createdAt then some s else some last
    | none => some s

/-- The name recorded with the first revision, that of the last session, or the subject itself. -/
def createdBy (db : Tables) (t : TransactionRow) : Option String :=
  let recorded := (db.revisions.find? fun r => r.transactionId = t.id ∧ r.revision = 1).bind
    (·.recordedByName)
  let session := (latestSession (db.sessions.filter fun s => some s.subject = t.createdBy)).map
    (·.username)
  (recorded.or session).or t.createdBy

/-- `can_edit`, in the month of `today`; a `NULL` of the missing opening reads as `0`. -/
def canEdit (db : Tables) (today : String) (t : TransactionRow) : Bool :=
  let month := month7 t.effectiveDate
  ["expense", "income", "transfer", "reallocate"].contains t.kind &&
    t.sourceWorkbookId = "canonical-live" &&
    db.openings.min?.any (fun opening => opening ≤ month) && month ≤ today &&
    !db.closures.contains month &&
    !db.accounts.any fun a =>
      (some a.id = t.fromAccountId || some a.id = t.toAccountId) && a.isReal && !a.isActive

def mapTransaction (db : Tables) (today : String) (row : Valued) : RecentTransaction :=
  let receipt := db.receipts.find? fun r => r.transactionId = row.t.id
  { createdBy := createdBy db row.t
    createdAt := row.t.createdAt
    id := row.t.id
    kind := row.t.kind
    effectiveDate := row.t.effectiveDate
    occurredAt := row.t.occurredAt
    description := row.t.description
    amount := row.t.amountDecimal
    inputCurrency := row.t.inputCurrency
    toAmount := row.t.toAmountDecimal
    toCurrency := row.t.toCurrency
    fromCategory := row.fc.map (·.name)
    toCategory := row.tc.map (·.name)
    fromCategoryId := row.t.fromCategoryId
    toCategoryId := row.t.toCategoryId
    fromAccount := row.fa.map (·.sourceName)
    toAccount := row.ta.map (·.sourceName)
    fromAccountId := row.t.fromAccountId
    toAccountId := row.t.toAccountId
    fromAmountNative := row.vf.bind (·.amountNative)
    fromAmountEur := row.vf.bind (·.amountEur)
    toAmountNative := row.vt.bind (·.amountNative)
    toAmountEur := row.vt.bind (·.amountEur)
    correctsTransactionId := row.t.correctsTransactionId
    incomeTreatment := receipt.map (·.treatment)
    expectedIncomeMonth := receipt.bind (·.expectedMonth)
    hasCategoryCorrection := db.corrections.contains row.t.id
    revision := row.t.revision
    canEdit := canEdit db today row.t }

/-! ## Order -/

/-- The numbers that SQLite casts to. -/
structure Reals (R : Type) where
  cast : String → R
  neg : R → R
  abs : R → R

variable {R : Type} [LinearOrder R]

/-- Numbers come before texts. -/
abbrev Key (R : Type) := R ⊕ₗ String

def number (x : R) : Key R := toLex (.inl x)

def text (s : String) : Key R := toLex (.inr s)

/-- The signed amount of a row. -/
def amountKey (reals : Reals R) (t : TransactionRow) : R :=
  let amount := reals.cast t.amountDecimal
  if t.kind = "expense" then reals.neg (reals.abs amount)
  else if t.kind = "reconciliation" then reals.neg amount
  else reals.abs amount

def orderExpression (reals : Reals R) (sort : String) : Except String (TransactionRow → Key R) :=
  match sort with
  | "date" => .ok fun t => text (t.occurredAt.getD t.effectiveDate)
  | "description" => .ok fun t => text (lower t.description)
  | "type" => .ok fun t => text t.kind
  | "amount" => .ok fun t => number (amountKey reals t)
  | "id" => .ok fun t => text t.id
  | _ => .error "Invalid transaction sort."

/-- `t.effective_date DESC, t.source_row DESC, t.id DESC`. -/
def tieBreak (t : TransactionRow) : Lex (Lex (Stringᵒᵈ × Intᵒᵈ) × Stringᵒᵈ) :=
  toLex (toLex (OrderDual.toDual t.effectiveDate, OrderDual.toDual t.sourceRow), OrderDual.toDual t.id)

def ascending (key : TransactionRow → Key R) (t : TransactionRow) :=
  (toLex (key t, tieBreak t) : Lex (Key R × Lex (Lex (Stringᵒᵈ × Intᵒᵈ) × Stringᵒᵈ)))

def descending (key : TransactionRow → Key R) (t : TransactionRow) :=
  (toLex (OrderDual.toDual (key t), tieBreak t) :
    Lex ((Key R)ᵒᵈ × Lex (Lex (Stringᵒᵈ × Intᵒᵈ) × Stringᵒᵈ)))

def orderRows (key : TransactionRow → Key R) (direction : String) (rows : List Valued) :
    Except String (List Valued) :=
  match direction with
  | "asc" => .ok (orderBy (fun row => ascending key row.t) rows)
  | "desc" => .ok (orderBy (fun row => descending key row.t) rows)
  | _ => .error "Invalid sort direction."

/-! ## Pages -/

structure TransactionPage where
  transactions : List RecentTransaction
  total : Nat
  page : Nat
  pageSize : Nat
deriving DecidableEq

def transactionsSorted (reals : Reals R) (db : Tables) (today : String) (f : TransactionFilter)
    (page pageSize : Nat) (sort direction : String) : Except String TransactionPage := do
  Except.ensure (page ≠ 0 ∧ 1 ≤ pageSize ∧ pageSize ≤ 100) "Invalid transaction pagination."
  let total := (named db).countP f.accepts
  let order ← orderExpression reals sort
  let rows ← orderRows order direction ((valued db).filter fun row => f.accepts row.toNamed)
  return {
    transactions := (limit pageSize ((page - 1) * pageSize) rows).map
      (mapTransaction db (month7 today))
    total := total
    page := page
    pageSize := pageSize }

end ReadModel
