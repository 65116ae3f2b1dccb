import Presto.Lib.Relational
import Presto.Lib.Connection
import Presto.Server.Auth

/-!
# Finance backup and recovery (`server.rs:1756-2102`)

| source                                                | model                         |
|-------------------------------------------------------|-------------------------------|
| `migrations/0004` to `0009`, `0011` to `0014`         | `tableSchema`, `schema`       |
| `FINANCE_BACKUP_TABLES` (`:1756`)                     | `FINANCE_BACKUP_TABLES`       |
| `restore_db_finance` (`:1788`)                        | `readSnapshot`, `checkTable`, `restoreRow`, `fillTables`, `restoreDbFinance` |
| `get_db_finance_backup` (`:2005`)                     | `interchange`, `readBackup`, `getDbFinanceBackup` |
| `sqlite_row_json_for_backup` (`:2080`)                | `valueJson`, `sqliteRowJson`  |
| `first_month`, `initialize` (`budget.rs:42`, `:62`)   | `firstMonth`, `seedOpeningState` |

The finance tables are kept with all their columns here, because a backup copies rows without looking
into them. What reads and writes their bytes is external: `serde_json`, SHA-256, the text that
`json_extract` makes of a nested value, and the months of import manifests.
-/

namespace Server.Backup

open Relational

/-! ## The tables -/

/-- The tables of `FINANCE_BACKUP_TABLES`. -/
inductive FinanceTable
  | financeAccounts
  | financeAccountOpeningBalances
  | financeCategories
  | categoryBudgetPeriods
  | financeTransactions
  | financeTransactionRevisions
  | transactionValuations
  | transactionValuationSourceCells
  | budgetMonthSnapshots
  | budgetOpeningState
  | financeExchangeRateSourceRows
  | exchangeRates
  | financeAccountActuals
  | financeAccountBalanceCheckpoints
  | financeOperations
  | financeCategoryCorrections
  | financeCategoryCorrectionItems
  | reconciliationBatches
  | reconciliationItems
  | financeImportRuns
  | financeQuarantinedRows
  | financeSourceArtifacts
  | budgetIncomeExpectations
  | budgetLedgerState
  | budgetPlanIncome
  | budgetIncomeReceipts
  | budgetLedgerMovements
  | budgetMonthClosures
  | budgetCoverageClosures
deriving DecidableEq

namespace FinanceTable

def name : FinanceTable → String
  | financeAccounts => "finance_accounts"
  | financeAccountOpeningBalances => "finance_account_opening_balances"
  | financeCategories => "finance_categories"
  | categoryBudgetPeriods => "category_budget_periods"
  | financeTransactions => "finance_transactions"
  | financeTransactionRevisions => "finance_transaction_revisions"
  | transactionValuations => "transaction_valuations"
  | transactionValuationSourceCells => "transaction_valuation_source_cells"
  | budgetMonthSnapshots => "budget_month_snapshots"
  | budgetOpeningState => "budget_opening_state"
  | financeExchangeRateSourceRows => "finance_exchange_rate_source_rows"
  | exchangeRates => "exchange_rates"
  | financeAccountActuals => "finance_account_actuals"
  | financeAccountBalanceCheckpoints => "finance_account_balance_checkpoints"
  | financeOperations => "finance_operations"
  | financeCategoryCorrections => "finance_category_corrections"
  | financeCategoryCorrectionItems => "finance_category_correction_items"
  | reconciliationBatches => "reconciliation_batches"
  | reconciliationItems => "reconciliation_items"
  | financeImportRuns => "finance_import_runs"
  | financeQuarantinedRows => "finance_quarantined_rows"
  | financeSourceArtifacts => "finance_source_artifacts"
  | budgetIncomeExpectations => "budget_income_expectations"
  | budgetLedgerState => "budget_ledger_state"
  | budgetPlanIncome => "budget_plan_income"
  | budgetIncomeReceipts => "budget_income_receipts"
  | budgetLedgerMovements => "budget_ledger_movements"
  | budgetMonthClosures => "budget_month_closures"
  | budgetCoverageClosures => "budget_coverage_closures"

end FinanceTable

open FinanceTable

/-- `FINANCE_BACKUP_TABLES`, in the order in which rows are restored. -/
def FINANCE_BACKUP_TABLES : List FinanceTable :=
  [financeAccounts, financeAccountOpeningBalances, financeCategories, categoryBudgetPeriods,
    financeTransactions, financeTransactionRevisions, transactionValuations,
    transactionValuationSourceCells, budgetMonthSnapshots, budgetOpeningState,
    financeExchangeRateSourceRows, exchangeRates, financeAccountActuals,
    financeAccountBalanceCheckpoints, financeOperations, financeCategoryCorrections,
    financeCategoryCorrectionItems, reconciliationBatches, reconciliationItems, financeImportRuns,
    financeQuarantinedRows, financeSourceArtifacts, budgetIncomeExpectations, budgetLedgerState,
    budgetPlanIncome, budgetIncomeReceipts, budgetLedgerMovements, budgetMonthClosures,
    budgetCoverageClosures]

/-! ## The checks of the migrations -/

/-- `column IS NULL OR column IN (..)`. -/
def isOneOf (texts : List String) : Value → Bool
  | .null => true
  | .text s => decide (s ∈ texts)
  | _ => false

def isCurrency : Value → Bool := isOneOf ["EUR", "PHP", "USD"]
def isSourceState : Value → Bool := isOneOf ["formula", "literal", "blank", "error"]

/-- `column IN (0, 1)`. -/
def isFlag : Value → Bool
  | .null => true
  | .integer n => decide (n = 0 ∨ n = 1)
  | .real x => decide (x = 0 ∨ x = 1)
  | _ => false

/-- `lo <= column`; texts and blobs are larger than any number. -/
def atLeast (lo : Int) : Value → Bool
  | .integer n => decide (lo ≤ n)
  | .real x => decide ((lo : Rat) ≤ x)
  | _ => true

/-- `column <= hi`. -/
def atMost (hi : Int) : Value → Bool
  | .null => true
  | .integer n => decide (n ≤ hi)
  | .real x => decide (x ≤ (hi : Rat))
  | _ => false

/-- `column > 0`. -/
def positive : Value → Bool
  | .integer n => decide (0 < n)
  | .real x => decide (0 < x)
  | _ => true

def onText (p : List Char → Bool) : Value → Bool
  | .null => true
  | .text s => p s.toList
  | _ => false

/-- `GLOB '[0-9][0-9][0-9][0-9]-[0-9][0-9]'`. -/
def isMonth : Value → Bool := onText fun
  | [a, b, c, d, '-', e, f] => [a, b, c, d, e, f].all Char.isDigit
  | _ => false

/-- `GLOB '[0-9][0-9][0-9][0-9]-[0-9][0-9]-[0-9][0-9]'`. -/
def isDate : Value → Bool := onText fun
  | [a, b, c, d, '-', e, f, '-', g, h] => [a, b, c, d, e, f, g, h].all Char.isDigit
  | _ => false

/-- `length(column) = 64 AND column NOT GLOB '*[^0-9a-f]*'`. -/
def isDigest : Value → Bool := onText fun s =>
  decide (s.length = 64) && s.all fun c => c.isDigit || ('a' ≤ c && c ≤ 'f')

/-- `length(trim(column)) BETWEEN 1 AND 500`. -/
def isReason : Value → Bool := onText fun s =>
  let trimmed := ((s.dropWhile (· = ' ')).reverse.dropWhile (· = ' ')).reverse
  decide (1 ≤ trimmed.length ∧ trimmed.length ≤ 500)

/-! ## The schema -/

def text (name : String) : Column := ⟨name, .text, true⟩
def optionalText (name : String) : Column := ⟨name, .text, false⟩
def integer (name : String) : Column := ⟨name, .integer, true⟩

def references (column : String) (table : FinanceTable) (target : String) :
    ForeignKey FinanceTable :=
  ⟨column, table, target⟩

/-- `CREATE TABLE`, with the columns that later migrations add at the end. -/
def tableSchema : FinanceTable → TableSchema FinanceTable
  | financeAccounts =>
    { columns := [text "id", text "source_name", optionalText "account_type",
        optionalText "currency", integer "is_real", integer "is_active",
        optionalText "current_native_balance", optionalText "actual_native_balance",
        optionalText "reconciliation_native", optionalText "current_eur_balance",
        optionalText "actual_eur_balance", integer "source_row", text "source_row_json",
        integer "ledger_revision"]
      keys := [["id"], ["source_name"]]
      check := fun row => isCurrency (row "currency") && isFlag (row "is_real") &&
        isFlag (row "is_active") && atLeast 0 (row "ledger_revision") }
  | financeAccountOpeningBalances =>
    { columns := [text "source_workbook_id", text "source_sheet", integer "source_row",
        text "account_id", text "effective_date", text "balance_decimal",
        text "original_row_fingerprint", text "source_row_json"]
      keys := [["source_workbook_id", "source_sheet", "source_row"],
        ["source_workbook_id", "source_sheet", "account_id", "effective_date"]]
      check := fun row => isDate (row "effective_date")
      foreignKeys := [references "account_id" financeAccounts "id"] }
  | financeCategories =>
    { columns := [text "id", text "name", integer "is_real", integer "source_row",
        text "source_row_json"]
      keys := [["id"], ["name"]]
      check := fun row => isFlag (row "is_real") }
  | categoryBudgetPeriods =>
    { columns := [text "category_id", text "effective_start_month", optionalText "base_monthly_eur",
        integer "source_row", text "source_cell_json"]
      keys := [["category_id", "effective_start_month"]]
      check := fun row => isMonth (row "effective_start_month")
      foreignKeys := [references "category_id" financeCategories "id"] }
  | financeTransactions =>
    { columns := [text "id", text "kind", text "effective_date", text "description",
        text "amount_decimal", optionalText "input_currency", optionalText "to_amount_decimal",
        optionalText "to_currency", optionalText "from_category_id", optionalText "to_category_id",
        optionalText "from_account_id", optionalText "to_account_id", integer "currency_is_override",
        integer "to_amount_is_override", optionalText "created_at", optionalText "created_by",
        integer "revision", text "source_workbook_id", text "source_sheet", integer "source_row",
        text "original_row_fingerprint", text "source_row_json", optionalText "occurred_at"]
      keys := [["id"], ["source_workbook_id", "source_sheet", "source_row"]]
      check := fun row =>
        isOneOf ["expense", "income", "transfer", "reallocate", "reconciliation"] (row "kind") &&
          isDate (row "effective_date") && isCurrency (row "input_currency") &&
          isCurrency (row "to_currency") && isFlag (row "currency_is_override") &&
          isFlag (row "to_amount_is_override") && positive (row "revision")
      foreignKeys := [references "from_category_id" financeCategories "id",
        references "to_category_id" financeCategories "id",
        references "from_account_id" financeAccounts "id",
        references "to_account_id" financeAccounts "id"] }
  | financeTransactionRevisions =>
    { columns := [text "transaction_id", integer "revision", optionalText "operation_id",
        text "snapshot_json", text "recorded_at"]
      keys := [["transaction_id", "revision"]]
      check := fun row => positive (row "revision")
      foreignKeys := [references "transaction_id" financeTransactions "id",
        references "operation_id" financeOperations "operation_id"] }
  | transactionValuations =>
    { columns := [text "transaction_id", text "side", optionalText "account_currency",
        optionalText "exchange_to_eur", optionalText "exchange_to_native",
        optionalText "amount_native", optionalText "amount_eur", text "effective_date",
        text "valuation_source", optionalText "rate_set_version", integer "revision",
        text "source_cells_json"]
      keys := [["transaction_id", "side", "revision"]]
      check := fun row => isOneOf ["from", "to"] (row "side") &&
        isCurrency (row "account_currency") && positive (row "revision")
      foreignKeys := [references "transaction_id" financeTransactions "id"] }
  | transactionValuationSourceCells =>
    { columns := [text "transaction_id", text "source_column", text "source_state",
        optionalText "source_formula", optionalText "evaluated_value_json",
        optionalText "formatted_value"]
      keys := [["transaction_id", "source_column"]]
      check := fun row => isOneOf ["J", "K", "L", "M", "N", "O", "P", "Q"] (row "source_column") &&
        isSourceState (row "source_state")
      foreignKeys := [references "transaction_id" financeTransactions "id"] }
  | budgetMonthSnapshots =>
    { columns := [text "category_id", text "month", optionalText "expense_eur",
        optionalText "remaining_eur", optionalText "reallocation_impact_eur",
        text "source_expense_state", text "source_remaining_state", integer "source_row",
        text "source_cells_json"]
      keys := [["category_id", "month"]]
      check := fun row => isMonth (row "month") && isSourceState (row "source_expense_state") &&
        isSourceState (row "source_remaining_state")
      foreignKeys := [references "category_id" financeCategories "id"] }
  | budgetOpeningState =>
    { columns := [text "category_id", text "effective_before_month", text "remaining_eur",
        text "verified_by", text "verified_at", text "source_json"]
      keys := [["category_id", "effective_before_month"]]
      check := fun row => isMonth (row "effective_before_month")
      foreignKeys := [references "category_id" financeCategories "id"] }
  | financeExchangeRateSourceRows =>
    { columns := [text "source_workbook_id", text "source_sheet", integer "source_row",
        text "original_row_fingerprint", text "source_row_json"]
      keys := [["source_workbook_id", "source_sheet", "source_row"]] }
  | exchangeRates =>
    { columns := [text "id", optionalText "rate_date", optionalText "base_currency",
        optionalText "quote_currency", optionalText "rate_decimal", optionalText "provider",
        optionalText "source_pair", text "source_column", optionalText "source_formula",
        text "source_value_json", text "source_workbook_id", text "source_sheet",
        integer "source_row", text "original_row_fingerprint"]
      keys := [["id"], ["source_workbook_id", "source_sheet", "source_row", "source_column"]]
      check := fun row => isCurrency (row "base_currency") && isCurrency (row "quote_currency") &&
        decide (row "base_currency" = .null ∨ row "quote_currency" = .null ∨
          row "base_currency" ≠ row "quote_currency") }
  | financeAccountActuals =>
    { columns := [text "account_id", optionalText "actual_native_balance",
        optionalText "source_reconciliation_native", integer "source_row", text "source_row_json"]
      keys := [["account_id"]]
      foreignKeys := [references "account_id" financeAccounts "id"] }
  | financeAccountBalanceCheckpoints =>
    { columns := [text "source_workbook_id", text "source_sheet", integer "source_row",
        text "source_column", text "account_id", optionalText "checkpoint_date",
        optionalText "balance_decimal", text "source_state", text "source_header_json",
        text "source_cell_json"]
      keys := [["source_workbook_id", "source_sheet", "source_row", "source_column"]]
      check := fun row => isSourceState (row "source_state")
      foreignKeys := [references "account_id" financeAccounts "id"] }
  | financeOperations =>
    { columns := [text "operation_id", text "actor_subject", text "payload_fingerprint",
        text "affected_transaction_ids_json", text "response_json", text "created_at"]
      keys := [["operation_id"]] }
  | financeCategoryCorrections =>
    { columns := [text "operation_id", text "original_transaction_id", text "original_effective_date",
        text "applied_month", text "reason", text "category_deltas_json", text "recorded_at"]
      keys := [["operation_id"]]
      check := fun row => isDate (row "original_effective_date") && isMonth (row "applied_month") &&
        isReason (row "reason")
      foreignKeys := [references "operation_id" financeOperations "operation_id",
        references "original_transaction_id" financeTransactions "id"] }
  | financeCategoryCorrectionItems =>
    { columns := [text "operation_id", text "category_id", text "expense_delta_eur"]
      keys := [["operation_id", "category_id"]]
      foreignKeys := [references "operation_id" financeCategoryCorrections "operation_id",
        references "category_id" financeCategories "id"] }
  | reconciliationBatches =>
    { columns := [text "id", text "operation_id", text "effective_date", text "actor_subject",
        text "submitted_at", optionalText "observed_at", optionalText "observed_date"]
      keys := [["id"], ["operation_id"]]
      foreignKeys := [references "operation_id" financeOperations "operation_id"] }
  | reconciliationItems =>
    { columns := [text "batch_id", text "account_id", optionalText "transaction_id",
        optionalText "actual_native_balance", optionalText "variance_native",
        integer "account_revision", optionalText "observed_native_balance",
        optionalText "post_month_activity_native", optionalText "included_transactions_json"]
      keys := [["batch_id", "account_id"]]
      foreignKeys := [references "batch_id" reconciliationBatches "id",
        references "account_id" financeAccounts "id",
        references "transaction_id" financeTransactions "id"] }
  | financeImportRuns =>
    { columns := [text "id", text "source_workbook_id", text "source_digest", text "manifest_json",
        text "counts_json", text "committed_at"]
      keys := [["id"], ["source_digest"]] }
  | financeQuarantinedRows =>
    { columns := [text "source_workbook_id", text "source_sheet", integer "source_row",
        text "reason_code", text "original_row_fingerprint", text "source_row_json"]
      keys := [["source_workbook_id", "source_sheet", "source_row"]] }
  | financeSourceArtifacts =>
    { columns := [text "source_workbook_id", text "artifact_key", text "source_json"]
      keys := [["source_workbook_id", "artifact_key"]] }
  | budgetIncomeExpectations =>
    { columns := [text "effective_start_month", text "amount", text "currency",
        integer "arrival_day"]
      keys := [["effective_start_month"]]
      check := fun row => isOneOf ["EUR", "USD", "PHP"] (row "currency") &&
        atLeast 1 (row "arrival_day") && atMost 31 (row "arrival_day") }
  | budgetLedgerState =>
    { columns := [integer "singleton", text "start_month", text "opening_unallocated_eur",
        text "provenance_json", text "activated_at"]
      keys := [["singleton"]]
      check := fun row => decide (row "singleton" = .integer 1)
      rowid := some "singleton" }
  | budgetPlanIncome =>
    { columns := [optionalText "month", text "amount", text "currency", text "amount_eur",
        integer "arrival_day", optionalText "completed_month",
        optionalText "completion_shortfall_eur", optionalText "completion_operation_id"]
      keys := [["month"]]
      foreignKeys := [references "completion_operation_id" financeOperations "operation_id"] }
  | budgetIncomeReceipts =>
    { columns := [optionalText "transaction_id", text "treatment", optionalText "expected_month"]
      keys := [["transaction_id"]]
      check := fun row => isOneOf ["salary", "unexpected", "refund", "legacy"] (row "treatment")
      foreignKeys := [references "expected_month" budgetPlanIncome "month"] }
  | budgetLedgerMovements =>
    { columns := [integer "id", text "month", text "category_id", text "kind", text "source_key",
        text "amount_eur", optionalText "operation_id", text "recorded_at"]
      keys := [["id"]]
      foreignKeys := [references "category_id" financeCategories "id",
        references "operation_id" financeOperations "operation_id"]
      rowid := some "id" }
  | budgetMonthClosures =>
    { columns := [text "month", text "operation_id", text "closed_at", text "snapshot_json",
        text "snapshot_sha256"]
      keys := [["month"], ["operation_id"]]
      check := fun row => isMonth (row "month") && isDigest (row "snapshot_sha256")
      foreignKeys := [references "operation_id" financeOperations "operation_id"] }
  | budgetCoverageClosures =>
    { columns := [optionalText "month", text "snapshot_json", text "snapshot_sha256"]
      keys := [["month"]]
      foreignKeys := [references "month" budgetMonthClosures "month"] }

/-- A month is closed: the condition of the triggers. -/
def monthIsClosed (rows : FinanceTable → List Row) (month : Value) : Bool :=
  (rows budgetMonthClosures).any fun row =>
    decide (month ≠ .null) && decide ((tableSchema budgetMonthClosures).value row "month" = month)

/-- The tables with the triggers of `0007` and `0014`. -/
def schema (affinity : Affinity) : Schema FinanceTable where
  affinity := affinity
  table := tableSchema
  allowsInsert rows t row :=
    match t with
    | budgetMonthSnapshots | budgetLedgerMovements =>
      !monthIsClosed rows ((tableSchema t).value row "month")
    | _ => true
  allowsUpdate rows t old new :=
    match t with
    | budgetMonthSnapshots =>
      !monthIsClosed rows ((tableSchema t).value old "month") &&
        !monthIsClosed rows ((tableSchema t).value new "month")
    | budgetMonthClosures | budgetLedgerMovements | budgetCoverageClosures => false
    | _ => true
  allowsDelete rows t row :=
    match t with
    | budgetMonthSnapshots => !monthIsClosed rows ((tableSchema t).value row "month")
    | budgetMonthClosures | budgetLedgerMovements | budgetCoverageClosures => false
    | _ => true

/-- `PRAGMA integrity_check`. -/
def integrityCheck (affinity : Affinity) (db : Database FinanceTable) : Bool :=
  FINANCE_BACKUP_TABLES.all fun t =>
    let table := (schema affinity).table t
    (contents db t).all (fun row => table.notNull row && table.check (table.value row)) &&
      decide ((contents db t).Pairwise fun row other => table.clashes other row = false)

/-- `PRAGMA foreign_key_check` finds no row. -/
def foreignKeyCheck (affinity : Affinity) (db : Database FinanceTable) : Bool :=
  FINANCE_BACKUP_TABLES.all fun t =>
    let table := (schema affinity).table t
    table.foreignKeys.all fun k => (contents db t).all fun row =>
      decide (table.value row k.column = .null) ||
        (contents db k.table).any fun other =>
          decide (((schema affinity).table k.table).value other k.target = table.value row k.column)

/-! ## JSON -/

/-- `serde_json::Value`; an integer fits an `i64`, and any other number is a float. -/
inductive Json
  | null
  | bool (b : Bool)
  | integer (n : Int)
  | float (x : Rat)
  | string (s : String)
  | array (items : List Json)
  | object (fields : List (String × Json))

namespace Json

def asObject : Json → Option (List (String × Json))
  | object fields => some fields
  | _ => none

def asArray : Json → Option (List Json)
  | array items => some items
  | _ => none

def asI64 : Json → Option Int
  | integer n => some n
  | _ => none

def asU64 : Json → Option Nat
  | integer n => if 0 ≤ n then some n.toNat else none
  | _ => none

def get (json : Json) (key : String) : Option Json := json.asObject.bind (·.lookup key)

end Json

def nibble (n : UInt8) : Char := if n < 10 then Char.ofNat (48 + n.toNat) else Char.ofNat (87 + n.toNat)

/-- `hex::encode`. -/
def hexEncode (bytes : List UInt8) : String :=
  String.ofList (bytes.flatMap fun b => [nibble (b / 16), nibble (b % 16)])

def valueJson : Value → Json
  | .null => .null
  | .integer n => .integer n
  | .real x => .float x
  | .blob bytes => .string (hexEncode bytes)
  | .text s => .string s

/-- `sqlite_row_json_for_backup`. -/
def sqliteRowJson (t : FinanceTable) (row : Row) : Json :=
  .object ((tableSchema t).names.zip (row.map valueJson))

/-- What is not the server's own code: `serde_json::from_slice` and `to_vec`, the SHA-256 of a body
in hexadecimal digits, the text of a nested value in `json_extract`, the month of an import manifest
and the month before a month, and how columns store values. -/
structure External (Body : Type) where
  parse : Body → Option Json
  write : Json → Body
  sha256 : Body → String
  minify : Json → String
  currentCanonicalMonth : String → Option String
  previousMonth : String → Option String
  affinity : Affinity
  parse_write : ∀ json, parse (write json) = some json
  sha256_hex : ∀ body, Auth.isCredentialId (sha256 body) = true

/-- The configuration, the sessions and the migrated version that a request meets. -/
structure AppState (Body : Type) where
  external : External Body
  auth : Auth.Config
  sessions : Auth.Store
  now : Int
  financeDbReadEnabled : Bool
  financeDbRestoreEnabled : Bool
  databaseSchemaVersion : Int

variable {Body : Type}

/-! ## Opening state -/

section

variable (external : External Body)

def textOf : Value → Except String String
  | .text s => .ok s
  | _ => .error "mismatched types"

/-- `first_month`. -/
def firstMonth (rows : FinanceTable → List Row) : Except String (Option String) :=
  (rows financeImportRuns).foldlM (fun first run => do
    let manifest ← textOf ((tableSchema financeImportRuns).value run "manifest_json")
    let month ← Except.fromOption (external.currentCanonicalMonth manifest)
      "Import canonical month missing"
    return if first.all (fun previous => decide (month < previous)) then some month else first) none

/-- `is_real = 1`. -/
def isReal (category : Row) : Bool :=
  decide ((tableSchema financeCategories).value category "is_real" = .integer 1)

/-- A category has an opening before a month. -/
def hasOpening (rows : FinanceTable → List Row) (category : Value) (month : String) : Bool :=
  (rows budgetOpeningState).any fun opening =>
    decide ((tableSchema budgetOpeningState).value opening "category_id" = category) &&
      decide ((tableSchema budgetOpeningState).value opening "effective_before_month" = .text month)

/-- A real category other than Unallocated has no opening. -/
def openingMissing (rows : FinanceTable → List Row) (first : String) : Bool :=
  (rows financeCategories).any fun category =>
    let id := (tableSchema financeCategories).value category "id"
    isReal category && decide (id ≠ .text "budget-unallocated") && !hasOpening rows id first

/-- The snapshots of a month of real categories. -/
def openingSnapshots (rows : FinanceTable → List Row) (prior : String) : List Row :=
  (rows budgetMonthSnapshots).filter fun snapshot =>
    decide ((tableSchema budgetMonthSnapshots).value snapshot "month" = .text prior) &&
      (rows financeCategories).any fun category => isReal category &&
        decide ((tableSchema financeCategories).value category "id" =
          (tableSchema budgetMonthSnapshots).value snapshot "category_id")

/-- The opening that a snapshot verifies. -/
def openingRow (first verifiedAt : String) (snapshot : Row) : Except String Row := do
  let column := (tableSchema budgetMonthSnapshots).value snapshot
  let balance ← (textOf (column "remaining_eur")).mapError fun _ =>
    "Imported opening balance unavailable"
  let category ← textOf (column "category_id")
  let source ← textOf (column "source_cells_json")
  return [.text category, .text first, .text balance, .text "verified-canonical-import",
    .text verifiedAt, .text source]

/-- `initialize` of `budget.rs`. -/
def seedOpeningState (verifiedAt : String) (db : Database FinanceTable) :
    Except String (Database FinanceTable) := do
  match ← firstMonth external (contents db) with
  | none => return db
  | some first =>
    if openingMissing (contents db) first then
      let prior ← Except.fromOption (external.previousMonth first) "Month overflow"
      (openingSnapshots (contents db) prior).foldlM (fun db snapshot => do
        let opening ← openingRow first verifiedAt snapshot
        insertOrIgnore (schema external.affinity) db budgetOpeningState opening) db
    else return db

end

/-! ## Backup -/

/-- The session of a request. -/
def requireSession (app : AppState Body) (headers : Auth.Headers) : Except ApiError Unit :=
  Except.ensure ((Auth.currentPocketSession app.auth app.sessions app.now headers).2.isSome = true)
    (ApiError.unauthorized "Sign in with Pocket ID to continue.")

/-- `MAX` over texts. -/
def maxText (values : List Value) : Value :=
  values.foldl (fun latest value =>
    match latest, value with
    | .text s, .text s' => if s < s' then .text s' else .text s
    | .null, value => value
    | latest, _ => latest) .null

/-- The exported document. -/
def interchange (app : AppState Body) (exportedAt : String) (db : Database FinanceTable) : Json :=
  .object [
    ("interchangeFormatVersion", .integer 1),
    ("databaseSchemaVersion", .integer app.databaseSchemaVersion),
    ("exportedAt", .string exportedAt),
    ("operationWatermark", valueJson (maxText ((contents db financeOperations).map fun row =>
      (tableSchema financeOperations).value row "created_at"))),
    ("tableCounts", .object (FINANCE_BACKUP_TABLES.map fun t =>
      (t.name, .integer (contents db t).length))),
    ("tables", .object (FINANCE_BACKUP_TABLES.map fun t =>
      (t.name, .array ((contents db t).map (sqliteRowJson t)))))]

/-- The body of a backup and the header `x-finance-snapshot-sha256`. -/
structure BackupResponse (Body : Type) where
  body : Body
  sha256 : String

/-- `get_db_finance_backup` up to its commit, with the two readings of the clock. -/
def readBackup (app : AppState Body) (headers : Auth.Headers) (verifiedAt exportedAt : String) :
    Session (Database FinanceTable) ApiError Json := do
  Session.lift (requireSession app headers)
  Session.lift (Except.ensure (app.financeDbReadEnabled = true)
    (ApiError.unavailable "Database finance reads are not enabled."))
  Session.begin
  Session.execute fun db => (seedOpeningState app.external verifiedAt db).mapError ApiError.internal
  Session.query fun db => .ok (interchange app exportedAt db)

/-- `get_db_finance_backup`. -/
def getDbFinanceBackup (app : AppState Body) (headers : Auth.Headers)
    (verifiedAt exportedAt : String) :
    Session (Database FinanceTable) ApiError (BackupResponse Body) := do
  let document ← readBackup app headers verifiedAt exportedAt
  Session.commit (foreignKeyCheck app.external.affinity)
    (ApiError.internal "FOREIGN KEY constraint failed")
  let body := app.external.write document
  return { body, sha256 := app.external.sha256 body }

/-! ## Restore -/

structure RestoreRequest (Body : Type) where
  headers : Auth.Headers
  /-- `x-finance-snapshot-sha256`. -/
  snapshotSha256 : Option String
  body : Body

structure RestoreResponse where
  databaseSchemaVersion : Int
  tableCounts : List (FinanceTable × Nat)
  sha256 : String

/-- The parts of an upload that has the shape of a backup. -/
structure Snapshot where
  databaseSchemaVersion : Option Int
  tables : List (String × Json)
  declaredCounts : List (String × Json)

/-- The checks of `restore_db_finance` before its transaction. -/
def readSnapshot (app : AppState Body) (request : RestoreRequest Body) :
    Except ApiError Snapshot := do
  Auth.ensureDbRequestOrigin request.headers
  requireSession app request.headers
  Except.ensure (app.financeDbRestoreEnabled = true)
    (ApiError.unavailable "Mobile snapshot restore is disabled on this server.")
  let expected ← Except.fromOption
    (request.snapshotSha256.filter fun value => Auth.isCredentialId value)
    (ApiError.badRequest "A valid finance snapshot digest is required.")
  Except.ensure (Auth.toAsciiLowercase (app.external.sha256 request.body) =
      Auth.toAsciiLowercase expected)
    (ApiError.badRequest "Finance snapshot digest verification failed.")
  let exported ← Except.fromOption (app.external.parse request.body)
    (ApiError.badRequest "Finance snapshot JSON is invalid.")
  Except.ensure ((exported.get "interchangeFormatVersion").bind Json.asU64 = some 1)
    (ApiError.badRequest "Finance snapshot format is unsupported.")
  let tables ← Except.fromOption ((exported.get "tables").bind Json.asObject)
    (ApiError.badRequest "Finance snapshot tables are missing.")
  let declaredCounts ← Except.fromOption ((exported.get "tableCounts").bind Json.asObject)
    (ApiError.badRequest "Finance snapshot counts are missing.")
  Except.ensure (tables.length = FINANCE_BACKUP_TABLES.length ∧
      declaredCounts.length = FINANCE_BACKUP_TABLES.length ∧
      (FINANCE_BACKUP_TABLES.all fun t =>
        (tables.lookup t.name).isSome && (declaredCounts.lookup t.name).isSome) = true)
    (ApiError.badRequest "Finance snapshot does not contain the complete table set.")
  return {
    databaseSchemaVersion := (exported.get "databaseSchemaVersion").bind Json.asI64
    tables, declaredCounts }

/-- The rows of a table in an upload. -/
def Snapshot.rows (snapshot : Snapshot) (t : FinanceTable) : Option (List Json) :=
  (snapshot.tables.lookup t.name).bind Json.asArray

/-- The first loop of `restore_db_finance`: the count that the table must have afterwards. -/
def checkTable (snapshot : Snapshot) (db : Database FinanceTable) (t : FinanceTable) :
    Except ApiError (FinanceTable × Nat) := do
  let rows ← Except.fromOption (snapshot.rows t)
    (ApiError.badRequest ("Finance snapshot table " ++ t.name ++ " is invalid."))
  Except.ensure ((snapshot.declaredCounts.lookup t.name).bind Json.asU64 = some rows.length)
    (ApiError.badRequest
      ("Finance snapshot count for " ++ t.name ++ " does not match its rows."))
  Except.ensure ((contents db t).length = 0)
    (ApiError.conflict "Recovery is allowed only when all finance tables are empty.")
  return (t, rows.length)

/-- The scalar that `json_extract` reads from a value. -/
def jsonExtract (external : External Body) : Json → Value
  | .null => .null
  | .bool b => .integer (if b then 1 else 0)
  | .integer n => .integer n
  | .float x => .real x
  | .string s => .text s
  | json => .text (external.minify json)

/-- The turn of the second loop: the columns of the table, and the insertion. -/
def restoreRow (external : External Body) (t : FinanceTable) (row : Json)
    (db : Database FinanceTable) : Except ApiError (Database FinanceTable) := do
  let object ← Except.fromOption row.asObject
    (ApiError.badRequest "Finance snapshot row is invalid.")
  let columns := (tableSchema t).names
  Except.ensure (object.length = columns.length ∧
      (columns.all fun column => (object.lookup column).isSome) = true)
    (ApiError.conflict ("Finance snapshot columns for " ++ t.name ++ " differ from this server."))
  (insert (schema external.affinity) db t (columns.map fun column =>
    jsonExtract external ((object.lookup column).getD .null))).mapError fun _ =>
      ApiError.badRequest
        ("A row in finance snapshot table " ++ t.name ++ " could not be restored.")

/-- `restore_db_finance` up to its commit: the counts of the restored rows. -/
def fillTables (app : AppState Body) (request : RestoreRequest Body) :
    Session (Database FinanceTable) ApiError (List (FinanceTable × Nat)) := do
  let snapshot ← Session.lift (readSnapshot app request)
  Session.begin
  Session.lift (Except.ensure
    (snapshot.databaseSchemaVersion = some app.databaseSchemaVersion) (ApiError.conflict
    "Snapshot schema version differs from this server. Deploy the matching database version before recovery."))
  let expectedCounts ← Session.query fun db => FINANCE_BACKUP_TABLES.mapM (checkTable snapshot db)
  FINANCE_BACKUP_TABLES.forM fun t =>
    ((snapshot.rows t).getD []).forM fun row => Session.execute (restoreRow app.external t row)
  Session.query fun db => Except.ensure
    ((expectedCounts.all fun count => (contents db count.1).length == count.2) = true)
    ⟨.internal, "Restored finance row counts do not match the snapshot."⟩
  Session.query fun db => Except.ensure (integrityCheck app.external.affinity db = true ∧
      foreignKeyCheck app.external.affinity db = true)
    (ApiError.badRequest "Finance snapshot failed database integrity checks.")
  return expectedCounts

/-- `restore_db_finance`. -/
def restoreDbFinance (app : AppState Body) (request : RestoreRequest Body) :
    Session (Database FinanceTable) ApiError RestoreResponse := do
  let expectedCounts ← fillTables app request
  Session.commit (foreignKeyCheck app.external.affinity)
    (ApiError.internal "FOREIGN KEY constraint failed")
  return {
    databaseSchemaVersion := app.databaseSchemaVersion
    tableCounts := expectedCounts
    sha256 := app.external.sha256 request.body }

end Server.Backup
