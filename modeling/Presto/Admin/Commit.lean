import Presto.Admin.Plan
import Presto.Server.Backup
import Presto.Lib.Inserts

/-!
# The import into SQLite (`presto-admin.rs`)

| source (`presto-admin.rs`)                      | model                                |
|-------------------------------------------------|--------------------------------------|
| `IdentityMap` (`:81`), `identity_map` (`:1280`) | `SavedIdentities`, `identityMap`     |
| `import_command` (`:2166`)                      | `importCommand`                      |
| `commit_import` (`:2258`)                       | `importRowsOf`, `commitImport`       |
| `verify_command` (`:2601`)                      | `Parity`, `parity`, `verifyCommand`  |

An archive is what `read_bundle` accepts from its directory, whose files do not change. The identity
map is a file beside it; the database is a file that the first commit creates. The inserts run in one
transaction, so an error leaves the rows as they were. Printed counts and private reports are left
out.
-/

namespace Admin

open Relational (insertAll selectRow countRows contents)
open Server.Backup (FinanceTable schema tableSchema)
open Server.Backup.FinanceTable

/-- The parts of an archive that the commands read: of its manifest, the titles of its sheets, and
the bundle. -/
structure Archive where
  exportSha256 : String
  sourceSpreadsheetId : String
  testWorkbook : Bool
  transactionsTitle : String
  accountsTitle : String
  exchangeRatesTitle : String
  bundle : ArchiveBundle

/-- What the commands take from elsewhere: the tools of the plan, how SQLite stores values, the ids
that `Uuid::now_v7` draws, the readings of the clock, and the JSON of what is not a cell or a row. -/
structure External where
  tools : Tools
  affinity : Relational.Affinity
  newId : Nat → String
  now : Nat → String
  transactionJson : TransactionImport → String
  sourceCellsJson : List (String × Option ArchiveCell) → String
  artifactsJson : Archive → String
  manifestJson : Archive → String
  countsJson : ImportPlan → String

/-! ## The identity map (`:1280-1349`) -/

structure SavedIdentities where
  schemaVersion : Nat
  sourceSha256 : String
  importRunId : String
  ids : IdentityMap

/-- `entry(key).or_insert_with(new_id)`, with the number of ids drawn. -/
def orInsert (newId : Nat → String) (s : List (String × String) × Nat) (key : String) :
    List (String × String) × Nat :=
  if (s.1.lookup key).isSome then s else ((key, newId s.2) :: s.1, s.2 + 1)

/-- The names that a column gives to the rows after the first `skip`. -/
def sheetNames (sheet : SheetArchive) (skip column : Nat) : List String :=
  (sheet.rows.drop skip).filterMap fun row => rowName row column

/-- The numbers of the populated rows that the owner keeps and that have no id of their own. -/
def unidentifiedRows (bundle : ArchiveBundle) : List String :=
  ((bundle.sheets.transactions.numbered 1).filter fun item =>
    transactionInputsPopulated item.1 && decide (ownerAction bundle item.2 ≠ some "ignore") &&
      (rowName item.1 17).isNone).map fun item => toString item.2

/-- The map that is saved, which must belong to the archive, or an empty one (`:1281-1299`). -/
def openIdentityMap (newId : Nat → String) (archive : Archive) (drawn : Nat) :
    Option SavedIdentities → Except String (SavedIdentities × Nat)
  | some saved =>
    if saved.schemaVersion ≠ 1 ∨ saved.sourceSha256 ≠ archive.exportSha256 then
      .error "Import identity map belongs to a different finance archive."
    else .ok (saved, drawn)
  | none => .ok (⟨1, archive.exportSha256, newId drawn, ⟨[], [], []⟩⟩, drawn + 1)

/-- `identity_map`: the map to save, and the number of ids drawn. -/
def identityMap (newId : Nat → String) (archive : Archive) (saved : Option SavedIdentities)
    (drawn : Nat) : Except String (SavedIdentities × Nat) := do
  let (identities, drawn) ← openIdentityMap newId archive drawn saved
  let sheets := archive.bundle.sheets
  let nameColumn ← requiredColumn (headerMap sheets.accounts) "Name" "Accounts"
  let (accountIds, drawn) := (sheetNames sheets.accounts 1 nameColumn).foldl (orInsert newId)
    (identities.ids.accountIds, drawn)
  let (categoryIds, drawn) := (sheetNames sheets.budgets 2
    (categoryNameColumn sheets.budgets)).foldl (orInsert newId) (identities.ids.categoryIds, drawn)
  let (transactionIds, drawn) := (unidentifiedRows archive.bundle).foldl (orInsert newId)
    (identities.ids.transactionIds, drawn)
  return ({ identities with ids := ⟨transactionIds, accountIds, categoryIds⟩ }, drawn)

/-! ## The rows of an import (`:2306-2560`) -/

/-- A value to bind: `NULL` for nothing. -/
def bindText : Option String → Relational.Value
  | some text => .text text
  | none => .null

def bindFlag (flag : Bool) : Relational.Value := .integer (if flag then 1 else 0)

def bindRow (number : Nat) : Relational.Value := .integer number

section

variable (external : External) (archive : Archive)

def accountRow (account : AccountImport) : Relational.Row :=
  [.text account.id, .text account.name, bindText account.accountType, bindText account.currency,
    bindFlag account.isReal, bindFlag account.isActive, bindText account.currentNativeBalance,
    bindText account.actualNativeBalance, bindText account.reconciliationNative,
    bindText account.currentEurBalance, bindText account.actualEurBalance, bindRow account.sourceRow,
    .text account.sourceRowJson, .integer 0]

def accountActualRow (account : AccountImport) : Relational.Row :=
  [.text account.id, bindText account.actualNativeBalance, bindText account.reconciliationNative,
    bindRow account.sourceRow, .text account.sourceRowJson]

def checkpointTableRow (checkpoint : AccountCheckpointImport) : Relational.Row :=
  [.text archive.sourceSpreadsheetId, .text archive.accountsTitle, bindRow checkpoint.sourceRow,
    .text checkpoint.sourceColumn, .text checkpoint.accountId, bindText checkpoint.checkpointDate,
    bindText checkpoint.balanceDecimal, .text checkpoint.sourceState,
    .text checkpoint.sourceHeaderJson, .text checkpoint.sourceCellJson]

def openingBalanceRow (opening : AccountOpeningBalanceImport) : Relational.Row :=
  [.text archive.sourceSpreadsheetId, .text archive.transactionsTitle, bindRow opening.sourceRow,
    .text opening.accountId, .text opening.effectiveDate, .text opening.balanceDecimal,
    .text opening.sourceRowFingerprint, .text opening.sourceRowJson]

def categoryRow (category : CategoryImport) : Relational.Row :=
  [.text category.id, .text category.name, bindFlag category.isReal, bindRow category.sourceRow,
    .text category.sourceRowJson]

def budgetPeriodRow (category : CategoryImport) : Relational.Row :=
  [.text category.id, .text archive.bundle.currentCanonicalMonth, bindText category.baseMonthlyEur,
    bindRow category.sourceRow, .text category.baseCellJson]

def transactionRow (t : TransactionImport) : Relational.Row :=
  [.text t.id, .text t.kind, .text t.effectiveDate, .text t.description, .text t.amountDecimal,
    bindText t.inputCurrency, bindText t.toAmountDecimal, bindText t.toCurrency,
    bindText t.fromCategoryId, bindText t.toCategoryId, bindText t.fromAccountId,
    bindText t.toAccountId, bindFlag t.currencyIsOverride, bindFlag t.toAmountIsOverride,
    bindText t.createdAt, bindText t.createdBy, .integer 1, .text archive.sourceSpreadsheetId,
    .text archive.transactionsTitle, bindRow t.sourceRow, .text t.originalRowFingerprint,
    .text t.sourceRowJson, .null]

def revisionRow (recordedAt : String) (t : TransactionImport) : Relational.Row :=
  [.text t.id, .integer 1, .null, .text (external.transactionJson t), .text recordedAt]

/-- The columns of one side of a transaction (`:2394-2434`). -/
structure ValuationSide where
  side : String
  currencyColumn : Nat
  eurRateColumn : Nat
  nativeRateColumn : Option Nat
  nativeAmountColumn : Nat
  eurAmountColumn : Nat
  sourceColumns : List Nat

def valuationSides : List ValuationSide :=
  [⟨"from", 9, 10, some 12, 13, 11, [9, 10, 11, 12, 13]⟩, ⟨"to", 14, 15, none, 4, 16, [4, 14, 15, 16]⟩]

def valuationRow (t : TransactionImport) (side : ValuationSide) : Relational.Row :=
  [.text t.id, .text side.side, bindText (rowText t.row side.currencyColumn),
    bindText (rowDecimal t.row side.eurRateColumn),
    bindText (side.nativeRateColumn.bind (rowDecimal t.row)),
    bindText (rowDecimal t.row side.nativeAmountColumn),
    bindText (rowDecimal t.row side.eurAmountColumn), .text t.effectiveDate,
    .text "sheet-evaluated-baseline", .null, .integer 1,
    .text (external.sourceCellsJson
      (side.sourceColumns.map fun index => (columnName (index + 1), cellAt t.row index)))]

/-- The valuation cells with their letters (`:2464-2473`). -/
def valuationColumns : List (String × Nat) :=
  [("J", 9), ("K", 10), ("L", 11), ("M", 12), ("N", 13), ("O", 14), ("P", 15), ("Q", 16)]

/-- The effective value of a cell, unless it is null. -/
def evaluatedValue (cell : Option ArchiveCell) : Option Value :=
  (cell.bind (·.effective)).bind fun value =>
    match value with
    | .null => none
    | value => some value

def sourceCellRow (t : TransactionImport) (column : String × Nat) : Relational.Row :=
  let cell := cellAt t.row column.2
  [.text t.id, .text column.1, .text (cellState cell), bindText (cellFormula external.tools cell),
    bindText ((evaluatedValue cell).map fun value => external.tools.encode (.value value)),
    bindText (cell.bind (·.formatted))]

/-- The row of a transaction, its revision, its two valuations and its eight source cells. -/
def transactionRows (t : TransactionImport × Nat) : List (FinanceTable × Relational.Row) :=
  (financeTransactions, transactionRow archive t.1) ::
    (financeTransactionRevisions, revisionRow external (external.now t.2) t.1) ::
      (valuationSides.map fun side => (transactionValuations, valuationRow external t.1 side)) ++
        valuationColumns.map fun column =>
          (transactionValuationSourceCells, sourceCellRow external t.1 column)

def quarantinedRow (item : QuarantineImport) : Relational.Row :=
  [.text archive.sourceSpreadsheetId, .text archive.transactionsTitle, bindRow item.sourceRow,
    .text item.reason, .text item.fingerprint, .text item.rowJson]

def budgetRow (budget : BudgetMonthImport) : Relational.Row :=
  [.text budget.categoryId, .text budget.month, bindText budget.expenseEur,
    bindText budget.remainingEur, .text budget.reallocationImpactEur, .text budget.expenseState,
    .text budget.remainingState, bindRow budget.sourceRow, .text budget.sourceCellsJson]

def rateSourceRow (rate : Nat × String × String) : Relational.Row :=
  [.text archive.sourceSpreadsheetId, .text archive.exchangeRatesTitle, bindRow rate.1,
    .text rate.2.1, .text rate.2.2]

def rateRow (drawn : Nat) (rate : RateImport × Nat) : Relational.Row :=
  [.text (external.newId (drawn + rate.2)), .text rate.1.rateDate, .text rate.1.baseCurrency,
    .text rate.1.quoteCurrency, .text rate.1.rateDecimal, bindText rate.1.provider,
    .text rate.1.sourcePair, .text rate.1.sourceColumn, bindText rate.1.sourceFormula,
    .text rate.1.sourceValueJson, .text archive.sourceSpreadsheetId,
    .text archive.exchangeRatesTitle, bindRow rate.1.sourceRow, .text rate.1.rowFingerprint]

def artifactRow : Relational.Row :=
  [.text archive.sourceSpreadsheetId, .text "phase-b-workbook-and-rate-provenance",
    .text (external.artifactsJson archive)]

def importRunRow (identities : SavedIdentities) (plan : ImportPlan) : Relational.Row :=
  [.text identities.importRunId, .text archive.sourceSpreadsheetId, .text archive.exportSha256,
    .text (external.manifestJson archive), .text (external.countsJson plan),
    .text (external.now plan.transactions.length)]

/-- The rows in the order in which they are inserted. -/
def importRowsOf (identities : SavedIdentities) (plan : ImportPlan) (drawn : Nat) :
    List (FinanceTable × Relational.Row) :=
  plan.accounts.flatMap (fun account => [(financeAccounts, accountRow account),
      (financeAccountActuals, accountActualRow account)]) ++
    plan.accountCheckpoints.map (fun checkpoint =>
      (financeAccountBalanceCheckpoints, checkpointTableRow archive checkpoint)) ++
    plan.accountOpeningBalances.map (fun opening =>
      (financeAccountOpeningBalances, openingBalanceRow archive opening)) ++
    plan.categories.flatMap (fun category => [(financeCategories, categoryRow category),
      (categoryBudgetPeriods, budgetPeriodRow archive category)]) ++
    plan.transactions.zipIdx.flatMap (transactionRows external archive) ++
    plan.quarantined.map (fun item => (financeQuarantinedRows, quarantinedRow archive item)) ++
    plan.budgets.map (fun budget => (budgetMonthSnapshots, budgetRow budget)) ++
    plan.rateRows.map (fun rate => (financeExchangeRateSourceRows, rateSourceRow archive rate)) ++
    plan.normalizedRates.zipIdx.map (fun rate =>
      (exchangeRates, rateRow external archive drawn rate)) ++
    [(financeSourceArtifacts, artifactRow external archive),
      (financeImportRuns, importRunRow external archive identities plan)]

/-! ## Committing (`:2258-2575`) -/

/-- The tables that must be empty before an import. -/
def importedTables : List FinanceTable :=
  [financeAccounts, financeAccountOpeningBalances, financeCategories, categoryBudgetPeriods,
    financeTransactions, financeTransactionRevisions, transactionValuations,
    transactionValuationSourceCells, budgetMonthSnapshots, financeExchangeRateSourceRows,
    exchangeRates, financeAccountActuals, financeAccountBalanceCheckpoints, financeOperations,
    financeQuarantinedRows, financeSourceArtifacts]

abbrev FinanceDatabase := Relational.Database FinanceTable

/-- The imports of an archive. -/
def importCount (db : FinanceDatabase) : Nat :=
  countRows (schema external.affinity) db financeImportRuns
    [("source_digest", .text archive.exportSha256)]

/-- `commit_import` after the migrations. -/
def commitImport (identities : SavedIdentities) (plan : ImportPlan) (drawn : Nat)
    (db : FinanceDatabase) : Except String FinanceDatabase :=
  if 0 < importCount external archive db then .ok db
  else do
    Except.ensure ((importedTables.all fun t => (contents db t).isEmpty) = true)
      "Finance tables contain data from another source. Use a fresh auth database or an explicit reviewed reset."
    insertAll (schema external.affinity) db (importRowsOf external archive identities plan drawn)

/-! ## Verifying (`:2601-2922`) -/

/-- What `verify_command` finds; rows are named by sheet, number and month or column. -/
structure Parity where
  matchedTransactions : Nat
  missingTransactions : List Nat
  changedTransactions : List Nat
  sourceTransactionCount : Nat
  referenceRowMismatches : List (String × Nat)
  budgetRowMismatches : List (Nat × String)
  quarantinedCount : Nat
  quarantineRowMismatches : List Nat
  rateCount : Nat
  missingRateRows : List Nat
  normalizedRateCount : Nat
  valuationCount : Nat
  transactionRevisionCount : Nat
  sourceCellCount : Nat
  classifiedSourceRows : Nat
  budgetPeriodCount : Nat
  accountActualCount : Nat
  accountCheckpointCount : Nat
  accountCheckpointMismatches : List (Nat × String)
  accountOpeningBalanceCount : Nat
  accountOpeningBalanceMismatches : List Nat
deriving DecidableEq

/-- The columns that say where a row comes from. -/
def sourceValues (title : String) : List (String × Relational.Value) :=
  [("source_workbook_id", .text archive.sourceSpreadsheetId), ("source_sheet", .text title)]

/-- The row that comes from a row of a sheet. -/
def selectSource (db : FinanceDatabase) (t : FinanceTable) (title : String) (number : Nat) :
    Option Relational.Row :=
  selectRow (schema external.affinity) db t
    (sourceValues archive title ++ [("source_row", bindRow number)])

/-- The rows that come from a sheet. -/
def countSource (db : FinanceDatabase) (t : FinanceTable) (title : String) : Nat :=
  countRows (schema external.affinity) db t (sourceValues archive title)

/-- The rows of a table about the transactions that come from the archive. -/
def countOfTransactions (db : FinanceDatabase) (t : FinanceTable) : Nat :=
  let ids := ((contents db financeTransactions).filter (Relational.agrees
    (tableSchema financeTransactions) (sourceValues archive archive.transactionsTitle))).map fun row =>
      (tableSchema financeTransactions).value row "id"
  (contents db t).countP fun row => decide ((tableSchema t).value row "transaction_id" ∈ ids)

/-- The row is there and its columns have the values. -/
def rowHas (t : FinanceTable) (row : Option Relational.Row)
    (values : List (String × Relational.Value)) : Bool :=
  row.any (Relational.agrees (tableSchema t) values)

/-- The comparison of the plan with the database. -/
def parity (plan : ImportPlan) (db : FinanceDatabase) : Parity :=
  let transactionSource := fun (t : TransactionImport) =>
    selectSource external archive db financeTransactions archive.transactionsTitle t.sourceRow
  let fingerprint := fun (t : TransactionImport) =>
    [("original_row_fingerprint", Relational.Value.text t.originalRowFingerprint)]
  { matchedTransactions := plan.transactions.countP fun t =>
      rowHas financeTransactions (transactionSource t) (fingerprint t)
    missingTransactions := (plan.transactions.filter fun t =>
      (transactionSource t).isNone).map (·.sourceRow)
    changedTransactions := (plan.transactions.filter fun t =>
      (transactionSource t).isSome && !rowHas financeTransactions (transactionSource t)
        (fingerprint t)).map (·.sourceRow)
    sourceTransactionCount :=
      countSource external archive db financeTransactions archive.transactionsTitle
    referenceRowMismatches :=
      (plan.accounts.filter fun account => !rowHas financeAccounts
        (selectRow (schema external.affinity) db financeAccounts
          [("source_name", .text account.name)])
        [("source_row_json", .text account.sourceRowJson)]).map (fun account =>
          ("Accounts", account.sourceRow)) ++
      (plan.categories.filter fun category => !rowHas financeCategories
        (selectRow (schema external.affinity) db financeCategories [("name", .text category.name)])
        [("source_row_json", .text category.sourceRowJson)]).map fun category =>
          ("Expenses v3", category.sourceRow)
    budgetRowMismatches := (plan.budgets.filter fun budget => !rowHas budgetMonthSnapshots
      (selectRow (schema external.affinity) db budgetMonthSnapshots
        [("category_id", .text budget.categoryId), ("month", .text budget.month)])
      [("source_cells_json", .text budget.sourceCellsJson),
        ("reallocation_impact_eur", .text budget.reallocationImpactEur)]).map fun budget =>
          (budget.sourceRow, budget.month)
    quarantinedCount :=
      countSource external archive db financeQuarantinedRows archive.transactionsTitle
    quarantineRowMismatches := (plan.quarantined.filter fun item => !rowHas financeQuarantinedRows
      (selectSource external archive db financeQuarantinedRows archive.transactionsTitle
        item.sourceRow)
      [("original_row_fingerprint", .text item.fingerprint)]).map (·.sourceRow)
    rateCount :=
      countSource external archive db financeExchangeRateSourceRows archive.exchangeRatesTitle
    missingRateRows := (plan.rateRows.filter fun rate => !rowHas financeExchangeRateSourceRows
      (selectSource external archive db financeExchangeRateSourceRows archive.exchangeRatesTitle
        rate.1)
      [("original_row_fingerprint", .text rate.2.1)]).map (·.1)
    normalizedRateCount := countSource external archive db exchangeRates archive.exchangeRatesTitle
    valuationCount := countOfTransactions archive db transactionValuations
    transactionRevisionCount := countOfTransactions archive db financeTransactionRevisions
    sourceCellCount := countOfTransactions archive db transactionValuationSourceCells
    classifiedSourceRows :=
      plan.transactions.length + plan.quarantined.length + plan.accountOpeningBalances.length
    budgetPeriodCount := (contents db categoryBudgetPeriods).length
    accountActualCount := (contents db financeAccountActuals).length
    accountCheckpointCount :=
      countSource external archive db financeAccountBalanceCheckpoints archive.accountsTitle
    accountCheckpointMismatches := (plan.accountCheckpoints.filter fun checkpoint =>
      !rowHas financeAccountBalanceCheckpoints
        (selectRow (schema external.affinity) db financeAccountBalanceCheckpoints
          (sourceValues archive archive.accountsTitle ++
            [("source_row", bindRow checkpoint.sourceRow),
              ("source_column", .text checkpoint.sourceColumn)]))
        [("account_id", .text checkpoint.accountId),
          ("checkpoint_date", bindText checkpoint.checkpointDate),
          ("balance_decimal", bindText checkpoint.balanceDecimal),
          ("source_state", .text checkpoint.sourceState),
          ("source_header_json", .text checkpoint.sourceHeaderJson),
          ("source_cell_json", .text checkpoint.sourceCellJson)]).map fun checkpoint =>
            (checkpoint.sourceRow, checkpoint.sourceColumn)
    accountOpeningBalanceCount :=
      countSource external archive db financeAccountOpeningBalances archive.transactionsTitle
    accountOpeningBalanceMismatches := (plan.accountOpeningBalances.filter fun opening =>
      !rowHas financeAccountOpeningBalances
        (selectSource external archive db financeAccountOpeningBalances archive.transactionsTitle
          opening.sourceRow)
        [("account_id", .text opening.accountId), ("effective_date", .text opening.effectiveDate),
          ("balance_decimal", .text opening.balanceDecimal),
          ("original_row_fingerprint", .text opening.sourceRowFingerprint),
          ("source_row_json", .text opening.sourceRowJson)]).map (·.sourceRow) }

/-- `perfect` (`:2900`). -/
def Parity.perfect (found : Parity) (plan : ImportPlan) : Bool :=
  found.missingTransactions.isEmpty && found.changedTransactions.isEmpty &&
    decide (found.sourceTransactionCount = plan.transactions.length) &&
    found.missingRateRows.isEmpty && decide (found.rateCount = plan.rateRows.length) &&
    decide (found.normalizedRateCount = plan.normalizedRates.length) &&
    decide (found.quarantinedCount = plan.quarantined.length) &&
    found.quarantineRowMismatches.isEmpty &&
    decide (found.valuationCount = plan.transactions.length * 2) &&
    decide (found.transactionRevisionCount = plan.transactions.length) &&
    decide (found.sourceCellCount = plan.transactions.length * 8) &&
    decide (found.classifiedSourceRows = plan.sourceTransactionInputRows) &&
    decide (found.budgetPeriodCount = plan.categories.length) &&
    decide (found.accountActualCount = plan.accounts.length) && plan.accountCheckpointsPresent &&
    decide (found.accountCheckpointCount = plan.accountCheckpoints.length) &&
    found.accountCheckpointMismatches.isEmpty &&
    decide (found.accountOpeningBalanceCount = plan.accountOpeningBalances.length) &&
    found.accountOpeningBalanceMismatches.isEmpty && found.referenceRowMismatches.isEmpty &&
    found.budgetRowMismatches.isEmpty

end

/-! ## The commands -/

/-- The options of an import. -/
structure ImportOptions where
  commit : Bool
  allowTestWorkbook : Bool
  database : Bool

/-- The identity maps beside the archives, the database once it is there, and the ids drawn. -/
structure Workspace where
  identities : String → Option SavedIdentities
  database : Option FinanceDatabase
  drawn : Nat

inductive Command
  | importArchive (directory : String) (options : ImportOptions)
  | verifyArchive (directory : String)

/-- What a command prints at its end. -/
inductive Outcome
  | dryRun
  | committed
  | verified (found : Parity)
deriving DecidableEq

section

variable (external : External) (archives : String → Archive)

/-- The map of an archive and the plan: what both commands begin with. -/
def planCommand (directory : String) (s : Workspace) :
    Except String (SavedIdentities × ImportPlan) × Workspace :=
  match identityMap external.newId (archives directory) (s.identities directory) s.drawn with
  | .error e => (.error e, s)
  | .ok (identities, drawn) =>
    let s := { s with
      identities := Function.update s.identities directory (some identities)
      drawn := drawn }
    (((buildPlan external.tools (archives directory).bundle identities.ids).map
      fun plan => (identities, plan)), s)

/-- `import_command`. -/
def importCommand (directory : String) (options : ImportOptions) (s : Workspace) :
    Except String Outcome × Workspace :=
  match planCommand external archives directory s with
  | (.error e, s) => (.error e, s)
  | (.ok (identities, plan), s) =>
    if options.commit = true ∧ (archives directory).testWorkbook = true ∧
        (options.allowTestWorkbook = false ∨ options.database = false) then
      (.error
        "Test-workbook imports require an explicit --database FILE and --allow-test-workbook.", s)
    else if options.commit = true ∧ plan.accountCheckpointsPresent = false then
      (.error "Finance commits require an Accounts W:BE historical checkpoint archive.", s)
    else if options.commit = false then (.ok .dryRun, s)
    else if plan.validationIssues ≠ [] then
      (.error ("Import validation found " ++ toString plan.validationIssues.length ++
        " issue(s); see the private --report file or rerun without --commit."), s)
    else
      -- the migrations leave the tables there, whatever becomes of the rows
      let db := s.database.getD fun _ => []
      let drawn := s.drawn + plan.normalizedRates.length
      match commitImport external (archives directory) identities plan s.drawn db with
      | .error e => (.error e, { s with database := some db, drawn := drawn })
      | .ok db => (.ok .committed, { s with database := some db, drawn := drawn })

/-- `verify_command`. -/
def verifyCommand (directory : String) (s : Workspace) : Except String Outcome × Workspace :=
  match planCommand external archives directory s with
  | (.error e, s) => (.error e, s)
  | (.ok (_, plan), s) =>
    match s.database with
    | none => (.error "The selected SQLite database does not exist.", s)
    | some db =>
      if importCount external (archives directory) db ≠ 1 then
        (.error "Selected database does not contain exactly one import of this archive.", s)
      else
        let found := parity external (archives directory) plan db
        if found.perfect plan = true then (.ok (.verified found), s)
        else (.error "Finance source-row verification found differences.", s)

def runCommand : Command → Workspace → Except String Outcome × Workspace
  | .importArchive directory options => importCommand external archives directory options
  | .verifyArchive directory => verifyCommand external archives directory

/-- The workspace after some commands. -/
def runCommands (s : Workspace) (commands : List Command) : Workspace :=
  commands.foldl (fun s command => (runCommand external archives command s).2) s

end

end Admin
