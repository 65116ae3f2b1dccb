import Presto.Admin.Archive
import Presto.Lib.Fallible
import Mathlib.Data.List.Dedup
import Mathlib.Data.List.Sort

/-!
# The import plan (`presto-admin.rs:1384-2137`)

| source (`presto-admin.rs`)                           | model                              |
|------------------------------------------------------|------------------------------------|
| `SheetArchive`, `IdentityMap`, `ArchiveBundle`       | the same names                     |
| `header_map`, `required_column` (`:3508-3532`)       | `headerMap`, `requiredColumn`      |
| accounts (`:1385-1483`)                              | `importAccount`, `importAccounts`  |
| historical checkpoints (`:1485-1551`)                | `checkpointRow`, `accountCheckpoints` |
| categories (`:1553-1594`)                            | `importCategory`, `importCategories` |
| owner-review rows (`:1608-1639`)                     | `checkReview`                      |
| the row loop (`:1640-1915`)                          | `importRow`                        |
| reallocation impacts (`:1949-1967`)                  | `reallocationImpacts`              |
| budgets (`:1969-2028`)                               | `budgetMonths`, `budgetImports`, `budgetErrors` |
| exchange rates (`:2030-2105`)                        | `normalizedRates`, `rateRows`      |
| `build_plan` (`:1384`)                               | `buildPlan`                        |

The sheets that `read_bundle` (`:1238`) requires are fields here. A hash map is a list of pairs with
the last one written at the head.
-/

namespace Admin

structure SheetArchive where
  columnCount : Nat
  rows : List Row

/-- The rows after the first `skip`, with their numbers in the sheet. -/
def SheetArchive.numbered (sheet : SheetArchive) (skip : Nat) : List (Row × Nat) :=
  (sheet.rows.zipIdx 1).drop skip

structure Sheets where
  transactions : SheetArchive
  accounts : SheetArchive
  budgets : SheetArchive
  exchangeRates : SheetArchive
  accountCheckpoints : Option SheetArchive

structure OwnerReviewDecisions where
  transactionRows : List (String × String)
  invalidAccounts : List String

structure IdentityMap where
  transactionIds : List (String × String)
  accountIds : List (String × String)
  categoryIds : List (String × String)

structure ArchiveBundle where
  currentCanonicalMonth : String
  sheets : Sheets
  ownerReview : OwnerReviewDecisions

/-- What `encode` (`:4060`) writes as JSON. -/
inductive Provenance where
  | row (row : Row)
  | cell (cell : Option ArchiveCell)
  | members (cells : List (String × Option ArchiveCell))
  | value (value : Value)

/-- What the importer takes from other crates and from the case tables of Unicode. -/
structure Tools where
  toLowercase : String → String
  isUuid : String → Bool
  encode : Provenance → String
  sha256 : String → String

structure ImportIssue where
  sourceSheet : String
  sourceRow : Nat
  reasonCode : String
deriving DecidableEq

/-- `date[..7]` -/
def monthOf (date : String) : String := String.ofList (date.toList.take 7)

/-- The names of the header row with their columns, the last column of a name first. -/
def headerMap (sheet : SheetArchive) : List (String × Nat) :=
  ((sheet.rows.headD []).zipIdx.filterMap fun (cell, index) =>
    ((cellText cell).map trim).bind fun name =>
      if name = "" then none else some (name, index)).reverse

def requiredColumn (headers : List (String × Nat)) (name sheet : String) : Except String Nat :=
  Except.fromOption (headers.lookup name)
    (sheet ++ " is missing required header " ++ name ++ ".")

/-! ## Accounts (`:1385-1483`) -/

structure AccountColumns where
  name : Nat
  accountType : Nat
  isReal : Nat
  currency : Nat
  isActive : Nat
  native : Nat
  actualNative : Nat
  reconciliation : Nat
  eur : Nat
  actualEur : Nat

def accountColumns (sheet : SheetArchive) : Except String AccountColumns := do
  let headers := headerMap sheet
  return {
    name := ← requiredColumn headers "Name" "Accounts"
    accountType := ← requiredColumn headers "Type" "Accounts"
    isReal := ← requiredColumn headers "IsReal" "Accounts"
    currency := ← requiredColumn headers "Currency" "Accounts"
    isActive := ← Except.fromOption ((headers.lookup "IsActive").or (headers.lookup "IsLive"))
      "Accounts is missing IsActive/IsLive."
    native := ← requiredColumn headers "Balance" "Accounts"
    actualNative := ← requiredColumn headers "Actual Balance" "Accounts"
    reconciliation := ← requiredColumn headers "Reconciliation Amount" "Accounts"
    eur := ← requiredColumn headers "Balance (EUR)" "Accounts"
    actualEur := ← requiredColumn headers "Actual Balance (EUR)" "Accounts" }

structure AccountImport where
  id : String
  name : String
  accountType : Option String
  currency : Option String
  isReal : Bool
  isActive : Bool
  currentNativeBalance : Option String
  actualNativeBalance : Option String
  reconciliationNative : Option String
  currentEurBalance : Option String
  actualEurBalance : Option String
  sourceRow : Nat
  sourceRowJson : String

/-- The maps that the loop over the accounts fills. -/
structure Accounts where
  imports : List AccountImport
  names : List (String × String)
  lookup : List (String × String)
  realById : List (String × Bool)
  typeById : List (String × String)
  invalidIds : List String
  matchedInvalidNames : List String

def importAccount (tools : Tools) (bundle : ArchiveBundle) (identities : IdentityMap)
    (columns : AccountColumns) (s : Accounts) (item : Row × Nat) : Except String Accounts :=
  let (row, number) := item
  match rowName row columns.name with
  | none => .ok s
  | some name => do
    let id ← Except.fromOption (identities.accountIds.lookup name)
      "Accounts identity map is missing a source account."
    let currency := (rowName row columns.currency).map toAsciiUppercase
    Except.ensure (currency.all supportedCurrency)
      ("Accounts row " ++ toString number ++ " has an unsupported currency.")
    Except.ensure (s.names.lookup name = none)
      ("Accounts contains duplicate source names at or before row " ++ toString number ++ ".")
    Except.ensure (s.lookup.lookup (tools.toLowercase name) = none)
      "Accounts contains names that differ only by case."
    let isReal := rowFlag row columns.isReal
    let reviewedInvalid := bundle.ownerReview.invalidAccounts.any (eqIgnoreAsciiCase · name)
    return {
      imports := s.imports ++ [{
        id := id
        name := name
        accountType := rowText row columns.accountType
        currency := currency
        isReal := isReal
        isActive := rowFlag row columns.isActive && !reviewedInvalid
        currentNativeBalance := rowDecimal row columns.native
        actualNativeBalance := rowDecimal row columns.actualNative
        reconciliationNative := rowDecimal row columns.reconciliation
        currentEurBalance := rowDecimal row columns.eur
        actualEurBalance := rowDecimal row columns.actualEur
        sourceRow := number
        sourceRowJson := tools.encode (.row row) }]
      names := (name, id) :: s.names
      lookup := (tools.toLowercase name, id) :: s.lookup
      realById := (id, isReal) :: s.realById
      typeById := (id, (rowText row columns.accountType).getD "") :: s.typeById
      invalidIds := if reviewedInvalid then id :: s.invalidIds else s.invalidIds
      matchedInvalidNames :=
        if reviewedInvalid then tools.toLowercase name :: s.matchedInvalidNames
        else s.matchedInvalidNames }

def importAccounts (tools : Tools) (bundle : ArchiveBundle) (identities : IdentityMap)
    (columns : AccountColumns) : Except String Accounts := do
  let accounts ← (bundle.sheets.accounts.numbered 1).foldlM
    (importAccount tools bundle identities columns) ⟨[], [], [], [], [], [], []⟩
  Except.ensure (bundle.ownerReview.invalidAccounts.all fun name =>
      tools.toLowercase name ∈ accounts.matchedInvalidNames)
    "Owner-review decision names an account absent from this archive."
  return accounts

/-! ## Historical checkpoints (`:1485-1551`) -/

structure AccountCheckpointImport where
  accountId : String
  checkpointDate : Option String
  balanceDecimal : Option String
  sourceState : String
  sourceHeaderJson : String
  sourceCellJson : String
  sourceRow : Nat
  sourceColumn : String

structure Checkpoints where
  imports : List AccountCheckpointImport
  issues : List ImportIssue

def checkpointIssue (number : Nat) (reason : String) : ImportIssue := ⟨"Accounts", number, reason⟩

/-- Something stands in the row. -/
def hasSourceData (row : Row) : Bool := row.any (cellState · ≠ "blank")

def checkpointRow (tools : Tools) (columns : AccountColumns) (accounts : Accounts)
    (sheet : SheetArchive) (s : Checkpoints) (item : Row × Nat) : Except String Checkpoints :=
  let (accountRow, number) := item
  let headers := sheet.rows.headD []
  let row := (sheet.rows[number - 1]?).getD (List.replicate 35 none)
  match rowName accountRow columns.name with
  | none =>
    .ok { s with
      issues := s.issues ++
        if hasSourceData row then [checkpointIssue number "historical_checkpoint_without_account"]
        else [] }
  | some name => do
    let accountId ← Except.fromOption (accounts.names.lookup name)
      "Accounts historical checkpoint row has no imported account."
    return {
      imports := s.imports ++ (List.range 35).map fun column => {
        accountId := accountId
        checkpointDate := (cellAt headers column).bind sheetDate
        balanceDecimal := rowDecimal row column
        sourceState := cellState (cellAt row column)
        sourceHeaderJson := tools.encode (.cell (cellAt headers column))
        sourceCellJson := tools.encode (.cell (cellAt row column))
        sourceRow := number
        sourceColumn := columnName (23 + column) }
      issues := s.issues ++ (List.range 35).filterMap fun column =>
        if (cellAt headers column).bind sheetDate = none ∧ cellState (cellAt row column) ≠ "blank"
        then some (checkpointIssue number "historical_checkpoint_without_valid_date")
        else none }

def accountCheckpoints (tools : Tools) (bundle : ArchiveBundle) (columns : AccountColumns)
    (accounts : Accounts) : Except String Checkpoints :=
  match bundle.sheets.accountCheckpoints with
  | none => .ok ⟨[], []⟩
  | some sheet => do
    Except.ensure (sheet.columnCount = 35)
      "Accounts historical checkpoint range must contain exactly W:BE."
    let found ← (bundle.sheets.accounts.numbered 1).foldlM
      (checkpointRow tools columns accounts sheet) ⟨[], []⟩
    let rest := (sheet.numbered bundle.sheets.accounts.rows.length).filter (hasSourceData ·.1)
    return { found with
      issues := found.issues ++ rest.map fun item =>
        checkpointIssue item.2 "historical_checkpoint_without_account" }

/-! ## Categories (`:1553-1594`) -/

structure CategoryImport where
  id : String
  name : String
  isReal : Bool
  baseMonthlyEur : Option String
  sourceRow : Nat
  sourceRowJson : String
  baseCellJson : String

structure Categories where
  imports : List CategoryImport
  ids : List (String × String)
  lookup : List (String × String)

def categoryNameColumn (sheet : SheetArchive) : Nat :=
  ((headerMap sheet).lookup "Category").getD 0

def importCategory (tools : Tools) (identities : IdentityMap) (nameColumn isRealColumn : Nat)
    (s : Categories) (item : Row × Nat) : Except String Categories :=
  let (row, number) := item
  match rowName row nameColumn with
  | none => .ok s
  | some name => do
    let id ← Except.fromOption (identities.categoryIds.lookup name)
      "Expenses v3 identity map is missing a category."
    Except.ensure (s.ids.lookup name = none)
      ("Expenses v3 contains duplicate category names at or before row " ++ toString number ++ ".")
    Except.ensure (s.lookup.lookup (tools.toLowercase name) = none)
      "Expenses v3 contains category names that differ only by case."
    return {
      imports := s.imports ++ [{
        id := id
        name := name
        isReal := rowFlag row isRealColumn
        baseMonthlyEur := rowDecimal row 1
        sourceRow := number
        sourceRowJson := tools.encode (.row row)
        baseCellJson := tools.encode (.cell (cellAt row 1)) }]
      ids := (name, id) :: s.ids
      lookup := (tools.toLowercase name, id) :: s.lookup }

def importCategories (tools : Tools) (bundle : ArchiveBundle) (identities : IdentityMap)
    (isRealColumn : Nat) : Except String Categories :=
  (bundle.sheets.budgets.numbered 2).foldlM
    (importCategory tools identities (categoryNameColumn bundle.sheets.budgets) isRealColumn)
    ⟨[], [], []⟩

/-! ## Transactions (`:1596-1947`) -/

structure TransactionImport where
  id : String
  kind : String
  effectiveDate : String
  description : String
  amountDecimal : String
  inputCurrency : Option String
  toAmountDecimal : Option String
  toCurrency : Option String
  fromCategoryId : Option String
  toCategoryId : Option String
  fromAccountId : Option String
  toAccountId : Option String
  currencyIsOverride : Bool
  toAmountIsOverride : Bool
  createdAt : Option String
  createdBy : Option String
  sourceRow : Nat
  originalRowFingerprint : String
  sourceRowJson : String
  row : Row

structure QuarantineImport where
  sourceRow : Nat
  reason : String
  fingerprint : String
  rowJson : String

structure AccountOpeningBalanceImport where
  accountId : String
  effectiveDate : String
  balanceDecimal : String
  sourceRow : Nat
  sourceRowFingerprint : String
  sourceRowJson : String

/-- The lists that the row loop fills. `errors` has the rows in the order they were recorded. -/
structure Rows where
  transactions : List TransactionImport
  quarantined : List QuarantineImport
  accountOpeningBalances : List AccountOpeningBalanceImport
  openingAccountIds : List String
  seenIds : List String
  errors : List (String × Nat)
  openingReviewWarnings : List ImportIssue

/-- A row of the loop: its number, its JSON with the digest, and what the owner decided. -/
structure SourceRow where
  number : Nat
  row : Row
  json : String
  fingerprint : String
  ownerAction : Option String

def ownerAction (bundle : ArchiveBundle) (number : Nat) : Option String :=
  bundle.ownerReview.transactionRows.lookup (toString number)

def sourceRow (tools : Tools) (bundle : ArchiveBundle) (item : Row × Nat) : SourceRow where
  number := item.2
  row := item.1
  json := tools.encode (.row item.1)
  fingerprint := tools.sha256 (tools.encode (.row item.1))
  ownerAction := ownerAction bundle item.2

namespace Rows

def empty : Rows := ⟨[], [], [], [], [], [], []⟩

def recordError (s : Rows) (reason : String) (number : Nat) : Rows :=
  { s with errors := s.errors ++ [(reason, number)] }

def quarantine (s : Rows) (source : SourceRow) (reason : String) : Rows :=
  { s with
    quarantined := s.quarantined ++ [⟨source.number, reason, source.fingerprint, source.json⟩] }

end Rows

/-- A decision of the owner points to a populated row, an opening balance to a May 1 opening. -/
def checkReview (bundle : ArchiveBundle) : Except String Unit :=
  bundle.ownerReview.transactionRows.forM fun (key, _) => do
    let number ← Except.fromOption
      ((Text.parseUnsigned (2 ^ 64) key.toList).filter (1 < ·))
      "Owner-review decisions contain an invalid source row."
    let row ← Except.fromOption
      (bundle.sheets.transactions.rows[number - 1]?.filter transactionInputsPopulated)
      "Owner-review decision does not point to a populated transaction row."
    Except.ensure (bundle.ownerReview.transactionRows.lookup key ≠ some "opening_balance" ∨
        (cellAt row 0).bind sheetDate = some "2025-05-01" ∧
          (rowText row 1).any (eqIgnoreAsciiCase · "Opening Balance"))
      "Owner-reviewed opening balance does not match a May 1 opening row."

/-- The id in the row, or the one of the identity map; nothing when the row's is not an id. -/
def transactionId (tools : Tools) (identities : IdentityMap) (source : SourceRow) :
    Except String (Option String) :=
  match rowName source.row 17 with
  | some sourceId => .ok (if tools.isUuid sourceId then some sourceId else none)
  | none => do
    let id ← Except.fromOption (identities.transactionIds.lookup (toString source.number))
      "Transaction identity map is missing a historical ID."
    return some id

def effectiveDate (bundle : ArchiveBundle) (row : Row) : Option String :=
  ((cellAt row 0).bind sheetDate).filter fun date =>
    "1900-01-01" ≤ date && date ≤ bundle.currentCanonicalMonth ++ "-31"

/-- What a row names. -/
structure EntryNames where
  description : String
  fromCategory : Option String
  toCategory : Option String
  fromName : Option String
  toName : Option String

def entryNames (ownerAction : Option String) (row : Row) : EntryNames where
  description := (rowText row 1).getD ""
  fromCategory :=
    if ownerAction = some "from_category_groceries" then some "Groceries" else rowName row 5
  toCategory := rowName row 6
  fromName := rowName row 7
  toName := rowName row 8

namespace EntryNames

def categories (names : EntryNames) : List String :=
  [names.fromCategory, names.toCategory].reduceOption

def accounts (names : EntryNames) : List String := [names.fromName, names.toName].reduceOption

/-- The kind of the entry: an income where the owner says so, else as classified. -/
def kind (names : EntryNames) (ownerAction : Option String) : Option String :=
  if ownerAction = some "income" ∧ names.fromName.any (eqIgnoreAsciiCase · "Income") ∧
      names.toName.any (!isSystemAccount ·) then some "income"
  else classify names.fromCategory names.toCategory names.fromName names.toName names.description

/-- The real accounts among the two that are named. -/
def realAccountIds (names : EntryNames) (tools : Tools) (accounts : Accounts) : List String :=
  ((names.accounts.filterMap fun name => accounts.lookup.lookup (tools.toLowercase name)).filter
    fun id => accounts.realById.lookup id = some true).dedup

end EntryNames

/-- A warning about an opening balance whose sign does not fit the type of its account. -/
def openingWarnings (source : SourceRow) (balance accountType : String) (positive : Bool) :
    List ImportIssue :=
  (if positive ∧ eqIgnoreAsciiCase accountType "credit card" then
    [⟨"Transactions", source.number, "positive_credit_card_opening_balance_preserved"⟩] else []) ++
  (if startsWith balance "-" ∧ ¬ eqIgnoreAsciiCase accountType "credit card" ∧
      source.ownerAction ≠ some "opening_balance" then
    [⟨"Transactions", source.number, "negative_opening_balance_account_type_review"⟩] else [])

/-- The balance stands above zero. -/
def positiveBalance (balance : String) : Except String Bool :=
  if startsWith balance "-" then .ok false else (decimalIsZero balance).map (!·)

def zeroAmount (amount : Option String) : Except String Bool :=
  match amount with
  | some amount => decimalIsZero amount
  | none => .ok false

/-- An opening balance (`:1723-1803`). -/
def importOpening (tools : Tools) (accounts : Accounts) (s : Rows) (source : SourceRow)
    (date : String) (names : EntryNames) : Except String Rows :=
  match names.realAccountIds tools accounts with
  | [accountId] =>
    if accountId ∈ accounts.invalidIds then
      .ok (s.quarantine source "owner_reviewed_invalid_account_opening_seed")
    else
      match rowDecimal source.row 2 with
      | none => .ok (s.recordError "invalid_account_opening_balance" source.number)
      | some balance =>
        if accountId ∈ s.openingAccountIds then
          .ok (s.recordError "duplicate_account_opening_balance" source.number)
        else do
          let positive ← positiveBalance balance
          return { s with
            accountOpeningBalances := s.accountOpeningBalances ++
              [⟨accountId, date, balance, source.number, source.fingerprint, source.json⟩]
            openingAccountIds := accountId :: s.openingAccountIds
            openingReviewWarnings := s.openingReviewWarnings ++
              openingWarnings source balance ((accounts.typeById.lookup accountId).getD "")
                positive }
  | ids => do
    let zero ← zeroAmount (rowDecimal source.row 2)
    return if ids = [] ∧ zero then
        s.quarantine source "owner_ignored_virtual_opening_helper"
      else s.recordError "unresolved_account_opening_balance" source.number

/-- A cell of the valuation is blank, an error or without a value (`:1804-1817`). -/
def valuationGap (bundle : ArchiveBundle) (row : Row) (date : String) : Bool :=
  startsWith date bundle.currentCanonicalMonth && (List.range' 9 8).any fun column =>
    let cell := cellAt row column
    cellState cell = "blank" || cellIsError cell || !hasEffectiveValue cell

/-- The references of a row that name nothing known (`:1883-1895`). -/
def unresolvedReferences (tools : Tools) (accounts : Accounts) (categories : Categories)
    (names : EntryNames) : List String :=
  ((names.categories.filter fun name =>
      (categories.lookup.lookup (tools.toLowercase name)).isNone).map
    fun _ => "unresolved_category_reference") ++
  ((names.accounts.filter fun name =>
      !isSystemAccount name && (accounts.lookup.lookup (tools.toLowercase name)).isNone).map
    fun _ => "unresolved_account_reference")

def inputCurrency (row : Row) : Option String :=
  if cellIsError (cellAt row 3) then none else (rowName row 3).map toAsciiUppercase

def toAmount (kind : String) (row : Row) : Option String :=
  if kind = "transfer" then rowDecimal row 4 else none

def toCurrency (kind : String) (row : Row) : Option String :=
  if kind = "transfer" then (rowName row 14).map toAsciiUppercase else none

/-- The checks of an entry that is no opening balance, and its import (`:1804-1925`). -/
def importEntry (tools : Tools) (bundle : ArchiveBundle) (accounts : Accounts)
    (categories : Categories) (s : Rows) (source : SourceRow) (id date : String)
    (names : EntryNames) : Rows :=
  let row := source.row
  if valuationGap bundle row date then
    s.recordError "current_period_valuation_gap_or_error" source.number
  else match rowDecimal row 2 with
  | none =>
    if names.kind source.ownerAction = some "reconciliation" then
      s.quarantine source "owner_ignored_blank_reconciliation_sink"
    else s.recordError "invalid_amount" source.number
  | some amount =>
    if (inputCurrency row).any (!supportedCurrency ·) then
      s.recordError "unsupported_input_currency" source.number
    else match names.kind source.ownerAction with
    | none => s.recordError "unrecognized_operation_shape" source.number
    | some kind =>
      if kind ≠ "reconciliation" ∧ ¬ positiveDecimal amount then
        s.recordError "nonpositive_normal_amount" source.number
      else if (toCurrency kind row).any (!supportedCurrency ·) ∨
          (kind = "transfer" ∧ (toAmount kind row).any (!positiveDecimal ·)) then
        s.recordError "invalid_transfer_destination" source.number
      else
        let categoryId (name : String) := categories.lookup.lookup (tools.toLowercase name)
        let accountId (name : String) := accounts.lookup.lookup (tools.toLowercase name)
        { s with
          errors := s.errors ++
            (unresolvedReferences tools accounts categories names).map fun reason =>
              (reason, source.number)
          transactions := s.transactions ++ [{
            id := id
            kind := kind
            effectiveDate := date
            description := names.description
            amountDecimal := amount
            inputCurrency := inputCurrency row
            toAmountDecimal := toAmount kind row
            toCurrency := toCurrency kind row
            fromCategoryId := names.fromCategory.bind categoryId
            toCategoryId := names.toCategory.bind categoryId
            fromAccountId := names.fromName.bind accountId
            toAccountId := names.toName.bind accountId
            currencyIsOverride := cellState (cellAt row 3) = "literal"
            toAmountIsOverride := cellState (cellAt row 4) = "literal" &&
              source.ownerAction ≠ some "ignore_destination_amount"
            createdAt := rowName row 18
            createdBy := rowName row 19
            sourceRow := source.number
            originalRowFingerprint := source.fingerprint
            sourceRowJson := source.json
            row := row }] }

/-- The body of the row loop, for a row that is populated (`:1644-1925`). -/
def importPopulated (tools : Tools) (bundle : ArchiveBundle) (identities : IdentityMap)
    (accounts : Accounts) (categories : Categories) (s : Rows) (source : SourceRow) :
    Except String Rows :=
  if source.ownerAction = some "ignore" then .ok (s.quarantine source "owner_reviewed_ignore")
  else do
    match ← transactionId tools identities source with
    | none => return s.recordError "invalid_transaction_id" source.number
    | some id =>
      if id ∈ s.seenIds then return s.recordError "duplicate_transaction_id" source.number
      else
        let s := { s with seenIds := id :: s.seenIds }
        match effectiveDate bundle source.row with
        | none => return s.quarantine source "missing_or_invalid_effective_date"
        | some date =>
          let names := entryNames source.ownerAction source.row
          if date = "2025-05-01" ∧ eqIgnoreAsciiCase names.description "Opening Balance" then
            importOpening tools accounts s source date names
          else return importEntry tools bundle accounts categories s source id date names

def importRow (tools : Tools) (bundle : ArchiveBundle) (identities : IdentityMap)
    (accounts : Accounts) (categories : Categories) (s : Rows) (item : Row × Nat) :
    Except String Rows :=
  if transactionInputsPopulated item.1 then
    importPopulated tools bundle identities accounts categories s (sourceRow tools bundle item)
  else .ok s

def importRows (tools : Tools) (bundle : ArchiveBundle) (identities : IdentityMap)
    (accounts : Accounts) (categories : Categories) : Except String Rows :=
  (bundle.sheets.transactions.numbered 1).foldlM
    (importRow tools bundle identities accounts categories) .empty

/-! ## Reallocation impacts and budgets (`:1949-2028`) -/

abbrev Impacts := List ((String × String) × String)

def addDecimalDelta (totals : Impacts) (key : String × String) (delta : String) :
    Except String Impacts := do
  let total ← addExactDecimals ((totals.lookup key).getD "0") delta
  return (key, total) :: totals

def reallocationImpact (totals : Impacts) (transaction : TransactionImport) :
    Except String Impacts :=
  if transaction.kind ≠ "reallocate" then .ok totals
  else do
    let month := monthOf transaction.effectiveDate
    let amount ← decimalAbsolute transaction.amountDecimal
    let totals ← match transaction.fromCategoryId with
      | some id => addDecimalDelta totals (id, month) amount
      | none => .ok totals
    match transaction.toCategoryId with
    | some id => do
      let negated ← negateDecimal amount
      addDecimalDelta totals (id, month) negated
    | none => return totals

def reallocationImpacts (transactions : List TransactionImport) : Except String Impacts :=
  transactions.foldlM reallocationImpact []

structure BudgetMonthImport where
  categoryId : String
  month : String
  expenseEur : Option String
  remainingEur : Option String
  reallocationImpactEur : String
  expenseState : String
  remainingState : String
  sourceRow : Nat
  sourceCellsJson : String

/-- The columns of the months that are no template of the future. -/
def budgetMonths (bundle : ArchiveBundle) : List (Nat × String) :=
  let sheet := bundle.sheets.budgets
  let headers := sheet.rows.headD []
  let dates := (sheet.rows[1]?).getD []
  (List.range sheet.columnCount).filterMap fun column =>
    if rowText headers column ≠ some "Expense" then none
    else (((cellAt dates column).bind sheetDate).map monthOf).bind fun month =>
      if month ≤ bundle.currentCanonicalMonth ∧
          rowText headers (column + 1) = some "Remaining" then some (column, month)
      else none

/-- The rows of the budgets with the ids of their categories. -/
def budgetRows (bundle : ArchiveBundle) (categories : Categories) : List (String × Row × Nat) :=
  let sheet := bundle.sheets.budgets
  (sheet.numbered 2).filterMap fun item =>
    ((rowName item.1 (categoryNameColumn sheet)).bind (categories.ids.lookup ·)).map fun id =>
      (id, item)

def budgetErrors (bundle : ArchiveBundle) (categories : Categories) (isRealColumn : Nat) :
    List Nat :=
  (budgetRows bundle categories).flatMap fun (_, row, number) =>
    (budgetMonths bundle).filterMap fun (column, month) =>
      let expense := cellAt row column
      let remaining := cellAt row (column + 1)
      if month = bundle.currentCanonicalMonth ∧ rowFlag row isRealColumn ∧
          (!hasEffectiveValue expense || !hasEffectiveValue remaining ||
            cellIsError expense || cellIsError remaining) then some number
      else none

def budgetImports (tools : Tools) (bundle : ArchiveBundle) (categories : Categories)
    (impacts : Impacts) : List BudgetMonthImport :=
  (budgetRows bundle categories).flatMap fun (id, row, number) =>
    (budgetMonths bundle).filterMap fun (column, month) =>
      let expense := cellAt row column
      let remaining := cellAt row (column + 1)
      if expense.isNone ∧ remaining.isNone then none
      else some {
        categoryId := id
        month := month
        expenseEur := rowDecimal row column
        remainingEur := rowDecimal row (column + 1)
        reallocationImpactEur := (impacts.lookup (id, month)).getD "0"
        expenseState := cellState expense
        remainingState := cellState remaining
        sourceRow := number
        sourceCellsJson := tools.encode (.members [("expense", expense), ("remaining", remaining)]) }

/-! ## Exchange rates (`:2030-2105`) -/

structure RateImport where
  sourceRow : Nat
  sourceColumn : String
  rateDate : String
  baseCurrency : String
  quoteCurrency : String
  sourcePair : String
  rateDecimal : String
  provider : Option String
  sourceFormula : Option String
  sourceValueJson : String
  rowFingerprint : String

/-- The formula of a cell, or the JSON of the formula of its data source. -/
def cellFormula (tools : Tools) (cell : Option ArchiveCell) : Option String :=
  (((cell.bind (·.entered)).bind (·.get "formulaValue")).bind Value.asStr).or
    ((cell.bind (·.dataSourceFormula)).map fun value => tools.encode (.value value))

def contains (text part : String) : Bool := text.toList.tails.any part.toList.isPrefixOf

/-- The rate in a row of a pair of columns, when the row has a date and a rate. -/
def rateImport (tools : Tools) (column : Nat) (pair base quote : String) (item : Row × Nat) :
    Option RateImport := do
  let (row, number) := item
  let dateCell := cellAt row column
  let rateCell := cellAt row (column + 1)
  let rateDate ← dateCell.bind sheetDate
  let rateDecimal ← rowDecimal row (column + 1)
  let formula := (cellFormula tools rateCell).or (cellFormula tools dateCell)
  return {
    sourceRow := number
    sourceColumn := columnName (column + 1)
    rateDate := rateDate
    baseCurrency := base
    quoteCurrency := quote
    sourcePair := pair
    rateDecimal := rateDecimal
    provider := (formula.filter fun text => contains (toAsciiUppercase text) "GOOGLEFINANCE").map
      fun _ => "GOOGLEFINANCE"
    sourceFormula := formula
    sourceValueJson := tools.encode (.members [("dateCell", dateCell), ("rateCell", rateCell)])
    rowFingerprint := tools.sha256 (tools.encode (.row row)) }

def normalizedRates (tools : Tools) (sheet : SheetArchive) : List RateImport :=
  let headers := sheet.rows.headD []
  let subheaders := (sheet.rows[1]?).getD []
  (List.range (sheet.columnCount - 1)).flatMap fun column =>
    match rowName headers column with
    | none => []
    | some pair =>
      if rowText subheaders column ≠ some "Date" ∨ rowText subheaders (column + 1) ≠ some "Close"
      then []
      else match ratePair pair with
        | none => []
        | some (base, quote) =>
          (sheet.numbered 2).filterMap (rateImport tools column pair base quote)

def rateRows (tools : Tools) (sheet : SheetArchive) : List (Nat × String × String) :=
  ((sheet.numbered 1).filter fun item => rowPopulated item.1 0 sheet.columnCount).map fun item =>
    let json := tools.encode (.row item.1)
    (item.2, tools.sha256 json, json)

/-! ## The plan -/

structure ImportPlan where
  accounts : List AccountImport
  accountCheckpoints : List AccountCheckpointImport
  accountCheckpointsPresent : Bool
  accountOpeningBalances : List AccountOpeningBalanceImport
  categories : List CategoryImport
  transactions : List TransactionImport
  quarantined : List QuarantineImport
  budgets : List BudgetMonthImport
  rateRows : List (Nat × String × String)
  normalizedRates : List RateImport
  validationIssues : List ImportIssue
  reviewWarnings : List ImportIssue
  sourceTransactionInputRows : Nat

/-- The numbers of the rows of the sheet with something in their inputs. -/
def populatedRows (bundle : ArchiveBundle) : List Nat :=
  ((bundle.sheets.transactions.numbered 1).filter fun item =>
    transactionInputsPopulated item.1).map Prod.snd

namespace Rows

/-- The rows of the sheet that the three lists come from. -/
def classified (s : Rows) : List Nat :=
  s.transactions.map (·.sourceRow) ++ s.quarantined.map (·.sourceRow) ++
    s.accountOpeningBalances.map (·.sourceRow)

/-- The errors by their reason, as the ordered map gives them. -/
def issues (s : Rows) : List ImportIssue :=
  (s.errors.insertionSort fun a b => a.1 ≤ b.1).map fun (reason, number) =>
    ⟨"Transactions", number, reason⟩

/-- Rows that the loop has put nowhere (`:1928-1947`). -/
def unclassified (s : Rows) (bundle : ArchiveBundle) : List ImportIssue :=
  if s.classified.length = (populatedRows bundle).length then []
  else ((populatedRows bundle).filter (· ∉ s.classified)).map fun number =>
    ⟨"Transactions", number, "unclassified_transaction_source_row"⟩

end Rows

/-- `build_plan` (`:1384`). -/
def buildPlan (tools : Tools) (bundle : ArchiveBundle) (identities : IdentityMap) :
    Except String ImportPlan := do
  let columns ← accountColumns bundle.sheets.accounts
  let accounts ← importAccounts tools bundle identities columns
  let checkpoints ← accountCheckpoints tools bundle columns accounts
  let isRealColumn ← requiredColumn (headerMap bundle.sheets.budgets) "IsReal" "Expenses v3"
  let categories ← importCategories tools bundle identities isRealColumn
  checkReview bundle
  let rows ← importRows tools bundle identities accounts categories
  let impacts ← reallocationImpacts rows.transactions
  return {
    accounts := accounts.imports
    accountCheckpoints := checkpoints.imports
    accountCheckpointsPresent := bundle.sheets.accountCheckpoints.isSome
    accountOpeningBalances := rows.accountOpeningBalances
    categories := categories.imports
    transactions := rows.transactions
    quarantined := rows.quarantined
    budgets := budgetImports tools bundle categories impacts
    rateRows := rateRows tools bundle.sheets.exchangeRates
    normalizedRates := normalizedRates tools bundle.sheets.exchangeRates
    validationIssues := rows.issues ++ checkpoints.issues ++ rows.unclassified bundle ++
      (budgetErrors bundle categories isRealColumn).map fun number =>
        ⟨"Expenses v3", number, "current_period_budget_gap_or_error"⟩
    reviewWarnings := rows.openingReviewWarnings
    sourceTransactionInputRows := (populatedRows bundle).length }

end Admin
