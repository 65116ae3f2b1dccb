import Mathlib.Data.List.Sort
import Mathlib.Data.String.Basic
import Presto.Phone.Entry
import Presto.Server.Backup

/-!
# Recovery snapshots on the phone (`Recovery.kt`)

| source (`Recovery.kt`)                   | model                                          |
|------------------------------------------|------------------------------------------------|
| `RecoveryInfo` (`:11`)                   | `RecoveryInfo`                                 |
| `validate` (`:62`)                       | `readField`, `requiredTables`, `validate`      |
| `saveFile` (`:180`)                      | `openSource`, then the tasks `chunk` to `delete` |
| `decryptedStream` (`:236`)               | `decrypted`                                    |
| `verify` (`:272`)                        | `verify`                                       |
| `generations` (`:301`)                   | `generations`                                  |
| `latestInfo`, `materialize` (`:308`, `:321`) | `latestInfo`, `materialize`                |
| `Repository.restore` (`Repository.kt:960`) | `restoreFile`                                |

The directory of one owner. A generation is written under a name that ends in `.partial` and is renamed
when it is complete; files appear whole (`atomicFile`). The phone may stop between any two steps. The
file that is streamed is a list of bytes here, read in chunks of any length.
-/

namespace Recovery

open Server.Backup (Json)

abbrev Bytes := List UInt8

/-- What is not the app's own code: `JsonReader` over a whole file, the int that it finds in a string and
the text that it gives for a number, SHA-256 in small hexadecimal digits, and the key store, which seals
under a nonce. -/
structure Platform where
  parse : Bytes → Option Json
  intIn : String → Option Int
  floatText : Rat → String
  sha256 : Bytes → String
  encrypt : String → Bytes → Bytes
  decrypt : Bytes → Option Bytes

/-! ## Validation -/

def intOf (x : Rat) : Except String Int :=
  if x.den = 1 ∧ -2 ^ 31 ≤ x.num ∧ x.num < 2 ^ 31 then .ok x.num else .error "Expected an int"

/-- `JsonReader.nextInt`. -/
def nextInt (platform : Platform) : Json → Except String Int
  | .integer n => intOf n
  | .float x => intOf x
  | .string s => Except.fromOption (platform.intIn s) "Expected an int"
  | _ => .error "Expected an int"

/-- `JsonReader.nextString`. -/
def nextString (platform : Platform) : Json → Except String String
  | .string s => .ok s
  | .integer n => .ok (toString n)
  | .float x => .ok (platform.floatText x)
  | _ => .error "Expected a string"

/-- `InterchangeMetadata`. -/
structure Metadata where
  schema : Int
  exportedAt : String
  watermark : Option String
  counts : List (String × Int)
deriving DecidableEq

/-- What the loop over the document has read. -/
structure Reading where
  format : Option Int
  schema : Option Int
  exported : Option String
  watermark : Option String
  sawWatermark : Bool
  counts : List (String × Int)
  actual : List (String × Int)

def Reading.start : Reading := ⟨none, none, none, none, false, [], []⟩

def readCount (platform : Platform) (counts : List (String × Int)) (table : String × Json) :
    Except String (List (String × Int)) := do
  Except.ensure (table.1 ∉ counts.map Prod.fst) "Failed requirement."
  let count ← nextInt platform table.2
  Except.ensure (0 ≤ count) "Failed requirement."
  return counts ++ [(table.1, count)]

def readTable (actual : List (String × Int)) (table : String × Json) :
    Except String (List (String × Int)) := do
  Except.ensure (table.1 ∉ actual.map Prod.fst) "Failed requirement."
  let rows ← Except.fromOption table.2.asArray "Expected BEGIN_ARRAY"
  Except.ensure ((rows.all fun row => row.asObject.isSome) = true) "Failed requirement."
  return actual ++ [(table.1, (rows.length : Int))]

def readMember (platform : Platform) (r : Reading) (name : String) (value : Json) :
    Except String Reading :=
  match name with
  | "interchangeFormatVersion" => (nextInt platform value).map fun n => { r with format := some n }
  | "databaseSchemaVersion" => (nextInt platform value).map fun n => { r with schema := some n }
  | "exportedAt" => (nextString platform value).map fun s => { r with exported := some s }
  | "operationWatermark" =>
    match value with
    | .null => .ok { r with sawWatermark := true }
    | value =>
      (nextString platform value).map fun s => { r with sawWatermark := true, watermark := some s }
  | "tableCounts" => do
    let tables ← Except.fromOption value.asObject "Expected BEGIN_OBJECT"
    let counts ← tables.foldlM (readCount platform) r.counts
    return { r with counts := counts }
  | "tables" => do
    let tables ← Except.fromOption value.asObject "Expected BEGIN_OBJECT"
    let actual ← tables.foldlM readTable r.actual
    return { r with actual := actual }
  | _ => .ok r

/-- A turn of the loop: no name twice. -/
def readField (platform : Platform) (acc : List String × Reading) (field : String × Json) :
    Except String (List String × Reading) := do
  Except.ensure (field.1 ∉ acc.1) "Duplicate recovery metadata."
  let r ← readMember platform acc.2 field.1 field.2
  return (field.1 :: acc.1, r)

/-- The tables that a snapshot of a schema version holds. -/
def requiredTables (schema : Int) : List String :=
  ["finance_accounts", "finance_account_opening_balances", "finance_categories",
    "category_budget_periods", "finance_transactions", "finance_transaction_revisions",
    "transaction_valuations", "transaction_valuation_source_cells", "budget_month_snapshots",
    "budget_month_closures", "budget_opening_state", "finance_exchange_rate_source_rows",
    "exchange_rates", "finance_account_actuals", "finance_account_balance_checkpoints",
    "finance_operations", "finance_category_corrections", "finance_category_correction_items",
    "reconciliation_batches", "reconciliation_items", "finance_import_runs",
    "finance_quarantined_rows", "finance_source_artifacts"] ++
  (if 11 ≤ schema then ["budget_income_expectations"] else []) ++
  (if 14 ≤ schema then ["budget_ledger_state", "budget_plan_income", "budget_income_receipts",
    "budget_ledger_movements", "budget_coverage_closures"] else [])

/-- Equal as sets. -/
def sameMembers {α : Type} [DecidableEq α] (l l' : List α) : Bool :=
  l.all (· ∈ l') && l'.all (· ∈ l)

/-- The checks after the loop. -/
def checkReading (r : Reading) : Except String Metadata := do
  let schema ← Except.fromOption
    (r.schema.filter fun schema => r.format = some 1 ∧ 1 ≤ schema ∧ schema ≤ 16)
    "Unsupported recovery format or schema."
  let exported ← Except.fromOption
    (r.exported.filter fun exported => Entry.isBlank exported = false ∧ r.sawWatermark = true)
    "Missing recovery metadata."
  Except.ensure (sameMembers (r.counts.map Prod.fst) (requiredTables schema) = true ∧
    sameMembers r.actual r.counts = true) "Incomplete finance table set or counts."
  return ⟨schema, exported, r.watermark, r.counts⟩

def validate (platform : Platform) (raw : Bytes) : Except String Metadata := do
  let json ← Except.fromOption (platform.parse raw) "Malformed JSON"
  let fields ← Except.fromOption json.asObject "Expected BEGIN_OBJECT"
  let acc ← fields.foldlM (readField platform) ([], Reading.start)
  checkReading acc.2

/-! ## Generations -/

structure RecoveryInfo where
  id : String
  createdAt : String
  sha256 : String
  byteLength : Int
  databaseSchemaVersion : Int
  exportedAt : String
  operationWatermark : Option String
  tableCounts : List (String × Int)
deriving DecidableEq

/-- The files of a directory: the chunks by their number, and `metadata.json`. -/
structure Generation where
  chunks : List (Nat × Bytes)
  info : Option RecoveryInfo
deriving DecidableEq

/-- `decryptedStream`, read to its end. -/
def decrypted (platform : Platform) (g : Generation) : Except String Bytes := do
  let chunks := g.chunks.insertionSort fun a b => a.1 ≤ b.1
  Except.ensure (chunks ≠ [] ∧ chunks.map Prod.fst = List.range chunks.length) "Failed requirement."
  let parts ← chunks.mapM fun chunk =>
    Except.fromOption (platform.decrypt chunk.2) "Encrypted file is incomplete."
  return parts.flatten

def verify (platform : Platform) (g : Generation) : Except String RecoveryInfo := do
  let info ← Except.fromOption g.info "metadata.json is missing."
  let raw ← decrypted platform g
  let metadata ← validate platform raw
  Except.ensure (platform.sha256 raw = info.sha256 ∧ (raw.length : Int) = info.byteLength)
    "Recovery digest mismatch."
  Except.ensure (metadata.schema = info.databaseSchemaVersion ∧
    metadata.exportedAt = info.exportedAt ∧ metadata.watermark = info.operationWatermark ∧
    sameMembers metadata.counts info.tableCounts = true) "Recovery metadata mismatch."
  return info

/-! ## The directory -/

/-- A save under way, its source already validated. -/
structure Save where
  id : String
  source : Bytes
  digest : String
  createdAt : String
  metadata : Metadata
deriving DecidableEq

def Save.info (save : Save) : RecoveryInfo :=
  ⟨save.id, save.createdAt, save.digest, save.source.length, save.metadata.schema,
    save.metadata.exportedAt, save.metadata.watermark, save.metadata.counts⟩

/-- The next step of a save. -/
inductive Task
  | chunk (save : Save) (index : Nat) (rest : Bytes)
  | describe (save : Save)
  | publish (save : Save)
  | list
  | delete (old : List String)
deriving DecidableEq

/-- The directory and the saves under way. The ids that were drawn, the saves that were published and
the generations that something else has changed are kept to speak about. -/
structure World where
  published : Table String Generation
  partials : Table String Generation
  tasks : List Task
  drawn : List String
  saved : List Save
  damaged : List String

/-- What a step reads: the id and the instant that a save draws, a nonce, how many bytes a read returns
and which file is deleted next. -/
structure Input where
  id : String
  createdAt : String
  nonce : String
  length : Nat
  choice : Nat

inductive Action
  | save (input : Input) (source : Bytes) (digest : String)
  | resume (task : Nat) (input : Input)
  | fail (task : Nat)
  | stop
  | damage (id : String) (generation : Generation)

/-- `saveFile`, up to the directory of the generation. -/
def openSource (platform : Platform) (input : Input) (source : Bytes) (digest : String) :
    Except String Save := do
  Except.ensure (Server.Auth.isCredentialId digest = true) "Missing recovery digest."
  Except.ensure ((source.length : Int) < 2 ^ 31) "Recovery snapshot is too large."
  let metadata ← validate platform source
  Except.ensure (platform.sha256 source = Server.Auth.toAsciiLowercase digest)
    "Recovery digest mismatch."
  return ⟨input.id, source, Server.Auth.toAsciiLowercase digest, input.createdAt, metadata⟩

/-- The published generations, newest first. -/
def generations (published : Table String Generation) : List String :=
  published.keys.insertionSort (· ≥ ·)

/-- Delete the file with a number. -/
def Generation.delete (g : Generation) (choice : Nat) : Generation :=
  if choice < g.chunks.length then { g with chunks := g.chunks.eraseIdx choice }
  else if g.info.isSome then { g with info := none }
  else { g with chunks := g.chunks.tail }

def World.abort (w : World) (tasks : List Task) (id : String) : World :=
  { w with partials := w.partials.erase id, tasks := tasks }

/-- One read of the source, sealed and read back. -/
def sealChunk (platform : Platform) (w : World) (tasks : List Task) (input : Input) (save : Save)
    (index : Nat) (rest : Bytes) : World :=
  if rest = [] then { w with tasks := .describe save :: tasks }
  else
    let length := max 1 (min input.length (64 * 1024))
    let chunk := rest.take length
    let encrypted := platform.encrypt input.nonce chunk
    if platform.decrypt encrypted = some chunk then { w with
      partials := w.partials.modify save.id fun g =>
        { g with chunks := g.chunks ++ [(index, encrypted)] }
      tasks := .chunk save (index + 1) (rest.drop length) :: tasks }
    else w.abort tasks save.id

/-- The verification of what was written, and the renaming. -/
def publish (platform : Platform) (w : World) (tasks : List Task) (save : Save) : World :=
  match w.partials.lookup save.id with
  | none => { w with tasks := tasks }
  | some g =>
    match verify platform g with
    | .error _ => w.abort tasks save.id
    | .ok _ =>
      { w with
        published := w.published.insert save.id g
        partials := w.partials.erase save.id
        tasks := .list :: tasks
        saved := save :: w.saved }

/-- `deleteRecursively` of the generations behind the newest eight: a file, or an empty directory. -/
def delete (w : World) (tasks : List Task) (input : Input) : List String → World
  | [] => { w with tasks := tasks }
  | id :: old =>
    match w.published.lookup id with
    | none => { w with tasks := .delete old :: tasks }
    | some g =>
      if g.chunks = [] ∧ g.info = none then { w with
        published := w.published.erase id
        tasks := .delete old :: tasks }
      else { w with
        published := w.published.insert id (g.delete input.choice)
        tasks := .delete (id :: old) :: tasks }

/-- The next step of a save, `tasks` being the others. -/
def resume (platform : Platform) (w : World) (tasks : List Task) (input : Input) : Task → World
  | .chunk save index rest => sealChunk platform w tasks input save index rest
  | .describe save => { w with
      partials := w.partials.modify save.id fun g => { g with info := some save.info }
      tasks := .publish save :: tasks }
  | .publish save => publish platform w tasks save
  | .list => { w with tasks := .delete ((generations w.published).drop 8) :: tasks }
  | .delete old => delete w tasks input old

/-- An exception deletes the directory that is not published yet. -/
def fail (w : World) (tasks : List Task) : Task → World
  | .chunk save _ _ => w.abort tasks save.id
  | .describe save => w.abort tasks save.id
  | .publish save => w.abort tasks save.id
  | .list => { w with tasks := tasks }
  | .delete _ => { w with tasks := tasks }

def step (platform : Platform) (w : World) : Action → World
  | .save input source digest =>
    if input.id ∈ w.drawn then w
    else match openSource platform input source digest with
      | .ok save => { w with
          partials := w.partials.insert save.id ⟨[], none⟩
          tasks := .chunk save 0 source :: w.tasks
          drawn := input.id :: w.drawn }
      | .error _ => w
  | .resume task input =>
    match w.tasks[task]? with
    | some t => resume platform w (w.tasks.eraseIdx task) input t
    | none => w
  | .fail task =>
    match w.tasks[task]? with
    | some t => fail w (w.tasks.eraseIdx task) t
    | none => w
  | .stop => { w with tasks := [] }
  | .damage id g => { w with
      published := w.published.modify id fun _ => g
      damaged := id :: w.damaged }

def World.initial : World := ⟨∅, ∅, [], [], [], []⟩

def run (platform : Platform) (actions : List Action) : World :=
  actions.foldl (step platform) World.initial

/-! ## Reading -/

/-- `latestInfo`: generations that do not verify are passed over. -/
def latestInfo (platform : Platform) (published : Table String Generation) : Option RecoveryInfo :=
  (generations published).findSome? fun id =>
    (published.lookup id).bind fun g => (verify platform g).toOption

def materialize (platform : Platform) (published : Table String Generation) (info : RecoveryInfo) :
    Except String Bytes := do
  let g ← Except.fromOption (published.lookup info.id) "Recovery is missing."
  let _ ← verify platform g
  decrypted platform g

/-- `Repository.restore` up to the request: the snapshot and the digest that are uploaded. -/
def restoreFile (platform : Platform) (published : Table String Generation) :
    Except String (Bytes × String) := do
  let info ← Except.fromOption (latestInfo platform published)
    "No verified recovery snapshot is available."
  let raw ← materialize platform published info
  return (raw, info.sha256)

end Recovery
