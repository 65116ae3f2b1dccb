import Presto.Replay

/-!
# The phone: outbox, cache and synchronisation (`Repository.kt`)

| source (`Repository.kt`)                            | model                                |
|-----------------------------------------------------|--------------------------------------|
| `OutboxRow`, `outbox` (`Storage.kt:23`, `:49`)      | `OutboxRow`, `outboxOf`              |
| `commitEntry` (`:474`), the writing of the queue    | `commitEntry`                        |
| `retryBlocked` (`:925`)                             | `retryBlocked`                       |
| `repairBookkeepingRevisions` (`Diagnostics.kt:35`)  | `repairBookkeepingRevisions`         |
| `syncOnIo` (`:699`), its loop and its answers       | `attempt`, `receive`                 |
| `syncOnIo` (`:784`), the download                   | `fetch`                              |
| `syncOnIo` (`:786`), the merge                      | `mergeSnapshot`, `merge`             |
| `load` (`finance_read_model.rs:438`), recent rows   | `loadSnapshot`                       |

The phone and the server advance in steps. A request that was sent may reach the server at any later
time, any number of times or never, and an answer may be lost; the phone may stop between any two
steps. A page is read on the server in one step and merged into the cache in a later one, with any
steps of the server and of the phone between them. The queue lies in a database: it survives, the
running synchronisation does not.
-/

namespace Phone

open Server

/-! ## The queue -/

inductive RowStatus
  | pending
  | acknowledged
  | blocked
deriving DecidableEq

/-- `WritePayload`: the request of a queued entry, a creation or an edit. -/
inductive WritePayload
  | create (payload : WriteRequest)
  | edit (payload : EditRequest)
deriving DecidableEq

def WritePayload.request : WritePayload → Request
  | .create p => .create p
  | .edit p => .edit p

def WritePayload.operationId : WritePayload → OperationId
  | .create p => p.operationId
  | .edit p => p.transaction.operationId

def WritePayload.transactionId : WritePayload → TransactionId
  | .create p => p.transactionId
  | .edit p => p.transaction.transactionId

def WritePayload.editing : WritePayload → Bool
  | .create _ => false
  | .edit _ => true

/-- The revision of an entry when the answer names none. -/
def WritePayload.expectedRevision : WritePayload → Nat
  | .create _ => 1
  | .edit p => p.expectedRevision + 1

/-- A transaction as the phone shows it. -/
structure CachedTransaction where
  row : LedgerRow
  occurredAt : Option Timestamp
  revision : Nat
  incomeTreatment : Option Treatment
  expectedIncomeMonth : Option Month
  hasCategoryCorrection : Bool
  pending : Bool
deriving DecidableEq

def CachedTransaction.id (t : CachedTransaction) : TransactionId := t.row.id

/-- A row of the `outbox` table. The list of rows is in `rowid` order. -/
structure OutboxRow where
  payload : WritePayload
  optimistic : CachedTransaction
  original : Option CachedTransaction
  createdAt : Timestamp
  status : RowStatus
  confirmedRevision : Option Nat
deriving DecidableEq

def OutboxRow.id (row : OutboxRow) : OperationId := row.payload.operationId
def OutboxRow.transactionId (row : OutboxRow) : TransactionId := row.payload.transactionId

/-- `SELECT * FROM outbox ORDER BY createdAt, rowid`. -/
def outboxOf (rows : List OutboxRow) : List OutboxRow :=
  rows.insertionSort fun a b => a.createdAt ≤ b.createdAt

/-- `@Update`: the row with that id is replaced, if it is there. -/
def updateRow (row : OutboxRow) (rows : List OutboxRow) : List OutboxRow :=
  rows.map fun r => if r.id = row.id then row else r

def removeRow (id : OperationId) (rows : List OutboxRow) : List OutboxRow :=
  rows.filter fun r => r.id ≠ id

/-- What `commitEntry` writes to the queue: the new row, and the removal of the blocked row that it
replaces. -/
def commitEntry (rows : List OutboxRow) (row : OutboxRow) (replaces : Option OperationId) :
    Except String (List OutboxRow) := do
  Except.ensure (∀ r ∈ rows, r.transactionId = row.transactionId → some r.id = replaces)
    "This transaction already has a pending write."
  Except.ensure (∀ r ∈ rows, r.id ≠ row.id) "UNIQUE constraint failed"
  match replaces with
  | none => return rows ++ [row]
  | some id => do
    Except.ensure (∃ r ∈ rows, r.id = id ∧ r.status = .blocked)
      "The failed operation changed. Review it again."
    return removeRow id (rows ++ [row])

def retryBlocked (id : OperationId) (rows : List OutboxRow) : List OutboxRow :=
  rows.map fun r => if r.id = id ∧ r.status = .blocked then { r with status := .pending } else r

/-- `realAccountIds` (`Entry.kt`). -/
def realAccountIds (t : CachedTransaction) : List AccountId :=
  match t.row.kind with
  | .expense => t.row.fromAccountId.toList
  | .income => t.row.toAccountId.toList
  | .transfer => t.row.fromAccountId.toList ++ t.row.toAccountId.toList
  | .reallocate | .reconciliation => []

/-- The revision list of an edit without the accounts that are not real, when that is all that is
wrong with it. -/
def repairedRevisions (needed : List AccountId) (before : List (AccountId × Nat)) :
    Option (List (AccountId × Nat)) :=
  let after := before.filter fun e => e.1 ∈ needed
  if after.length = before.length ∨ ¬ (∀ a ∈ needed, a ∈ after.map (·.1)) then none else some after

def repairBookkeepingRevisions (row : OutboxRow) : Option OutboxRow :=
  match row.payload, row.original, row.status with
  | .edit p, some original, .blocked =>
    (repairedRevisions (realAccountIds original ++ realAccountIds row.optimistic)
      p.expectedAccountRevisions).map fun revisions => { row with
        payload := .edit { p with expectedAccountRevisions := revisions }, status := .pending }
  | _, _, _ => none

/-! ## The cache -/

/-- The recent transactions of a snapshot, and how many there are in all. -/
structure Snapshot where
  recentTransactions : List CachedTransaction
  transactionCount : Nat
deriving DecidableEq

/-- `TRANSACTION_SELECT`, the columns of this model. -/
def cachedTransaction (db : Database) (id : TransactionId) (t : Transaction) : CachedTransaction where
  row := t.row id
  occurredAt := t.occurredAt
  revision := t.revision
  incomeTreatment := (db.receipts.lookup id).map (·.treatment)
  expectedIncomeMonth := (db.receipts.lookup id).bind (·.expectedMonth)
  hasCategoryCorrection := db.corrections.entries.any fun e => e.2.originalTransactionId = id
  pending := false

/-- `count` of `snapshot` (`Api.kt`). -/
def recentCount : Nat := 200

/-- `ORDER BY t.source_row DESC LIMIT ?`, `order` being the ids by falling `source_row`. -/
def loadSnapshot (db : Database) (order : List TransactionId) : Snapshot where
  recentTransactions := (order.filterMap fun id =>
    (db.transactions.lookup id).map (cachedTransaction db id)).take recentCount
  transactionCount := db.transactions.entries.length

/-- `associateBy { it.id }`: of two with one id the later one, in the place of the earlier. -/
def associateById (ts : List CachedTransaction) : List CachedTransaction :=
  ts.foldl (fun acc t =>
    if t.id ∈ acc.map (·.id) then acc.map fun u => if u.id = t.id then t else u else acc ++ [t]) []

/-- The acknowledged entries, as the server is taken to have them. -/
def confirmedLocal (rows : List OutboxRow) : List CachedTransaction :=
  associateById ((rows.filter fun r => r.status = .acknowledged).map fun r =>
    { r.optimistic with pending := false, revision := r.confirmedRevision.getD 1 })

/-- Old rows stay, unless the download is complete; acknowledged and downloaded rows replace them. -/
def mergeSnapshot (old : Option Snapshot) (rows : List OutboxRow) (fresh : Snapshot) : Snapshot :=
  let latest := fresh.recentTransactions.map (·.id)
  let confirmed := confirmedLocal rows
  let retained := if fresh.transactionCount ≤ fresh.recentTransactions.length then []
    else (old.map (·.recentTransactions)).getD []
  let kept := retained.filter fun t => t.id ∉ latest ∧ t.id ∉ confirmed.map (·.id)
  let unlisted := confirmed.filter fun t => t.id ∉ latest ∧
    fresh.recentTransactions.length < fresh.transactionCount
  let merged := kept ++ unlisted ++ fresh.recentTransactions
  { fresh with recentTransactions :=
      merged.insertionSort fun a b => b.row.effectiveDate ≤ a.row.effectiveDate }

/-! ## The two sides -/

structure Session where
  accessToken : Nat
  subject : Subject
deriving DecidableEq

/-- What a request of the phone ends in: the `i`-th success that the server has given, an HTTP
failure, or anything else. -/
inductive Reply
  | answered (i : Nat)
  | failure (status : Nat)
  | exception
deriving DecidableEq

/-- A rejection that another try would meet again. -/
def Reply.blocks : Reply → Bool
  | .failure status => 400 ≤ status && status ≤ 499 && status ∉ [401, 408, 429]
  | _ => false

/-- How the loop over the pending rows ended. -/
inductive LoopEnd
  | finished
  | broke (reply : Reply)
  | sessionChanged
  | stopped
deriving DecidableEq

/-- A running synchronisation; `page` is `fresh`, once it has arrived, `queue` and `attempted` are
its rows so far. -/
structure Pass where
  session : Session
  remaining : List OutboxRow
  waiting : Option OutboxRow
  downloading : Bool
  page : Option Snapshot
  queue : List OutboxRow
  attempted : List OutboxRow

/-- What is left of a synchronisation. -/
structure PassRecord where
  queue : List OutboxRow
  attempted : List OutboxRow
  ended : LoopEnd

structure World where
  db : Database
  today : Date
  /-- The transactions of the server by falling `source_row`. -/
  order : List TransactionId
  rows : List OutboxRow
  cache : Option Snapshot
  session : Option Session
  pass : Option Pass
  /-- Every request that was ever sent. -/
  sent : List (Subject × WritePayload)
  /-- Every success that the server has answered with. -/
  answers : List (WritePayload × Response)
  /-- The operations that the server has carried out, with their payloads. -/
  applied : List (OperationId × Option Fingerprint)
  passes : List PassRecord

inductive Action
  | commitEntry (payload : WritePayload) (optimistic : CachedTransaction)
      (original : Option CachedTransaction) (createdAt : Timestamp) (replaces : Option OperationId)
  | retryBlocked (id : OperationId)
  | start
  | signIn (session : Session)
  | signOut
  | beginSync
  | attempt
  | receive (reply : Reply)
  | fetch (arrives : Bool)
  | merge
  | stop
  | server (i : Nat) (clock : Clock)
  | others (call : Call)

/-- The row that `writeEntry` and `commitEntry` make. -/
def entryRow (payload : WritePayload) (optimistic : CachedTransaction)
    (original : Option CachedTransaction) (createdAt : Timestamp) : OutboxRow where
  payload := payload
  optimistic :=
    { optimistic with row := { optimistic.row with id := payload.transactionId }, pending := true }
  original := original
  createdAt := createdAt
  status := .pending
  confirmedRevision := none

/-- New transactions have the highest `source_row`; deleted ones lose theirs. -/
def nextOrder (db : Database) (order : List TransactionId) : List TransactionId :=
  db.transactions.keys.filter (fun id => id ∉ order) ++
    order.filter fun id => (db.transactions.lookup id).isSome

/-- The server answers a call, if its clock has not gone back. -/
def serve (w : World) (call : Call) : World × Option Response :=
  if call.clock.today.Valid ∧ w.today ≤ call.clock.today then
    match handle w.db call with
    | .ok (db, response) =>
      let w' := { w with db := db, today := call.clock.today, order := nextOrder db w.order }
      match call.request.operationId with
      | some id =>
        -- an operation that is recorded already is answered, not carried out
        if (w.db.operations.lookup id).isNone then
          ({ w' with applied := (id, call.request.fingerprint) :: w.applied }, some response)
        else (w', some response)
      | none => (w', some response)
    | .error _ => (w, none)
  else (w, none)

/-- The loop over the pending rows ends; the download follows when the session is still the same. -/
def endLoop (w : World) (pass : Pass) (ended : LoopEnd) : World :=
  { w with
    pass := if w.session = some pass.session then
      some { pass with waiting := none, downloading := true } else none
    passes := ⟨pass.queue, pass.attempted, ended⟩ :: w.passes }

/-- One turn of the loop over the rows (`Repository.kt:732`). -/
def attempt (w : World) (pass : Pass) : World :=
  match pass.remaining with
  | [] => endLoop w pass .finished
  | row :: rest =>
    if w.session ≠ some pass.session then endLoop w pass .sessionChanged
    else if row.status ≠ .pending then { w with pass := some { pass with remaining := rest } }
    else { w with
      sent := w.sent ++ [(pass.session.subject, row.payload)]
      pass := some { pass with
        remaining := rest, waiting := some row, attempted := pass.attempted ++ [row] } }

/-- The revision that an answer names (`response["revision"]`). -/
def revisionOf : Response → Option Nat
  | .updated _ _ revision _ _ => some revision
  | _ => none

/-- The end of a request (`Repository.kt:740-782`). -/
def receive (w : World) (pass : Pass) (row : OutboxRow) (reply : Reply) : World :=
  match reply with
  | .answered i =>
    match w.answers[i]? with
    | some (payload, response) =>
      if payload = row.payload then
        { w with
          rows := updateRow { row with
            status := .acknowledged
            confirmedRevision := some ((revisionOf response).getD row.payload.expectedRevision) }
            w.rows
          pass := some { pass with waiting := none } }
      else w
    | none => w
  | reply =>
    if reply = .failure 401 then
      -- `expire` forgets the session when it is still the same
      let w' := if w.session = some pass.session then { w with session := none } else w
      endLoop w' pass (.broke reply)
    else if reply.blocks then
      { w with
        rows := updateRow { row with status := .blocked } w.rows
        pass := some { pass with waiting := none } }
    else endLoop { w with rows := updateRow { row with status := .pending } w.rows } pass
      (.broke reply)

/-- The snapshot is read on the server and arrives, or the synchronisation is over. -/
def fetch (w : World) (pass : Pass) (arrives : Bool) : World :=
  { w with
    pass := if arrives then some { pass with page := some (loadSnapshot w.db w.order) } else none }

/-- The snapshot that arrived is merged into the cache as it is by now, and the acknowledged rows
leave the queue. -/
def merge (w : World) (fresh : Snapshot) : World :=
  { w with
    cache := some (mergeSnapshot w.cache (outboxOf w.rows) fresh)
    rows := w.rows.filter fun r => r.status ≠ .acknowledged
    pass := none }

def step (w : World) : Action → World
  | .commitEntry payload optimistic original createdAt replaces =>
    let row := entryRow payload optimistic original createdAt
    match commitEntry w.rows row replaces with
    | .ok rows => { w with rows := rows }
    | .error _ => w
  | .retryBlocked id => { w with rows := retryBlocked id w.rows }
  | .start =>
    -- a new process: nothing is running yet
    match w.pass with
    | none => { w with rows := w.rows.map fun r => (repairBookkeepingRevisions r).getD r }
    | some _ => w
  | .signIn session => { w with session := some session }
  | .signOut => { w with session := none }
  | .beginSync =>
    match w.pass, w.session with
    | none, some session =>
      let operations := outboxOf w.rows
      let pending := operations.filter fun r => r.status = .pending
      { w with pass := some ⟨session, operations, none, false, none, pending, []⟩ }
    | _, _ => w
  | .attempt =>
    match w.pass with
    | some pass =>
      if pass.waiting.isNone ∧ pass.downloading = false then attempt w pass else w
    | none => w
  | .receive reply =>
    match w.pass with
    | some pass =>
      match pass.waiting with
      | some row => receive w pass row reply
      | none => w
    | none => w
  | .fetch arrives =>
    match w.pass with
    | some pass => if pass.downloading ∧ pass.page.isNone then fetch w pass arrives else w
    | none => w
  | .merge =>
    match w.pass with
    | some pass =>
      match pass.page with
      | some fresh => merge w fresh
      | none => w
    | none => w
  | .stop =>
    match w.pass with
    | some pass => { w with
        pass := none
        passes := if pass.downloading then w.passes
          else ⟨pass.queue, pass.attempted, .stopped⟩ :: w.passes }
    | none => w
  | .server i clock =>
    match w.sent[i]? with
    | some (subject, payload) =>
      match serve w ⟨clock, subject, payload.request⟩ with
      | (w', some response) => { w' with answers := w'.answers ++ [(payload, response)] }
      | (w', none) => w'
    | none => w
  | .others call => (serve w call).1

/-- A phone with an empty queue, next to an imported database. -/
def World.initial (today : Date) (db : Database) : World where
  db := db
  today := today
  order := db.transactions.keys
  rows := []
  cache := none
  session := none
  pass := none
  sent := []
  answers := []
  applied := []
  passes := []

def run (w : World) (actions : List Action) : World := actions.foldl step w

end Phone
