import Presto.Server.Auth
import Mathlib.Data.List.Sort

/-!
# Partner notifications (`push.rs`)

| source (`push.rs`)                          | model                               |
|---------------------------------------------|-------------------------------------|
| `push_devices`, `push_outbox` (`0016`)      | `Device`, `Event`                   |
| `register` (`:20`)                          | `register`                          |
| `enqueue` (`:41`)                           | `enqueue`                           |
| `remaining_ttl` (`:226`)                    | `remainingTtl`                      |
| `retry_after`, `retry_delay` (`:239`)       | `retryAfter`, `retryDelay`          |
| `classify_failure` (`:264`), `send` (`:187`)| `classifyFailure`, `deliver`        |
| `current_device` (`:289`)                   | `currentDevice`                     |
| `drain` (`:306`)                            | `Worker`, and its actions in `step` |
| logout (`server.rs:704`)                    | `revoke`                            |
| `remove_push_device` (`server.rs:751`)      | `removeDevice`                      |
| `create_db_transaction` (`server.rs:3584`)  | `.operate`, `.commit`, `.rollback`  |

Each action is one SQL statement, or one transaction, so that requests fall between any two statements
of a drain pass. A transaction that writes keeps other writers waiting and is read by nobody until it
commits. There is one worker; an event gets the next number for its random id.
-/

namespace Server.Push

open Auth (PocketSession)

/-! ## Tables -/

/-- A row of `push_devices`, under its `installation_id`. -/
structure Device where
  subject : String
  sessionHash : String
  token : String
  updatedAt : Int
deriving DecidableEq

/-- A row of `push_outbox`. -/
structure Event where
  eventId : Nat
  operationId : String
  transactionId : String
  title : String
  body : String
  installationId : String
  recipientSubject : String
  sessionHash : String
  createdAt : Int
  nextAttemptAt : Int
  attempts : Nat
deriving DecidableEq

structure Store where
  sessions : Table String PocketSession
  devices : Table String Device
  outbox : List Event

/-- `JOIN pocket_sessions`: the session of this hash belongs to the subject and has not expired. -/
def isLive (sessions : Table String PocketSession) (sessionHash subject : String) (now : Int) :
    Bool :=
  (sessions.lookup sessionHash).any fun s => decide (s.subject = subject) && decide (now < s.expiresAt)

/-! ## Devices and sessions -/

/-- `register`: a token that another installation has is taken from it. -/
def register (installation token subject session : String) (now : Int) (store : Store) : Store :=
  let others := store.devices.retain fun id d => !(decide (d.token = token) && decide (id ≠ installation))
  { store with devices := others.insert installation ⟨subject, session, token, now⟩ }

def removeDevice (installation subject session : String) (store : Store) : Store :=
  { store with devices := store.devices.retain fun id d =>
      !(decide (id = installation) && decide (d.subject = subject) && decide (d.sessionHash = session)) }

/-- `revoke_pocket_session_in`: a logout. -/
def revoke (idHash : String) (store : Store) : Store :=
  { store with
    devices := store.devices.retain fun _ d => decide (d.sessionHash ≠ idHash)
    sessions := store.sessions.erase idHash }

/-- `create_pocket_session_in`. -/
def signIn (idHash subject username : String) (now : Int) (store : Store) : Store :=
  let live := store.sessions.retain fun _ row => decide (now < row.expiresAt)
  { store with sessions :=
      live.insert idHash ⟨subject, username, now + Auth.SESSION_TTL_SECONDS, now⟩ }

/-! ## Enqueueing -/

/-- What an operation announces. -/
structure Message where
  operation : String
  transaction : String
  actor : String
  title : String
  body : String
deriving DecidableEq

/-- The devices of others with a live session. -/
def recipients (store : Store) (actor : String) (now : Int) : List (String × Device) :=
  (store.devices.entries.filter fun e => decide (e.2.subject ≠ actor) &&
    isLive store.sessions e.2.sessionHash e.2.subject now).map fun e => (e.1, e.2)

/-- `INSERT INTO push_outbox .. ON CONFLICT(operation_id, installation_id) DO NOTHING`. -/
def insertEvent (e : Event) (outbox : List Event) : List Event :=
  if outbox.any fun o => decide (o.operationId = e.operationId) &&
      decide (o.installationId = e.installationId) then outbox
  else outbox ++ [e]

def newEvent (id : Nat) (m : Message) (now : Int) (r : String × Device) : Event where
  eventId := id
  operationId := m.operation
  transactionId := m.transaction
  title := String.ofList (m.title.toList.take 100)
  body := String.ofList (m.body.toList.take 250)
  installationId := r.1
  recipientSubject := r.2.subject
  sessionHash := r.2.sessionHash
  createdAt := now
  nextAttemptAt := now
  attempts := 0

/-- One turn of the loop over the recipients; every allowed one draws an id. -/
def enqueueStep (allowed : List String) (m : Message) (now : Int) (acc : List Event × Nat)
    (r : String × Device) : List Event × Nat :=
  if r.2.subject ∈ allowed then (insertEvent (newEvent acc.2 m now r) acc.1, acc.2 + 1) else acc

/-- `enqueue`, from the next free id on. -/
def enqueue (allowed : List String) (m : Message) (now : Int) (store : Store) (next : Nat) :
    Store × Nat :=
  let result := (recipients store m.actor now).foldl (enqueueStep allowed m now) (store.outbox, next)
  ({ store with outbox := result.1 }, result.2)

/-! ## Statements of a drain pass -/

/-- The device that an event belongs to. -/
def ownerOf (store : Store) (e : Event) (now : Int) : Option Device :=
  (store.devices.lookup e.installationId).filter fun d =>
    decide (d.subject = e.recipientSubject) && decide (d.sessionHash = e.sessionHash) &&
      isLive store.sessions d.sessionHash d.subject now

/-- The first statement: events that are too old, were tried too often or lost their device. -/
def purge (now : Int) (store : Store) : Store :=
  { store with outbox := store.outbox.filter fun e =>
      !(decide (e.createdAt ≤ now - 86400) || decide (12 ≤ e.attempts) || (ownerOf store e now).isNone) }

/-- `ORDER BY next_attempt_at, created_at LIMIT 20`. -/
def due (now : Int) (store : Store) : List Event :=
  ((store.outbox.filter fun e => e.nextAttemptAt ≤ now).insertionSort fun a b =>
    a.nextAttemptAt < b.nextAttemptAt ∨
      (a.nextAttemptAt = b.nextAttemptAt ∧ a.createdAt ≤ b.createdAt)).take 20

def deleteEvent (id : Nat) (store : Store) : Store :=
  { store with outbox := store.outbox.filter fun e => e.eventId ≠ id }

/-- `current_device`. -/
def currentDevice (store : Store) (id : Nat) (now : Int) : Option String :=
  (store.outbox.find? fun e => e.eventId = id).bind fun e =>
    if now - 86400 < e.createdAt ∧ e.attempts < 12 then (ownerOf store e now).map (·.token) else none

/-- `DELETE FROM push_devices WHERE installation_id=? AND token=?`. -/
def dropDevice (installation token : String) (store : Store) : Store :=
  { store with devices := store.devices.retain fun id d =>
      !(decide (id = installation) && decide (d.token = token)) }

/-- An addition of two `i64`. -/
def saturatingAdd (a b : Int) : Int := max (-2 ^ 63) (min (2 ^ 63 - 1) (a + b))

/-- `attempts=attempts+1,next_attempt_at=?`. -/
def retryEvent (id : Nat) (later : Int) (store : Store) : Store :=
  { store with outbox := store.outbox.map fun e =>
      if e.eventId = id then { e with attempts := e.attempts + 1, nextAttemptAt := later } else e }

/-- Without authentication the due events wait; the first one counts an attempt. -/
def deferEvents (id : Nat) (later now : Int) (store : Store) : Store :=
  { store with outbox := store.outbox.map fun e =>
      if e.nextAttemptAt ≤ now then
        { e with attempts := e.attempts + (if e.eventId = id then 1 else 0), nextAttemptAt := later }
      else e }

/-- The last statement: devices without a live session. -/
def dropStale (now : Int) (store : Store) : Store :=
  { store with devices := store.devices.retain fun _ d =>
      (store.sessions.lookup d.sessionHash).any fun s => now < s.expiresAt }

/-! ## Delivery -/

inductive Delivery
  | sent
  | invalidDevice
  | permanentFailure
  | retry (minimum : Int)
deriving DecidableEq

/-- What the provider answers: nothing, or a status with its FCM error codes and `retry-after`. -/
inductive Answer
  | lost
  | response (status : Nat) (codes : List String) (after : Option Int)
deriving DecidableEq

def remainingTtl (expiresAt now : Int) : Option Int :=
  if 0 < saturatingAdd expiresAt (-now) then some (min (saturatingAdd expiresAt (-now)) 86400) else none

def retryAfter (seconds : Option Int) : Int := max (seconds.getD 60) 60

/-- `retry_delay`, with the random number it draws. -/
def retryDelay (minimum : Int) (attempts : Nat) (random : Nat) : Int :=
  let base : Int := 60 * 2 ^ min attempts 8
  saturatingAdd (max minimum base) (random % (base / 2 + 1))

def classifyFailure (status : Nat) (codes : List String) (minimum : Int) : Delivery :=
  if "UNREGISTERED" ∈ codes then .invalidDevice
  else if "SENDER_ID_MISMATCH" ∈ codes ∨ status = 400 ∨ status = 403 ∨ status = 404 then
    .permanentFailure
  else if status = 401 ∨ status = 429 ∨ 500 ≤ status then .retry minimum
  else .permanentFailure

def deliver : Answer → Delivery
  | .lost => .retry 60
  | .response status codes after =>
    if 200 ≤ status ∧ status < 300 then .sent
    else classifyFailure status codes (retryAfter after)

/-! ## The system -/

/-- An ownership check that found a device: the row that is delivered, the token, and what the check
read. -/
structure Checked where
  row : Event
  token : String
  now : Int
  store : Store

/-- Where the worker is in `drain`; `start` is the time that the pass began at. -/
inductive Worker
  | idle
  | purged (start : Int)
  | batch (start : Int) (rows : List Event)
  | authenticated (start : Int) (row : Event) (rows : List Event)
  | owned (start : Int) (check : Checked) (rows : List Event)
  | answered (start : Int) (check : Checked) (delivery : Delivery) (rows : List Event)
  | orphaned (start : Int) (row : Event) (rows : List Event)
  | closing (start : Int)

/-- An operation that has not committed: the tables as it leaves them. -/
structure Pending where
  operation : String
  actor : String
  store : Store

/-- The tables, the open transaction, the committed operations with their actors, the next event id,
the worker, and every message handed to the provider. -/
structure State where
  store : Store
  pending : Option Pending
  operations : Table String String
  nextEvent : Nat
  worker : Worker
  sends : List Checked

def initial : State := ⟨⟨∅, ∅, []⟩, none, ∅, 0, .idle, []⟩

inductive Action
  | signIn (idHash subject username : String) (now : Int)
  | logout (idHash : String)
  | register (installation token subject session : String) (now : Int)
  | removeDevice (installation subject session : String)
  | operate (message : Message) (now : Int)
  | commit
  | rollback
  | drain (now : Int)
  | select
  | authenticate (failure : Option (Int × Int × Nat))
  | checkOwner (now : Int)
  | send (now : Int) (answer : Answer)
  | record (now : Int) (random : Nat)
  | close

/-- A write by anyone but the open transaction, which it has to wait for. -/
def write (s : State) (f : Store → Store) (worker : Worker) : Option State :=
  match s.pending with
  | some _ => none
  | none => some { s with store := f s.store, worker := worker }

/-- The time `send` gives an event. -/
def deadline (e : Event) : Int := saturatingAdd e.createdAt 86400

/-- One action, when it is possible. -/
def step (allowed : List String) (s : State) : Action → Option State
  | .signIn idHash subject username now =>
    match s.store.sessions.lookup idHash with
    | some _ => none
    | none => write s (Push.signIn idHash subject username now) s.worker
  | .logout idHash => write s (revoke idHash) s.worker
  | .register installation token subject session now =>
    write s (Push.register installation token subject session now) s.worker
  | .removeDevice installation subject session =>
    write s (Push.removeDevice installation subject session) s.worker
  | .operate m now =>
    match s.pending, s.operations.lookup m.operation with
    | none, none =>
      let result := enqueue allowed m now s.store s.nextEvent
      some { s with pending := some ⟨m.operation, m.actor, result.1⟩, nextEvent := result.2 }
    | _, _ => none
  | .commit => s.pending.map fun p =>
      { s with
        store := p.store
        pending := none
        operations := s.operations.insert p.operation p.actor }
  | .rollback => s.pending.map fun _ => { s with pending := none }
  | .drain now =>
    match s.worker with
    | .idle => write s (purge now) (.purged now)
    | _ => none
  | .select =>
    match s.worker with
    | .purged start => some { s with worker := .batch start (due start s.store) }
    | _ => none
  | .authenticate failure =>
    match s.worker with
    | .batch start [] => some { s with worker := .closing start }
    | .batch start (row :: rows) =>
      if row.recipientSubject ∈ allowed then
        match failure with
        | none => some { s with worker := .authenticated start row rows }
        | some (before, now, random) =>
          write s (deferEvents row.eventId
            (saturatingAdd before (retryDelay 60 row.attempts random)) now) (.closing start)
      else write s (deleteEvent row.eventId) (.batch start rows)
    | _ => none
  | .checkOwner now =>
    match s.worker with
    | .authenticated start row rows =>
      match currentDevice s.store row.eventId now with
      | some token => some { s with worker := .owned start ⟨row, token, now, s.store⟩ rows }
      | none => some { s with worker := .orphaned start row rows }
    | _ => none
  | .send now answer =>
    match s.worker with
    | .owned start check rows =>
      match remainingTtl (deadline check.row) now with
      | some _ =>
        some { s with
          worker := .answered start check (deliver answer) rows
          sends := s.sends ++ [check] }
      | none => some { s with worker := .answered start check .permanentFailure rows }
    | _ => none
  | .record now random =>
    match s.worker with
    | .answered start check .sent rows | .answered start check .permanentFailure rows =>
      write s (deleteEvent check.row.eventId) (.batch start rows)
    | .answered start check .invalidDevice rows =>
      write s (dropDevice check.row.installationId check.token) (.orphaned start check.row rows)
    | .answered start check (.retry minimum) rows =>
      write s (retryEvent check.row.eventId
        (saturatingAdd now (retryDelay minimum check.row.attempts random))) (.batch start rows)
    | .orphaned start row rows => write s (deleteEvent row.eventId) (.batch start rows)
    | _ => none
  | .close =>
    match s.worker with
    | .closing start => write s (dropStale start) .idle
    | _ => none

/-- The states that the actions lead to. -/
inductive Reachable (allowed : List String) : State → Prop
  | initial : Reachable allowed initial
  | step {s s' : State} (h : Reachable allowed s) (action : Action)
      (hstep : Push.step allowed s action = some s') : Reachable allowed s'

end Server.Push
