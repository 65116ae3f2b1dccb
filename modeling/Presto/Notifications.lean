import Presto.Server.Push

/-!
# Who is notified

The invariant of the notification system keeps three counts together: the messages that were handed to
the provider for an event, the attempts that its row records, and whether the worker is between a
message and the statement that records it (`OutboxOk.counted`). Rows change in their attempts only, so
what the worker read of a row stays true of it.
-/

namespace Server.Push

variable {allowed : List String}

/-! ## What is kept of a row -/

/-- A row without what retries change. -/
def Event.core (e : Event) : Event := { e with nextAttemptAt := 0, attempts := 0 }

theorem core_eq {e e' : Event} (h : e.core = e'.core) :
    e.eventId = e'.eventId ∧ e.operationId = e'.operationId ∧
      e.installationId = e'.installationId ∧ e.recipientSubject = e'.recipientSubject ∧
      e.sessionHash = e'.sessionHash ∧ e.createdAt = e'.createdAt := by
  cases e
  cases e'
  simp only [Event.core, Event.mk.injEq] at h
  obtain ⟨hid, hop, -, -, -, hi, hr, hs, hc, -⟩ := h
  exact ⟨hid, hop, hi, hr, hs, hc⟩

/-- The row belongs to a committed operation, and goes to somebody else than its actor. -/
def Addressed (operations : Table String String) (e : Event) : Prop :=
  ∃ actor, operations.lookup e.operationId = some actor ∧ e.recipientSubject ≠ actor

theorem Addressed.insert {operations : Table String String} {e : Event}
    (h : Addressed operations e) {operation : String} (hnew : operations.lookup operation = none)
    (actor : String) : Addressed (operations.insert operation actor) e := by
  obtain ⟨a, ha, hne⟩ := h
  refine ⟨a, ?_, hne⟩
  rw [AList.lookup_insert_of, if_neg]
  · exact ha
  · rintro rfl
    rw [hnew] at ha
    cases ha

/-- The messages sent for an event. -/
def sent (sends : List Checked) (id : Nat) : Nat := sends.countP fun c => c.row.eventId = id

theorem sent_append (sends : List Checked) (c : Checked) (id : Nat) :
    sent (sends ++ [c]) id = sent sends id + if c.row.eventId = id then 1 else 0 := by
  simp [sent, List.countP_append, List.countP_cons]

theorem sent_eq_zero {sends : List Checked} {id : Nat}
    (h : ∀ c ∈ sends, c.row.eventId < id) : sent sends id = 0 := by
  refine List.countP_eq_zero.2 fun c hc => ?_
  have := h c hc
  simp only [decide_eq_true_eq]
  omega

/-- The device that was found was the recipient's, with the session of the event, which was live, and
the event was less than a day old. -/
structure Checked.Valid (c : Checked) : Prop where
  device : ∃ d, c.store.devices.lookup c.row.installationId = some d ∧ d.token = c.token ∧
    d.subject = c.row.recipientSubject ∧ d.sessionHash = c.row.sessionHash
  session : ∃ s, c.store.sessions.lookup c.row.sessionHash = some s ∧
    s.subject = c.row.recipientSubject ∧ c.now < s.expiresAt
  fresh : c.now < c.row.createdAt + 86400

/-! ## The worker -/

namespace Worker

/-- The rows that the worker still holds, the current one first. -/
def rows : Worker → List Event
  | .idle => []
  | .purged _ => []
  | .batch _ rows => rows
  | .authenticated _ row rows => row :: rows
  | .owned _ check rows => check.row :: rows
  | .answered _ check _ rows => check.row :: rows
  | .orphaned _ row rows => row :: rows
  | .closing _ => []

/-- One while a message for the event may not have been recorded. -/
def answering (worker : Worker) (id : Nat) : Nat :=
  match worker with
  | .answered _ check _ _ => if check.row.eventId = id then 1 else 0
  | .orphaned _ row _ => if row.eventId = id then 1 else 0
  | _ => 0

/-- The ownership check that the worker relies on. -/
def check : Worker → Option Checked
  | .owned _ check _ => some check
  | .answered _ check _ _ => some check
  | _ => none

end Worker

/-! ## The outbox -/

/-- What holds of an outbox under the committed operations. -/
structure OutboxOk (operations : Table String String) (next : Nat) (worker : Worker)
    (sends : List Checked) (outbox : List Event) : Prop where
  ids : (outbox.map (·.eventId)).Nodup
  numbered : ∀ e ∈ outbox, e.eventId < next
  once : ∀ e ∈ outbox, ∀ e' ∈ outbox, e.operationId = e'.operationId →
    e.installationId = e'.installationId → e = e'
  addressed : ∀ e ∈ outbox, Addressed operations e
  core : ∀ r ∈ worker.rows, ∀ e ∈ outbox, e.eventId = r.eventId → e.core = r.core
  counted : ∀ e ∈ outbox, sent sends e.eventId ≤ e.attempts + worker.answering e.eventId

namespace OutboxOk

variable {operations operations' : Table String String} {next next' : Nat} {worker worker' : Worker}
  {sends : List Checked} {outbox outbox' : List Event}

/-- Rows may be deleted. -/
theorem sublist (h : OutboxOk operations next worker sends outbox) (hsub : outbox'.Sublist outbox) :
    OutboxOk operations next worker sends outbox' where
  ids := h.ids.sublist (hsub.map _)
  numbered e he := h.numbered e (hsub.subset he)
  once e he e' he' := h.once e (hsub.subset he) e' (hsub.subset he')
  addressed e he := h.addressed e (hsub.subset he)
  core r hr e he := h.core r hr e (hsub.subset he)
  counted e he := h.counted e (hsub.subset he)

/-- The worker goes on with rows that it has, and forgets no message of a row that is left. -/
theorem advance (h : OutboxOk operations next worker sends outbox)
    (hrows : ∀ r ∈ worker'.rows, r ∈ worker.rows)
    (hanswering : ∀ e ∈ outbox, worker.answering e.eventId ≤ worker'.answering e.eventId) :
    OutboxOk operations next worker' sends outbox where
  ids := h.ids
  numbered := h.numbered
  once := h.once
  addressed := h.addressed
  core r hr := h.core r (hrows r hr)
  counted e he := (h.counted e he).trans (Nat.add_le_add_left (hanswering e he) _)

theorem mono (h : OutboxOk operations next worker sends outbox) (hnext : next ≤ next')
    (hops : ∀ e ∈ outbox, Addressed operations e → Addressed operations' e) :
    OutboxOk operations' next' worker sends outbox where
  ids := h.ids
  numbered e he := (h.numbered e he).trans_le hnext
  once := h.once
  addressed e he := hops e he (h.addressed e he)
  core := h.core
  counted := h.counted

/-- Attempts and times of rows may be written. -/
theorem map (h : OutboxOk operations next worker sends outbox) {f : Event → Event}
    (hcore : ∀ e, (f e).core = e.core) (hrows : ∀ r ∈ worker'.rows, r ∈ worker.rows)
    (hcounted : ∀ e ∈ outbox,
      sent sends e.eventId ≤ (f e).attempts + worker'.answering e.eventId) :
    OutboxOk operations next worker' sends (outbox.map f) where
  ids := by
    have hids : (outbox.map f).map (·.eventId) = outbox.map (·.eventId) := by
      rw [List.map_map]
      exact List.map_congr_left fun e _ => (core_eq (hcore e)).1
    rw [hids]
    exact h.ids
  numbered e he := by
    obtain ⟨o, ho, rfl⟩ := List.mem_map.1 he
    rw [(core_eq (hcore o)).1]
    exact h.numbered o ho
  once e he e' he' hop hinstallation := by
    obtain ⟨o, ho, rfl⟩ := List.mem_map.1 he
    obtain ⟨o', ho', rfl⟩ := List.mem_map.1 he'
    obtain ⟨-, hop₁, hi₁, -⟩ := core_eq (hcore o)
    obtain ⟨-, hop₂, hi₂, -⟩ := core_eq (hcore o')
    rw [h.once o ho o' ho' (by rw [← hop₁, hop, hop₂]) (by rw [← hi₁, hinstallation, hi₂])]
  addressed e he := by
    obtain ⟨o, ho, rfl⟩ := List.mem_map.1 he
    obtain ⟨-, hop, -, hrecipient, -⟩ := core_eq (hcore o)
    obtain ⟨actor, hactor, hne⟩ := h.addressed o ho
    exact ⟨actor, by rw [hop]; exact hactor, by rw [hrecipient]; exact hne⟩
  core r hr e he hid := by
    obtain ⟨o, ho, rfl⟩ := List.mem_map.1 he
    rw [hcore]
    exact h.core r (hrows r hr) o ho ((core_eq (hcore o)).1.symm.trans hid)
  counted e he := by
    obtain ⟨o, ho, rfl⟩ := List.mem_map.1 he
    rw [(core_eq (hcore o)).1]
    exact hcounted o ho

theorem eq_of_id (h : OutboxOk operations next worker sends outbox) {e e' : Event}
    (he : e ∈ outbox) (he' : e' ∈ outbox) (hid : e.eventId = e'.eventId) : e = e' :=
  List.inj_on_of_nodup_map h.ids he he' hid

/-- The worker reads rows of the outbox. -/
theorem read (h : OutboxOk operations next worker sends outbox) {start : Int} {rows : List Event}
    (hrows : ∀ r ∈ rows, r ∈ outbox) (hanswering : ∀ id, worker.answering id = 0) :
    OutboxOk operations next (.batch start rows) sends outbox where
  ids := h.ids
  numbered := h.numbered
  once := h.once
  addressed := h.addressed
  core r hr e he hid := by rw [h.eq_of_id he (hrows r hr) hid]
  counted e he := by
    have := h.counted e he
    rwa [hanswering] at this

/-- A message is sent for the row that the worker owns. -/
theorem send {start : Int} {c : Checked} {rows : List Event} {delivery : Delivery}
    (h : OutboxOk operations next (.owned start c rows) sends outbox) :
    OutboxOk operations next (.answered start c delivery rows) (sends ++ [c]) outbox where
  ids := h.ids
  numbered := h.numbered
  once := h.once
  addressed := h.addressed
  core := h.core
  counted e he := by
    rw [sent_append]
    exact Nat.add_le_add_right (h.counted e he) _

/-- The row is deleted, and the worker goes on with the next one. -/
theorem delete (h : OutboxOk operations next worker sends outbox) {start : Int} {row : Event}
    {rows : List Event} (hrows : worker.rows = row :: rows)
    (hanswering : ∀ id, id ≠ row.eventId → worker.answering id = 0) :
    OutboxOk operations next (.batch start rows) sends
      (outbox.filter fun e => e.eventId ≠ row.eventId) := by
  refine (h.sublist List.filter_sublist).advance (fun r hr => ?_) fun e he => ?_
  · rw [hrows]
    exact List.mem_cons_of_mem _ hr
  · have hne := (List.mem_filter.1 he).2
    rw [hanswering e.eventId (by simpa using hne)]
    exact Nat.zero_le _

/-- A row for a device that has none of the operation yet. -/
theorem insertEvent (h : OutboxOk operations next worker sends outbox) {e : Event}
    (hid : e.eventId = next) (haddressed : Addressed operations e)
    (hrows : ∀ r ∈ worker.rows, r.eventId < next) (hsends : ∀ c ∈ sends, c.row.eventId < next) :
    OutboxOk operations (next + 1) worker sends (Push.insertEvent e outbox) := by
  have hold := h.mono (Nat.le_succ next) fun _ _ ha => ha
  unfold Push.insertEvent
  split
  · exact hold
  · rename_i hany
    have hnone : ∀ o ∈ outbox, o.operationId = e.operationId →
        o.installationId ≠ e.installationId := by
      intro o ho hop hi
      exact hany (List.any_eq_true.2 ⟨o, ho, by simp [hop, hi]⟩)
    refine ⟨?_, fun o ho => ?_, fun o ho o' ho' hop hi => ?_, fun o ho => ?_,
      fun r hr o ho hro => ?_, fun o ho => ?_⟩
    · rw [List.map_append, List.nodup_append]
      refine ⟨h.ids, List.nodup_singleton _, fun a ha b hb => ?_⟩
      obtain ⟨o, ho, rfl⟩ := List.mem_map.1 ha
      obtain rfl : b = e.eventId := by simpa using hb
      exact ((h.numbered o ho).trans_eq hid.symm).ne
    · rcases List.mem_append.1 ho with ho | ho
      · exact hold.numbered o ho
      · obtain rfl := List.mem_singleton.1 ho
        omega
    · rcases List.mem_append.1 ho with hin | hin <;> rcases List.mem_append.1 ho' with hin' | hin'
      · exact h.once o hin o' hin' hop hi
      · obtain rfl := List.mem_singleton.1 hin'
        exact absurd hi (hnone o hin hop)
      · obtain rfl := List.mem_singleton.1 hin
        exact absurd hi.symm (hnone o' hin' hop.symm)
      · rw [List.mem_singleton.1 hin, List.mem_singleton.1 hin']
    · rcases List.mem_append.1 ho with ho | ho
      · exact h.addressed o ho
      · rw [List.mem_singleton.1 ho]
        exact haddressed
    · rcases List.mem_append.1 ho with ho | ho
      · exact h.core r hr o ho hro
      · obtain rfl := List.mem_singleton.1 ho
        have := hrows r hr
        omega
    · rcases List.mem_append.1 ho with ho | ho
      · exact h.counted o ho
      · obtain rfl := List.mem_singleton.1 ho
        rw [hid, sent_eq_zero hsends]
        exact Nat.zero_le _

end OutboxOk

theorem prefix_insertEvent (e : Event) (outbox : List Event) : outbox <+: insertEvent e outbox := by
  unfold insertEvent
  split
  · exact List.prefix_rfl
  · exact List.prefix_append _ _

/-- What an operation enqueues goes to others, under new numbers. -/
theorem enqueue_ok {operations : Table String String} {worker : Worker} {sends : List Checked}
    {m : Message} {now : Int} (hactor : operations.lookup m.operation = some m.actor)
    {rs : List (String × Device)} (hothers : ∀ r ∈ rs, r.2.subject ≠ m.actor) :
    ∀ {acc : List Event × Nat}, OutboxOk operations acc.2 worker sends acc.1 →
      (∀ r ∈ worker.rows, r.eventId < acc.2) → (∀ c ∈ sends, c.row.eventId < acc.2) →
      let result := rs.foldl (enqueueStep allowed m now) acc
      OutboxOk operations result.2 worker sends result.1 ∧ acc.2 ≤ result.2 ∧
        acc.1 <+: result.1 := by
  induction rs with
  | nil => exact fun h _ _ => ⟨h, le_rfl, List.prefix_rfl⟩
  | cons r rs ih =>
    intro acc h hrows hsends
    have hrest := fun r' hr' => hothers r' (List.mem_cons_of_mem r hr')
    rw [List.foldl_cons]
    by_cases hallowed : r.2.subject ∈ allowed
    · have hstep : enqueueStep allowed m now acc r
          = (insertEvent (newEvent acc.2 m now r) acc.1, acc.2 + 1) := if_pos hallowed
      rw [hstep]
      have hnew : Addressed operations (newEvent acc.2 m now r) :=
        ⟨m.actor, hactor, hothers r List.mem_cons_self⟩
      have hinserted := h.insertEvent (e := newEvent acc.2 m now r) rfl hnew hrows hsends
      have hrows' := fun r' hr' => Nat.lt_succ_of_lt (hrows r' hr')
      have hsends' := fun c hc => Nat.lt_succ_of_lt (hsends c hc)
      obtain ⟨hok, hle, hpre⟩ := @ih hrest (_, _) hinserted hrows' hsends'
      exact ⟨hok, (Nat.le_succ _).trans hle, (prefix_insertEvent _ _).trans hpre⟩
    · have hstep : enqueueStep allowed m now acc r = acc := if_neg hallowed
      rw [hstep]
      exact ih hrest h hrows hsends

/-! ## Devices -/

/-- Every token belongs to one installation. -/
def OneOwner (devices : Table String Device) : Prop :=
  ∀ i i' d d', devices.lookup i = some d → devices.lookup i' = some d' → d.token = d'.token → i = i'

theorem OneOwner.retain {devices : Table String Device} (h : OneOwner devices)
    (p : String → Device → Bool) : OneOwner (devices.retain p) :=
  fun i i' d d' hi hi' => h i i' d d' (AList.lookup_retain.1 hi).1 (AList.lookup_retain.1 hi').1

/-- Registering takes the token from every other installation. -/
theorem OneOwner.register {store : Store} (h : OneOwner store.devices)
    (installation token subject session : String) (now : Int) :
    OneOwner (Push.register installation token subject session now store).devices := by
  have hothers := h.retain fun id d => !(decide (d.token = token) && decide (id ≠ installation))
  have hfree : ∀ i d, i ≠ installation →
      (store.devices.retain fun id d =>
        !(decide (d.token = token) && decide (id ≠ installation))).lookup i = some d →
      d.token ≠ token := by
    intro i d hi hd htoken
    have := (AList.lookup_retain.1 hd).2
    simp [htoken, hi] at this
  intro i i' d d' hd hd' htoken
  simp only [Push.register, AList.lookup_insert_of] at hd hd'
  split at hd <;> split at hd'
  · subst_vars
    rfl
  · rename_i hi hi'
    cases hd
    exact absurd htoken.symm (hfree i' d' hi' hd')
  · rename_i hi hi'
    cases hd'
    exact absurd htoken (hfree i d hi hd)
  · exact hothers i i' d d' hd hd' htoken

/-- What `current_device` finds. -/
theorem currentDevice_valid {store : Store} {row : Event} {token : String} {now : Int}
    (h : currentDevice store row.eventId now = some token)
    (hcore : ∀ e ∈ store.outbox, e.eventId = row.eventId → e.core = row.core) :
    Checked.Valid ⟨row, token, now, store⟩ ∧
      ∃ e ∈ store.outbox, e.eventId = row.eventId ∧ e.attempts < 12 := by
  unfold currentDevice at h
  obtain ⟨e, he, h⟩ := Option.bind_eq_some_iff.1 h
  have hmem := List.mem_of_find?_eq_some he
  have hid : e.eventId = row.eventId := by simpa using List.find?_some he
  obtain ⟨-, -, hinstallation, hrecipient, hsession, hcreated⟩ := core_eq (hcore e hmem hid)
  split at h
  · rename_i hguard
    obtain ⟨d, hd, rfl⟩ := Option.map_eq_some_iff.1 h
    obtain ⟨hd, hlive⟩ := Option.filter_eq_some_iff.1 hd
    simp only [Bool.and_eq_true, decide_eq_true_eq] at hlive
    obtain ⟨⟨hsubject, hhash⟩, hlive⟩ := hlive
    obtain ⟨s, hs, hlive⟩ := (Option.any_eq_true _ _).1 hlive
    simp only [Bool.and_eq_true, decide_eq_true_eq] at hlive
    rw [hinstallation] at hd
    rw [hrecipient] at hsubject
    rw [hsession] at hhash
    refine ⟨⟨⟨d, hd, rfl, hsubject, hhash⟩, ⟨s, by rw [← hhash]; exact hs, ?_, hlive.2⟩, ?_⟩,
      e, hmem, hid, hguard.2⟩
    · exact hlive.1.trans hsubject
    · have := hguard.1
      rw [hcreated] at this
      show now < row.createdAt + 86400
      omega
  · cases h

/-! ## The invariant -/

/-- What holds of the tables that an open transaction will leave. -/
structure PendingOk (s : State) (p : Pending) : Prop where
  new : s.operations.lookup p.operation = none
  devices : p.store.devices = s.store.devices
  outbox : OutboxOk (s.operations.insert p.operation p.actor) s.nextEvent s.worker s.sends
    p.store.outbox
  kept : s.store.outbox <+: p.store.outbox

structure Inv (s : State) : Prop where
  outbox : OutboxOk s.operations s.nextEvent s.worker s.sends s.store.outbox
  tokens : OneOwner s.store.devices
  pending : ∀ p, s.pending = some p → PendingOk s p
  held : ∀ r ∈ s.worker.rows, Addressed s.operations r ∧ r.eventId < s.nextEvent
  checked : ∀ c, s.worker.check = some c → c.Valid
  owned : ∀ start c rows, s.worker = .owned start c rows →
    ∃ e ∈ s.store.outbox, e.eventId = c.row.eventId ∧ e.attempts < 12
  sends : ∀ c ∈ s.sends, c.Valid ∧ Addressed s.operations c.row ∧ c.row.eventId < s.nextEvent
  bounded : ∀ id, sent s.sends id ≤ 12

theorem inv_initial : Inv initial where
  outbox := ⟨List.nodup_nil, nofun, nofun, nofun, nofun, nofun⟩
  tokens := fun _ _ _ _ h => by cases h
  pending := nofun
  held := nofun
  checked := nofun
  owned := nofun
  sends := nofun
  bounded _ := Nat.zero_le _

namespace Inv

variable {s s' : State}

/-- A write of a request: devices and sessions. -/
theorem request (h : Inv s) {f : Store → Store} (hw : write s f s.worker = some s')
    (houtbox : (f s.store).outbox = s.store.outbox) (htokens : OneOwner (f s.store).devices) :
    Inv s' := by
  unfold write at hw
  split at hw
  · cases hw
  · rename_i hnone
    cases hw
    exact ⟨houtbox ▸ h.outbox, htokens, fun p hp => absurd (hnone.symm.trans hp) nofun, h.held,
      h.checked, fun start c rows hc => houtbox ▸ h.owned start c rows hc, h.sends, h.bounded⟩

/-- A write of the worker, which then goes on without a check. -/
theorem write (h : Inv s) {f : Store → Store} {worker : Worker}
    (hw : Push.write s f worker = some s')
    (houtbox : OutboxOk s.operations s.nextEvent worker s.sends (f s.store).outbox)
    (htokens : OneOwner (f s.store).devices) (hrows : ∀ r ∈ worker.rows, r ∈ s.worker.rows)
    (hcheck : worker.check = none) : Inv s' := by
  unfold Push.write at hw
  split at hw
  · cases hw
  · rename_i hnone
    cases hw
    refine ⟨houtbox, htokens, fun p hp => absurd (hnone.symm.trans hp) nofun,
      fun r hr => h.held r (hrows r hr), fun c hc => absurd (hcheck.symm.trans hc) nofun,
      fun start c rows hc => ?_, h.sends, h.bounded⟩
    change worker = _ at hc
    rw [hc] at hcheck
    cases hcheck

/-- A move of the worker that writes nothing. -/
theorem move (h : Inv s) {worker : Worker}
    (hrows : ∀ r ∈ worker.rows, r ∈ s.worker.rows)
    (hanswering : ∀ id, s.worker.answering id ≤ worker.answering id)
    (hcheck : ∀ c, worker.check = some c → c.Valid)
    (howned : ∀ start c rows, worker = .owned start c rows →
      ∃ e ∈ s.store.outbox, e.eventId = c.row.eventId ∧ e.attempts < 12) :
    Inv { s with worker := worker } where
  outbox := h.outbox.advance hrows fun e _ => hanswering e.eventId
  tokens := h.tokens
  pending p hp := by
    obtain ⟨hnew, hdevices, houtbox, hkept⟩ := h.pending p hp
    exact ⟨hnew, hdevices, houtbox.advance hrows fun e _ => hanswering e.eventId, hkept⟩
  held r hr := h.held r (hrows r hr)
  checked := hcheck
  owned := howned
  sends := h.sends
  bounded := h.bounded

end Inv

namespace Inv

variable {s s' : State}

theorem select (h : Inv s) {start : Int} (hworker : s.worker = .purged start) :
    Inv { s with worker := .batch start (due start s.store) } := by
  have hanswering : ∀ id, s.worker.answering id = 0 := fun id => by rw [hworker]; rfl
  have hdue : ∀ r ∈ due start s.store, r ∈ s.store.outbox := fun r hr =>
    (List.mem_filter.1 ((List.perm_insertionSort _ _).mem_iff.1 (List.mem_of_mem_take hr))).1
  refine ⟨h.outbox.read hdue hanswering, h.tokens, fun p hp => ?_, fun r hr => ?_, nofun, nofun,
    h.sends, h.bounded⟩
  · obtain ⟨hnew, hdevices, houtbox, hkept⟩ := h.pending p hp
    exact ⟨hnew, hdevices, houtbox.read (fun r hr => hkept.subset (hdue r hr)) hanswering, hkept⟩
  · have hmem := hdue r hr
    exact ⟨h.outbox.addressed r hmem, h.outbox.numbered r hmem⟩

/-- The check passed for this row, which counts fewer than twelve attempts: one message more. -/
theorem send (h : Inv s) {start : Int} {c : Checked} {rows : List Event} (delivery : Delivery)
    (hworker : s.worker = .owned start c rows) :
    Inv { s with worker := .answered start c delivery rows, sends := s.sends ++ [c] } := by
  have hrow := h.held c.row (by rw [hworker]; exact List.mem_cons_self)
  have hvalid := h.checked c (by rw [hworker]; rfl)
  obtain ⟨e, he, hid, hattempts⟩ := h.owned start c rows hworker
  have hcounted := h.outbox.counted e he
  rw [hworker] at hcounted
  refine ⟨(hworker ▸ h.outbox).send, h.tokens, fun p hp => ?_,
    fun r hr => h.held r (by rw [hworker]; exact hr), fun c' hc' => ?_, nofun, fun c' hc' => ?_,
    fun id => ?_⟩
  · obtain ⟨hnew, hdevices, houtbox, hkept⟩ := h.pending p hp
    exact ⟨hnew, hdevices, (hworker ▸ houtbox).send, hkept⟩
  · obtain rfl : c = c' := Option.some.inj hc'
    exact hvalid
  · rcases List.mem_append.1 hc' with hc' | hc'
    · exact h.sends c' hc'
    · obtain rfl := List.mem_singleton.1 hc'
      exact ⟨hvalid, hrow⟩
  · rw [sent_append]
    split
    · rename_i heq
      have hzero : Worker.answering (.owned start c rows) e.eventId = 0 := rfl
      rw [← heq, ← hid]
      omega
    · exact h.bounded id

/-- An operation enqueues in its own transaction. -/
theorem operate (h : Inv s) {m : Message} {now : Int}
    (hnew : s.operations.lookup m.operation = none) :
    Inv { s with
      pending := some ⟨m.operation, m.actor, (enqueue allowed m now s.store s.nextEvent).1⟩
      nextEvent := (enqueue allowed m now s.store s.nextEvent).2 } := by
  have hactor : (s.operations.insert m.operation m.actor).lookup m.operation = some m.actor := by
    rw [AList.lookup_insert_of, if_pos rfl]
  have hothers : ∀ r ∈ recipients s.store m.actor now, r.2.subject ≠ m.actor := by
    intro r hr
    obtain ⟨e, he, rfl⟩ := List.mem_map.1 hr
    have := (List.mem_filter.1 he).2
    rw [Bool.and_eq_true, decide_eq_true_eq] at this
    exact this.1
  have hold : OutboxOk (s.operations.insert m.operation m.actor) s.nextEvent s.worker s.sends
      s.store.outbox := h.outbox.mono le_rfl fun e _ ha => ha.insert hnew m.actor
  obtain ⟨hok, hle, hkept⟩ := @enqueue_ok allowed _ _ _ m now hactor _ hothers
    (s.store.outbox, s.nextEvent) hold (fun r hr => (h.held r hr).2) fun c hc => (h.sends c hc).2.2
  refine ⟨h.outbox.mono hle fun _ _ ha => ha, h.tokens, fun p hp => ?_,
    fun r hr => ⟨(h.held r hr).1, (h.held r hr).2.trans_le hle⟩, h.checked, h.owned,
    fun c hc => ⟨(h.sends c hc).1, (h.sends c hc).2.1, (h.sends c hc).2.2.trans_le hle⟩, h.bounded⟩
  obtain rfl := Option.some.inj hp
  exact ⟨hnew, rfl, hok, hkept⟩

theorem commit (h : Inv s) {p : Pending} (hp : s.pending = some p) :
    Inv { s with
      store := p.store
      pending := none
      operations := s.operations.insert p.operation p.actor } := by
  obtain ⟨hnew, hdevices, houtbox, hkept⟩ := h.pending p hp
  refine ⟨houtbox, ?_, nofun, fun r hr => ⟨(h.held r hr).1.insert hnew _, (h.held r hr).2⟩,
    h.checked, fun start c rows hc => ?_,
    fun c hc => ⟨(h.sends c hc).1, (h.sends c hc).2.1.insert hnew _, (h.sends c hc).2.2⟩, h.bounded⟩
  · rw [hdevices]
    exact h.tokens
  · obtain ⟨e, he, hrest⟩ := h.owned start c rows hc
    exact ⟨e, hkept.subset he, hrest⟩

theorem rollback (h : Inv s) : Inv { s with pending := none } :=
  ⟨h.outbox, h.tokens, nofun, h.held, h.checked, h.owned, h.sends, h.bounded⟩

/-- A message that was not delivered counts an attempt. -/
theorem retry (h : Inv s) {start later : Int} {c : Checked} {delivery : Delivery}
    {rows : List Event} (hworker : s.worker = .answered start c delivery rows)
    (hw : Push.write s (retryEvent c.row.eventId later) (.batch start rows) = some s') : Inv s' := by
  refine h.write hw (h.outbox.map (fun e => ?_) (fun r hr => ?_) fun e he => ?_) h.tokens
    (fun r hr => ?_) rfl
  · split <;> rfl
  · rw [hworker]
    exact List.mem_cons_of_mem _ hr
  · have hcounted := h.outbox.counted e he
    rw [hworker] at hcounted
    change _ ≤ e.attempts + (if c.row.eventId = e.eventId then 1 else 0) at hcounted
    change _ ≤ Event.attempts (if e.eventId = c.row.eventId then _ else _) + 0
    by_cases hid : e.eventId = c.row.eventId
    · rw [if_pos hid.symm] at hcounted
      rw [if_pos hid]
      exact hcounted
    · rw [if_neg (Ne.symm hid)] at hcounted
      rw [if_neg hid]
      exact hcounted
  · rw [hworker]
    exact List.mem_cons_of_mem _ hr

/-- Without authentication nothing is sent, and attempts do not fall. -/
theorem defer (h : Inv s) {start now later : Int} {id : Nat} {rows : List Event}
    (hworker : s.worker = .batch start rows)
    (hw : Push.write s (deferEvents id later now) (.closing start) = some s') : Inv s' := by
  refine h.write hw (h.outbox.map (fun e => ?_) nofun fun e he => ?_) h.tokens nofun rfl
  · split <;> rfl
  · have hcounted := h.outbox.counted e he
    rw [hworker] at hcounted
    refine hcounted.trans (Nat.add_le_add_right ?_ 0)
    split
    · exact Nat.le_add_right _ _
    · exact le_rfl

/-- The current row is deleted. -/
theorem delete (h : Inv s) {start : Int} {row : Event} {rows : List Event}
    (hrows : s.worker.rows = row :: rows)
    (hanswering : ∀ id, id ≠ row.eventId → s.worker.answering id = 0)
    (hw : Push.write s (deleteEvent row.eventId) (.batch start rows) = some s') : Inv s' :=
  h.write hw (h.outbox.delete hrows hanswering) h.tokens
    (fun r hr => by rw [hrows]; exact List.mem_cons_of_mem _ hr) rfl

/-- Devices go while the worker keeps its rows. -/
theorem devices (h : Inv s) {f : Store → Store} {worker : Worker}
    (hw : Push.write s f worker = some s') (houtbox : (f s.store).outbox = s.store.outbox)
    (htokens : OneOwner (f s.store).devices) (hrows : ∀ r ∈ worker.rows, r ∈ s.worker.rows)
    (hanswering : ∀ id, s.worker.answering id ≤ worker.answering id)
    (hcheck : worker.check = none) : Inv s' := by
  refine h.write hw ?_ htokens hrows hcheck
  rw [houtbox]
  exact h.outbox.advance hrows fun e _ => hanswering e.eventId

/-- **Every action keeps the invariant.** -/
theorem step (h : Inv s) {action : Action} (hstep : Push.step allowed s action = some s') :
    Inv s' := by
  cases action with
  | signIn idHash subject username now =>
    simp only [Push.step] at hstep
    split at hstep
    · cases hstep
    · exact h.request hstep rfl h.tokens
  | logout idHash => exact h.request hstep rfl (h.tokens.retain _)
  | register installation token subject session now =>
    exact h.request hstep rfl (h.tokens.register installation token subject session now)
  | removeDevice installation subject session => exact h.request hstep rfl (h.tokens.retain _)
  | operate m now =>
    simp only [Push.step] at hstep
    split at hstep
    · rename_i hnew
      cases hstep
      exact h.operate hnew
    · cases hstep
  | commit =>
    obtain ⟨p, hp, rfl⟩ := Option.map_eq_some_iff.1 hstep
    exact h.commit hp
  | rollback =>
    obtain ⟨p, hp, rfl⟩ := Option.map_eq_some_iff.1 hstep
    exact h.rollback
  | drain now =>
    simp only [Push.step] at hstep
    split at hstep
    · rename_i hworker
      refine h.write hstep ((h.outbox.sublist List.filter_sublist).advance nofun fun e _ => ?_)
        h.tokens nofun rfl
      rw [hworker]
      exact le_rfl
    · cases hstep
  | select =>
    simp only [Push.step] at hstep
    split at hstep
    · rename_i hworker
      cases hstep
      exact h.select hworker
    · cases hstep
  | authenticate failure =>
    simp only [Push.step] at hstep
    split at hstep
    · rename_i hworker
      cases hstep
      exact h.move nofun (fun id => by rw [hworker]; exact le_rfl) nofun nofun
    · rename_i start row rows hworker
      split at hstep
      · split at hstep
        · cases hstep
          exact h.move (fun r hr => by rw [hworker]; exact hr)
            (fun id => by rw [hworker]; exact le_rfl) nofun nofun
        · exact h.defer hworker hstep
      · exact h.delete (by rw [hworker]; rfl) (fun id _ => by rw [hworker]; rfl) hstep
    · cases hstep
  | checkOwner now =>
    simp only [Push.step] at hstep
    split at hstep
    · rename_i start row rows hworker
      have hrows : ∀ r ∈ row :: rows, r ∈ s.worker.rows := fun r hr => by rw [hworker]; exact hr
      have hanswering : ∀ id, s.worker.answering id = 0 := fun id => by rw [hworker]; rfl
      split at hstep
      · rename_i token htoken
        cases hstep
        obtain ⟨hvalid, howned⟩ := currentDevice_valid htoken
          (h.outbox.core row (hrows row List.mem_cons_self))
        refine h.move hrows (fun id => (hanswering id).le) (fun c hc => ?_) fun _ c _ hc => ?_
        · exact Option.some.inj hc ▸ hvalid
        · cases hc
          exact howned
      · cases hstep
        exact h.move hrows (fun id => by rw [hanswering]; exact Nat.zero_le _) nofun nofun
    · cases hstep
  | send now answer =>
    simp only [Push.step] at hstep
    split at hstep
    · rename_i start c rows hworker
      split at hstep
      · cases hstep
        exact h.send _ hworker
      · cases hstep
        refine h.move (fun r hr => by rw [hworker]; exact hr)
          (fun id => by rw [hworker]; exact Nat.zero_le _) (fun c' hc' => ?_) nofun
        exact h.checked c' (by rw [hworker]; exact hc')
    · cases hstep
  | record now random =>
    have hother : ∀ (row : Event) id, id ≠ row.eventId →
        (if row.eventId = id then 1 else 0) = 0 := fun row id hne => if_neg (Ne.symm hne)
    simp only [Push.step] at hstep
    split at hstep
    · rename_i hworker
      exact h.delete (by rw [hworker]; rfl) (fun id hne => by rw [hworker]; exact hother _ id hne) hstep
    · rename_i hworker
      exact h.delete (by rw [hworker]; rfl) (fun id hne => by rw [hworker]; exact hother _ id hne) hstep
    · rename_i hworker
      exact h.devices hstep rfl (h.tokens.retain _) (fun r hr => by rw [hworker]; exact hr)
        (fun id => by rw [hworker]; exact le_rfl) rfl
    · rename_i hworker
      exact h.retry hworker hstep
    · rename_i hworker
      exact h.delete (by rw [hworker]; rfl) (fun id hne => by rw [hworker]; exact hother _ id hne) hstep
    · cases hstep
  | close =>
    simp only [Push.step] at hstep
    split at hstep
    · rename_i hworker
      exact h.devices hstep rfl (h.tokens.retain _) nofun
        (fun id => by rw [hworker]; exact le_rfl) rfl
    · cases hstep

end Inv

/-- The invariant of the system. -/
theorem Reachable.inv {s : State} (h : Reachable allowed s) : Inv s := by
  induction h with
  | initial => exact inv_initial
  | step _ _ hstep ih => exact ih.step hstep

/-! ## Delivery -/

/-- **Who is notified, and how often.** In every interleaving an operation has at most one event for
an installation, which belongs to a committed operation and goes to somebody else than its actor; a
token belongs to one installation; and what was sent had passed an ownership check, with the
recipient's live session and within a day, at most twelve times for one event. -/
theorem notification_delivery {s : State} (h : Reachable allowed s) :
    (∀ e ∈ s.store.outbox, ∀ e' ∈ s.store.outbox, e.operationId = e'.operationId →
      e.installationId = e'.installationId → e = e') ∧
    (∀ e ∈ s.store.outbox, Addressed s.operations e) ∧
    OneOwner s.store.devices ∧
    (∀ c ∈ s.sends, c.Valid ∧ Addressed s.operations c.row) ∧
    ∀ id, sent s.sends id ≤ 12 :=
  ⟨h.inv.outbox.once, h.inv.outbox.addressed, h.inv.tokens,
    fun c hc => ⟨(h.inv.sends c hc).1, (h.inv.sends c hc).2.1⟩, h.inv.bounded⟩

/-- A run from a reachable state. -/
theorem Reachable.run {s s' : State} (h : Reachable allowed s) {actions : List Action}
    (hrun : actions.foldlM (Push.step allowed) s = some s') : Reachable allowed s' := by
  induction actions generalizing s with
  | nil =>
    cases hrun
    exact h
  | cons action actions ih =>
    rw [List.foldlM_cons] at hrun
    obtain ⟨s₁, hstep, hrun⟩ := Option.bind_eq_some_iff.1 hrun
    exact ih (h.step action hstep) hrun

/-- One entry, announced to the partner's phone and delivered at the second attempt. -/
def announced : List Action := [
  .signIn "a" "owner" "Owner" 0, .signIn "b" "partner" "Partner" 0,
  .register "phone" "token" "partner" "b" 5, .register "tablet" "other" "owner" "a" 5,
  .operate ⟨"operation", "transaction", "owner", "Owner added income", "25 EUR"⟩ 10, .commit,
  .drain 12, .select, .authenticate none, .checkOwner 12, .send 12 .lost, .record 13 0,
  .authenticate none, .close,
  .drain 200, .select, .authenticate none, .checkOwner 200, .send 200 (.response 200 [] none),
  .record 201 0]

theorem notification_delivery_partner : ∃ s : State, s.sends.length = 2 ∧ s.store.outbox = [] ∧
    (∀ c ∈ s.sends, c.Valid ∧ Addressed s.operations c.row) ∧ ∀ id, sent s.sends id ≤ 12 := by
  have hruns : ((announced.foldlM (Push.step ["owner", "partner"]) initial).any fun s =>
      decide (s.sends.length = 2) && decide (s.store.outbox = [])) = true := by
    decide +kernel
  obtain ⟨s, hrun, hs⟩ := (Option.any_eq_true _ _).1 hruns
  rw [Bool.and_eq_true, decide_eq_true_eq, decide_eq_true_eq] at hs
  obtain ⟨-, -, -, hsends, hbounded⟩ := notification_delivery (Reachable.initial.run hrun)
  exact ⟨s, hs.1, hs.2, hsends, hbounded⟩

end Server.Push
