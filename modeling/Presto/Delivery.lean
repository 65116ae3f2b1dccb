import Presto.Phone

/-!
# At most once

The server carries an operation out when it records it, and never records one id twice; the phone
marks a row as acknowledged only on an answer to that very row. So whatever is lost, repeated or
interrupted, a row leaves the queue after exactly one application, or by being replaced.
-/

namespace Server

open Budget BudgetLedger

variable {db db' : Database} {call : Call} {response : Response}

/-- An operation that writes an entry is recorded by a call with its id, and by no other. -/
theorem entry_recorded (h : handle db call = .ok (db', response))
    (hsound : Sound call.clock.today db) {id : OperationId} {row : Operation}
    (hold : db.operations.lookup id = none) (hnew : db'.operations.lookup id = some row)
    (hentry : writesEntry row.fingerprint = true) : call.request.operationId = some id := by
  have hrecorded : ∀ {id' : OperationId} {fingerprint : Fingerprint},
      db'.operations = (db.recordOperation id' call.actor fingerprint response).operations →
      id = id' ∧ row.fingerprint = fingerprint := by
    intro id' fingerprint ho
    rw [ho, lookup_recordOperation] at hnew
    split at hnew
    · rename_i he
      cases hnew
      exact ⟨he, rfl⟩
    · rw [hold] at hnew
      cases hnew
  have hkept : db'.operations ≠ db.operations := by
    intro ho
    rw [ho, hold] at hnew
    cases hnew
  cases handle_effect h hsound with
  | replayed _ _ _ _ hinit =>
    rcases hinit with rfl | hinit
    · exact absurd rfl hkept
    · exact absurd (initializeOpenings_quiet hinit).2 hkept
  | created hrequest hnormal hinit hfresh h hr =>
    obtain ⟨O, rfl⟩ := initializeOpenings_frame hinit
    obtain ⟨P, M, rfl⟩ := sync_frame h.synced
    obtain ⟨P, R, rfl⟩ := h.receipt.frame
    obtain ⟨_, A, rfl⟩ := postDeltas_changes h.posted
    obtain ⟨rfl, _⟩ := hrecorded rfl
    rw [hrequest, Request.operationId, (normalize_operationId hnormal).1]
  | edited hrequest hpayload hnormal hinit hfresh h hr =>
    obtain ⟨O, rfl⟩ := initializeOpenings_frame hinit
    obtain ⟨P, M, rfl⟩ := sync_frame h.synced
    obtain ⟨P, R, rfl⟩ := h.receipt.frame
    obtain ⟨_, A, rfl⟩ := postDeltas_changes h.posted
    obtain ⟨rfl, _⟩ := hrecorded rfl
    rw [hrequest, Request.operationId, (normalize_operationId hnormal).1]
  | deleted _ hinit hfresh h hr =>
    obtain ⟨O, rfl⟩ := initializeOpenings_frame hinit
    obtain ⟨P, M, rfl⟩ := sync_frame h.synced
    obtain ⟨_, A, rfl⟩ := postDeltas_changes h.posted
    obtain ⟨_, hfp⟩ := hrecorded rfl
    rw [hfp] at hentry
    cases hentry
  | @reconciled p payload db₀ db₁ _ _ s _ _ hinit hfresh _ _ _ hfold hresult hr =>
    obtain ⟨O, rfl⟩ := initializeOpenings_frame hinit
    have hops : db₁.operations = db.operations := by
      rw [hresult]
      exact (reconcileAccounts_log hfold).1
    obtain ⟨_, hfp⟩ := hrecorded (recordOperation_congr hops _ _ _ _)
    rw [hfp] at hentry
    cases hentry
  | quiet hq hlogs hdel =>
    rcases hlogs with ho | ⟨id', fp, _, hfp, ho⟩
    · exact absurd ho hkept
    · obtain ⟨_, he⟩ := hrecorded ho
      rw [he, hfp] at hentry
      cases hentry

end Server

namespace Phone

open Server Budget

theorem WritePayload.operationId_request (p : WritePayload) :
    p.request.operationId = some p.operationId := by
  cases p <;> rfl

theorem WritePayload.writesEntry_fingerprint {p : WritePayload} {fp : Fingerprint}
    (h : p.request.fingerprint = some fp) : writesEntry fp = true := by
  cases p with
  | create p =>
    simp only [WritePayload.request, Request.fingerprint, Option.map_eq_some_iff] at h
    obtain ⟨_, _, rfl⟩ := h
    rfl
  | edit p =>
    simp only [WritePayload.request, Request.fingerprint] at h
    split at h
    · obtain ⟨_, _, rfl⟩ := Option.map_eq_some_iff.1 h
      rfl
    · cases h

/-- What is recorded already is answered without a change. -/
theorem handle_entry_recorded {db db' : Database} {clock : Clock} {actor : Subject}
    {payload : WritePayload} {response : Response}
    (h : handle db ⟨clock, actor, payload.request⟩ = .ok (db', response)) (hopened : Opened db)
    (hrow : (db.operations.lookup payload.operationId).isSome = true) : db' = db := by
  have honce : ∀ {db₀ : Database} {id : OperationId} {fp : Fingerprint}
      {accepts : Response → Bool} {body : Except ApiError (Database × Response)},
      initializeOpenings db = .ok db₀ → id = payload.operationId →
      once db₀ id actor fp accepts body = .ok (db', response) → db' = db := by
    intro db₀ id fp accepts body hinit hid honce
    rw [hopened.initialized] at hinit
    cases hinit
    rcases once_ok honce with ⟨_, _, _, _, _, hdb, _⟩ | ⟨hnone, _⟩
    · exact hdb
    · rw [hid] at hnone
      simp [hnone] at hrow
  cases payload with
  | create p =>
    simp only [WritePayload.request, handle, createTransaction, Except.bind_eq_ok,
      Except.mapError_eq_ok] at h
    obtain ⟨w, hn, db₀, hinit, h⟩ := h
    exact honce hinit (normalize_operationId hn).1 h
  | edit p =>
    simp only [WritePayload.request, handle, editTransaction, Except.bind_eq_ok,
      Except.mapError_eq_ok] at h
    obtain ⟨w, hn, _, _, _, _, db₀, hinit, h⟩ := h
    exact honce hinit (normalize_operationId hn).1 h

/-- The server has carried out the operation of a row, with the payload of that row. -/
def Applied (applied : List (OperationId × Option Fingerprint)) (payload : WritePayload) : Prop :=
  ∃ fp, payload.request.fingerprint = some fp ∧ (payload.operationId, some fp) ∈ applied

theorem Applied.mono {applied applied' : List (OperationId × Option Fingerprint)}
    {payload : WritePayload} (h : Applied applied payload) (hsub : applied ⊆ applied') :
    Applied applied' payload := by
  obtain ⟨fp, hfp, hmem⟩ := h
  exact ⟨fp, hfp, hsub hmem⟩

/-- The server's side: what was carried out is what is recorded. -/
structure ServerInv (w : World) : Prop where
  reachable : Reachable w.today w.db
  once : (w.applied.map (·.1)).Nodup
  recorded : ∀ e ∈ w.applied, (w.db.operations.lookup e.1).isSome = true
  entries : ∀ id row, w.db.operations.lookup id = some row → writesEntry row.fingerprint = true →
    (id, some row.fingerprint) ∈ w.applied
  opened : ∀ id row, w.db.operations.lookup id = some row → writesEntry row.fingerprint = true →
    Opened w.db
  answered : ∀ e ∈ w.answers, Applied w.applied e.1

/-- The queue: its ids are distinct, and what is acknowledged was carried out. -/
structure QueueInv (w : World) : Prop where
  ids : (w.rows.map (·.id)).Nodup
  acknowledged : ∀ r ∈ w.rows, r.status = .acknowledged → Applied w.applied r.payload

/-- A row waits before another when it was queued earlier. -/
def InOrder (rows : List OutboxRow) : Prop := rows.Pairwise fun a b => a.createdAt ≤ b.createdAt

/-- The rows of a synchronisation are tried from the front of the queue. -/
structure PassInv (p : Pass) : Prop where
  order : InOrder p.queue
  waiting : p.waiting.isSome = true → p.downloading = false
  progress : p.downloading = false →
    p.queue = p.attempted ++ p.remaining.filter fun r => r.status = .pending

structure RecordInv (r : PassRecord) : Prop where
  order : InOrder r.queue
  front : r.attempted <+: r.queue
  all : r.ended = .finished → r.attempted = r.queue
  unblocked : ∀ reply, r.ended = .broke reply → reply.blocks = false

structure Inv (w : World) : Prop where
  server : ServerInv w
  queue : QueueInv w
  pass : ∀ p, w.pass = some p → PassInv p
  passes : ∀ r ∈ w.passes, RecordInv r

theorem Inv.initial {today : Date} {db : Database} (h : Imported today db) :
    Inv (World.initial today db) where
  server := ⟨⟨today, db, h, .refl _ _⟩, by simp [World.initial], by simp [World.initial],
    by simp [World.initial, h.operations], by simp [World.initial, h.operations],
    by simp [World.initial]⟩
  queue := ⟨by simp [World.initial], by simp [World.initial]⟩
  pass := by simp [World.initial]
  passes := by simp [World.initial]

/-! ## The server's side -/

section serve

variable {w w' : World} {call : Call} {response : Option Response}

/-- What answering a call leaves as it was. -/
theorem serve_frame (h : serve w call = (w', response)) : ∃ db today order applied,
    w' = { w with db := db, today := today, order := order, applied := applied } := by
  unfold serve at h
  split at h
  · split at h
    · dsimp only at h
      split at h
      · split at h
        · cases h
          exact ⟨_, _, _, _, rfl⟩
        · cases h
          exact ⟨_, _, _, _, rfl⟩
      · cases h
        exact ⟨_, _, _, _, rfl⟩
    · cases h
      exact ⟨_, _, _, _, rfl⟩
  · cases h
    exact ⟨_, _, _, _, rfl⟩

/-- A call changes nothing, or the server has handled it; it is carried out when its id is new. -/
theorem serve_cases (h : serve w call = (w', response)) :
    (w' = w ∧ response = none) ∨ ∃ db r, call.clock.today.Valid ∧ w.today ≤ call.clock.today ∧
      handle w.db call = .ok (db, r) ∧ response = some r ∧ w'.db = db ∧
      w'.today = call.clock.today ∧ w'.answers = w.answers ∧
      ((∃ id, call.request.operationId = some id ∧ w.db.operations.lookup id = none ∧
          w'.applied = (id, call.request.fingerprint) :: w.applied) ∨
        (∀ id, call.request.operationId = some id → (w.db.operations.lookup id).isSome = true) ∧
          w'.applied = w.applied) := by
  unfold serve at h
  by_cases hc : call.clock.today.Valid ∧ w.today ≤ call.clock.today
  · rw [if_pos hc] at h
    cases hh : handle w.db call with
    | error e =>
      simp only [hh] at h
      cases h
      exact .inl ⟨rfl, rfl⟩
    | ok result =>
      obtain ⟨db, r⟩ := result
      simp only [hh] at h
      right
      cases hid : call.request.operationId with
      | none =>
        simp only [hid] at h
        cases h
        exact ⟨db, r, hc.1, hc.2, rfl, rfl, rfl, rfl, rfl, .inr ⟨by simp, rfl⟩⟩
      | some id =>
        simp only [hid] at h
        by_cases hn : (w.db.operations.lookup id).isNone = true
        · rw [if_pos hn] at h
          cases h
          exact ⟨db, r, hc.1, hc.2, rfl, rfl, rfl, rfl, rfl,
            .inl ⟨id, rfl, Option.isNone_iff_eq_none.1 hn, rfl⟩⟩
        · rw [if_neg hn] at h
          cases h
          refine ⟨db, r, hc.1, hc.2, rfl, rfl, rfl, rfl, rfl, .inr ⟨?_, rfl⟩⟩
          intro id' hid'
          cases hid'
          simpa [Option.isNone_iff_eq_none, Option.isSome_iff_ne_none] using hn
  · rw [if_neg hc] at h
    cases h
    exact .inl ⟨rfl, rfl⟩

/-- The server's side stays sound, and an answered entry has been carried out. -/
theorem ServerInv.serve (hI : ServerInv w) (h : serve w call = (w', response)) :
    ServerInv w' ∧ w.applied ⊆ w'.applied ∧ (∀ r, response = some r → ∀ payload : WritePayload,
      call.request = payload.request → Applied w'.applied payload) := by
  rcases serve_cases h with ⟨rfl, rfl⟩ |
    ⟨db, r, hv, hle, hh, rfl, hdb, htoday, hanswers, happlied⟩
  · exact ⟨hI, List.Subset.refl _, by simp⟩
  have hreach : Reachable w'.today w'.db := by
    rw [htoday, hdb, ← step_of_ok hh]
    exact hI.reachable.step hv hle
  have hsound : Sound call.clock.today w.db := hI.reachable.sound.later hv hle
  have hchanges : Changes call.clock.today w.db db := step_of_ok hh ▸ step_changes call hsound
  have hext : Extends w.db db := hchanges.toExtends
  have hlog := hI.reachable.logSound
  -- an entry was recorded before, or by this call
  have horigin : ∀ id row, db.operations.lookup id = some row →
      writesEntry row.fingerprint = true → w.db.operations.lookup id = some row ∨
        (w.db.operations.lookup id = none ∧ call.request.operationId = some id) := by
    intro id row hrow hentry
    cases hlook : w.db.operations.lookup id with
    | some old => exact .inl ((hext.operations _ _ hlook).symm.trans hrow)
    | none => exact .inr ⟨rfl, entry_recorded hh hsound hlook hrow hentry⟩
  have hkeep : ∀ e ∈ w.applied, (db.operations.lookup e.1).isSome = true := fun e he =>
    hext.operations.isSome (hI.recorded e he)
  have hsub : w.applied ⊆ w'.applied := by
    rcases happlied with ⟨id, _, _, ha⟩ | ⟨_, ha⟩
    · rw [ha]
      exact List.subset_cons_self _ _
    · rw [ha]
      exact List.Subset.refl _
  have hanswered : ∀ e ∈ w'.answers, Applied w'.applied e.1 := fun e he =>
    (hI.answered e (hanswers ▸ he)).mono hsub
  rcases happlied with ⟨id, hid, hnew, ha⟩ | ⟨hold, ha⟩
  · -- the operation is carried out now
    obtain ⟨row, hrow, _⟩ := handle_answered hid hnew hh hsound hlog
    have hfirst : id ∉ w.applied.map (·.1) := by
      intro hmem
      obtain ⟨e, he, rfl⟩ := List.mem_map.1 hmem
      have hsome := hI.recorded e he
      rw [hnew] at hsome
      cases hsome
    refine ⟨⟨hreach, ?_, ?_, ?_, ?_, hanswered⟩, hsub, ?_⟩
    · rw [ha]
      exact List.nodup_cons.2 ⟨hfirst, hI.once⟩
    · intro e he
      rw [ha] at he
      rw [hdb]
      rcases List.mem_cons.1 he with rfl | he
      · simp [hrow.recorded]
      · exact hkeep e he
    · intro id' row' hrow' hentry
      rw [hdb] at hrow'
      rw [ha]
      rcases horigin id' row' hrow' hentry with hold | ⟨_, heq⟩
      · exact List.mem_cons_of_mem _ (hI.entries _ _ hold hentry)
      · rw [hid, Option.some.injEq] at heq
        subst heq
        rw [Option.some.inj (hrow'.symm.trans hrow.recorded), hrow.fingerprint]
        exact List.mem_cons_self
    · intro id' row' hrow' hentry
      rw [hdb] at hrow' ⊢
      rcases horigin id' row' hrow' hentry with hold | ⟨_, heq⟩
      · exact hchanges.opened (hI.opened _ _ hold hentry) hsound
      · rw [hid, Option.some.injEq] at heq
        subst heq
        have hsame : row' = row := Option.some.inj (hrow'.symm.trans hrow.recorded)
        refine hrow.opened ?_
        rintro p hp
        rw [hsame, hp] at hentry
        cases hentry
    · intro _ _ payload hpayload
      have hop : id = payload.operationId := by
        rw [hpayload, WritePayload.operationId_request] at hid
        exact (Option.some.inj hid).symm
      refine ⟨row.fingerprint, hpayload ▸ hrow.fingerprint, ?_⟩
      rw [ha, ← hop, hrow.fingerprint]
      exact List.mem_cons_self
  · -- the operation was carried out before, or has no id
    have hbefore : ∀ id row, db.operations.lookup id = some row →
        writesEntry row.fingerprint = true → w.db.operations.lookup id = some row := by
      intro id' row' hrow' hentry
      rcases horigin id' row' hrow' hentry with hbefore | ⟨hnone, heq⟩
      · exact hbefore
      · have hsome := hold id' heq
        rw [hnone] at hsome
        cases hsome
    refine ⟨⟨hreach, ha ▸ hI.once, ?_, ?_, ?_, hanswered⟩, hsub, ?_⟩
    · intro e he
      rw [hdb]
      exact hkeep e (ha ▸ he)
    · intro id' row' hrow' hentry
      rw [hdb] at hrow'
      rw [ha]
      exact hI.entries _ _ (hbefore _ _ hrow' hentry) hentry
    · intro id' row' hrow' hentry
      rw [hdb] at hrow' ⊢
      exact hchanges.opened (hI.opened _ _ (hbefore _ _ hrow' hentry) hentry) hsound
    · intro _ _ payload hpayload
      have hid : call.request.operationId = some payload.operationId := by
        rw [hpayload]
        exact payload.operationId_request
      obtain ⟨row, hrow⟩ := Option.isSome_iff_exists.1 (hold _ hid)
      have hfp := (handle_recorded_ok hid hrow hh).2.1
      refine ⟨row.fingerprint, hpayload ▸ hfp, ?_⟩
      rw [ha]
      exact hI.entries _ _ hrow (WritePayload.writesEntry_fingerprint (hpayload ▸ hfp))

end serve

/-! ## The phone's side -/

section steps

variable {w w' : World} {pass : Pass}

theorem ServerInv.congr (h : ServerInv w) (hdb : w'.db = w.db) (htoday : w'.today = w.today)
    (happlied : w'.applied = w.applied) (hanswers : w'.answers = w.answers) : ServerInv w' where
  reachable := by
    rw [hdb, htoday]
    exact h.reachable
  once := happlied ▸ h.once
  recorded := by
    rw [hdb, happlied]
    exact h.recorded
  entries := by
    rw [hdb, happlied]
    exact h.entries
  opened := by
    rw [hdb]
    exact h.opened
  answered := by
    rw [hanswers, happlied]
    exact h.answered

/-- Rows that keep their ids, and are acknowledged only when they were carried out. -/
theorem QueueInv.of_map {f : OutboxRow → OutboxRow} (h : QueueInv w)
    (hrows : w'.rows = w.rows.map f) (hid : ∀ r, (f r).id = r.id)
    (hack : ∀ r ∈ w.rows, (f r).status = .acknowledged → Applied w.applied (f r).payload)
    (hsub : w.applied ⊆ w'.applied) : QueueInv w' := by
  constructor
  · have hids : w'.rows.map (·.id) = w.rows.map (·.id) := by
      rw [hrows, List.map_map]
      exact List.map_congr_left fun r _ => hid r
    exact hids ▸ h.ids
  · intro r hr hstatus
    rw [hrows] at hr
    obtain ⟨r', hr', rfl⟩ := List.mem_map.1 hr
    exact (hack r' hr' hstatus).mono hsub

theorem QueueInv.congr (h : QueueInv w) (hrows : w'.rows = w.rows)
    (hsub : w.applied ⊆ w'.applied) : QueueInv w' :=
  h.of_map (f := id) (by simpa using hrows) (fun _ => rfl) h.acknowledged hsub

theorem updateRow_id (row r : OutboxRow) : (if r.id = row.id then row else r).id = r.id := by
  split
  · rename_i hid
    exact hid.symm
  · rfl

/-- A row is written back under its own id. -/
theorem QueueInv.updateRow {row : OutboxRow} (h : QueueInv w)
    (hrow : row.status = .acknowledged → Applied w.applied row.payload)
    (hrows : w'.rows = updateRow row w.rows) (happlied : w'.applied = w.applied) :
    QueueInv w' := by
  refine h.of_map hrows (updateRow_id row) (fun r hr => ?_) (happlied ▸ List.Subset.refl _)
  split
  · exact hrow
  · exact h.acknowledged r hr

theorem outboxOf_inOrder (rows : List OutboxRow) : InOrder (outboxOf rows) := by
  have : Std.Total fun a b : OutboxRow => a.createdAt ≤ b.createdAt :=
    ⟨fun a b => Nat.le_total a.createdAt b.createdAt⟩
  have : IsTrans OutboxRow fun a b => a.createdAt ≤ b.createdAt := ⟨fun _ _ _ => Nat.le_trans⟩
  exact List.pairwise_insertionSort _ rows

theorem repairBookkeepingRevisions_ok {row row' : OutboxRow}
    (h : repairBookkeepingRevisions row = some row') : row'.id = row.id ∧ row'.status = .pending := by
  unfold repairBookkeepingRevisions at h
  split at h
  · rename_i p original hpayload _ _
    obtain ⟨revisions, _, rfl⟩ := Option.map_eq_some_iff.1 h
    simp [OutboxRow.id, hpayload, WritePayload.operationId]
  · cases h

theorem commitEntry_ok {rows rows' : List OutboxRow} {row : OutboxRow}
    {replaces : Option OperationId} (h : commitEntry rows row replaces = .ok rows') :
    (∀ r ∈ rows, r.id ≠ row.id) ∧ ((replaces = none ∧ rows' = rows ++ [row]) ∨
      ∃ id, replaces = some id ∧ (∃ r ∈ rows, r.id = id ∧ r.status = .blocked) ∧
        rows' = removeRow id (rows ++ [row])) := by
  simp only [commitEntry, Except.bind_eq_ok, Except.ensure_eq_ok] at h
  obtain ⟨_, _, _, hfresh, h⟩ := h
  refine ⟨hfresh, ?_⟩
  cases replaces with
  | none =>
    cases h
    exact .inl ⟨rfl, rfl⟩
  | some id =>
    simp only [Except.bind_eq_ok, Except.ensure_eq_ok] at h
    obtain ⟨_, hblocked, h⟩ := h
    cases h
    exact .inr ⟨id, rfl, hblocked, rfl⟩

/-- An entry is queued; at most the blocked row that it replaces leaves. -/
theorem QueueInv.commitEntry {row : OutboxRow} {replaces : Option OperationId}
    {rows : List OutboxRow} (h : QueueInv w) (hcommit : commitEntry w.rows row replaces = .ok rows)
    (hstatus : row.status = .pending) : QueueInv { w with rows := rows } := by
  obtain ⟨hfresh, hrows⟩ := commitEntry_ok hcommit
  have hids : ((w.rows ++ [row]).map (·.id)).Nodup := by
    rw [List.map_append, List.nodup_append]
    refine ⟨h.ids, by simp, ?_⟩
    intro id hid id' hid'
    obtain ⟨r, hr, rfl⟩ := List.mem_map.1 hid
    obtain rfl : id' = row.id := by simpa using hid'
    exact hfresh r hr
  have hack : ∀ r ∈ w.rows ++ [row], r.status = .acknowledged → Applied w.applied r.payload := by
    intro r hr hr'
    rcases List.mem_append.1 hr with hr | hr
    · exact h.acknowledged r hr hr'
    · rw [List.mem_singleton.1 hr, hstatus] at hr'
      cases hr'
  rcases hrows with ⟨_, rfl⟩ | ⟨id, _, _, rfl⟩
  · exact ⟨hids, hack⟩
  · exact ⟨hids.sublist (List.filter_sublist.map _), fun r hr => hack r (List.mem_of_mem_filter hr)⟩

/-- The end of a loop is recorded with the rows that were tried. -/
theorem Inv.endLoop {ended : LoopEnd} (h : Inv w) (hpass : PassInv pass)
    (hloop : pass.downloading = false) (hall : ended = .finished → pass.remaining = [])
    (hblocks : ∀ reply, ended = .broke reply → reply.blocks = false) :
    Inv (endLoop w pass ended) where
  server := h.server.congr rfl rfl rfl rfl
  queue := h.queue.congr rfl (List.Subset.refl _)
  pass := by
    intro p hp
    simp only [Phone.endLoop] at hp
    split at hp
    · cases hp
      exact ⟨hpass.order, by simp, by simp⟩
    · cases hp
  passes := by
    intro r hr
    rcases List.mem_cons.1 hr with rfl | hr
    · have hqueue := hpass.progress hloop
      refine ⟨hpass.order, ⟨_, hqueue.symm⟩, ?_, hblocks⟩
      intro hended
      rw [hall hended] at hqueue
      simpa using hqueue.symm
    · exact h.passes r hr

theorem Inv.attempt (h : Inv w) (hpass : w.pass = some pass)
    (hloop : pass.downloading = false) : Inv (attempt w pass) := by
  have hp := h.pass pass hpass
  have hqueue := hp.progress hloop
  unfold Phone.attempt
  split
  · rename_i hremaining
    exact h.endLoop hp hloop (fun _ => hremaining) (by simp)
  · rename_i row rest hremaining
    rw [hremaining] at hqueue
    split
    · exact h.endLoop hp hloop (by simp) (by simp)
    split
    · -- an acknowledged or blocked row is passed over
      rename_i hstatus
      refine ⟨h.server.congr rfl rfl rfl rfl, h.queue.congr rfl (List.Subset.refl _),
        ?_, h.passes⟩
      intro p' hp'
      cases hp'
      refine ⟨hp.order, hp.waiting, fun _ => ?_⟩
      rw [hqueue, List.filter_cons_of_neg (by simpa using hstatus)]
    · rename_i hstatus
      have hpending : row.status = .pending := by simpa using hstatus
      refine ⟨h.server.congr rfl rfl rfl rfl, h.queue.congr rfl (List.Subset.refl _),
        ?_, h.passes⟩
      intro p' hp'
      cases hp'
      refine ⟨hp.order, fun _ => hloop, fun _ => ?_⟩
      rw [hqueue, List.filter_cons_of_pos (by simpa using hpending), List.append_assoc]
      rfl

theorem Inv.receive {row : OutboxRow} (reply : Reply) (h : Inv w) (hpass : w.pass = some pass)
    (hwait : pass.waiting = some row) : Inv (receive w pass row reply) := by
  have hp := h.pass pass hpass
  have hloop := hp.waiting (by simp [hwait])
  have hnext : ∀ p', some { pass with waiting := none } = some p' → PassInv p' := by
    rintro p' hp'
    cases hp'
    exact ⟨hp.order, by simp, hp.progress⟩
  have hupdated : ∀ {row' : OutboxRow} {pass' : Option Pass},
      (row'.status = .acknowledged → Applied w.applied row'.payload) →
      (∀ p', pass' = some p' → PassInv p') →
      Inv { w with rows := updateRow row' w.rows, pass := pass' } := fun hrow hpass' =>
    ⟨h.server.congr rfl rfl rfl rfl, h.queue.updateRow hrow rfl rfl, hpass', h.passes⟩
  unfold Phone.receive
  split
  · split
    · rename_i i _ payload response hanswer
      split
      · -- an answer to this very row
        rename_i hpayload
        refine hupdated (fun _ => ?_) hnext
        have happlied := h.server.answered _ (List.mem_of_getElem? hanswer)
        rw [← hpayload]
        exact happlied
      · exact h
    · exact h
  · have hnone : ∀ {w₁ : World}, Inv w₁ → reply.blocks = false →
        Inv (Phone.endLoop w₁ pass (.broke reply)) := by
      intro w₁ h₁ hblocks
      refine h₁.endLoop hp hloop (by simp) ?_
      intro reply' hreply'
      cases hreply'
      exact hblocks
    split
    · rename_i h401
      refine hnone ?_ (by rw [h401]; decide)
      split
      · exact ⟨h.server.congr rfl rfl rfl rfl,
          h.queue.congr rfl (List.Subset.refl _), h.pass, h.passes⟩
      · exact h
    split
    · exact hupdated (by simp) hnext
    · rename_i hblocks
      exact hnone (hupdated (by simp) h.pass) (by simpa using hblocks)

/-- What one step preserves. -/
theorem Inv.step (h : Inv w) (action : Action) : Inv (step w action) := by
  cases action with
  | commitEntry payload optimistic original createdAt replaces =>
    simp only [Phone.step]
    split
    · rename_i rows hcommit
      exact ⟨h.server.congr rfl rfl rfl rfl, h.queue.commitEntry hcommit rfl, h.pass, h.passes⟩
    · exact h
  | retryBlocked id =>
    refine ⟨h.server.congr rfl rfl rfl rfl, ?_, h.pass, h.passes⟩
    refine h.queue.of_map rfl (fun r => ?_) (fun r hr hstatus => ?_) (List.Subset.refl _)
    · split <;> rfl
    · split at hstatus
      · cases hstatus
      · rename_i hne
        rw [if_neg hne]
        exact h.queue.acknowledged r hr hstatus
  | start =>
    simp only [Phone.step]
    split
    · refine ⟨h.server.congr rfl rfl rfl rfl, ?_, h.pass, h.passes⟩
      refine h.queue.of_map rfl (fun r => ?_) (fun r hr hstatus => ?_) (List.Subset.refl _)
      · cases hrepair : repairBookkeepingRevisions r with
        | none => rfl
        | some r' => exact (repairBookkeepingRevisions_ok hrepair).1
      · cases hrepair : repairBookkeepingRevisions r with
        | none =>
          rw [hrepair] at hstatus
          exact h.queue.acknowledged r hr hstatus
        | some r' =>
          rw [hrepair, Option.getD_some, (repairBookkeepingRevisions_ok hrepair).2] at hstatus
          cases hstatus
    · exact h
  | signIn session =>
    exact ⟨h.server.congr rfl rfl rfl rfl, h.queue.congr rfl (List.Subset.refl _),
      h.pass, h.passes⟩
  | signOut =>
    exact ⟨h.server.congr rfl rfl rfl rfl, h.queue.congr rfl (List.Subset.refl _),
      h.pass, h.passes⟩
  | beginSync =>
    simp only [Phone.step]
    split
    · refine ⟨h.server.congr rfl rfl rfl rfl, h.queue.congr rfl (List.Subset.refl _),
        ?_, h.passes⟩
      intro p hp
      cases hp
      exact ⟨(outboxOf_inOrder w.rows).filter _, by simp, by simp⟩
    · exact h
  | attempt =>
    simp only [Phone.step]
    split
    · rename_i p hp
      split
      · rename_i hready
        exact h.attempt hp hready.2
      · exact h
    · exact h
  | receive reply =>
    simp only [Phone.step]
    split
    · rename_i p hp
      split
      · rename_i row hrow
        exact h.receive reply hp hrow
      · exact h
    · exact h
  | fetch arrives =>
    simp only [Phone.step]
    split
    · rename_i p hp
      split
      · rename_i hready
        refine ⟨h.server.congr rfl rfl rfl rfl, h.queue.congr rfl (List.Subset.refl _), ?_,
          h.passes⟩
        intro p' hp'
        simp only [Phone.fetch] at hp'
        split at hp'
        · cases hp'
          have hpass := h.pass p hp
          exact ⟨hpass.order, hpass.waiting, hpass.progress⟩
        · cases hp'
      · exact h
    · exact h
  | merge =>
    simp only [Phone.step]
    split
    · split
      · refine ⟨h.server.congr rfl rfl rfl rfl, ⟨?_, ?_⟩, by simp [Phone.merge], h.passes⟩
        · exact h.queue.ids.sublist (List.filter_sublist.map _)
        · intro r hr
          exact h.queue.acknowledged r (List.mem_of_mem_filter hr)
      · exact h
    · exact h
  | stop =>
    simp only [Phone.step]
    split
    · rename_i p hp
      refine ⟨h.server.congr rfl rfl rfl rfl, h.queue.congr rfl (List.Subset.refl _),
        by simp, ?_⟩
      intro r hr
      dsimp only at hr
      split at hr
      · exact h.passes r hr
      · rename_i hloop
        have hpass := h.pass p hp
        have hqueue := hpass.progress (by simpa using hloop)
        rcases List.mem_cons.1 hr with rfl | hr
        · exact ⟨hpass.order, ⟨_, hqueue.symm⟩, by simp, by simp⟩
        · exact h.passes r hr
    · exact h
  | server i clock =>
    simp only [Phone.step]
    split
    · rename_i subject payload _
      cases hserve : serve w ⟨clock, subject, payload.request⟩ with
      | mk w₁ response =>
        obtain ⟨hserver, hsub, happlied⟩ := h.server.serve hserve
        obtain ⟨db, today, order, applied, rfl⟩ := serve_frame hserve
        have hserved : Inv { w with db := db, today := today, order := order, applied := applied } :=
          ⟨hserver, h.queue.congr rfl hsub, h.pass, h.passes⟩
        cases response with
        | none => exact hserved
        | some r =>
          refine ⟨⟨hserver.reachable, hserver.once, hserver.recorded, hserver.entries,
            hserver.opened, ?_⟩, hserved.queue.congr rfl (List.Subset.refl _), h.pass,
            h.passes⟩
          intro e he
          rcases List.mem_append.1 he with he | he
          · exact hserver.answered e he
          · rw [List.mem_singleton.1 he]
            exact happlied r rfl payload rfl
    · exact h
  | others call =>
    simp only [Phone.step]
    cases hserve : serve w call with
    | mk w₁ response =>
      obtain ⟨hserver, hsub, _⟩ := h.server.serve hserve
      obtain ⟨db, today, order, applied, rfl⟩ := serve_frame hserve
      exact ⟨hserver, h.queue.congr rfl hsub, h.pass, h.passes⟩

/-- What a run preserves. -/
theorem Inv.run (h : Inv w) (actions : List Action) : Inv (run w actions) := by
  induction actions generalizing w with
  | nil => exact h
  | cons action actions ih => exact ih (h.step action)

/-! ## What leaves the queue -/

theorem endLoop_rows (w : World) (pass : Pass) (ended : LoopEnd) :
    (endLoop w pass ended).rows = w.rows := rfl

theorem attempt_rows (w : World) (pass : Pass) : (attempt w pass).rows = w.rows := by
  unfold attempt
  repeat' split
  all_goals rfl

theorem updateRow_ids (row : OutboxRow) (rows : List OutboxRow) :
    (updateRow row rows).map (·.id) = rows.map (·.id) := by
  unfold updateRow
  rw [List.map_map]
  exact List.map_congr_left fun r _ => updateRow_id row r

theorem receive_ids (w : World) (pass : Pass) (row : OutboxRow) (reply : Reply) :
    (receive w pass row reply).rows.map (·.id) = w.rows.map (·.id) := by
  have hrow : ∀ status confirmed, (updateRow { row with status, confirmedRevision := confirmed }
      w.rows).map (·.id) = w.rows.map (·.id) := fun _ _ => updateRow_ids _ w.rows
  unfold receive
  split
  · split
    · split
      · exact hrow _ _
      · rfl
    · rfl
  · split
    · rw [endLoop_rows]
      split <;> rfl
    split
    · exact hrow _ _
    · rw [endLoop_rows]
      exact hrow _ _

theorem serve_rows (w : World) (call : Call) : (serve w call).1.rows = w.rows := by
  cases hserve : serve w call with
  | mk w₁ response =>
    obtain ⟨db, today, order, applied, rfl⟩ := serve_frame hserve
    rfl

/-- A row leaves the queue when it is acknowledged and a page is merged, or when the user replaces it
after it was blocked. -/
theorem step_leaves (hids : (w.rows.map (·.id)).Nodup) {action : Action} {r : OutboxRow}
    (hr : r ∈ w.rows) (hgone : r.id ∉ (step w action).rows.map (·.id)) :
    r.status = .acknowledged ∨ (r.status = .blocked ∧ ∃ payload optimistic original createdAt,
      action = .commitEntry payload optimistic original createdAt (some r.id)) := by
  have hkept : (step w action).rows.map (·.id) ≠ w.rows.map (·.id) := by
    intro heq
    rw [heq] at hgone
    exact hgone (List.mem_map_of_mem hr)
  cases action with
  | commitEntry payload optimistic original createdAt replaces =>
    right
    simp only [step] at hgone hkept
    split at hgone
    · rename_i rows hcommit
      obtain ⟨_, ⟨_, rfl⟩ | ⟨id, rfl, ⟨b, hb, rfl, hblocked⟩, rfl⟩⟩ := commitEntry_ok hcommit
      · refine absurd (List.mem_map_of_mem ?_) hgone
        exact List.mem_append_left _ hr
      · by_cases hid : r.id = b.id
        · obtain rfl := List.inj_on_of_nodup_map hids hr hb hid
          exact ⟨hblocked, payload, optimistic, original, createdAt, rfl⟩
        · refine absurd (List.mem_map_of_mem ?_) hgone
          unfold removeRow
          rw [List.mem_filter]
          exact ⟨List.mem_append_left _ hr, by simpa using hid⟩
    · exact absurd (List.mem_map_of_mem hr) hgone
  | retryBlocked id =>
    refine absurd ?_ hkept
    simp only [step, retryBlocked, List.map_map]
    refine List.map_congr_left fun r _ => ?_
    dsimp only [Function.comp]
    split <;> rfl
  | start =>
    refine absurd ?_ hkept
    simp only [step]
    split
    · rw [List.map_map]
      refine List.map_congr_left fun r _ => ?_
      cases hrepair : repairBookkeepingRevisions r with
      | none => simp [hrepair]
      | some r' => simp [hrepair, (repairBookkeepingRevisions_ok hrepair).1]
    · rfl
  | signIn session => exact absurd rfl hkept
  | signOut => exact absurd rfl hkept
  | beginSync =>
    refine absurd ?_ hkept
    simp only [step]
    split <;> rfl
  | attempt =>
    refine absurd ?_ hkept
    simp only [step]
    split
    · split
      · rw [attempt_rows]
      · rfl
    · rfl
  | receive reply =>
    refine absurd ?_ hkept
    simp only [step]
    split
    · split
      · exact receive_ids _ _ _ _
      · rfl
    · rfl
  | fetch arrives =>
    refine absurd ?_ hkept
    simp only [step]
    repeat' split
    all_goals rfl
  | merge =>
    by_cases hstatus : r.status = .acknowledged
    · exact .inl hstatus
    refine absurd ?_ hgone
    have hpresent : r.id ∈ (w.rows.filter fun r => r.status ≠ .acknowledged).map (·.id) := by
      refine List.mem_map_of_mem ?_
      rw [List.mem_filter]
      exact ⟨hr, by simpa using hstatus⟩
    simp only [step]
    repeat' split
    · exact hpresent
    all_goals exact List.mem_map_of_mem hr
  | stop =>
    refine absurd ?_ hkept
    simp only [step]
    split <;> rfl
  | server i clock =>
    refine absurd ?_ hkept
    simp only [step]
    split
    · rename_i subject payload _
      have hrows := serve_rows w ⟨clock, subject, payload.request⟩
      split
      all_goals
        rename_i hserve
        rw [hserve] at hrows
        rw [← hrows]
    · rfl
  | others call =>
    refine absurd ?_ hkept
    simp only [step]
    rw [serve_rows]

end steps

/-! ## At most once -/

/-- Under the id of a row, the server has carried out one operation, and it is that row's. -/
def AppliedOnce (w : World) (row : OutboxRow) : Prop :=
  ∃ fp, row.payload.request.fingerprint = some fp ∧
    w.applied.filter (fun e => e.1 = row.id) = [(row.id, some fp)]

theorem Inv.appliedOnce {w : World} (h : Inv w) {row : OutboxRow}
    (hrow : Applied w.applied row.payload) : AppliedOnce w row := by
  obtain ⟨fp, hfp, hmem⟩ := hrow
  refine ⟨fp, hfp, ?_⟩
  have hnodup : (w.applied.filter fun e => e.1 = row.id).Nodup :=
    (List.Nodup.of_map _ h.server.once).filter _
  have honly : ∀ e ∈ w.applied.filter (fun e => e.1 = row.id), e = (row.id, some fp) := by
    intro e he
    obtain ⟨he, hid⟩ := List.mem_filter.1 he
    exact List.inj_on_of_nodup_map h.server.once he hmem (by simpa using hid)
  have hin : (row.id, some fp) ∈ w.applied.filter fun e => e.1 = row.id := by
    rw [List.mem_filter]
    exact ⟨hmem, by simp⟩
  refine List.perm_singleton.1 ((List.perm_ext_iff_of_nodup hnodup (List.nodup_singleton _)).2 ?_)
  intro e
  rw [List.mem_singleton]
  exact ⟨honly e, fun he => he ▸ hin⟩

/-- An operation that the server has carried out is never carried out again. -/
theorem Inv.repeated {w : World} (h : Inv w) {i : Nat} {clock : Clock} {subject : Subject}
    {payload : WritePayload} (hsent : w.sent[i]? = some (subject, payload))
    (happlied : payload.operationId ∈ w.applied.map (·.1)) :
    (Phone.step w (.server i clock)).db = w.db := by
  have hrow : (w.db.operations.lookup payload.operationId).isSome = true := by
    obtain ⟨e, he, hid⟩ := List.mem_map.1 happlied
    rw [← hid]
    exact h.server.recorded e he
  cases hserve : serve w ⟨clock, subject, payload.request⟩ with
  | mk w₁ response =>
    have hserved : w₁.db = w.db := by
      rcases serve_cases hserve with ⟨hw, _⟩ | ⟨db, r, _, _, hh, _, hdb, _⟩
      · rw [hw]
      · obtain ⟨row, hlook⟩ := Option.isSome_iff_exists.1 hrow
        have hfp := (handle_recorded_ok payload.operationId_request hlook hh).2.1
        have hopened := h.server.opened _ _ hlook (WritePayload.writesEntry_fingerprint hfp)
        rw [hdb]
        exact handle_entry_recorded hh hopened hrow
    simp only [Phone.step, hsent, hserve]
    cases response with
    | none => exact hserved
    | some r => exact hserved

/-- **The outbox delivers at most once.** In every interleaving of the phone, the channel and the
partner: an operation is carried out at most once; an acknowledged row, and a row that leaves the
queue, was carried out once, unless the user replaced it after it was blocked; the rows are tried in
the order of the queue, all of them unless a synchronisation is cut short, and no rejection of a row
cuts one short. -/
theorem delivers_at_most_once {today : Date} {db : Database} (h : Imported today db)
    (actions : List Action) :
    let w := run (World.initial today db) actions
    (∀ id, w.applied.countP (fun e => e.1 = id) ≤ 1) ∧
    (∀ i clock subject payload, w.sent[i]? = some (subject, payload) →
      payload.operationId ∈ w.applied.map (·.1) → (step w (.server i clock)).db = w.db) ∧
    (∀ r ∈ w.rows, r.status = .acknowledged → AppliedOnce w r) ∧
    (∀ action, ∀ r ∈ w.rows, r.id ∉ (step w action).rows.map (·.id) → AppliedOnce w r ∨
      (r.status = .blocked ∧ ∃ payload optimistic original createdAt,
        action = .commitEntry payload optimistic original createdAt (some r.id))) ∧
    (∀ p, w.pass = some p → p.downloading = false → InOrder p.queue ∧ p.attempted <+: p.queue) ∧
    (∀ p ∈ w.passes, RecordInv p) := by
  intro w
  have hw : Inv w := (Inv.initial h).run actions
  refine ⟨fun id => ?_, fun i clock subject payload => hw.repeated, fun r hr hstatus => ?_,
    fun action r hr hgone => ?_, fun p hp hloop => ?_, hw.passes⟩
  · have hcount := List.nodup_iff_count_le_one.1 hw.server.once id
    rw [List.count, List.countP_map] at hcount
    refine le_trans (le_of_eq (List.countP_congr fun e _ => ?_)) hcount
    simp
  · exact hw.appliedOnce (hw.queue.acknowledged r hr hstatus)
  · rcases step_leaves hw.queue.ids hr hgone with hstatus | hreplaced
    · exact .inl (hw.appliedOnce (hw.queue.acknowledged r hr hstatus))
    · exact .inr hreplaced
  · have hpass := hw.pass p hp
    exact ⟨hpass.order, ⟨_, (hpass.progress hloop).symm⟩⟩

/-- A cached row as the phone makes it for an expense. -/
def shown (w : WriteRequest) : CachedTransaction where
  row := ⟨w.transactionId, w.kind, w.date, w.amount, some .eur, w.fromCategoryId, w.toCategoryId,
    w.fromAccountId, w.toAccountId, some w.amount, some w.amount, none, none⟩
  occurredAt := none
  revision := 0
  incomeTreatment := none
  expectedIncomeMonth := none
  hasCategoryCorrection := false
  pending := true

/-- An expense is sent twice, because the first answer is lost. -/
def answerLost : List Action :=
  opened.map .others ++ [
    .signIn ⟨1, 1⟩,
    .commitEntry (.create (spend 100 200 ⟨october, 3⟩ 15)) (shown (spend 100 200 ⟨october, 3⟩ 15))
      none 0 none,
    .beginSync, .attempt, .server 0 ⟨⟨october, 3⟩, 0, fun _ _ => true⟩, .receive .exception,
    .fetch false,
    .beginSync, .attempt, .server 1 ⟨⟨october, 3⟩, 0, fun _ _ => true⟩, .receive (.answered 1)]

theorem delivers_at_most_once_answerLost :
    let w := run (World.initial ⟨october, 1⟩ (household 1000)) answerLost
    w.sent.length = 2 ∧ w.rows.map (·.status) = [.acknowledged] ∧ ∀ r ∈ w.rows, AppliedOnce w r := by
  intro w
  have hsent : w.sent.length = 2 := by decide +kernel
  have hrows : w.rows.map (·.status) = [.acknowledged] := by decide +kernel
  refine ⟨hsent, hrows, fun r hr => ?_⟩
  have hstatus : r.status ∈ w.rows.map (·.status) := List.mem_map_of_mem hr
  rw [hrows, List.mem_singleton] at hstatus
  exact (delivers_at_most_once (household_imported 1000) answerLost).2.2.1 r hr hstatus

end Phone
