import Presto.Delivery

/-!
# The cache after a synchronisation

The server sends the 200 newest transactions and their total number. The phone keeps what it had
and the page does not show, unless the page is complete: so a deletion is noticed only by a complete
page, and only when it came before the page was read.
-/

namespace Phone

open Server

/-! ## The page -/

/-- The order by `source_row` lists every transaction of the server once. -/
structure OrderInv (w : World) : Prop where
  nodup : w.order.Nodup
  all : ∀ id, id ∈ w.order ↔ (w.db.transactions.lookup id).isSome = true

theorem mem_nextOrder {db : Database} {order : List TransactionId} {id : TransactionId} :
    id ∈ nextOrder db order ↔ (db.transactions.lookup id).isSome = true := by
  have hkeys : id ∈ db.transactions.keys ↔ (db.transactions.lookup id).isSome = true :=
    AList.lookup_isSome.symm
  unfold nextOrder
  rw [List.mem_append, List.mem_filter, List.mem_filter, hkeys]
  by_cases h : id ∈ order <;> simp [h]

theorem nextOrder_nodup {db : Database} {order : List TransactionId} (h : order.Nodup) :
    (nextOrder db order).Nodup := by
  unfold nextOrder
  rw [List.nodup_append]
  refine ⟨(db.transactions.keys_nodup).filter _, h.filter _, ?_⟩
  rintro id hid _ hid' rfl
  have hnot := (List.mem_filter.1 hid).2
  simp [(List.mem_filter.1 hid').1] at hnot

/-- The page lists the newest transactions. -/
theorem loadSnapshot_ids {w : World} (h : OrderInv w) :
    (loadSnapshot w.db w.order).recentTransactions.map (·.id) = w.order.take recentCount := by
  have hid : ∀ id ∈ w.order, (w.db.transactions.lookup id).map
      (fun t => (cachedTransaction w.db id t).id) = some id := by
    intro id hid
    obtain ⟨t, ht⟩ := Option.isSome_iff_exists.1 ((h.all id).1 hid)
    simp [ht, cachedTransaction, CachedTransaction.id, Transaction.row]
  unfold loadSnapshot
  rw [List.map_take, List.map_filterMap]
  congr 1
  rw [List.filterMap_congr (g := some) (fun id hmem => by simpa using hid id hmem)]
  simp

theorem loadSnapshot_complete {w : World} (h : OrderInv w) :
    (loadSnapshot w.db w.order).transactionCount ≤
        (loadSnapshot w.db w.order).recentTransactions.length ↔
      w.db.transactions.entries.length ≤ recentCount := by
  have hperm : w.order.Perm w.db.transactions.keys :=
    (List.perm_ext_iff_of_nodup h.nodup w.db.transactions.keys_nodup).2 fun id =>
      (h.all id).trans AList.lookup_isSome
  have hkeys : w.db.transactions.keys.length = w.db.transactions.entries.length := by
    simp [AList.keys, List.keys]
  have hlength := congrArg List.length (loadSnapshot_ids h)
  rw [List.length_map, List.length_take, hperm.length_eq, hkeys] at hlength
  rw [hlength]
  simp only [loadSnapshot]
  omega

/-! ## The merge -/

theorem associateById_spec (ts : List CachedTransaction) :
    ((associateById ts).map (·.id)).Nodup ∧
      ∀ id, id ∈ (associateById ts).map (·.id) ↔ id ∈ ts.map (·.id) := by
  -- from the last row on: a row takes the place of an earlier one with its id, or the end
  induction ts using List.reverseRecOn with
  | nil => simp [associateById]
  | append_singleton ts t ih =>
    obtain ⟨hnodup, hids⟩ := ih
    unfold associateById
    rw [List.foldl_append]
    change (((if t.id ∈ (associateById ts).map (·.id) then
      (associateById ts).map fun u => if u.id = t.id then t else u
      else associateById ts ++ [t])).map (·.id)).Nodup ∧ ∀ id, id ∈ ((if t.id ∈
        (associateById ts).map (·.id) then
      (associateById ts).map fun u => if u.id = t.id then t else u
      else associateById ts ++ [t])).map (·.id) ↔ id ∈ (ts ++ [t]).map (·.id)
    by_cases ht : t.id ∈ (associateById ts).map (·.id)
    · rw [if_pos ht]
      have hsame : ((associateById ts).map fun u => if u.id = t.id then t else u).map (·.id) =
          (associateById ts).map (·.id) := by
        rw [List.map_map]
        refine List.map_congr_left fun u _ => ?_
        by_cases hu : u.id = t.id
        · simp [hu]
        · simp [hu]
      rw [hsame]
      refine ⟨hnodup, fun id => ?_⟩
      rw [hids, List.map_append, List.mem_append]
      refine ⟨.inl, ?_⟩
      rintro (hid | hid)
      · exact hid
      · obtain rfl : id = t.id := by simpa using hid
        exact (hids _).1 ht
    · rw [if_neg ht, List.map_append, List.map_append]
      refine ⟨?_, fun id => ?_⟩
      · rw [List.nodup_append]
        refine ⟨hnodup, by simp, ?_⟩
        rintro id hid _ hid' rfl
        obtain rfl : id = t.id := by simpa using hid'
        exact ht hid
      · rw [List.mem_append, List.mem_append, hids]

variable {old : Option Snapshot} {rows : List OutboxRow} {fresh : Snapshot}

theorem mem_mergeSnapshot {t : CachedTransaction} :
    t ∈ (mergeSnapshot old rows fresh).recentTransactions ↔ t ∈ fresh.recentTransactions ∨
      (fresh.recentTransactions.length < fresh.transactionCount ∧
        t.id ∉ fresh.recentTransactions.map (·.id) ∧ (t ∈ confirmedLocal rows ∨
          (t ∈ (old.map (·.recentTransactions)).getD [] ∧
            t.id ∉ (confirmedLocal rows).map (·.id)))) := by
  unfold mergeSnapshot
  simp only [List.mem_insertionSort, List.mem_append, List.mem_filter]
  by_cases hc : fresh.transactionCount ≤ fresh.recentTransactions.length
  · simp [hc, Nat.not_lt.2 hc]
  · have hlt : fresh.recentTransactions.length < fresh.transactionCount := Nat.not_le.1 hc
    simp only [if_neg hc, hlt, decide_eq_true_eq, true_and, and_true]
    constructor
    · rintro ((⟨ht, hl, hn⟩ | ⟨ht, hl⟩) | ht)
      · exact .inr ⟨hl, .inr ⟨ht, hn⟩⟩
      · exact .inr ⟨hl, .inl ht⟩
      · exact .inl ht
    · rintro (ht | ⟨hl, ht | ⟨ht, hn⟩⟩)
      · exact .inr ht
      · exact .inl (.inr ⟨ht, hl⟩)
      · exact .inl (.inl ⟨ht, hl, hn⟩)

theorem mergeSnapshot_nodup (hold : (((old.map (·.recentTransactions)).getD []).map (·.id)).Nodup)
    (hfresh : (fresh.recentTransactions.map (·.id)).Nodup) :
    ((mergeSnapshot old rows fresh).recentTransactions.map (·.id)).Nodup := by
  have hconfirmed : ((confirmedLocal rows).map (·.id)).Nodup := (associateById_spec _).1
  unfold mergeSnapshot
  refine ((List.perm_insertionSort _ _).map _).nodup_iff.2 ?_
  rw [List.map_append, List.map_append, List.nodup_append, List.nodup_append]
  have hkept : ((if fresh.transactionCount ≤ fresh.recentTransactions.length then []
      else (old.map (·.recentTransactions)).getD []).map (·.id)).Nodup := by
    split
    · simp
    · exact hold
  refine ⟨⟨hkept.sublist (List.filter_sublist.map _),
    hconfirmed.sublist (List.filter_sublist.map _), ?_⟩, hfresh, ?_⟩
  · rintro id hid _ hid' rfl
    obtain ⟨t, ht, rfl⟩ := List.mem_map.1 hid
    obtain ⟨u, hu, huid⟩ := List.mem_map.1 hid'
    have hnot := (List.mem_filter.1 ht).2
    simp only [decide_eq_true_eq] at hnot
    exact hnot.2 (huid ▸ List.mem_map_of_mem (List.mem_of_mem_filter hu))
  · rintro id hid _ hid' rfl
    rcases List.mem_append.1 hid with hid | hid
    all_goals
      obtain ⟨t, ht, rfl⟩ := List.mem_map.1 hid
      have hnot := (List.mem_filter.1 ht).2
      simp only [decide_eq_true_eq] at hnot
      exact hnot.1 hid'

/-! ## The run -/

/-- The page that has arrived and is not merged yet. -/
def World.page (w : World) : Option Snapshot := w.pass.bind (·.page)

/-- The step that ends a successful synchronisation: the page that arrived is merged. -/
def Syncs (w : World) (action : Action) (fresh : Snapshot) : Prop :=
  action = .merge ∧ w.page = some fresh

/-- What a synchronisation reads and writes besides the queue. -/
def World.view (w : World) : Database × List TransactionId × Option Snapshot :=
  (w.db, w.order, w.cache)

theorem attempt_view (w : World) (pass : Pass) : (attempt w pass).view = w.view := by
  unfold attempt
  repeat' split
  all_goals rfl

theorem receive_view (w : World) (pass : Pass) (row : OutboxRow) (reply : Reply) :
    (receive w pass row reply).view = w.view := by
  unfold receive endLoop
  repeat' split
  all_goals rfl

theorem step_merge {w : World} {action : Action} {fresh : Snapshot} (h : Syncs w action fresh) :
    step w action = merge w fresh := by
  obtain ⟨rfl, hpage⟩ := h
  obtain ⟨p, hp, hfresh⟩ := Option.bind_eq_some_iff.1 hpage
  simp [step, hp, hfresh]

/-- The server and the cache move in two ways only. -/
theorem step_view (w : World) (action : Action) : (step w action).view = w.view ∨
    (∃ call, (step w action).view = (serve w call).1.view) ∨ ∃ fresh, Syncs w action fresh := by
  cases action with
  | commitEntry payload optimistic original createdAt replaces =>
    left
    simp only [step]
    split <;> rfl
  | retryBlocked id => exact .inl rfl
  | start =>
    left
    simp only [step]
    split <;> rfl
  | signIn session => exact .inl rfl
  | signOut => exact .inl rfl
  | beginSync =>
    left
    simp only [step]
    split <;> rfl
  | attempt =>
    left
    simp only [step]
    repeat' split
    · exact attempt_view w _
    all_goals rfl
  | receive reply =>
    left
    simp only [step]
    repeat' split
    · exact receive_view w _ _ _
    all_goals rfl
  | fetch arrives =>
    left
    simp only [step]
    repeat' split
    all_goals rfl
  | merge =>
    cases hpage : w.page with
    | some fresh => exact .inr (.inr ⟨fresh, rfl, hpage⟩)
    | none =>
      left
      cases hp : w.pass with
      | none => simp [step, hp]
      | some p =>
        have hnone : p.page = none := by simpa [World.page, hp] using hpage
        simp [step, hp, hnone]
  | stop =>
    left
    simp only [step]
    split <;> rfl
  | server i clock =>
    simp only [step]
    split
    · rename_i subject payload _
      right
      left
      refine ⟨⟨clock, subject, payload.request⟩, ?_⟩
      split
      all_goals
        rename_i hserve
        simp [World.view, hserve]
    · exact .inl rfl
  | others call => exact .inr (.inl ⟨call, rfl⟩)

/-! ### Where a page comes from -/

variable {w : World} {pass : Pass}

theorem endLoop_page {ended : LoopEnd} (h : (endLoop w pass ended).page = some fresh) :
    pass.page = some fresh := by
  unfold endLoop World.page at h
  dsimp only at h
  split at h
  · exact h
  · cases h

theorem attempt_page (h : (attempt w pass).page = some fresh) : pass.page = some fresh := by
  unfold attempt at h
  split at h
  · exact endLoop_page h
  split at h
  · exact endLoop_page h
  split at h
  · exact h
  · exact h

theorem receive_page {row : OutboxRow} {reply : Reply}
    (h : (receive w pass row reply).page = some fresh) (hp : w.pass = some pass) :
    pass.page = some fresh := by
  have hsame : w.page = pass.page := by simp [World.page, hp]
  unfold receive at h
  split at h
  · split at h
    · split at h
      · exact h
      · exact hsame ▸ h
    · exact hsame ▸ h
  · dsimp only at h
    split at h
    · exact endLoop_page h
    split at h
    · exact h
    · exact endLoop_page h

theorem serve_pass (w : World) (call : Call) : (serve w call).1.pass = w.pass := by
  cases hserve : serve w call with
  | mk w₁ response =>
    obtain ⟨db, today, order, applied, rfl⟩ := serve_frame hserve
    rfl

/-- A page is held until it is merged, and arrives by a fetch only. -/
theorem step_page {action : Action} (h : (step w action).page = some fresh) :
    w.page = some fresh ∨ (action = .fetch true ∧ fresh = loadSnapshot w.db w.order) := by
  cases action with
  | commitEntry payload optimistic original createdAt replaces =>
    left
    simp only [step] at h
    split at h <;> exact h
  | retryBlocked id => exact .inl h
  | start =>
    left
    simp only [step] at h
    split at h <;> exact h
  | signIn session => exact .inl h
  | signOut => exact .inl h
  | beginSync =>
    left
    simp only [step] at h
    split at h
    · cases h
    · exact h
  | attempt =>
    left
    simp only [step] at h
    split at h
    · rename_i p hp
      split at h
      · simpa [World.page, hp] using attempt_page h
      · exact h
    · exact h
  | receive reply =>
    left
    simp only [step] at h
    split at h
    · rename_i p hp
      split at h
      · simpa [World.page, hp] using receive_page h hp
      · exact h
    · exact h
  | fetch arrives =>
    simp only [step] at h
    split at h
    · split at h
      · cases arrives with
        | true => exact .inr ⟨rfl, (Option.some.inj h).symm⟩
        | false => cases h
      · exact .inl h
    · exact .inl h
  | merge =>
    left
    simp only [step] at h
    split at h
    · split at h
      · cases h
      · exact h
    · exact h
  | stop =>
    left
    simp only [step] at h
    split at h
    · cases h
    · exact h
  | server i clock =>
    left
    simp only [step] at h
    split at h
    · rename_i subject payload _
      have hpass := serve_pass w ⟨clock, subject, payload.request⟩
      split at h
      all_goals
        rename_i hserve
        rw [hserve] at hpass
        exact (congrArg (·.bind (·.page)) hpass).symm.trans h
    · exact h
  | others call => exact .inl (by simpa [World.page, step, serve_pass] using h)

/-- The page was read on the server in the run `before`, and held from then on. -/
def Fetched (w : World) (before : List Action) (fresh : Snapshot) : Prop :=
  ∃ earlier later, before = earlier ++ .fetch true :: later ∧
    fresh = loadSnapshot (run w earlier).db (run w earlier).order ∧
    ∀ kept, kept <+: later → (run w (earlier ++ .fetch true :: kept)).page = some fresh

theorem run_append (w : World) (before after : List Action) :
    run w (before ++ after) = run (run w before) after :=
  List.foldl_append

theorem fetched {before : List Action} (hstart : w.page = none)
    (h : (run w before).page = some fresh) : Fetched w before fresh := by
  -- from the last step back to the one that read the page
  induction before using List.reverseRecOn with
  | nil => cases hstart.symm.trans h
  | append_singleton before action ih =>
    have hlast := h
    rw [run_append] at h
    rcases step_page h with hheld | ⟨rfl, hfresh⟩
    · obtain ⟨earlier, later, rfl, hfresh, hkept⟩ := ih hheld
      refine ⟨earlier, later ++ [action], by simp, hfresh, fun kept hprefix => ?_⟩
      rcases List.prefix_concat_iff.1 hprefix with rfl | hprefix
      · simpa using hlast
      · exact hkept kept hprefix
    · refine ⟨before, [], rfl, hfresh, fun kept hprefix => ?_⟩
      rw [List.prefix_nil.1 hprefix]
      exact hlast

structure CacheInv (w : World) : Prop where
  order : OrderInv w
  nodup : ∀ s, w.cache = some s → (s.recentTransactions.map (·.id)).Nodup
  page : ∀ fresh, w.page = some fresh → (fresh.recentTransactions.map (·.id)).Nodup

theorem CacheInv.initial (today : Date) (db : Database) : CacheInv (World.initial today db) where
  order := ⟨db.transactions.keys_nodup, fun _ => AList.lookup_isSome.symm⟩
  nodup := by simp [World.initial]
  page := by simp [World.initial, World.page]

theorem serve_cache (w : World) (call : Call) : (serve w call).1.cache = w.cache := by
  cases hserve : serve w call with
  | mk w₁ response =>
    obtain ⟨db, today, order, applied, rfl⟩ := serve_frame hserve
    rfl

/-- A call puts what is new first, if it does anything. -/
theorem serve_order (w : World) (call : Call) : (serve w call).1.view = w.view ∨
    (serve w call).1.order = nextOrder (serve w call).1.db w.order := by
  unfold serve
  split
  · split
    · right
      dsimp only
      repeat' split
      all_goals rfl
    · exact .inl rfl
  · exact .inl rfl

theorem OrderInv.congr {w' : World} (h : OrderInv w) (hview : w'.view = w.view) : OrderInv w' := by
  simp only [World.view, Prod.mk.injEq] at hview
  obtain ⟨hdb, horder, _⟩ := hview
  refine ⟨horder ▸ h.nodup, ?_⟩
  rw [hdb, horder]
  exact h.all

theorem OrderInv.serve (h : OrderInv w) (call : Call) : OrderInv (serve w call).1 := by
  rcases serve_order w call with hview | horder
  · exact h.congr hview
  · refine ⟨?_, ?_⟩
    · rw [horder]
      exact nextOrder_nodup h.nodup
    · rw [horder]
      exact fun _ => mem_nextOrder

theorem OrderInv.page (h : OrderInv w) :
    ((loadSnapshot w.db w.order).recentTransactions.map (·.id)).Nodup := by
  rw [loadSnapshot_ids h]
  exact h.nodup.sublist (List.take_sublist _ _)

theorem OrderInv.step (h : OrderInv w) (action : Action) : OrderInv (step w action) := by
  rcases step_view w action with hview | ⟨call, hview⟩ | ⟨fresh, hsync⟩
  · exact h.congr hview
  · exact (h.serve call).congr hview
  · rw [step_merge hsync]
    exact ⟨h.nodup, h.all⟩

theorem CacheInv.merged (h : CacheInv w) (hpage : w.page = some fresh) :
    ((mergeSnapshot w.cache (outboxOf w.rows) fresh).recentTransactions.map (·.id)).Nodup := by
  refine mergeSnapshot_nodup ?_ (h.page fresh hpage)
  cases hc : w.cache with
  | none => simp
  | some s => exact h.nodup s hc

theorem CacheInv.step (h : CacheInv w) (action : Action) : CacheInv (step w action) where
  order := h.order.step action
  nodup := by
    rcases step_view w action with hview | ⟨call, hview⟩ | ⟨fresh, hsync⟩
    · have hcache : (Phone.step w action).cache = w.cache := congrArg (·.2.2) hview
      rw [hcache]
      exact h.nodup
    · have hcache : (Phone.step w action).cache = (Phone.serve w call).1.cache :=
        congrArg (·.2.2) hview
      rw [hcache, serve_cache]
      exact h.nodup
    · rw [step_merge hsync]
      intro s hs
      cases hs
      exact h.merged hsync.2
  page := by
    intro fresh hpage
    rcases step_page hpage with hheld | ⟨_, rfl⟩
    · exact h.page fresh hheld
    · exact h.order.page

theorem CacheInv.run (h : CacheInv w) (actions : List Action) : CacheInv (run w actions) := by
  induction actions generalizing w with
  | nil => exact h
  | cons action actions ih => exact ih (h.step action)

/-! ## What the cache keeps -/

/-- The cache after a synchronisation as it should be: its transactions exist on the server, their
ids are distinct, and the rows of the page are shown as they came. -/
structure CacheCurrent (fresh : Snapshot) (w : World) : Prop where
  saved : w.cache.isSome = true
  exist : ∀ s, w.cache = some s → ∀ t ∈ s.recentTransactions,
    (w.db.transactions.lookup t.id).isSome = true
  nodup : ∀ s, w.cache = some s → (s.recentTransactions.map (·.id)).Nodup
  page : ∀ s, w.cache = some s → ∀ t ∈ fresh.recentTransactions, t ∈ s.recentTransactions

/-- The phone has the transaction in its cache or as an acknowledged row. -/
def Has (w : World) (id : TransactionId) : Prop :=
  (∃ s, w.cache = some s ∧ id ∈ s.recentTransactions.map (·.id)) ∨
    ∃ r ∈ w.rows, r.status = .acknowledged ∧ r.optimistic.id = id

/-- No row of the page was deleted since it was read; and the page is complete, or nothing that the
phone has was deleted. -/
def NothingMissed (fresh : Snapshot) (w : World) : Prop :=
  (∀ t ∈ fresh.recentTransactions, (w.db.transactions.lookup t.id).isSome = true) ∧
    (fresh.transactionCount ≤ recentCount ∨
      ∀ id, Has w id → (w.db.transactions.lookup id).isSome = true)

theorem mem_confirmedLocal_ids {w : World} {id : TransactionId} :
    id ∈ (confirmedLocal (outboxOf w.rows)).map (·.id) ↔
      ∃ r ∈ w.rows, r.status = .acknowledged ∧ r.optimistic.id = id := by
  unfold confirmedLocal
  rw [(associateById_spec _).2, List.map_map, List.mem_map]
  constructor
  · rintro ⟨r, hr, rfl⟩
    obtain ⟨hr, hstatus⟩ := List.mem_filter.1 hr
    exact ⟨r, (List.mem_insertionSort _).1 hr, by simpa using hstatus, rfl⟩
  · rintro ⟨r, hr, hstatus, rfl⟩
    refine ⟨r, List.mem_filter.2 ⟨(List.mem_insertionSort _).2 hr, by simpa using hstatus⟩, rfl⟩

/-- One synchronisation leaves the cache current exactly when nothing was missed. -/
theorem CacheInv.current_iff (h : CacheInv w) {action : Action} (hsync : Syncs w action fresh)
    (hcomplete : fresh.transactionCount ≤ fresh.recentTransactions.length ↔
      fresh.transactionCount ≤ recentCount) :
    CacheCurrent fresh (Phone.step w action) ↔ NothingMissed fresh w := by
  rw [step_merge hsync]
  constructor
  · rintro ⟨_, hexist, _, hpage⟩
    have hkept := hexist _ rfl
    have hlisted : ∀ t ∈ fresh.recentTransactions, (w.db.transactions.lookup t.id).isSome = true :=
      fun t ht => hkept t (hpage _ rfl t ht)
    refine ⟨hlisted, ?_⟩
    by_cases hall : fresh.transactionCount ≤ recentCount
    · exact .inl hall
    refine .inr fun id hid => ?_
    have hlt := Nat.not_le.1 fun hle => hall (hcomplete.1 hle)
    by_cases hlatest : id ∈ fresh.recentTransactions.map (·.id)
    · obtain ⟨t, ht, rfl⟩ := List.mem_map.1 hlatest
      exact hlisted t ht
    by_cases hconfirmed : id ∈ (confirmedLocal (outboxOf w.rows)).map (·.id)
    · obtain ⟨t, ht, rfl⟩ := List.mem_map.1 hconfirmed
      exact hkept t (mem_mergeSnapshot.2 (.inr ⟨hlt, hlatest, .inl ht⟩))
    · rcases hid with ⟨s, hs, hid⟩ | hacknowledged
      · obtain ⟨t, ht, rfl⟩ := List.mem_map.1 hid
        refine hkept t (mem_mergeSnapshot.2 (.inr ⟨hlt, hlatest, .inr ⟨?_, hconfirmed⟩⟩))
        rw [hs]
        exact ht
      · exact absurd (mem_confirmedLocal_ids.2 hacknowledged) hconfirmed
  · rintro ⟨hlisted, hmissed⟩
    refine ⟨rfl, ?_, ?_, ?_⟩
    · intro s hs t ht
      cases hs
      rcases mem_mergeSnapshot.1 ht with ht | ⟨hlt, _, ht⟩
      · exact hlisted t ht
      rcases hmissed with hall | hexist
      · exact absurd (hcomplete.2 hall) (Nat.not_le.2 hlt)
      refine hexist t.id ?_
      rcases ht with ht | ⟨ht, _⟩
      · exact .inr (mem_confirmedLocal_ids.1 (List.mem_map_of_mem ht))
      · cases hc : w.cache with
        | none =>
          rw [hc] at ht
          cases ht
        | some s =>
          rw [hc] at ht
          exact .inl ⟨s, hc, List.mem_map_of_mem ht⟩
    · intro s hs
      cases hs
      exact h.merged hsync.2
    · intro s hs t ht
      cases hs
      exact mem_mergeSnapshot.2 (.inl ht)

/-- After every successful synchronisation of a run, `P` holds of the page that the server gave in
that run. -/
def AfterSyncs (P : Snapshot → World → Prop) (w : World) (actions : List Action) : Prop :=
  ∀ before action after fresh, actions = before ++ action :: after →
    Syncs (run w before) action fresh → Fetched w before fresh ∧ P fresh (step (run w before) action)

/-- `P` holds before the page of every successful synchronisation of a run is merged. -/
def BeforeSyncs (P : Snapshot → World → Prop) (w : World) (actions : List Action) : Prop :=
  ∀ before action after fresh, actions = before ++ action :: after →
    Syncs (run w before) action fresh → P fresh (run w before)

/-- **The cache is current after every synchronisation of a run exactly when none of them missed a
deletion.** -/
theorem cache_current_iff (today : Date) (db : Database) (actions : List Action) :
    AfterSyncs CacheCurrent (World.initial today db) actions ↔
      BeforeSyncs NothingMissed (World.initial today db) actions := by
  have hinv : ∀ before, CacheInv (run (World.initial today db) before) :=
    (CacheInv.initial today db).run
  refine forall_congr' fun before => forall_congr' fun action => forall_congr' fun after =>
    forall_congr' fun fresh => forall_congr' fun _ => forall_congr' fun hsync => ?_
  have hfetched : Fetched (World.initial today db) before fresh := fetched rfl hsync.2
  have hcomplete : fresh.transactionCount ≤ fresh.recentTransactions.length ↔
      fresh.transactionCount ≤ recentCount := by
    obtain ⟨earlier, _, _, rfl, _⟩ := hfetched
    exact loadSnapshot_complete (hinv earlier).order
  rw [(hinv before).current_iff hsync hcomplete]
  exact and_iff_right hfetched

/-! ## A deletion that no page shows -/

/-- Only a merge writes the cache. -/
theorem run_cache (w : World) (actions : List Action) (h : .merge ∉ actions) :
    (run w actions).cache = w.cache := by
  induction actions generalizing w with
  | nil => rfl
  | cons action actions ih =>
    rw [List.mem_cons, not_or] at h
    have hstep : (step w action).cache = w.cache := by
      rcases step_view w action with hview | ⟨call, hview⟩ | ⟨_, hsync⟩
      · exact congrArg (·.2.2) hview
      · exact (congrArg (·.2.2) hview).trans (serve_cache w call)
      · exact absurd hsync.1.symm h.1
    exact (ih (step w action) h.2).trans hstep

/-- A page lists the transaction that a call has just created. -/
theorem OrderInv.page_created (h : OrderInv w) {call : Call} {id : TransactionId}
    (hkeys : (Phone.serve w call).1.db.transactions.keys.head? = some id)
    (hnew : (w.db.transactions.lookup id).isSome = false) :
    id ∈ (loadSnapshot (Phone.serve w call).1.db (Phone.serve w call).1.order).recentTransactions.map
      (·.id) := by
  obtain ⟨rest, hkeys⟩ := List.head?_eq_some_iff.1 hkeys
  have hold : id ∉ w.order := by
    rw [h.all, hnew]
    exact Bool.false_ne_true
  rw [loadSnapshot_ids (h.serve call)]
  rcases serve_order w call with hview | horder
  · have hid : id ∈ (Phone.serve w call).1.order := by
      rw [(h.serve call).all, AList.lookup_isSome, AList.mem_keys, hkeys]
      exact List.mem_cons_self
    have horder : (Phone.serve w call).1.order = w.order := congrArg (·.2.1) hview
    exact absurd (horder ▸ hid) hold
  · rw [horder, nextOrder, hkeys, List.filter_cons_of_pos (by simpa using hold)]
    exact List.mem_cons_self

/-- A synchronisation of an empty queue waits for its snapshot. -/
theorem waiting_view (w : World) : (run w [.beginSync, .attempt]).view = w.view := by
  have hbegin : (step w .beginSync).view = w.view := by
    simp only [step]
    split <;> rfl
  have hattempt : ∀ x : World, (step x .attempt).view = x.view := by
    intro x
    simp only [step]
    repeat' split
    · exact attempt_view x _
    all_goals rfl
  exact (hattempt _).trans hbegin

/-- A synchronisation that waits for its snapshot. -/
def World.waits (w : World) : Bool := w.pass.any fun p => p.downloading && p.page.isNone

theorem step_fetch (h : w.waits = true) : (step w (.fetch true)).page =
    some (loadSnapshot w.db w.order) ∧ (step w (.fetch true)).view = w.view ∧
    (step w (.fetch true)).rows = w.rows := by
  obtain ⟨p, hp, hready⟩ := (Option.any_eq_true _ _).1 h
  have hwaits : p.downloading = true ∧ p.page.isNone := Bool.and_eq_true_iff.1 hready
  simp only [step, hp, if_pos hwaits]
  exact ⟨rfl, rfl, rfl⟩

/-- A transaction that the phone has seen and that someone else deletes stays in its cache, as long
as the server holds more than a page. -/
theorem deletion_missed {u v w : World} (hinv : OrderInv u) (id : TransactionId)
    {create delete : Call} (hv : run u [.others create, .beginSync, .attempt] = v)
    (hw : run (run v [.fetch true, .merge]) [.others delete, .beginSync, .attempt] = w)
    (hwaits : v.waits = true) (hkeys : v.db.transactions.keys.head? = some id)
    (hnew : (u.db.transactions.lookup id).isSome = false)
    (hmore : recentCount < w.db.transactions.entries.length)
    (hgone : (w.db.transactions.lookup id).isSome = false) :
    ¬ NothingMissed (loadSnapshot w.db w.order) (step w (.fetch true)) := by
  have hcreated : v.view = (serve u create).1.view := by
    rw [← hv]
    exact waiting_view _
  have hdb : (serve u create).1.db = v.db := (congrArg (·.1) hcreated).symm
  have horder : (serve u create).1.order = v.order := (congrArg (·.2.1) hcreated).symm
  have hlisted : id ∈ (loadSnapshot v.db v.order).recentTransactions.map (·.id) := by
    rw [← hdb, ← horder]
    exact hinv.page_created (hdb ▸ hkeys) hnew
  obtain ⟨hpage, _, _⟩ := step_fetch hwaits
  have hmerged : (run v [.fetch true, .merge]).cache = some (mergeSnapshot
      (step v (.fetch true)).cache (outboxOf (step v (.fetch true)).rows)
      (loadSnapshot v.db v.order)) :=
    congrArg (·.cache) (step_merge ⟨rfl, hpage⟩)
  have hcache : w.cache = (run v [.fetch true, .merge]).cache := by
    rw [← hw]
    exact run_cache _ _ (by simp)
  have hfetch : (step w (.fetch true)).cache = w.cache := run_cache w [.fetch true] (by simp)
  have hsame : (step w (.fetch true)).db = w.db := by
    simp only [step]
    repeat' split
    all_goals rfl
  rintro ⟨_, hcomplete | hexist⟩
  · exact absurd hcomplete (Nat.not_le.2 hmore)
  · obtain ⟨t, ht, hid⟩ := List.mem_map.1 hlisted
    have hhas : Has (step w (.fetch true)) id := .inl ⟨_, (hfetch.trans hcache).trans hmerged,
      List.mem_map.2 ⟨t, mem_mergeSnapshot.2 (.inl ht), hid⟩⟩
    rw [← hsame, hexist id hhas] at hgone
    cases hgone

/-- The synchronisation that missed a deletion does not leave the cache current. -/
theorem not_current {start : World} {before : List Action} (h : CacheInv (run start before))
    (hwaits : (run start before).waits = true)
    (hmissed : ¬ NothingMissed (loadSnapshot (run start before).db (run start before).order)
      (step (run start before) (.fetch true))) :
    ¬ AfterSyncs CacheCurrent start (before ++ [.fetch true] ++ [.merge]) := by
  intro hall
  have hfetch : run start (before ++ [.fetch true]) = step (run start before) (.fetch true) :=
    run_append start before [.fetch true]
  have hsync : Syncs (run start (before ++ [.fetch true])) .merge
      (loadSnapshot (run start before).db (run start before).order) := by
    rw [hfetch]
    exact ⟨rfl, (step_fetch hwaits).1⟩
  have hcurrent := (hall _ .merge [] _ rfl hsync).2
  have hinv : CacheInv (run start (before ++ [.fetch true])) := by
    rw [hfetch]
    exact h.step _
  have hnothing := (hinv.current_iff hsync (loadSnapshot_complete h.order)).1 hcurrent
  rw [hfetch] at hnothing
  exact hmissed hnothing

/-- An old expense of the imported workbook. -/
def archived : Transaction :=
  ⟨.expense, ⟨september, 1⟩, none, 1, some .eur, none, some 1, none, some 1, none, 1, false, []⟩

theorem archived_nodupKeys (n : Nat) : ((List.range n).map fun i =>
    (⟨1000 + i, archived⟩ : Sigma fun _ : TransactionId => Transaction)).NodupKeys := by
  unfold List.NodupKeys List.keys
  rw [List.map_map]
  exact List.nodup_range.map fun _ _ h => Nat.add_left_cancel h

/-- The household with more transactions than a page lists. -/
def crowded : Database :=
  { household 1000 with transactions := ⟨_, archived_nodupKeys 201⟩ }

theorem crowded_imported : Imported ⟨october, 1⟩ crowded :=
  { household_imported 1000 with
    dates := by
      intro id t ht
      obtain ⟨i, _, hi⟩ := List.mem_map.1 (AList.mem_entries_iff.2 ht)
      cases hi
      decide }

/-- The phone synchronises, the partner deletes what it has just seen. -/
def deletedByPartner : List Action :=
  opened.map .others ++ [
    .signIn ⟨1, 1⟩,
    .others (callOn october 3 (.create (spend 100 200 ⟨october, 3⟩ 15))),
    .beginSync, .attempt, .fetch true, .merge,
    .others (callOn october 4 (.delete ⟨102, 200, 1, [(1, 1)]⟩)),
    .beginSync, .attempt]

theorem cache_current_fails : ¬ ∀ (today : Date) (db : Database) (actions : List Action),
    Imported today db → AfterSyncs CacheCurrent (World.initial today db) actions := by
  intro hall
  let first : List Action := opened.map .others ++ [.signIn ⟨1, 1⟩]
  have hinv : ∀ actions, CacheInv (run (World.initial ⟨october, 1⟩ crowded) actions) :=
    (CacheInv.initial _ _).run
  refine not_current (hinv deletedByPartner) (by decide +kernel) ?_ (hall _ _ _ crowded_imported)
  have hsplit : deletedByPartner = first ++ ([.others (callOn october 3
      (.create (spend 100 200 ⟨october, 3⟩ 15))), .beginSync, .attempt] ++ ([.fetch true, .merge] ++
      [.others (callOn october 4 (.delete ⟨102, 200, 1, [(1, 1)]⟩)), .beginSync, .attempt])) := rfl
  rw [hsplit, run_append, run_append, run_append]
  refine deletion_missed (hinv first).order 200 rfl rfl ?_ ?_ ?_ ?_ ?_
  all_goals decide +kernel

end Phone
