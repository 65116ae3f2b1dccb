import Presto.Lib.Sorted
import Presto.Lib.Fallible
import Presto.Phone.Recovery

/-!
# Published generations stay

The invariant of the directory (`Kept`) has a clause for the saves that were published and one for those
under way. A published generation is complete, because it was verified under its partial name; it goes
only when eight newer ones were published (`Behind`), or when something else changes its files.
-/

namespace Recovery

open Server.Backup (Json)

variable {platform : Platform} {w : World}

/-! ## Sealed chunks -/

/-- The chunks that hold the first bytes of a source, numbered from zero. -/
def Sealed (platform : Platform) (chunks : List (Nat × Bytes)) (bytes : Bytes) : Prop :=
  chunks.map Prod.fst = List.range chunks.length ∧ ∃ parts : List Bytes, parts.flatten = bytes ∧
    List.Forall₂ (fun chunk part => platform.decrypt chunk.2 = some part) chunks parts

theorem Sealed.nil : Sealed platform [] [] := ⟨rfl, [], rfl, .nil⟩

theorem Sealed.concat {chunks : List (Nat × Bytes)} {bytes chunk encrypted : Bytes}
    (h : Sealed platform chunks bytes) (hchunk : platform.decrypt encrypted = some chunk) :
    Sealed platform (chunks ++ [(chunks.length, encrypted)]) (bytes ++ chunk) := by
  obtain ⟨hnumbers, parts, rfl, hparts⟩ := h
  refine ⟨by simp [hnumbers, List.range_succ], parts ++ [chunk], by simp, ?_⟩
  exact List.rel_append hparts (.cons hchunk .nil)

theorem Sealed.decrypted {g : Generation} {bytes : Bytes} (h : Sealed platform g.chunks bytes)
    (hne : g.chunks ≠ []) : decrypted platform g = .ok bytes := by
  obtain ⟨hnumbers, parts, rfl, hparts⟩ := h
  have hsorted : g.chunks.insertionSort (fun a b => a.1 ≤ b.1) = g.chunks := by
    apply List.Pairwise.insertionSort_eq
    rw [← List.pairwise_map (f := Prod.fst) (R := (· ≤ ·)), hnumbers]
    exact List.pairwise_le_range
  simp only [Recovery.decrypted, hsorted, Except.bind_eq_ok, Except.ensure_eq_ok, Except.pure_eq_ok]
  exact ⟨(), ⟨hne, hnumbers⟩, parts, Except.mapM_of_forall₂ (hparts.imp fun _ _ => Except.fromOption_eq_ok.2), rfl⟩

/-- A save whose source passed the checks. -/
structure Checked (platform : Platform) (save : Save) : Prop where
  valid : validate platform save.source = .ok save.metadata
  digest : platform.sha256 save.source = save.digest

/-- A generation that holds the source of a save. -/
structure Intact (platform : Platform) (save : Save) (g : Generation) : Prop where
  info : g.info = some save.info
  bytes : decrypted platform g = .ok save.source

@[simp] theorem sameMembers_self {α : Type} [DecidableEq α] (l : List α) : sameMembers l l = true := by
  simp [sameMembers]

theorem Intact.verify {save : Save} {g : Generation} (h : Intact platform save g)
    (hchecked : Checked platform save) : verify platform g = .ok save.info := by
  simp only [Recovery.verify, Except.bind_eq_ok, Except.fromOption_eq_ok, Except.ensure_eq_ok,
    Except.pure_eq_ok]
  exact ⟨save.info, h.info, save.source, h.bytes, save.metadata, hchecked.valid, (),
    ⟨hchecked.digest, rfl⟩, (), ⟨rfl, rfl, rfl, sameMembers_self _⟩, rfl⟩

theorem Intact.materialize {save : Save} {g : Generation} (h : Intact platform save g)
    (hchecked : Checked platform save) {published : Table String Generation}
    (hg : published.lookup save.id = some g) :
    materialize platform published save.info = .ok save.source := by
  simp only [Recovery.materialize, Except.bind_eq_ok, Except.fromOption_eq_ok]
  exact ⟨g, hg, save.info, h.verify hchecked, h.bytes⟩

/-- What `verify` accepted can be read. -/
theorem verify_bytes {g : Generation} {info : RecoveryInfo} (h : verify platform g = .ok info) :
    ∃ raw, decrypted platform g = .ok raw := by
  simp only [verify, Except.bind_eq_ok] at h
  obtain ⟨_, _, raw, hraw, _⟩ := h
  exact ⟨raw, hraw⟩

theorem chunks_of_decrypted {g : Generation} {raw : Bytes} (h : decrypted platform g = .ok raw) :
    g.chunks ≠ [] := by
  rintro hnil
  simp [decrypted, hnil, Except.ensure] at h

/-! ## The invariant -/

/-- The save that a task belongs to while its directory is not published. -/
def Task.save : Task → Option Save
  | .chunk save _ _ => some save
  | .describe save => some save
  | .publish save => some save
  | .list => none
  | .delete _ => none

/-- What the directory holds before the task. -/
def Task.Finds (platform : Platform) (g : Generation) : Task → Prop
  | .chunk save index rest => index = g.chunks.length ∧
      ∃ bytes, Sealed platform g.chunks bytes ∧ bytes ++ rest = save.source
  | .describe save => Sealed platform g.chunks save.source
  | .publish save => Sealed platform g.chunks save.source ∧ g.info = some save.info
  | .list => True
  | .delete _ => True

/-- The ids of saves under way. -/
def underway (tasks : List Task) : List String := (tasks.filterMap Task.save).map Save.id

/-- Eight newer generations were published. -/
def Behind (saved : List Save) (id : String) : Prop := 8 ≤ saved.countP fun save => id < save.id

structure Kept (platform : Platform) (w : World) : Prop where
  published : ∀ id ∈ w.published.keys, id ∈ w.saved.map Save.id
  saved : ∀ save ∈ w.saved, Checked platform save ∧ save.id ∈ w.drawn
  held : ∀ save ∈ w.saved, save.id ∉ w.damaged → ¬ Behind w.saved save.id →
    ∃ g, w.published.lookup save.id = some g ∧ Intact platform save g
  tasks : ∀ t ∈ w.tasks, ∀ save, t.save = some save →
    Checked platform save ∧ save.id ∈ w.drawn ∧ save.id ∉ w.saved.map Save.id ∧
      ∃ g, w.partials.lookup save.id = some g ∧ t.Finds platform g
  old : ∀ old, .delete old ∈ w.tasks → ∀ id ∈ old, Behind w.saved id
  distinct : (underway w.tasks).Nodup

theorem Behind.cons {saved : List Save} {id : String} (h : Behind saved id) (save : Save) :
    Behind (save :: saved) id :=
  h.trans (List.sublist_cons_self save saved).countP_le

theorem Kept.initial : Kept platform World.initial :=
  ⟨by simp [World.initial], by simp [World.initial], by simp [World.initial], by simp [World.initial],
    by simp [World.initial], by simp [World.initial, underway]⟩

theorem Kept.perm {tasks : List Task} (h : Kept platform w) (hperm : w.tasks.Perm tasks) :
    Kept platform { w with tasks := tasks } where
  published := h.published
  saved := h.saved
  held := h.held
  tasks t ht := h.tasks t (hperm.mem_iff.2 ht)
  old old hold := h.old old (hperm.mem_iff.2 hold)
  distinct := ((hperm.filterMap _).map _).nodup_iff.1 h.distinct

section

variable {t : Task} {tasks : List Task} {save : Save}

/-- A task that is done. -/
theorem Kept.done (h : Kept platform { w with tasks := t :: tasks }) :
    Kept platform { w with tasks := tasks } where
  published := h.published
  saved := h.saved
  held := h.held
  tasks t' ht' := h.tasks t' (List.mem_cons_of_mem t ht')
  old old hold := h.old old (List.mem_cons_of_mem t hold)
  distinct := h.distinct.sublist (((List.sublist_cons_self t tasks).filterMap _).map _)

/-- The next task of a save that does not write there. -/
theorem Kept.push (h : Kept platform w) (ht : t.save = none)
    (hold : ∀ old, t = .delete old → ∀ id ∈ old, Behind w.saved id) :
    Kept platform { w with tasks := t :: w.tasks } where
  published := h.published
  saved := h.saved
  held := h.held
  tasks := by
    rintro t' (_ | ⟨_, ht'⟩) save hsave
    · rw [ht] at hsave
      cases hsave
    · exact h.tasks t' ht' save hsave
  old := by
    rintro old (_ | ⟨_, hmem⟩)
    · exact hold old rfl
    · exact h.old old hmem
  distinct := by
    have hnone : underway (t :: w.tasks) = underway w.tasks := by
      simp [underway, List.filterMap_cons_none ht]
    exact hnone ▸ h.distinct

/-- Two tasks belong to different saves. -/
theorem Kept.apart (h : Kept platform { w with tasks := t :: tasks }) (ht : t.save = some save)
    {t' : Task} {other : Save} (ht' : t' ∈ tasks) (hother : t'.save = some other) :
    other.id ≠ save.id := by
  have hdistinct : (underway (t :: tasks)).Nodup := h.distinct
  simp only [underway, List.filterMap_cons_some ht, List.map_cons, List.nodup_cons] at hdistinct
  intro heq
  exact hdistinct.1 (heq ▸ List.mem_map_of_mem (List.mem_filterMap.2 ⟨t', ht', hother⟩))

/-- A save goes on in its own directory. -/
theorem Kept.advance (h : Kept platform { w with tasks := t :: tasks }) (ht : t.save = some save)
    {t' : Task} (ht' : t'.save = some save) {partials : Table String Generation}
    (hothers : ∀ id, id ≠ save.id → partials.lookup id = w.partials.lookup id)
    {g : Generation} (hg : partials.lookup save.id = some g) (hfinds : t'.Finds platform g) :
    Kept platform { w with partials := partials, tasks := t' :: tasks } where
  published := h.published
  saved := h.saved
  held := h.held
  tasks := by
    rintro u (_ | ⟨_, hu⟩) save' hsave'
    · obtain rfl : save = save' := Option.some.inj (ht'.symm.trans hsave')
      obtain ⟨hchecked, hdrawn, hfresh, _⟩ := h.tasks t List.mem_cons_self save ht
      exact ⟨hchecked, hdrawn, hfresh, g, hg, hfinds⟩
    · obtain ⟨hchecked, hdrawn, hfresh, g', hg', hfinds'⟩ :=
        h.tasks u (List.mem_cons_of_mem t hu) save' hsave'
      exact ⟨hchecked, hdrawn, hfresh, g', (hothers _ (h.apart ht hu hsave')).trans hg', hfinds'⟩
  old := by
    rintro old (_ | ⟨_, hold⟩)
    · cases ht'
    · exact h.old old (List.mem_cons_of_mem t hold)
  distinct := by
    have heq : underway (t' :: tasks) = underway (t :: tasks) := by
      simp [underway, List.filterMap_cons_some ht, List.filterMap_cons_some ht']
    exact heq ▸ h.distinct

/-- The directory of a save that fails. -/
theorem Kept.abort (h : Kept platform { w with tasks := t :: tasks }) (ht : t.save = some save) :
    Kept platform (w.abort tasks save.id) where
  published := h.published
  saved := h.saved
  held := h.held
  tasks := by
    intro u hu save' hsave'
    obtain ⟨hchecked, hdrawn, hfresh, g, hg, hfinds⟩ :=
      h.tasks u (List.mem_cons_of_mem t hu) save' hsave'
    refine ⟨hchecked, hdrawn, hfresh, g, ?_, hfinds⟩
    rw [World.abort, AList.lookup_erase_of, if_neg (h.apart ht hu hsave')]
    exact hg
  old old hold := h.old old (List.mem_cons_of_mem t hold)
  distinct := h.done.distinct

/-! ## Steps -/

theorem Kept.sealChunk {index : Nat} {rest : Bytes} (input : Input)
    (h : Kept platform { w with tasks := .chunk save index rest :: tasks }) :
    Kept platform (sealChunk platform w tasks input save index rest) := by
  obtain ⟨_, _, _, g, hg, rfl, bytes, hsealed, hbytes⟩ := h.tasks _ List.mem_cons_self save rfl
  unfold Recovery.sealChunk
  by_cases hrest : rest = []
  · rw [if_pos hrest]
    rw [hrest, List.append_nil] at hbytes
    subst hbytes
    exact h.advance rfl rfl (fun _ _ => rfl) hg hsealed
  · rw [if_neg hrest]
    dsimp only
    split
    · rename_i hchunk
      refine h.advance rfl rfl (fun id hid => ?_) (g := { g with chunks := g.chunks ++ [_] }) ?_
        ⟨?_, _, hsealed.concat hchunk, ?_⟩
      · rw [AList.lookup_modify, if_neg hid]
      · rw [AList.lookup_modify, if_pos rfl, hg]
        rfl
      · simp
      · rw [List.append_assoc, List.take_append_drop, hbytes]
    · exact h.abort rfl

theorem Kept.describe (h : Kept platform { w with tasks := .describe save :: tasks }) :
    Kept platform { w with
      partials := w.partials.modify save.id fun g => { g with info := some save.info }
      tasks := .publish save :: tasks } := by
  obtain ⟨_, _, _, g, hg, hsealed⟩ := h.tasks _ List.mem_cons_self save rfl
  refine h.advance rfl rfl (fun id hid => ?_) (g := { g with info := some save.info }) ?_
    ⟨hsealed, rfl⟩
  · rw [AList.lookup_modify, if_neg hid]
  · rw [AList.lookup_modify, if_pos rfl, hg]
    rfl

/-- What is renamed is complete. -/
theorem Kept.rename {g : Generation} (h : Kept platform { w with tasks := t :: tasks })
    (ht : t.save = some save) (hintact : Intact platform save g) :
    Kept platform { w with
      published := w.published.insert save.id g
      partials := w.partials.erase save.id
      tasks := tasks
      saved := save :: w.saved } := by
  obtain ⟨hchecked, hdrawn, hfresh, _⟩ := h.tasks t List.mem_cons_self save ht
  have habort := h.abort ht
  exact {
    published := by
      intro id hid
      rcases (AList.mem_insert w.published).1 (AList.mem_keys.2 hid) with rfl | hid
      · exact List.mem_cons_self
      · exact List.mem_cons_of_mem _ (h.published id (AList.mem_keys.1 hid))
    saved := by
      rintro other (_ | ⟨_, hother⟩)
      · exact ⟨hchecked, hdrawn⟩
      · exact h.saved other hother
    held := by
      rintro other (_ | ⟨_, hother⟩) hdamaged hbehind
      · exact ⟨g, by rw [AList.lookup_insert], hintact⟩
      · obtain ⟨g', hg', hintact'⟩ := h.held other hother hdamaged fun hold => hbehind (hold.cons save)
        have hne : other.id ≠ save.id := fun heq => hfresh (heq ▸ List.mem_map_of_mem hother)
        exact ⟨g', (AList.lookup_insert_ne hne).trans hg', hintact'⟩
    tasks := by
      intro u hu other hother
      obtain ⟨hchecked', hdrawn', hfresh', hpartial⟩ := habort.tasks u hu other hother
      refine ⟨hchecked', hdrawn', ?_, hpartial⟩
      rw [List.map_cons, List.mem_cons, not_or]
      exact ⟨h.apart ht hu hother, hfresh'⟩
    old := fun old hold id hid => (habort.old old hold id hid).cons save
    distinct := habort.distinct }

theorem Kept.publish (h : Kept platform { w with tasks := .publish save :: tasks }) :
    Kept platform (publish platform w tasks save) := by
  obtain ⟨_, _, _, g, hg, hsealed, hinfo⟩ := h.tasks _ List.mem_cons_self save rfl
  simp only [Recovery.publish, hg]
  cases hverify : verify platform g with
  | error e => exact h.abort rfl
  | ok info =>
    obtain ⟨raw, hraw⟩ := verify_bytes hverify
    have hintact : Intact platform save g := ⟨hinfo, hsealed.decrypted (chunks_of_decrypted hraw)⟩
    refine (h.rename rfl hintact).push rfl fun old heq => ?_
    cases heq

/-- The published ids, newest first. -/
theorem generations_sorted (published : Table String Generation) :
    (generations published).Pairwise (· ≥ ·) :=
  List.pairwise_insertionSort _ _

theorem generations_perm (published : Table String Generation) :
    (generations published).Perm published.keys :=
  List.perm_insertionSort _ _

/-- Nothing among the newest eight is listed for deletion. -/
theorem Kept.behind (h : Kept platform w) {id : String}
    (hid : id ∈ (generations w.published).drop 8) : Behind w.saved id := by
  have hnodup : (generations w.published).Nodup :=
    (generations_perm _).nodup_iff.2 w.published.nodupKeys
  have hsorted : (generations w.published).Pairwise (· > ·) :=
    (generations_sorted w.published).imp₂ (fun _ _ hge hne => lt_of_le_of_ne hge (Ne.symm hne)) hnodup
  have hsubset : generations w.published ⊆ w.saved.map Save.id :=
    fun id hid => h.published id ((generations_perm _).mem_iff.1 hid)
  calc 8 ≤ (generations w.published).countP (id < ·) :=
        hsorted.le_countP hid fun other hlt => decide_eq_true hlt
    _ ≤ (w.saved.map Save.id).countP (id < ·) := (List.subperm_of_subset hnodup hsubset).countP_le _
    _ = w.saved.countP (fun save => id < save.id) := List.countP_map

/-- A generation behind the newest eight may change. -/
theorem Kept.evict (h : Kept platform w) {id : String} (hid : Behind w.saved id)
    {published : Table String Generation} (hkeys : published.keys ⊆ w.published.keys)
    (hothers : ∀ id', id' ≠ id → published.lookup id' = w.published.lookup id') :
    Kept platform { w with published := published } where
  published id' hid' := h.published id' (hkeys hid')
  saved := h.saved
  held := by
    intro save hsave hdamaged hbehind
    have hne : save.id ≠ id := fun heq => hbehind (heq ▸ hid)
    obtain ⟨g, hg, hintact⟩ := h.held save hsave hdamaged hbehind
    exact ⟨g, (hothers _ hne).trans hg, hintact⟩
  tasks := h.tasks
  old := h.old
  distinct := h.distinct

theorem Kept.delete {old : List String} (input : Input)
    (h : Kept platform { w with tasks := .delete old :: tasks }) :
    Kept platform (delete w tasks input old) := by
  cases old with
  | nil => exact h.done
  | cons id old =>
    have hold : ∀ victims, Task.delete old = .delete victims → ∀ id ∈ victims, Behind w.saved id := by
      rintro _ ⟨⟩ id' hid'
      exact h.old _ List.mem_cons_self id' (List.mem_cons_of_mem id hid')
    have hbehind : Behind w.saved id := h.old _ List.mem_cons_self id List.mem_cons_self
    simp only [Recovery.delete]
    cases hg : w.published.lookup id with
    | none => exact h.done.push rfl hold
    | some g =>
      dsimp only
      split
      · have hkeys : (w.published.erase id).keys ⊆ w.published.keys := fun id' hid' =>
          AList.mem_keys.1 ((AList.mem_erase).1 (AList.mem_keys.2 hid')).2
        have hothers : ∀ id', id' ≠ id → (w.published.erase id).lookup id' = w.published.lookup id' :=
          fun id' hid' => AList.lookup_erase_ne hid'
        exact (h.done.evict hbehind hkeys hothers).push rfl hold
      · refine (h.evict hbehind ?_ ?_)
        · intro id' hid'
          rcases (AList.mem_insert w.published).1 (AList.mem_keys.2 hid') with rfl | hid'
          · exact AList.mem_keys.1 (AList.lookup_isSome.1 (by rw [hg]; rfl))
          · exact AList.mem_keys.1 hid'
        · exact fun id' hid' => AList.lookup_insert_ne hid'

theorem Kept.resume (input : Input) (h : Kept platform { w with tasks := t :: tasks }) :
    Kept platform (resume platform w tasks input t) := by
  cases t with
  | chunk save index rest => exact h.sealChunk input
  | describe save => exact h.describe
  | publish save => exact h.publish
  | list =>
    refine h.done.push rfl ?_
    rintro _ ⟨⟩ id hid
    exact h.behind hid
  | delete old => exact h.delete input

theorem Kept.fail (h : Kept platform { w with tasks := t :: tasks }) :
    Kept platform (fail w tasks t) := by
  cases t with
  | chunk save index rest => exact h.abort rfl
  | describe save => exact h.abort rfl
  | publish save => exact h.abort rfl
  | list => exact h.done
  | delete old => exact h.done

theorem openSource_ok {input : Input} {source : Bytes} {digest : String}
    (h : openSource platform input source digest = .ok save) :
    Checked platform save ∧ save.id = input.id ∧ save.source = source := by
  simp only [openSource, Except.bind_eq_ok, Except.ensure_eq_ok, Except.pure_eq_ok] at h
  obtain ⟨_, _, _, _, metadata, hvalid, _, hdigest, rfl⟩ := h
  exact ⟨⟨hvalid, hdigest⟩, rfl, rfl⟩

/-- A new directory. -/
theorem Kept.opened (h : Kept platform w) (hchecked : Checked platform save)
    (hdrawn : save.id ∉ w.drawn) : Kept platform { w with
      partials := w.partials.insert save.id ⟨[], none⟩
      tasks := .chunk save 0 save.source :: w.tasks
      drawn := save.id :: w.drawn } := by
  have hothers : ∀ t ∈ w.tasks, ∀ other, t.save = some other → other.id ≠ save.id :=
    fun t ht other hother heq => hdrawn (heq ▸ (h.tasks t ht other hother).2.1)
  have hfresh : save.id ∉ w.saved.map Save.id := by
    intro hmem
    obtain ⟨other, hother, heq⟩ := List.mem_map.1 hmem
    exact hdrawn (heq ▸ (h.saved other hother).2)
  exact {
    published := h.published
    saved := fun other hother =>
      ⟨(h.saved other hother).1, List.mem_cons_of_mem _ (h.saved other hother).2⟩
    held := h.held
    tasks := by
      rintro t (_ | ⟨_, ht⟩) other hother
      · obtain rfl : save = other := Option.some.inj hother
        exact ⟨hchecked, List.mem_cons_self, hfresh, _, AList.lookup_insert _, rfl, [], .nil, rfl⟩
      · obtain ⟨hchecked', hdrawn', hfresh', g, hg, hfinds⟩ := h.tasks t ht other hother
        exact ⟨hchecked', List.mem_cons_of_mem _ hdrawn', hfresh', g,
          (AList.lookup_insert_ne (hothers t ht other hother)).trans hg, hfinds⟩
    old := by
      rintro old (_ | ⟨_, hold⟩)
      exact h.old old hold
    distinct := by
      refine List.nodup_cons.2 ⟨fun hmem => ?_, h.distinct⟩
      obtain ⟨other, hother, heq⟩ := List.mem_map.1 hmem
      obtain ⟨t, ht, hsave⟩ := List.mem_filterMap.1 hother
      exact hothers t ht other hsave heq }

/-- Something else changes the files of a generation. -/
theorem Kept.damage (h : Kept platform w) (id : String) (g : Generation) : Kept platform { w with
    published := w.published.modify id fun _ => g
    damaged := id :: w.damaged } where
  published id' hid' := by
    have hsome := AList.lookup_isSome.2 (AList.mem_keys.2 hid')
    rw [AList.lookup_modify] at hsome
    refine h.published id' (AList.mem_keys.1 (AList.lookup_isSome.1 ?_))
    split at hsome
    · rwa [Option.isSome_map] at hsome
    · exact hsome
  saved := h.saved
  held := by
    intro save hsave hdamaged hbehind
    rw [List.mem_cons, not_or] at hdamaged
    obtain ⟨g', hg', hintact⟩ := h.held save hsave hdamaged.2 hbehind
    exact ⟨g', by rw [AList.lookup_modify, if_neg hdamaged.1, hg'], hintact⟩
  tasks := h.tasks
  old := h.old
  distinct := h.distinct

theorem Kept.step (h : Kept platform w) (a : Action) : Kept platform (step platform w a) := by
  cases a with
  | save input source digest =>
    simp only [Recovery.step]
    by_cases hdrawn : input.id ∈ w.drawn
    · rwa [if_pos hdrawn]
    · rw [if_neg hdrawn]
      cases hopen : openSource platform input source digest with
      | error e => exact h
      | ok save =>
        obtain ⟨hchecked, hid, rfl⟩ := openSource_ok hopen
        rw [← hid] at hdrawn ⊢
        exact h.opened hchecked hdrawn
  | resume task input =>
    simp only [Recovery.step]
    cases htask : w.tasks[task]? with
    | none => exact h
    | some t =>
      obtain ⟨hlt, rfl⟩ := List.getElem?_eq_some_iff.1 htask
      exact (h.perm (List.getElem_cons_eraseIdx_perm hlt).symm).resume input
  | fail task =>
    simp only [Recovery.step]
    cases htask : w.tasks[task]? with
    | none => exact h
    | some t =>
      obtain ⟨hlt, rfl⟩ := List.getElem?_eq_some_iff.1 htask
      exact (h.perm (List.getElem_cons_eraseIdx_perm hlt).symm).fail
  | stop =>
    exact { h with
      tasks := fun t ht => by cases ht
      old := fun old hold => by cases hold
      distinct := List.nodup_nil }
  | damage id g => exact h.damage id g

theorem Kept.foldl (h : Kept platform w) (actions : List Action) :
    Kept platform (actions.foldl (Recovery.step platform) w) := by
  induction actions generalizing w with
  | nil => exact h
  | cons a actions ih => exact ih (h.step a)

theorem run_append (actions more : List Action) :
    run platform (actions ++ more) = more.foldl (Recovery.step platform) (run platform actions) :=
  List.foldl_append

theorem run_kept (actions : List Action) : Kept platform (run platform actions) :=
  Kept.initial.foldl actions

end

/-! ## Where saves come from -/

/-- The saves that were published and those under way. -/
def World.saves (w : World) : List Save := w.saved ++ w.tasks.filterMap Task.save

/-- A task goes on with its own save. -/
theorem resume_saves {tasks : List Task} {t : Task} {input : Input} {save : Save}
    (h : save ∈ (resume platform w tasks input t).saves) :
    save ∈ { w with tasks := t :: tasks }.saves := by
  have hdone : ∀ {save}, save ∈ w.saved ++ tasks.filterMap Task.save →
      save ∈ { w with tasks := t :: tasks }.saves := by
    intro save h
    refine List.mem_append.2 ((List.mem_append.1 h).imp_right fun h => ?_)
    exact ((List.sublist_cons_self t tasks).filterMap _).mem h
  cases t with
  | chunk save index rest =>
    simp only [resume, sealChunk] at h
    split at h
    · exact h
    · split at h
      · exact h
      · exact hdone h
  | describe save => exact h
  | publish save =>
    simp only [resume, publish] at h
    split at h
    · exact hdone h
    · split at h
      · exact hdone h
      · simpa [World.saves, Task.save, or_comm, or_assoc, or_left_comm] using h
  | list => exact h
  | delete old =>
    cases old with
    | nil => exact h
    | cons id old =>
      simp only [resume, delete] at h
      split at h
      · exact h
      · split at h <;> exact h

theorem fail_saves {tasks : List Task} {t : Task} {save : Save} (h : save ∈ (fail w tasks t).saves) :
    save ∈ { w with tasks := t :: tasks }.saves := by
  have hdone : save ∈ w.saved ++ tasks.filterMap Task.save := by
    cases t <;> exact h
  refine List.mem_append.2 ((List.mem_append.1 hdone).imp_right fun h => ?_)
  exact ((List.sublist_cons_self t tasks).filterMap _).mem h

theorem step_saves {a : Action} {save : Save} (h : save ∈ (step platform w a).saves) :
    save ∈ w.saves ∨ ∃ input digest, a = .save input save.source digest ∧ save.id = input.id := by
  have hperm : ∀ {tasks}, w.tasks.Perm tasks → save ∈ { w with tasks := tasks }.saves →
      save ∈ w.saves := by
    intro tasks hperm h
    exact List.mem_append.2 ((List.mem_append.1 h).imp_right (hperm.filterMap _).mem_iff.2)
  cases a with
  | save input source digest =>
    simp only [step] at h
    split at h
    · exact .inl h
    · cases hopen : openSource platform input source digest with
      | error e =>
        rw [hopen] at h
        exact .inl h
      | ok opened =>
        obtain ⟨_, hid, rfl⟩ := openSource_ok hopen
        rw [hopen] at h
        rcases List.mem_append.1 h with h | h
        · exact .inl (List.mem_append_left _ h)
        · rcases List.mem_cons.1 h with rfl | h
          · exact .inr ⟨input, digest, rfl, hid⟩
          · exact .inl (List.mem_append_right _ h)
  | resume task input =>
    simp only [step] at h
    cases htask : w.tasks[task]? with
    | none =>
      rw [htask] at h
      exact .inl h
    | some t =>
      rw [htask] at h
      obtain ⟨hlt, rfl⟩ := List.getElem?_eq_some_iff.1 htask
      exact .inl (hperm (List.getElem_cons_eraseIdx_perm hlt).symm (resume_saves h))
  | fail task =>
    simp only [step] at h
    cases htask : w.tasks[task]? with
    | none =>
      rw [htask] at h
      exact .inl h
    | some t =>
      rw [htask] at h
      obtain ⟨hlt, rfl⟩ := List.getElem?_eq_some_iff.1 htask
      exact .inl (hperm (List.getElem_cons_eraseIdx_perm hlt).symm (fail_saves h))
  | stop => exact .inl (List.mem_append_left _ (by simpa [step, World.saves] using h))
  | damage id g => exact .inl h

theorem run_saves {actions : List Action} {save : Save} (h : save ∈ (run platform actions).saves) :
    ∃ input digest, .save input save.source digest ∈ actions ∧ save.id = input.id := by
  have hrun : ∀ {w : World}, save ∈ (actions.foldl (step platform) w).saves → save ∈ w.saves ∨
      ∃ input digest, .save input save.source digest ∈ actions ∧ save.id = input.id := by
    clear h
    induction actions with
    | nil => exact .inl
    | cons a actions ih =>
      intro w h
      rcases ih h with h | ⟨input, digest, hmem, hid⟩
      · rcases step_saves h with h | ⟨input, digest, rfl, hid⟩
        · exact .inl h
        · exact .inr ⟨input, digest, List.mem_cons_self, hid⟩
      · exact .inr ⟨input, digest, List.mem_cons_of_mem a hmem, hid⟩
  rcases hrun h with h | h
  · cases h
  · exact h

theorem delete_saved {tasks : List Task} {input : Input} {old : List String} :
    (delete w tasks input old).damaged = w.damaged ∧ (delete w tasks input old).saved = w.saved := by
  cases old with
  | nil => exact ⟨rfl, rfl⟩
  | cons id old =>
    simp only [delete]
    split
    · exact ⟨rfl, rfl⟩
    · split <;> exact ⟨rfl, rfl⟩

/-- A task adds at most the save that it publishes. -/
theorem resume_saved {tasks : List Task} {input : Input} {t : Task} :
    (resume platform w tasks input t).damaged = w.damaged ∧
      w.saved <:+ (resume platform w tasks input t).saved := by
  cases t with
  | chunk save index rest =>
    simp only [resume, sealChunk]
    split
    · exact ⟨rfl, List.suffix_refl _⟩
    · split <;> exact ⟨rfl, List.suffix_refl _⟩
  | describe save => exact ⟨rfl, List.suffix_refl _⟩
  | publish save =>
    simp only [resume, publish]
    split
    · exact ⟨rfl, List.suffix_refl _⟩
    · split
      · exact ⟨rfl, List.suffix_refl _⟩
      · exact ⟨rfl, List.suffix_cons _ _⟩
  | list => exact ⟨rfl, List.suffix_refl _⟩
  | delete old => exact ⟨delete_saved.1, delete_saved.2 ▸ List.suffix_refl _⟩

theorem fail_saved {tasks : List Task} {t : Task} :
    (fail w tasks t).damaged = w.damaged ∧ (fail w tasks t).saved = w.saved := by
  cases t <;> exact ⟨rfl, rfl⟩

/-- What a step does to what was published and what was damaged. -/
theorem step_saved (a : Action) : w.saved <:+ (step platform w a).saved ∧
    ∀ id ∈ (step platform w a).damaged, id ∈ w.damaged ∨ ∃ g, a = .damage id g := by
  cases a with
  | save input source digest =>
    simp only [step]
    split
    · exact ⟨List.suffix_refl _, fun id => .inl⟩
    · split <;> exact ⟨List.suffix_refl _, fun id => .inl⟩
  | resume task input =>
    simp only [step]
    split
    · exact ⟨resume_saved.2, fun id h => .inl (resume_saved.1 ▸ h)⟩
    · exact ⟨List.suffix_refl _, fun id => .inl⟩
  | fail task =>
    simp only [step]
    split
    · exact ⟨fail_saved.2 ▸ List.suffix_refl _, fun id h => .inl (fail_saved.1 ▸ h)⟩
    · exact ⟨List.suffix_refl _, fun id => .inl⟩
  | stop => exact ⟨List.suffix_refl _, fun id => .inl⟩
  | damage id' g =>
    refine ⟨List.suffix_refl _, fun id h => ?_⟩
    rcases List.mem_cons.1 h with rfl | h
    · exact .inr ⟨g, rfl⟩
    · exact .inl h

theorem foldl_saved (actions : List Action) : w.saved <:+ (actions.foldl (step platform) w).saved := by
  induction actions generalizing w with
  | nil => exact List.suffix_refl _
  | cons a actions ih => exact (step_saved a).1.trans ih

/-- Only something else changes files. -/
theorem run_damaged {actions : List Action} {id : String} (h : id ∈ (run platform actions).damaged) :
    ∃ g, .damage id g ∈ actions := by
  have hrun : ∀ {w : World}, id ∈ (actions.foldl (step platform) w).damaged →
      id ∈ w.damaged ∨ ∃ g, .damage id g ∈ actions := by
    clear h
    induction actions with
    | nil => exact .inl
    | cons a actions ih =>
      intro w h
      rcases ih h with h | ⟨g, hg⟩
      · rcases (step_saved a).2 id h with h | ⟨g, rfl⟩
        · exact .inl h
        · exact .inr ⟨g, List.mem_cons_self⟩
      · exact .inr ⟨g, List.mem_cons_of_mem a hg⟩
  rcases hrun h with h | h
  · cases h
  · exact h

/-! ## Undisturbed saves -/

section

variable {save : Save} {tasks : List Task} {input : Input}

theorem step_head {t : Task} (htasks : w.tasks = t :: tasks) :
    step platform w (.resume 0 input) = resume platform w tasks input t := by
  simp [step, htasks]

/-- What a save leaves that nothing disturbs: its generation, and the others to be listed. -/
structure Completed (w w' : World) (save : Save) (tasks : List Task) : Prop where
  tasks : w'.tasks = .list :: tasks
  saved : w'.saved = save :: w.saved
  drawn : w'.drawn = w.drawn
  published : ∃ g, w'.published = w.published.insert save.id g

/-- Before it is published a save changes only its own directory. -/
theorem Completed.after {w₁ w' : World} (h : Completed w₁ w' save tasks) (hsaved : w₁.saved = w.saved)
    (hdrawn : w₁.drawn = w.drawn) (hpublished : w₁.published = w.published) :
    Completed w w' save tasks :=
  ⟨h.tasks, hsaved ▸ h.saved, h.drawn.trans hdrawn, hpublished ▸ h.published⟩

theorem publish_completed (h : Kept platform w) (htasks : w.tasks = .publish save :: tasks)
    (hne : save.source ≠ []) : Completed w (step platform w (.resume 0 input)) save tasks := by
  have hmem : Task.publish save ∈ w.tasks := htasks ▸ List.mem_cons_self
  obtain ⟨hchecked, _, _, g, hg, hsealed, hinfo⟩ := h.tasks _ hmem save rfl
  have hchunks : g.chunks ≠ [] := by
    intro hnil
    obtain ⟨_, parts, hparts, hdecrypted⟩ := hnil ▸ hsealed
    cases hdecrypted
    exact hne hparts.symm
  have hverify := Intact.verify ⟨hinfo, hsealed.decrypted hchunks⟩ hchecked
  simp only [step_head htasks, resume, publish, hg, hverify]
  exact ⟨rfl, rfl, rfl, g, rfl⟩

/-- A read of a save, whichever task it is. -/
theorem step_chunk (hkey : ∀ nonce chunk, platform.decrypt (platform.encrypt nonce chunk) = some chunk)
    {k : Nat} (hk : k = max 1 (min input.length (64 * 1024))) {i index : Nat} {rest : Bytes}
    (ht : w.tasks[i]? = some (.chunk save index rest)) (hrest : rest ≠ []) :
    (step platform w (.resume i input)).tasks =
        .chunk save (index + 1) (rest.drop k) :: w.tasks.eraseIdx i ∧
      (step platform w (.resume i input)).saved = w.saved ∧
      (step platform w (.resume i input)).drawn = w.drawn ∧
      (step platform w (.resume i input)).published = w.published := by
  simp [step, ht, resume, sealChunk, hrest, hkey, hk]

/-- A save that nothing disturbs is published after its reads, of `k` bytes each. -/
theorem save_completes (hkey : ∀ nonce chunk, platform.decrypt (platform.encrypt nonce chunk) = some chunk)
    (hne : save.source ≠ []) {k : Nat} (hk : k = max 1 (min input.length (64 * 1024)))
    {n index : Nat} {rest : Bytes} (h : Kept platform w)
    (htasks : w.tasks = .chunk save index rest :: tasks) (hn : (rest.length + (k - 1)) / k = n) :
    Completed w ((List.replicate (n + 3) (.resume 0 input)).foldl (step platform) w) save tasks := by
  have hpos : 0 < k := by omega
  induction n generalizing w index rest with
  | zero =>
    -- the metadata, and the verification
    have hrest : rest = [] := by
      rw [Nat.div_eq_zero_iff_lt hpos] at hn
      exact List.length_eq_zero_iff.1 (by omega)
    have hstep := @step_head platform w tasks input _ htasks
    have hdescribe : (step platform w (.resume 0 input)).tasks = .describe save :: tasks := by
      simp [hstep, resume, sealChunk, hrest]
    have hpublish : (step platform (step platform w (.resume 0 input)) (.resume 0 input)).tasks =
        .publish save :: tasks := by
      rw [step_head hdescribe]
      rfl
    refine (publish_completed ((h.step _).step _) hpublish hne).after ?_ ?_ ?_
    all_goals
      rw [step_head hdescribe]
      simp [hstep, resume, sealChunk, hrest]
  | succ n ih =>
    have hrest : rest ≠ [] := by
      rintro rfl
      rw [List.length_nil, Nat.zero_add, Nat.div_eq_of_lt (by omega)] at hn
      cases hn
    obtain ⟨hnext, hsaved, hdrawn, hpublished⟩ :=
      @step_chunk platform w save input hkey k hk 0 index rest (by rw [htasks]; rfl) hrest
    rw [htasks] at hnext
    have hlength : ((rest.drop k).length + (k - 1)) / k = n := by
      have hfirst := List.length_pos_iff.2 hrest
      rw [List.length_drop]
      rcases le_or_gt k rest.length with hle | hlt
      · have heq : rest.length + (k - 1) = rest.length - k + (k - 1) + k := by omega
        rw [heq, Nat.add_div_right _ hpos] at hn
        exact Nat.succ.inj hn
      · have hone : (rest.length + (k - 1)) / k = 1 := Nat.div_eq_of_lt_le (by omega) (by omega)
        have hzero : (rest.length - k + (k - 1)) / k = 0 := Nat.div_eq_of_lt (by omega)
        omega
    exact (ih (h.step _) hnext hlength).after hsaved hdrawn hpublished

end

/-! ## Reading -/

section

variable {actions : List Action} {save : Save}

theorem Kept.intact (h : Kept platform w) (hsave : save ∈ w.saved) (hdamaged : save.id ∉ w.damaged)
    (hnewer : (w.saved.countP fun newer => save.id < newer.id) < 8) : Checked platform save ∧
      ∃ g, w.published.lookup save.id = some g ∧ Intact platform save g := by
  have hbehind : ¬ Behind w.saved save.id := by
    unfold Behind
    omega
  exact ⟨(h.saved save hsave).1, h.held save hsave hdamaged hbehind⟩

/-- The newest generation that verifies is not older than one that is intact. -/
theorem Kept.latest (h : Kept platform w) (hsave : save ∈ w.saved) (hdamaged : save.id ∉ w.damaged)
    (hnewer : (w.saved.countP fun newer => save.id < newer.id) < 8) :
    ∃ id g info, save.id ≤ id ∧ w.published.lookup id = some g ∧ verify platform g = .ok info ∧
      (id = save.id → info = save.info) ∧ latestInfo platform w.published = some info ∧
      ∀ id' g', id < id' → w.published.lookup id' = some g' → ∃ e, verify platform g' = .error e := by
  obtain ⟨hchecked, g₀, hg₀, hintact⟩ := h.intact hsave hdamaged hnewer
  have hverify₀ := hintact.verify hchecked
  have hmem : ∀ {id g}, w.published.lookup id = some g → id ∈ generations w.published := by
    intro id g hg
    exact (generations_perm _).mem_iff.2
      (AList.mem_keys.1 (AList.lookup_isSome.1 (by rw [hg]; rfl)))
  have hsome : (latestInfo platform w.published).isSome = true :=
    List.findSome?_isSome_iff.2 ⟨save.id, hmem hg₀, by simp [hg₀, hverify₀, Except.toOption]⟩
  obtain ⟨info, hinfo⟩ := Option.isSome_iff_exists.1 hsome
  obtain ⟨newer, id, older, hsplit, hid, hnone⟩ := List.findSome?_eq_some_iff.1 hinfo
  obtain ⟨g, hg, hverify⟩ := Option.bind_eq_some_iff.1 hid
  rw [Except.toOption_eq_some] at hverify
  have hsorted := List.pairwise_append.1 (hsplit ▸ generations_sorted w.published)
  have hfirst : save.id ∈ newer ∨ save.id ∈ id :: older := by
    rw [← List.mem_append, ← hsplit]
    exact hmem hg₀
  have hle : save.id ≤ id := by
    rcases hfirst with hfirst | hfirst
    · have hnone := hnone save.id hfirst
      simp [hg₀, hverify₀, Except.toOption] at hnone
    · rcases List.mem_cons.1 hfirst with rfl | hfirst
      · exact le_refl _
      · exact (List.pairwise_cons.1 hsorted.2.1).1 save.id hfirst
  refine ⟨id, g, info, hle, hg, hverify, ?_, hinfo, fun id' g' hlt hg' => ?_⟩
  · rintro rfl
    obtain rfl := Option.some.inj (hg₀.symm.trans hg)
    exact Except.ok.inj (hverify.symm.trans hverify₀)
  · have hnewer : id' ∈ newer := by
      have hmem' := hmem hg'
      rw [hsplit] at hmem'
      refine (List.mem_append.1 hmem').resolve_right fun hold => ?_
      rcases List.mem_cons.1 hold with rfl | hold
      · exact lt_irrefl _ hlt
      · exact absurd ((List.pairwise_cons.1 hsorted.2.1).1 id' hold) (not_le.2 hlt)
    have hnone := hnone id' hnewer
    simp only [hg', Option.bind_some] at hnone
    cases hverify' : verify platform g' with
    | error e => exact ⟨e, rfl⟩
    | ok info' =>
      rw [hverify'] at hnone
      cases hnone

end

end Recovery
