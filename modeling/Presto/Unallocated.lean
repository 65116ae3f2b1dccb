import Presto.Forecast

/-!
# The balance of Unallocated

`history_at` carries the balance of Unallocated from month to month (`apply`). Here it is compared
with the ledger: the last frozen balance, plus the movements recorded in the open months since. An
open month that is materialised adds its movements, and once more the setting in force when the
ledger holds no funding movement of it; `hasFunding` takes such a month for one that is still to be
materialised, also when its plan is zero and there was nothing to record.
-/

namespace BudgetLedger

open Budget Server

/-- The balance of Unallocated among the entries of a month. -/
def unallocatedBalance (categories : List BudgetCategorySnapshot) : Option Decimal :=
  (categories.find? fun c => c.categoryId = UNALLOCATED).bind (·.remainingEur)

/-- The balance that a closed month was frozen with. -/
def frozenBalance (db : Database) (month : Month) : Option Decimal :=
  (db.closures.lookup month).bind fun c => unallocatedBalance c.snapshot

/-- The balance after some closed months: the last frozen one, or the opening when there is none. -/
def lastBalance (db : Database) (opening : Decimal) (closed : List Month) : Option Decimal :=
  match closed.getLast? with
  | none => some opening
  | some month => frozenBalance db month

/-- What the open months up to `m` start from. -/
def startingBalance (db : Database) (state : LedgerState) (m : Month) : Option Decimal :=
  lastBalance db state.openingUnallocatedEur
    ((Month.through state.startMonth m).filter fun x => db.isClosed x)

/-- The movements of Unallocated in the open months up to `m`. -/
def recordedUnallocated (db : Database) (m : Month) : Decimal :=
  Journal.volume db.movements fun s =>
    s.category = UNALLOCATED ∧ s.month ≤ m ∧ db.isClosed s.month = false

/-- The movements of Unallocated in open months before the ledger. -/
def earlierUnallocated (db : Database) (start : Month) : Decimal :=
  Journal.volume db.movements fun s =>
    s.category = UNALLOCATED ∧ s.month < start ∧ db.isClosed s.month = false

/-- What the settings forecast for the open months that have no funding movement. -/
def forecastFunding (db : Database) (start m : Month) : Decimal :=
  (((Month.through start m).filter fun x => db.isClosed x = false ∧ hasFunding db x = false).map
    fun x => valueOf (settingEur db x)).sum

variable {today : Date} {db : Database} {d m start : Month}

/-! ## One month -/

theorem movementKinds_complete (k : MovementKind) : k ∈ movementKinds := by
  cases k <;> decide

/-- The movements of a month, kind by kind. -/
theorem sum_movementTotal (db : Database) (m : Month) (c : CategoryId) :
    (movementKinds.map (movementTotal db m c)).sum =
      Journal.volume db.movements fun s => s.month = m ∧ s.category = c := by
  rw [Journal.volume_eq_sum_classes db.movements _ Source.kind (by decide : movementKinds.Nodup)
    fun e _ _ => movementKinds_complete e.key.kind]
  exact congrArg List.sum (List.map_congr_left fun k _ =>
    Journal.volume_iff fun e _ => by rw [and_assoc])

/-- What an open month adds to Unallocated beyond its movements. -/
def forecastOf (db : Database) (m : Month) : Decimal :=
  if hasFunding db m then 0 else valueOf (settingEur db m)

theorem movementTotal_unfunded (h : hasFunding db m = false) :
    movementTotal db m UNALLOCATED .funding = 0 :=
  Journal.volume_eq_zero fun e he hp => by
    have hany := List.any_eq_false.1 h e he
    exact hany (decide_eq_true hp)

/-- **One month.** A materialised month adds its movements, and its forecast when it has no funding
movement. -/
theorem components_sum {e : BudgetMonthSnapshot} {f : Month} {b : Balances}
    {components : MovementKind → Decimal} (hsound : MovementsSound today db)
    (hrecomputed : Recomputed db d m) (hmonth : e.month = m) (hin : inLedger db m = true)
    (hplan : materialized db m = true)
    (hcs : (budgetCategories db).mapM (openCategory db f m b) = .ok e.categories)
    (hcomponents : unallocatedComponents db e = .ok components) :
    (movementKinds.map components).sum =
      (Journal.volume db.movements fun s => s.month = m ∧ s.category = UNALLOCATED) +
        forecastOf db m := by
  rw [← sum_movementTotal]
  unfold unallocatedComponents at hcomponents
  rw [hmonth] at hcomponents
  unfold forecastOf
  by_cases hfunding : hasFunding db m
  · rw [if_pos hfunding, Except.ok.injEq] at hcomponents
    rw [if_pos hfunding, hcomponents, add_zero]
  · rw [if_neg hfunding] at hcomponents
    simp only [Except.bind_eq_ok, Except.pure_eq_ok] at hcomponents
    obtain ⟨eur, heur, amounts, hamounts, hcomponents⟩ := hcomponents
    obtain ⟨al, hal, htotal⟩ := movementTotal_allocations hsound hrecomputed
    -- the entries of a materialised month show the recorded allocations
    have hshown : al.map (·.2) = amounts := by
      refine allocations_eq (Except.mapM_eq_ok hcs) (Except.mapM_eq_ok hal) (fun c hc planned hp => ?_)
        (Except.mapM_eq_ok hamounts)
      have hallocation := movementTotal_allocation hsound hrecomputed (List.mem_map.2 ⟨c, hc, rfl⟩)
      rw [hp, Option.some.injEq] at hallocation
      rw [hin, hplan, hallocation]
      rfl
    have hnone := movementTotal_unfunded (by simpa using hfunding : hasFunding db m = false)
    rw [if_neg hfunding, heur, valueOf_ok, ← hcomponents]
    simp only [movementKinds, List.map_cons, List.map_nil, List.sum_cons, List.sum_nil, hnone, htotal,
      hshown]
    abel

/-! ## From month to month -/

/-- The balance of Unallocated after one month. -/
def carryMonth (db : Database) (start : Month) (unallocated : Decimal) (h : BudgetMonthSnapshot) :
    Except String Decimal :=
  if h.month < start then .ok unallocated
  else if h.status = .closed then frozenUnallocated unallocated h.categories
  else (unallocatedComponents db h).map fun c => unallocated + (movementKinds.map c).sum

/-- `apply` carries the balance of the months before. -/
theorem applyFrom_append {hs es : List BudgetMonthSnapshot} :
    ∀ {u : Decimal} {r : List BudgetMonthSnapshot}, applyFrom db start u (hs ++ es) = .ok r →
      ∃ r₁ r₂ v, r = r₁ ++ r₂ ∧ hs.foldlM (carryMonth db start) u = .ok v ∧
        applyFrom db start v es = .ok r₂ := by
  induction hs with
  | nil =>
    intro u r h
    exact ⟨[], r, u, rfl, rfl, h⟩
  | cons x xs ih =>
    intro u r h
    rw [List.cons_append, applyFrom] at h
    rw [List.foldlM_cons]
    unfold carryMonth
    split at h
    · simp only [Except.bind_eq_ok, Except.pure_eq_ok] at h ⊢
      obtain ⟨rest, hrest, rfl⟩ := h
      obtain ⟨r₁, r₂, v, rfl, hfold, hlast⟩ := ih hrest
      refine ⟨x :: r₁, r₂, v, rfl, ⟨u, ?_, hfold⟩, hlast⟩
      rw [if_pos (by assumption)]
    · split at h
      · simp only [Except.bind_eq_ok, Except.pure_eq_ok] at h ⊢
        obtain ⟨u', hu, rest, hrest, rfl⟩ := h
        obtain ⟨r₁, r₂, v, rfl, hfold, hlast⟩ := ih hrest
        refine ⟨x :: r₁, r₂, v, rfl, ⟨u', ?_, hfold⟩, hlast⟩
        rw [if_neg (by assumption), if_pos (by assumption), hu]
      · simp only [Except.bind_eq_ok, Except.pure_eq_ok] at h ⊢
        obtain ⟨components, hcomponents, rest, hrest, rfl⟩ := h
        obtain ⟨r₁, r₂, v, rfl, hfold, hlast⟩ := ih hrest
        refine ⟨_ :: r₁, r₂, v, rfl, ⟨_, ?_, hfold⟩, hlast⟩
        rw [if_neg (by assumption), if_neg (by assumption), hcomponents]
        rfl

theorem frozenUnallocated_eq {cs : List BudgetCategorySnapshot} {u v b : Decimal}
    (h : frozenUnallocated u cs = .ok v) (hb : unallocatedBalance cs = some b) : v = b := by
  unfold frozenUnallocated at h
  unfold unallocatedBalance at hb
  cases hf : cs.find? fun c => c.categoryId = UNALLOCATED with
  | none =>
    rw [hf] at hb
    cases hb
  | some r =>
    rw [hf, Option.bind_some] at hb
    simp only [hf, Except.fromOption_eq_ok] at h
    rw [hb] at h
    exact (Option.some.inj h).symm

theorem filter_concat {α : Type} (xs : List α) (x : α) (p : α → Prop) [DecidablePred p] :
    (xs ++ [x]).filter (fun a => decide (p a)) =
      xs.filter (fun a => decide (p a)) ++ if p x then [x] else [] := by
  by_cases h : p x <;> simp [List.filter_append, h]

/-- **The run.** After some months the carried balance is the last frozen one plus what the open
months add. Induction on the months, the last one split off. -/
theorem carried_eq {ms : List Month} {u : Decimal} {delta : Month → Decimal}
    (hfrozen : ∀ m k, db.closures.lookup m = some k → start ≤ m →
      (unallocatedBalance k.snapshot).isSome = true) :
    ∀ {hs : List BudgetMonthSnapshot} {v : Decimal},
      List.Forall₂ (fun m h => ∃ b p, monthSnapshot db (firstMonth db) b p m = .ok h) ms hs →
      (∀ a ∈ ms, ∀ b ∈ ms, start ≤ a → db.isClosed b = true → db.isClosed a = true ∨ b < a) →
      ms.Pairwise (· < ·) →
      (∀ m ∈ ms, start ≤ m → db.isClosed m = false → ∀ h b p components,
        monthSnapshot db (firstMonth db) b p m = .ok h → unallocatedComponents db h = .ok components →
        (movementKinds.map components).sum = delta m) →
      hs.foldlM (carryMonth db start) u = .ok v →
      ∃ base, lastBalance db u (ms.filter fun m => start ≤ m ∧ db.isClosed m = true) = some base ∧
        v = base + ((ms.filter fun m => start ≤ m ∧ db.isClosed m = false).map delta).sum := by
  induction ms using List.reverseRecOn with
  | nil =>
    intro hs v hentries _ _ _ hfold
    cases hentries
    obtain rfl : u = v := Except.ok.inj hfold
    exact ⟨u, rfl, by simp⟩
  | append_singleton ms m ih =>
    intro hs v hentries hinitial hsorted hadds hfold
    obtain ⟨hs₁, hs₂, rfl, hentries₁, hentries₂⟩ := hentries.append_left
    obtain ⟨h, rest, ⟨b, p, hs⟩, hnil, rfl⟩ := List.forall₂_cons_left_iff.1 hentries₂
    cases hnil
    rw [List.foldlM_append] at hfold
    simp only [Except.bind_eq_ok] at hfold
    obtain ⟨v₁, hfold₁, hlast⟩ := hfold
    simp only [List.foldlM_cons, List.foldlM_nil, Except.bind_eq_ok, Except.pure_eq_ok] at hlast
    obtain ⟨v₂, hcarry, rfl⟩ := hlast
    have hbefore : ∀ a ∈ ms, a < m := fun a ha =>
      (List.pairwise_append.1 hsorted).2.2 a ha m List.mem_cons_self
    obtain ⟨base, hbase, rfl⟩ := ih hentries₁
      (fun a ha b hb => hinitial a (List.mem_append_left _ ha) b (List.mem_append_left _ hb))
      (List.pairwise_append.1 hsorted).1 (fun a ha => hadds a (List.mem_append_left _ ha)) hfold₁
    have hmonth := (monthSnapshot_ok hs).1
    unfold carryMonth at hcarry
    rw [hmonth] at hcarry
    rw [filter_concat, filter_concat]
    by_cases hle : start ≤ m
    · rw [if_neg (not_lt.2 hle)] at hcarry
      by_cases hclosed : db.isClosed m = true
      · -- a closed month fixes the balance, and all months of the ledger before it are closed
        obtain ⟨k, hk⟩ := Option.isSome_iff_exists.1 hclosed
        obtain ⟨_, ⟨k', hk', hstatus, hcs⟩ | ⟨hopen, _⟩ | ⟨hopen, _⟩⟩ := monthSnapshot_ok hs
        · rw [if_pos hstatus, hcs] at hcarry
          obtain ⟨balance, hbalance⟩ := Option.isSome_iff_exists.1 (hfrozen m k' hk' hle)
          have hnone : (ms.filter fun a => start ≤ a ∧ db.isClosed a = false) = [] := by
            refine List.filter_eq_nil_iff.2 fun a ha hp => ?_
            obtain ⟨hstart, hopen⟩ := of_decide_eq_true hp
            rcases hinitial a (by simp [ha]) m (by simp) hstart hclosed with hc | hlt
            · rw [hopen] at hc
              cases hc
            · exact lt_asymm hlt (hbefore a ha)
          refine ⟨balance, ?_, ?_⟩
          · rw [if_pos ⟨hle, hclosed⟩]
            simp [lastBalance, frozenBalance, hk', hbalance]
          · rw [frozenUnallocated_eq hcarry hbalance, hnone, if_neg (by simp [hclosed])]
            simp
        · rw [hclosed] at hopen
          cases hopen
        · rw [hclosed] at hopen
          cases hopen
      · -- an open month adds its own
        have hopen : db.isClosed m = false := by simpa using hclosed
        have hstatus : h.status ≠ .closed := by
          obtain ⟨_, ⟨k, hk, _⟩ | ⟨_, _, _, _, hst, _⟩ | ⟨_, _, hst, _⟩⟩ := monthSnapshot_ok hs
          · simp [Database.isClosed, hk] at hopen
          · rw [hst]
            decide
          · rw [hst]
            decide
        rw [if_neg hstatus, Except.map_eq_ok] at hcarry
        obtain ⟨components, hcomponents, rfl⟩ := hcarry
        refine ⟨base, ?_, ?_⟩
        · rw [if_neg fun hp => hclosed hp.2, List.append_nil]
          exact hbase
        · rw [if_pos ⟨hle, hopen⟩, List.map_append, List.sum_append,
            hadds m (by simp) hle hopen h b p components hs hcomponents]
          simp [add_assoc]
    · rw [if_pos (not_le.1 hle), Except.ok.injEq] at hcarry
      refine ⟨base, ?_, ?_⟩
      · rw [if_neg fun hp => hle hp.1, List.append_nil]
        exact hbase
      · rw [if_neg fun hp => hle hp.1, List.append_nil, hcarry]

end BudgetLedger

namespace BudgetLedger

open Budget Server

variable {today : Date} {db : Database} {m start : Month}

/-- An open entry of the ledger shows Unallocated. -/
theorem EntryOf.unallocated_mem {e : BudgetMonthSnapshot} (he : EntryOf db m e)
    (hopen : db.isClosed m = false) (hstart : db.start = some start) (hle : start ≤ m) :
    UNALLOCATED ∈ e.categories.map (·.categoryId) := by
  obtain ⟨b, p, h, hs, ⟨hnone, _⟩ | ⟨s, hs', happ⟩⟩ := he
  · simp [Database.start, hnone] at hstart
  · obtain rfl : s = start := Option.some.inj (hs'.symm.trans hstart)
    rcases happ.categories with ⟨_, hlt | hclosed⟩ | ⟨_, _, carry, components, _, hcat⟩
    · rw [(monthSnapshot_ok hs).1] at hlt
      exact absurd hle (not_le.2 hlt)
    · obtain ⟨_, ⟨k, hk, _⟩ | ⟨_, _, _, _, hst, _⟩ | ⟨_, _, hst, _⟩⟩ := monthSnapshot_ok hs
      · simp [Database.isClosed, hk] at hopen
      · rw [hst] at hclosed
        cases hclosed
      · rw [hst] at hclosed
        cases hclosed
    · rw [hcat, List.map_append]
      exact List.mem_append_right _ (List.mem_singleton.2 rfl)

end BudgetLedger

namespace Server

open Budget BudgetLedger

variable {today : Date} {db db' : Database}

/-- From the ledger start on, what is frozen includes Unallocated. -/
def UnallocatedFrozen (db : Database) : Prop :=
  ∀ start, db.start = some start → ∀ m k, db.closures.lookup m = some k → start ≤ m →
    UNALLOCATED ∈ k.snapshot.map (·.categoryId)

theorem Change.unallocatedFrozen (h : Change today db db') (hsound : Sound today db)
    (hI : UnallocatedFrozen db) : UnallocatedFrozen db' := by
  cases h with
  | startLedger _ _ _ _ _ _ =>
    intro start hstart m k hk hle
    -- all closed months are over
    cases hstart
    have hclosed := hsound.closures m (by simp [Database.isClosed, hk])
    exact absurd hle (not_le.2 hclosed.2.1)
  | @close m first cs cov operation hm hopen hf hfm hcal hbefore hcategories hexist _ =>
    intro start hstart m' k hk hle
    change (db.closures.insert m _).lookup m' = some k at hk
    rw [AList.lookup_insert_of] at hk
    split at hk
    · rename_i hmm
      cases hk
      subst hmm
      obtain ⟨_, entry, _, _, hentry, rfl⟩ := categories_ok hcategories
      exact hentry.unallocated_mem hopen hstart hle
    · exact hI start hstart m' k hk hle
  | _ => exact hI

theorem Reachable.unallocatedFrozen (h : Reachable today db) : UnallocatedFrozen db :=
  h.of_changes (I := UnallocatedFrozen)
    (fun _ _ himp start hstart => by
      rw [Database.start, himp.ledgerState] at hstart
      cases hstart)
    fun _ _ _ hsound hc hI => hc.unallocatedFrozen hsound hI

/-! ## The months of the ledger -/

/-- The months of the history from the ledger start to `m`. -/
theorem historyMonths_ledger (hsound : Sound today db) {through m start : Month} {xs ys : List Month}
    (hm : historyMonths db through = xs ++ m :: ys) (hstart : db.start = some start) :
    (xs ++ [m]).filter (fun a => start ≤ a) = Month.through start m := by
  obtain ⟨hcal, _, f, hf, hfs⟩ := hsound.start start hstart
  have hfcal := (hsound.imports f (firstMonth_mem hf)).1
  have hsorted := historyMonths_sorted db through
  rw [hm, List.append_cons] at hsorted
  have hleft := (List.pairwise_append.1 hsorted).1
  have hmem : m ∈ historyMonths db through := by simp [hm]
  have hthrough : m ≤ through := by
    rcases mem_historyMonths.1 hmem with ⟨_, h⟩ | ⟨f', hf', h⟩
    · exact h
    · exact ((Month.mem_through (hsound.imports f' (firstMonth_mem hf')).1).1 h).2.2
  refine List.Perm.eq_of_pairwise (fun a b _ _ (hab : a ≤ b) hba => le_antisymm hab hba)
    ((hleft.filter _).imp le_of_lt) ((Month.through_sorted _ _).imp le_of_lt) ?_
  refine (List.perm_ext_iff_of_nodup ((hleft.filter _).imp fun h => h.ne)
    (Month.through_nodup _ _)).2 fun a => ?_
  rw [List.mem_filter, Month.mem_through hcal, decide_eq_true_eq]
  constructor
  · rintro ⟨ha, hle⟩
    have hamem : a ∈ historyMonths db through := by
      rw [hm, List.append_cons]
      exact List.mem_append_left _ ha
    refine ⟨historyMonths_calendar hsound hamem, hle, ?_⟩
    rcases List.mem_append.1 ha with ha | ha
    · exact ((List.pairwise_append.1 hleft).2.2 a ha m List.mem_cons_self).le
    · rw [List.mem_singleton.1 ha]
  · rintro ⟨hac, hle, ham⟩
    refine ⟨?_, hle⟩
    have hamem : a ∈ historyMonths db through := mem_historyMonths.2 (.inr ⟨f, hf,
      (Month.mem_through hfcal).2 ⟨hac, hfs.trans hle, ham.trans hthrough⟩⟩)
    rw [hm, List.append_cons] at hamem
    rcases List.mem_append.1 hamem with ha | ha
    · exact ha
    · have hgt := (List.pairwise_append.1 hsorted).2.2 m (by simp) a ha
      exact absurd ham (not_le.2 hgt)

/-- The movements of the open months, month by month, and those before the ledger. -/
theorem recordedUnallocated_eq (hsound : Sound today db) {m start : Month}
    (hstart : db.start = some start) (hle : start ≤ m) :
    recordedUnallocated db m = earlierUnallocated db start +
      (((Month.through start m).filter fun x => db.isClosed x = false).map fun x =>
        Journal.volume db.movements fun s => s.month = x ∧ s.category = UNALLOCATED).sum := by
  have hcal := (hsound.start start hstart).1
  unfold recordedUnallocated earlierUnallocated
  rw [Journal.volume_split db.movements _ fun s => s.month < start]
  congr 1
  · refine Journal.volume_iff fun e _ => ⟨fun h => ⟨h.1.1, h.2, h.1.2.2⟩, fun h => ?_⟩
    exact ⟨⟨h.1, h.2.1.le.trans hle, h.2.2⟩, h.2.1⟩
  · rw [Journal.volume_eq_sum_classes db.movements _ Source.month
      ((Month.through_nodup start m).filter fun x => db.isClosed x = false) fun e he hp => ?_]
    · refine congrArg List.sum (List.map_congr_left fun x hx => Journal.volume_iff fun e _ => ?_)
      obtain ⟨hx, hopen⟩ := List.mem_filter.1 hx
      obtain ⟨_, hsx, hxm⟩ := (Month.mem_through hcal).1 hx
      constructor
      · rintro ⟨⟨⟨hc, _⟩, _⟩, rfl⟩
        exact ⟨rfl, hc⟩
      · rintro ⟨rfl, hc⟩
        exact ⟨⟨⟨hc, hxm, by simpa using hopen⟩, not_lt.2 hsx⟩, rfl⟩
    · obtain ⟨⟨_, hreached, hopen⟩, hs⟩ := hp
      refine List.mem_filter.2 ⟨(Month.mem_through hcal).2 ⟨?_, not_lt.1 hs, hreached⟩, ?_⟩
      · exact (hsound.movements e he).1.1
      · simpa using hopen

/-- The forecasts of the open months. -/
theorem sum_forecastOf (db : Database) (start m : Month) :
    (((Month.through start m).filter fun x => db.isClosed x = false).map (forecastOf db)).sum =
      forecastFunding db start m := by
  unfold forecastFunding
  generalize Month.through start m = ms
  induction ms with
  | nil => rfl
  | cons x xs ih =>
    simp only [List.filter_cons]
    by_cases hopen : db.isClosed x = false
    · cases hfunding : hasFunding db x with
      | true => simpa [hopen, hfunding, forecastOf] using ih
      | false => simpa [hopen, hfunding, forecastOf] using ih
    · simpa [hopen] using ih

/-- The entry of an open month of the ledger is the calculated one with Unallocated added: what was
carried up to the month, and its own components. -/
theorem historyAt_carried {through current m : Month} {history : List BudgetMonthSnapshot}
    {e : BudgetMonthSnapshot} {state : LedgerState} (hh : historyAt db through current = .ok history)
    (he : e ∈ history) (hmonth : e.month = m) (hopen : db.isClosed m = false)
    (hstate : db.ledgerState = some state) (hle : state.startMonth ≤ m) :
    ∃ xs ys hs snapshot v components, historyMonths db through = xs ++ m :: ys ∧
      List.Forall₂ (fun m h => ∃ b p, monthSnapshot db (firstMonth db) b p m = .ok h) xs hs ∧
      hs.foldlM (carryMonth db state.startMonth) state.openingUnallocatedEur = .ok v ∧
      (∃ b p, monthSnapshot db (firstMonth db) b p m = .ok snapshot) ∧ snapshot.status ≠ .closed ∧
      unallocatedComponents db snapshot = .ok components ∧
      snapshot.categories.find? (fun c => c.categoryId = UNALLOCATED) = none ∧
      e = { snapshot with categories := snapshot.categories ++ [unallocatedSnapshot v
        (movementKinds.map components).sum (components .reallocation)] } := by
  have hentries := historyAt_forall₂ hh
  obtain ⟨m', hm', hof⟩ := hentries.exists_left he
  obtain rfl : m' = m := hof.month.symm.trans hmonth
  obtain ⟨xs, ys, hsplit⟩ := List.append_of_mem hm'
  -- the entry is the one that `apply` made of the calculated entry
  have hh' := hh
  unfold historyAt calculate applyLedger at hh'
  simp only [Except.bind_eq_ok, Except.ensure_eq_ok, hstate] at hh'
  obtain ⟨calculated, ⟨_, _, _, _, hc⟩, ha⟩ := hh'
  have hcalculated := calculateFrom_forall₂ hc
  rw [hsplit] at hcalculated
  obtain ⟨k₁, k₂, rfl, h₁, h₂⟩ := hcalculated.append_left
  obtain ⟨snapshot, k₃, ⟨b, p, hs⟩, h₃, rfl⟩ := List.forall₂_cons_left_iff.1 h₂
  obtain ⟨r₁, r₂, v, rfl, hfold, hlast⟩ := applyFrom_append ha
  have hids := monthSnapshot_ids hs hopen
  have hstatus : snapshot.status ≠ .closed := by
    obtain ⟨_, ⟨k, hk, _⟩ | ⟨_, _, _, _, hst, _⟩ | ⟨_, _, hst, _⟩⟩ := monthSnapshot_ok hs
    · simp [Database.isClosed, hk] at hopen
    all_goals
      rw [hst]
      decide
  have hsm := (monthSnapshot_ok hs).1
  rw [applyFrom, if_neg (by rw [hsm]; exact not_lt.2 hle), if_neg hstatus] at hlast
  simp only [Except.bind_eq_ok, Except.pure_eq_ok] at hlast
  obtain ⟨components, hcomponents, rest, _, rfl⟩ := hlast
  refine ⟨xs, ys, k₁, snapshot, v, components, hsplit, h₁, hfold, ⟨b, p, hs⟩, hstatus, hcomponents,
    ?_, ?_⟩
  · refine List.find?_eq_none.2 fun r hr hid => unallocated_notMem db ?_
    rw [← hids, ← of_decide_eq_true hid]
    exact List.mem_map_of_mem hr
  · have hmonths : ∀ {ms : List Month} {es : List BudgetMonthSnapshot},
        List.Forall₂ (EntryOf db) ms es → es.map (·.month) = ms := by
      intro ms es h
      induction h with
      | nil => rfl
      | cons h _ ih => rw [List.map_cons, ih, h.month]
    have hnodup := (historyMonths_sorted db through).imp fun h => h.ne
    rw [← hmonths hentries] at hnodup
    exact List.inj_on_of_nodup_map hnodup he (by simp) (hmonth.trans hsm.symm)

/-- The balance of an open month of the ledger is carried over the months up to it. -/
theorem historyAt_unallocated {through current m : Month} {history : List BudgetMonthSnapshot}
    {e : BudgetMonthSnapshot} {state : LedgerState} (hh : historyAt db through current = .ok history)
    (he : e ∈ history) (hmonth : e.month = m) (hopen : db.isClosed m = false)
    (hstate : db.ledgerState = some state) (hle : state.startMonth ≤ m) :
    ∃ xs ys hs v, historyMonths db through = xs ++ m :: ys ∧
      List.Forall₂ (fun m h => ∃ b p, monthSnapshot db (firstMonth db) b p m = .ok h) (xs ++ [m]) hs ∧
      hs.foldlM (carryMonth db state.startMonth) state.openingUnallocatedEur = .ok v ∧
      unallocatedBalance e.categories = some v := by
  obtain ⟨xs, ys, hs, snapshot, v, components, hsplit, h₁, hfold, ⟨b, p, hsnap⟩, hstatus,
    hcomponents, hids, rfl⟩ := historyAt_carried hh he hmonth hopen hstate hle
  have hsm := (monthSnapshot_ok hsnap).1
  refine ⟨xs, ys, hs ++ [snapshot], v + (movementKinds.map components).sum, hsplit, ?_, ?_, ?_⟩
  · exact List.rel_append h₁ (.cons ⟨b, p, hsnap⟩ .nil)
  · rw [List.foldlM_append]
    simp only [Except.bind_eq_ok, List.foldlM_cons, List.foldlM_nil, Except.pure_eq_ok]
    refine ⟨v, hfold, _, ?_, rfl⟩
    rw [carryMonth, if_neg (by rw [hsm]; exact not_lt.2 hle), if_neg hstatus, hcomponents]
    rfl
  · rw [unallocatedBalance, List.find?_append, hids]
    rfl

/-- **Unallocated.** What `history_at` reports for a materialised open month is what the ledger holds,
exactly when the forecasts that are counted again come to the movements before the ledger. -/
theorem unallocated_iff (hreach : Reachable today db) {through : Month}
    {history : List BudgetMonthSnapshot} (hh : historyAt db through today.month = .ok history)
    {e : BudgetMonthSnapshot} (he : e ∈ history) (hopen : db.isClosed e.month = false)
    {state : LedgerState} (hstate : db.ledgerState = some state) (hle : state.startMonth ≤ e.month)
    (hplan : (db.planIncome.lookup e.month).isSome = true) :
    ∃ base, startingBalance db state e.month = some base ∧
      (unallocatedBalance e.categories = some (base + recordedUnallocated db e.month) ↔
        forecastFunding db state.startMonth e.month = earlierUnallocated db state.startMonth) := by
  have hsound := hreach.sound
  have hstart : db.start = some state.startMonth := by simp [Database.start, hstate]
  obtain ⟨hcal, _, f, hf, hfs⟩ := hsound.start _ hstart
  obtain ⟨d, _, _, hup⟩ := hreach.upToDate _ hstart
  obtain ⟨xs, ys, hs, v, hsplit, hentries, hfold, hbalance⟩ :=
    historyAt_unallocated hh he rfl hopen hstate hle
  have hthrough := historyMonths_ledger hsound hsplit hstart
  have hinside : ∀ a ∈ xs ++ [e.month], state.startMonth ≤ a → a.Calendar ∧ a ≤ e.month := by
    intro a ha hsa
    have hmem : a ∈ Month.through state.startMonth e.month := by
      rw [← hthrough]
      exact List.mem_filter.2 ⟨ha, by simpa using hsa⟩
    exact ⟨((Month.mem_through hcal).1 hmem).1, ((Month.mem_through hcal).1 hmem).2.2⟩
  have hcarried := @carried_eq db state.startMonth (xs ++ [e.month]) state.openingUnallocatedEur
    (fun m => (Journal.volume db.movements fun s => s.month = m ∧ s.category = UNALLOCATED) +
      forecastOf db m) (fun m k hk hsm => ?_) hs v hentries (fun a ha b hb hsa hclosed => ?_) ?_
    (fun m hm hsm hopen' h b p components hsnap hcomponents => ?_) hfold
  · obtain ⟨base, hbase, rfl⟩ := hcarried
    have hfilter : ∀ p : Month → Prop, ∀ _ : DecidablePred p,
        ((xs ++ [e.month]).filter fun a => decide (state.startMonth ≤ a ∧ p a)) =
          (Month.through state.startMonth e.month).filter fun a => decide (p a) := by
      intro p _
      rw [← hthrough, List.filter_filter]
      refine List.filter_congr fun a _ => ?_
      rw [Bool.decide_and, Bool.and_comm]
    refine ⟨base, ?_, ?_⟩
    · rw [hfilter] at hbase
      simpa only [startingBalance, Bool.decide_eq_true] using hbase
    · rw [hbalance, hfilter, List.sum_map_add, sum_forecastOf,
        recordedUnallocated_eq hsound hstart hle, Option.some.injEq, add_right_inj, add_comm,
        add_left_inj]
  · have hfrozen := hreach.frozenSound m k hk
    obtain ⟨r, hr, hid⟩ := List.mem_map.1 (hreach.unallocatedFrozen _ hstart m k hk hsm)
    unfold unallocatedBalance
    cases hfind : k.snapshot.find? fun c => c.categoryId = UNALLOCATED with
    | none => simpa [hid] using List.find?_eq_none.1 hfind r hr
    | some x => simpa using hfrozen.remaining x (List.mem_of_find?_eq_some hfind)
  · obtain ⟨_, _, f', hf', _, hbefore⟩ := hsound.closures b hclosed
    obtain rfl : f' = f := Option.some.inj (hf'.symm.trans hf)
    rcases lt_trichotomy a b with hlt | rfl | hgt
    · exact .inl (hbefore a (hinside a ha hsa).1 (hfs.trans hsa) hlt)
    · exact .inl hclosed
    · exact .inr hgt
  · have hsorted := historyMonths_sorted db through
    rw [hsplit, List.append_cons] at hsorted
    exact (List.pairwise_append.1 hsorted).1
  · -- every open month of the ledger up to a materialised one is materialised and recomputed
    obtain ⟨hmc, hme⟩ := hinside m hm hsm
    have hmd : m ≤ d := hme.trans (hup.plans _ hplan)
    obtain ⟨hmonth, ⟨k, hk, _⟩ | ⟨_, g, _, _, _, hcs⟩ | ⟨_, hlt, _⟩⟩ := monthSnapshot_ok hsnap
    · simp [Database.isClosed, hk] at hopen'
    · exact components_sum hsound.movements (hup.recomputed m hmc hsm hmd hopen') hmonth
        (by simpa [inLedger, hstart] using hsm) (hup.planned m hmc hsm hmd hopen') hcs hcomponents
    · exact absurd (hlt f hf) (not_lt.2 (hfs.trans hsm))

/-- Nothing is expected in October, which is completed; then 500 EUR are expected from October on. -/
def unfunded : List Call := [
  callOn october 1 (.saveExpectedIncome ⟨october, 0, .eur, 7, 10⟩),
  callOn october 2 .startup,
  callOn october 3 (.complete ⟨11, october⟩),
  callOn october 3 (.saveExpectedIncome ⟨october, 500, .eur, 7, 12⟩)]

/-- The entry of an open month, when the history has it. -/
theorem exists_openEntry {db : Database} {m : Month} {p : BudgetMonthSnapshot → Bool}
    (h : ((historyAt db m m).toOption.any fun history => history.any fun e =>
      decide (e.month = m) && p e) = true) :
    ∃ history e, historyAt db m m = .ok history ∧ e ∈ history ∧ e.month = m ∧ p e = true := by
  obtain ⟨history, hok, hany⟩ := Except.exists_ok_of_any h
  obtain ⟨e, he, hfacts⟩ := List.any_eq_true.1 hany
  obtain ⟨hm, hp⟩ := Bool.and_eq_true_iff.1 hfacts
  exact ⟨history, e, hok, he, of_decide_eq_true hm, hp⟩

theorem unallocated_iff_october :
    let db := run (household 1000) opened
    ∃ history e state base, historyAt db october october = .ok history ∧ e ∈ history ∧
      db.ledgerState = some state ∧ startingBalance db state october = some base ∧
      (unallocatedBalance e.categories = some (base + recordedUnallocated db october) ↔
        forecastFunding db state.startMonth october = earlierUnallocated db state.startMonth) := by
  intro db
  have hreach : Reachable ⟨october, 2⟩ db := household_reachable 1000 (by decide : Chronological _ opened)
  obtain ⟨history, e, hh, he, hmonth, _⟩ := @exists_openEntry db october (fun _ => true) (by decide +kernel)
  obtain ⟨state, hstate⟩ := Option.isSome_iff_exists.1 (by decide +kernel : db.ledgerState.isSome = true)
  have hstart : db.start = some october := by decide +kernel
  have hopen : db.isClosed october = false := by decide +kernel
  have hplan : (db.planIncome.lookup october).isSome = true := by decide +kernel
  have hmonths : state.startMonth = october := by
    rw [Database.start, hstate] at hstart
    exact Option.some.inj hstart
  obtain ⟨base, hbase, hiff⟩ := unallocated_iff hreach hh he (by rw [hmonth]; exact hopen) hstate
    (by rw [hmonth, hmonths]) (by rw [hmonth]; exact hplan)
  rw [hmonth] at hbase hiff
  exact ⟨history, e, state, base, hh, he, hstate, hbase, hiff⟩

/-- A completed expectation of nothing is forecast again from a later setting. -/
theorem unallocated_fails : ¬ ∀ (today : Date) (db : Database) (through : Month)
    (history : List BudgetMonthSnapshot) (e : BudgetMonthSnapshot) (state : LedgerState),
    Reachable today db → historyAt db through today.month = .ok history → e ∈ history →
    db.isClosed e.month = false → db.ledgerState = some state → state.startMonth ≤ e.month →
    (db.planIncome.lookup e.month).isSome = true →
    ∃ base, startingBalance db state e.month = some base ∧
      unallocatedBalance e.categories = some (base + recordedUnallocated db e.month) := by
  intro hall
  let db := run (household 1000) unfunded
  have hreach : Reachable ⟨october, 3⟩ db :=
    household_reachable 1000 (by decide : Chronological _ unfunded)
  obtain ⟨history, e, hh, he, hmonth, hp⟩ := @exists_openEntry db october
    (fun e => decide ((unallocatedBalance e.categories).isSome = true ∧
      unallocatedBalance e.categories ≠ (db.ledgerState.bind fun s =>
        startingBalance db s october).map (· + recordedUnallocated db october)))
    (by decide +kernel)
  obtain ⟨state, hstate⟩ := Option.isSome_iff_exists.1 (by decide +kernel : db.ledgerState.isSome = true)
  have hstart : db.start = some october := by decide +kernel
  have hopen : db.isClosed october = false := by decide +kernel
  have hplan : (db.planIncome.lookup october).isSome = true := by decide +kernel
  have hmonths : state.startMonth = october := by
    rw [Database.start, hstate] at hstart
    exact Option.some.inj hstart
  obtain ⟨base, hbase, hbalance⟩ := hall _ db october history e state hreach hh he
    (by rw [hmonth]; exact hopen) hstate (by rw [hmonth, hmonths]) (by rw [hmonth]; exact hplan)
  rw [hmonth] at hbase hbalance
  obtain ⟨_, hne⟩ := of_decide_eq_true hp
  refine hne ?_
  rw [hbalance, hstate, Option.bind_some, hbase]
  rfl

end Server
