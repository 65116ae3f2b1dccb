import Presto.Lib.Relational

/-!
# A transaction of insertions

Foreign keys that are not deferred are checked by each `INSERT` (`insertChecked`). A transaction of
such insertions (`insertAll`) appends its rows to their tables and keeps the constraints, and a query
by a unique key finds the row that has it (`find_row`).
-/

namespace Relational

variable {τ : Type}

/-- The value of the column is null, or a row has it in the column that the key refers to. -/
def referenced (s : Schema τ) (db : Database τ) (t : τ) (row : Row) (k : ForeignKey τ) : Bool :=
  decide ((s.table t).value row k.column = .null) ||
    (contents db k.table).any fun other =>
      decide ((s.table k.table).value other k.target = (s.table t).value row k.column)

theorem referenced_iff {s : Schema τ} {db : Database τ} {t : τ} {row : Row} {k : ForeignKey τ} :
    referenced s db t row k = true ↔ (s.table t).value row k.column = .null ∨
      ∃ other ∈ contents db k.table,
        (s.table k.table).value other k.target = (s.table t).value row k.column := by
  simp [referenced]

section

variable [DecidableEq τ] (s : Schema τ)

/-- An `INSERT` that checks the foreign keys of its row. -/
def insertChecked (db : Database τ) (t : τ) (row : Row) : Except String (Database τ) := do
  let db' ← insert s db t row
  Except.ensure ((s.table t).foreignKeys.all (referenced s db' t
    ((s.table t).storedRow s.affinity (TableSchema.nextRowid (db t)) row)) = true)
    "FOREIGN KEY constraint failed"
  return db'

/-- Insert rows into their tables one after another. -/
def insertAll (db : Database τ) (rows : List (τ × Row)) : Except String (Database τ) :=
  rows.foldlM (fun db r => insertChecked s db r.1 r.2) db

/-- The rows that a list has for a table. -/
def rowsFor (rows : List (τ × Row)) (t : τ) : List Row :=
  (rows.filter fun r => r.1 = t).map Prod.snd

@[simp] theorem rowsFor_nil (t : τ) : rowsFor [] t = [] := rfl

theorem rowsFor_cons (r : τ × Row) (rows : List (τ × Row)) (t : τ) :
    rowsFor (r :: rows) t = (if r.1 = t then [r.2] else []) ++ rowsFor rows t := by
  by_cases h : r.1 = t
  · simp [rowsFor, h]
  · simp [rowsFor, h]

theorem rowsFor_append (rows rows' : List (τ × Row)) (t : τ) :
    rowsFor (rows ++ rows') t = rowsFor rows t ++ rowsFor rows' t := by
  simp [rowsFor]

theorem rowsFor_flatMap {α : Type} (l : List α) (f : α → List (τ × Row)) (t : τ) :
    rowsFor (l.flatMap f) t = l.flatMap fun a => rowsFor (f a) t := by
  induction l with
  | nil => rfl
  | cons a l ih => rw [List.flatMap_cons, List.flatMap_cons, rowsFor_append, ih]

/-- The constraints of every table hold, and foreign keys refer to rows that exist. -/
structure Consistent (db : Database τ) : Prop where
  intact : ∀ t, (s.table t).Intact (db t)
  references : ReferencesHold s db

variable {s}

omit [DecidableEq τ] in
theorem Consistent.empty : Consistent s fun _ => [] :=
  ⟨fun t => ⟨.nil, by simp, by simp, .nil, by simp⟩, fun t k _ row hrow => by cases hrow⟩

/-- What the insertion of a row that has the types leaves, in a table without an
`INTEGER PRIMARY KEY`. -/
theorem insertChecked_ok {db db' : Database τ} {t : τ} {row : Row}
    (h : insertChecked s db t row = .ok db') (hdb : Consistent s db)
    (htyped : (s.table t).typed row = true) (hrowid : (s.table t).rowid = none) :
    (∀ u, contents db' u = contents db u ++ if t = u then [row] else []) ∧ Consistent s db' := by
  have hstored := TableSchema.storedRow_of_typed s.affinity (TableSchema.nextRowid (db t)) htyped
  simp only [insertChecked, Except.bind_eq_ok, Except.ensure_eq_ok, Except.pure_eq_ok, hstored] at h
  obtain ⟨db₁, hinsert, _, hreferenced, rfl⟩ := h
  have hstep : Step s db db₁ := .insert hinsert (by rw [hstored]; exact htyped)
  obtain ⟨_, _, _, _, _, n, hn, rfl⟩ := (insert_eq_ok hstored).1 hinsert
  have hlast : ∀ x ∈ db t, x.1 < n := by
    intro x hx
    rw [(TableSchema.rowidOf_spec hn).2 hrowid]
    exact lt_nextRowid (hdb.intact t).ordered hx
  have hcontents : ∀ u, contents (Function.update db t (place (db t) (n, row))) u =
      contents db u ++ if t = u then [row] else [] := by
    intro u
    by_cases hu : t = u
    · subst hu
      simp [contents, place_last (r := (n, row)) hlast]
    · simp [contents, Function.update_of_ne (Ne.symm hu), hu]
  refine ⟨hcontents, hstep.intact hdb.intact, fun u k hk other hother => ?_⟩
  -- rows only come in, so the references of the rows before still hold
  have hkept : ∀ other ∈ contents db u, (s.table u).value other k.column = .null ∨
      ∃ target ∈ contents (Function.update db t (place (db t) (n, row))) k.table,
        (s.table k.table).value target k.target = (s.table u).value other k.column := by
    intro other hother
    obtain hnull | ⟨target, htarget, heq⟩ := hdb.references u k hk other hother
    · exact .inl hnull
    · refine .inr ⟨target, ?_, heq⟩
      rw [hcontents]
      exact List.mem_append_left _ htarget
  rw [hcontents, List.mem_append] at hother
  rcases hother with hother | hother
  · exact hkept other hother
  · by_cases hu : t = u
    · subst hu
      rw [if_pos rfl, List.mem_singleton] at hother
      subst hother
      exact referenced_iff.1 (List.all_eq_true.1 hreferenced k hk)
    · rw [if_neg hu] at hother
      cases hother

/-- **What a transaction of insertions leaves**: its rows after the ones before, and the
constraints. -/
theorem insertAll_ok {rows : List (τ × Row)} :
    ∀ {db db' : Database τ}, insertAll s db rows = .ok db' → Consistent s db →
      (∀ r ∈ rows, (s.table r.1).typed r.2 = true ∧ (s.table r.1).rowid = none) →
      (∀ t, contents db' t = contents db t ++ rowsFor rows t) ∧ Consistent s db' := by
  induction rows with
  | nil =>
    intro db db' h hdb _
    simp only [insertAll, List.foldlM_nil, Except.pure_eq_ok] at h
    subst h
    exact ⟨fun t => by simp, hdb⟩
  | cons r rows ih =>
    intro db db' h hdb hrows
    simp only [insertAll, List.foldlM_cons, Except.bind_eq_ok] at h
    obtain ⟨db₁, hfirst, hrest⟩ := h
    obtain ⟨htyped, hrowid⟩ := hrows r List.mem_cons_self
    obtain ⟨hcontents₁, hdb₁⟩ := insertChecked_ok hfirst hdb htyped hrowid
    obtain ⟨hcontents, hdb'⟩ := ih hrest hdb₁ fun x hx => hrows x (List.mem_cons_of_mem _ hx)
    refine ⟨fun t => ?_, hdb'⟩
    rw [hcontents t, hcontents₁ t, rowsFor_cons, List.append_assoc]

end

/-! ## Queries by a key -/

/-- The columns of the row have the values. -/
def agrees (t : TableSchema τ) (values : List (String × Value)) (row : Row) : Bool :=
  values.all fun c => decide (t.value row c.1 = c.2)

/-- The first row of a scan with the values. -/
def selectRow (s : Schema τ) (db : Database τ) (t : τ) (values : List (String × Value)) :
    Option Row :=
  (contents db t).find? (agrees (s.table t) values)

/-- `SELECT COUNT(*)` of the rows with the values. -/
def countRows (s : Schema τ) (db : Database τ) (t : τ) (values : List (String × Value)) : Nat :=
  (contents db t).countP (agrees (s.table t) values)

/-- **A unique key finds its row.** -/
theorem selectRow_eq_some {s : Schema τ} {db : Database τ} {t : τ} {values : List (String × Value)}
    {row : Row} (hdb : (s.table t).Intact (db t)) (hkey : values.map Prod.fst ∈ (s.table t).keys)
    (hnull : ∀ c ∈ values, c.2 ≠ .null) (hmem : row ∈ contents db t)
    (hrow : agrees (s.table t) values row = true) : selectRow s db t values = some row := by
  have hkeys : (contents db t).Pairwise fun r r' => (s.table t).clashes r' r = false :=
    List.pairwise_map.2 hdb.keys
  obtain ⟨first, hfirst⟩ : ∃ first, selectRow s db t values = some first :=
    Option.isSome_iff_exists.1 (List.find?_isSome.2 ⟨row, hmem, hrow⟩)
  have hagree : agrees (s.table t) values first = true := List.find?_some hfirst
  obtain ⟨_, before, after, hsplit, hnone⟩ := List.find?_eq_some_iff_append.1 hfirst
  rw [hsplit, List.mem_append, List.mem_cons] at hmem
  rcases hmem with hmem | rfl | hmem
  · have habsurd := hnone row hmem
    simp [hrow] at habsurd
  · exact hfirst
  · -- a later row with the values would clash with the first one
    rw [hsplit, List.pairwise_append, List.pairwise_cons] at hkeys
    have hclash := hkeys.2.1.1 row hmem
    have hsame : (s.table t).clashes row first = true := by
      rw [TableSchema.clashes, List.any_eq_true]
      refine ⟨_, hkey, ?_⟩
      simp only [List.all_map, List.all_eq_true, Function.comp_apply, Bool.and_eq_true,
        decide_eq_true_eq]
      intro c hc
      have h1 := of_decide_eq_true (List.all_eq_true.1 hrow c hc)
      have h2 := of_decide_eq_true (List.all_eq_true.1 hagree c hc)
      exact ⟨by rw [h1]; exact hnull c hc, by rw [h1, h2]⟩
    rw [hclash] at hsame
    cases hsame

theorem countRows_of_all {s : Schema τ} {db : Database τ} {t : τ} {values : List (String × Value)}
    (h : ∀ row ∈ contents db t, agrees (s.table t) values row = true) :
    countRows s db t values = (contents db t).length :=
  List.countP_eq_length.2 h

end Relational
