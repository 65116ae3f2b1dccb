import Mathlib.Data.List.Pairwise
import Mathlib.Logic.Relation
import Mathlib.Logic.Function.Basic
import Mathlib.Data.Rat.Defs
import Presto.Lib.Fallible

/-!
# Relational tables with constraints

A database as SQLite keeps it: each table is a list of rows with row numbers, in the order of the
numbers. Statements are refused when a check, a key or a trigger forbids them; foreign keys are
checked when the transaction commits. What a commit can reach satisfies the constraints
(`Reachable.valid`), and the rows of a table that satisfies them can be inserted into an empty one in
the order of a scan (`insertRows_ok`).
-/

namespace Relational

/-- A stored value, by its storage class. -/
inductive Value
  | null
  | integer (n : Int)
  | real (x : Rat)
  | text (s : String)
  | blob (bytes : List UInt8)
deriving DecidableEq

inductive ColumnType
  | integer
  | text
deriving DecidableEq

structure Column where
  name : String
  type : ColumnType
  notNull : Bool
deriving DecidableEq

/-- The values of a row in the order of the columns. -/
abbrev Row := List Value

/-- `REFERENCES table(target)`. -/
structure ForeignKey (τ : Type) where
  column : String
  table : τ
  target : String

/-- What a column of a type stores for a value: a value of that type, or null, as it is. -/
structure Affinity where
  store : ColumnType → Value → Value
  store_null : ∀ type, store type .null = .null
  store_integer : ∀ n, store .integer (.integer n) = .integer n
  store_text : ∀ s, store .text (.text s) = .text s

structure TableSchema (τ : Type) where
  columns : List Column
  /-- The primary key and the unique constraints. -/
  keys : List (List String)
  /-- The `CHECK` constraints, reading columns by name. -/
  check : (String → Value) → Bool := fun _ => true
  foreignKeys : List (ForeignKey τ) := []
  /-- The `INTEGER PRIMARY KEY` column, which is the row number. -/
  rowid : Option String := none
  names_nodup : (columns.map (·.name)).Nodup := by decide
  rowid_notNull : ∀ c ∈ columns, rowid = some c.name → c.notNull = true := by decide

/-- The rows of every table with their row numbers, in the order of a scan. -/
abbrev Database (τ : Type) := τ → List (Int × Row)

/-- The rows without their numbers. -/
def contents {τ : Type} (db : Database τ) (t : τ) : List Row := (db t).map Prod.snd

/-- The tables and their triggers, which see the rows of the other tables. -/
structure Schema (τ : Type) where
  affinity : Affinity
  table : τ → TableSchema τ
  allowsInsert : (τ → List Row) → τ → Row → Bool
  allowsUpdate : (τ → List Row) → τ → Row → Row → Bool
  allowsDelete : (τ → List Row) → τ → Row → Bool

/-! ## Constraints of a table -/

/-- A value of the declared type. -/
def Column.admits (c : Column) : Value → Bool
  | .null => !c.notNull
  | .integer _ => decide (c.type = .integer)
  | .text _ => decide (c.type = .text)
  | .real _ | .blob _ => false

namespace TableSchema

variable {τ : Type} (t : TableSchema τ)

def names : List String := t.columns.map (·.name)

/-- The value of a column. -/
def value (row : Row) (name : String) : Value := ((t.names.zip row).lookup name).getD .null

/-- Every column holds a value of its type. -/
def typed (row : Row) : Bool :=
  decide (row.length = t.columns.length) && (t.columns.zip row).all fun c => c.1.admits c.2

/-- The `NOT NULL` constraints. -/
def notNull (row : Row) : Bool :=
  (t.columns.zip row).all fun c => !(c.1.notNull && decide (c.2 = .null))

/-- Two rows with the same key; a key with a null is never the same as another. -/
def clashes (row other : Row) : Bool :=
  t.keys.any fun key => key.all fun c =>
    decide (t.value row c ≠ .null) && decide (t.value row c = t.value other c)

/-- One more than the largest row number. -/
def nextRowid (rows : List (Int × Row)) : Int :=
  match rows.getLast? with
  | some r => r.1 + 1
  | none => 1

/-- The number of a new row, unless its `INTEGER PRIMARY KEY` is no integer. -/
def rowidOf (rows : List (Int × Row)) (row : Row) : Option Int :=
  match t.rowid with
  | some c =>
    match t.value row c with
    | .integer n => some n
    | _ => none
  | none => some (nextRowid rows)

/-- The value that a column stores; a row number that is not given is the next. -/
def storedValue (affinity : Affinity) (next : Int) (c : Column) (v : Value) : Value :=
  if t.rowid = some c.name ∧ v = .null then .integer next else affinity.store c.type v

def storedRow (affinity : Affinity) (next : Int) (row : Row) : Row :=
  List.zipWith (t.storedValue affinity next) t.columns row

/-- The row numbers grow, every row satisfies the types and checks, and no two rows clash. -/
structure Intact (rows : List (Int × Row)) : Prop where
  ordered : rows.Pairwise fun r r' => r.1 < r'.1
  typed : ∀ r ∈ rows, t.typed r.2 = true
  checked : ∀ r ∈ rows, t.check (t.value r.2) = true
  keys : rows.Pairwise fun r r' => t.clashes r'.2 r.2 = false
  rowid : ∀ r ∈ rows, ∀ c, t.rowid = some c → t.value r.2 c = .integer r.1

variable {t}

theorem notNull_of_typed {row : Row} (h : t.typed row = true) : t.notNull row = true := by
  simp only [typed, Bool.and_eq_true, List.all_eq_true] at h
  simp only [notNull, List.all_eq_true]
  intro c hc
  have hadmits := h.2 c hc
  cases hv : c.2 with
  | null =>
    rw [hv] at hadmits
    simpa [Column.admits] using hadmits
  | _ => simp

/-- Storing a row that has the types changes nothing. -/
theorem storedRow_of_typed (affinity : Affinity) (next : Int) {row : Row} (h : t.typed row = true) :
    t.storedRow affinity next row = row := by
  simp only [typed, Bool.and_eq_true, List.all_eq_true, decide_eq_true_eq] at h
  obtain ⟨hlength, hall⟩ := h
  have hcolumn : ∀ c ∈ t.columns, ∀ v, c.admits v = true →
      t.storedValue affinity next c v = v := by
    intro c hc v hv
    unfold storedValue
    by_cases hnull : t.rowid = some c.name ∧ v = .null
    · rw [hnull.2] at hv
      simp [Column.admits, t.rowid_notNull c hc hnull.1] at hv
    · rw [if_neg hnull]
      cases v with
      | null => exact affinity.store_null _
      | integer n =>
        have htype : c.type = .integer := of_decide_eq_true hv
        rw [htype, affinity.store_integer]
      | text s =>
        have htype : c.type = .text := of_decide_eq_true hv
        rw [htype, affinity.store_text]
      | real _ => cases hv
      | blob _ => cases hv
  unfold storedRow
  refine List.ext_getElem (by simp [hlength]) fun i h1 h2 => ?_
  have hi : i < t.columns.length := by omega
  have hmem : (t.columns[i], row[i]) ∈ t.columns.zip row := by
    rw [← List.getElem_zip (h := by simp; omega)]
    exact List.getElem_mem _
  rw [List.getElem_zipWith]
  exact hcolumn _ (List.getElem_mem hi) _ (hall _ hmem)

theorem clashes_comm (row other : Row) : t.clashes row other = t.clashes other row := by
  have hkey : ∀ key : List String,
      (key.all fun c => decide (t.value row c ≠ .null) && decide (t.value row c = t.value other c)) =
        key.all fun c => decide (t.value other c ≠ .null) &&
          decide (t.value other c = t.value row c) := by
    intro key
    refine congrArg (List.all key) (funext fun c => ?_)
    by_cases he : t.value row c = t.value other c
    · simp [he]
    · simp [he, Ne.symm he]
  unfold clashes
  exact congrArg (List.any t.keys) (funext hkey)

end TableSchema

/-- Put a row where its number belongs. -/
def place (rows : List (Int × Row)) (r : Int × Row) : List (Int × Row) :=
  rows.filter (fun x => x.1 < r.1) ++ r :: rows.filter fun x => r.1 < x.1

theorem place_last {rows : List (Int × Row)} {r : Int × Row} (h : ∀ x ∈ rows, x.1 < r.1) :
    place rows r = rows ++ [r] := by
  unfold place
  have hnone : rows.filter (fun x => r.1 < x.1) = [] :=
    List.filter_eq_nil_iff.2 fun x hx => by
      have hlt := h x hx
      simp only [decide_eq_true_eq]
      omega
  rw [hnone, List.filter_eq_self.2 fun x hx => decide_eq_true (h x hx)]

theorem mem_place {rows : List (Int × Row)} {r x : Int × Row} (h : x ∈ place rows r) :
    x = r ∨ x ∈ rows := by
  unfold place at h
  rcases List.mem_append.1 h with h | h
  · exact .inr (List.mem_filter.1 h).1
  · rcases List.mem_cons.1 h with rfl | h
    · exact .inl rfl
    · exact .inr (List.mem_filter.1 h).1

theorem of_ordered {R : Int × Row → Int × Row → Prop} {rows : List (Int × Row)}
    (h : rows.Pairwise fun x y => x.1 < y.1 ∧ R x y) :
    ∀ x ∈ rows, ∀ y ∈ rows, x.1 < y.1 → R x y := by
  induction rows with
  | nil => intro x hx; cases hx
  | cons a rows ih =>
    obtain ⟨hhead, htail⟩ := List.pairwise_cons.1 h
    intro x hx y hy hlt
    rcases List.mem_cons.1 hx with rfl | hx'
    · rcases List.mem_cons.1 hy with rfl | hy'
      · omega
      · exact (hhead y hy').2
    · rcases List.mem_cons.1 hy with rfl | hy'
      · have hgt := (hhead x hx').1
        omega
      · exact ih htail x hx' y hy' hlt

/-- The rows stay in order, and in a relation that the new row has to the rows on both sides. -/
theorem pairwise_place {R : Int × Row → Int × Row → Prop} {rows : List (Int × Row)}
    {r : Int × Row} (h : rows.Pairwise fun x y => x.1 < y.1 ∧ R x y) (hbefore : ∀ x ∈ rows, R x r)
    (hafter : ∀ x ∈ rows, R r x) : (place rows r).Pairwise fun x y => x.1 < y.1 ∧ R x y := by
  unfold place
  rw [List.pairwise_append, List.pairwise_cons]
  refine ⟨h.sublist List.filter_sublist, ⟨fun y hy => ?_, h.sublist List.filter_sublist⟩,
    fun x hx y hy => ?_⟩
  · obtain ⟨hmem, hlt⟩ := List.mem_filter.1 hy
    exact ⟨of_decide_eq_true hlt, hafter y hmem⟩
  · obtain ⟨hmem, hlt⟩ := List.mem_filter.1 hx
    have hxr : x.1 < r.1 := of_decide_eq_true hlt
    rcases List.mem_cons.1 hy with rfl | hy
    · exact ⟨hxr, hbefore x hmem⟩
    · obtain ⟨hmem', hgt⟩ := List.mem_filter.1 hy
      have hry : r.1 < y.1 := of_decide_eq_true hgt
      have hxy : x.1 < y.1 := by omega
      exact ⟨hxy, of_ordered h x hmem y hmem' hxy⟩

theorem lt_nextRowid {rows : List (Int × Row)} (h : rows.Pairwise fun r r' => r.1 < r'.1)
    {x : Int × Row} (hx : x ∈ rows) : x.1 < TableSchema.nextRowid rows := by
  unfold TableSchema.nextRowid
  rcases List.eq_nil_or_concat' rows with rfl | ⟨init, last, rfl⟩
  · cases hx
  · rw [List.getLast?_append_of_ne_nil _ (by simp)]
    simp only [List.getLast?_singleton]
    rcases List.mem_append.1 hx with hx | hx
    · have hlt := (List.pairwise_append.1 h).2.2 x hx last (by simp)
      omega
    · rw [List.mem_singleton.1 hx]
      omega

/-! ## Statements -/

section

variable {τ : Type} [DecidableEq τ] (s : Schema τ)

/-- `INSERT` of the values of all columns. -/
def insert (db : Database τ) (t : τ) (row : Row) : Except String (Database τ) := do
  Except.ensure (row.length = (s.table t).columns.length) "values for columns"
  let stored := (s.table t).storedRow s.affinity (TableSchema.nextRowid (db t)) row
  Except.ensure (s.allowsInsert (contents db) t stored = true) "trigger"
  Except.ensure ((s.table t).notNull stored = true) "NOT NULL constraint failed"
  Except.ensure ((s.table t).check ((s.table t).value stored) = true) "CHECK constraint failed"
  Except.ensure ((db t).all (fun r => !(s.table t).clashes stored r.2) = true)
    "UNIQUE constraint failed"
  let rowid ← Except.fromOption ((s.table t).rowidOf (db t) stored) "datatype mismatch"
  return Function.update db t (place (db t) (rowid, stored))

/-- `INSERT .. ON CONFLICT DO NOTHING`. -/
def insertOrIgnore (db : Database τ) (t : τ) (row : Row) : Except String (Database τ) :=
  let stored := (s.table t).storedRow s.affinity (TableSchema.nextRowid (db t)) row
  if (contents db t).any ((s.table t).clashes stored) then .ok db else insert s db t row

/-- Foreign keys refer to rows that exist. -/
def ReferencesHold (db : Database τ) : Prop :=
  ∀ t, ∀ k ∈ (s.table t).foreignKeys, ∀ row ∈ contents db t,
    (s.table t).value row k.column = .null ∨
      ∃ other ∈ contents db k.table,
        (s.table k.table).value other k.target = (s.table t).value row k.column

/-- One statement of a transaction. An insertion gives a value of its type to every column. An
update or a deletion may be of several rows, and a deletion may take rows of several tables along, as
`ON DELETE CASCADE` does. -/
inductive Step : Database τ → Database τ → Prop
  | insert {db db' : Database τ} {t : τ} {row : Row} (h : insert s db t row = .ok db')
      (htyped : (s.table t).typed
        ((s.table t).storedRow s.affinity (TableSchema.nextRowid (db t)) row) = true) : Step db db'
  | update {db : Database τ} {t : τ} (f : Row → Row)
      (hrowid : ∀ r ∈ db t, ∀ c, (s.table t).rowid = some c →
        (s.table t).value (f r.2) c = (s.table t).value r.2 c)
      (htyped : ∀ r ∈ db t, (s.table t).typed (f r.2) = true)
      (hcheck : ∀ r ∈ db t, (s.table t).check ((s.table t).value (f r.2)) = true)
      (hkeys : (db t).Pairwise fun r r' => (s.table t).clashes (f r'.2) (f r.2) = false)
      (hallows : ∀ r ∈ db t, f r.2 ≠ r.2 → s.allowsUpdate (contents db) t r.2 (f r.2) = true) :
      Step db (Function.update db t ((db t).map fun r => (r.1, f r.2)))
  | delete {db : Database τ} (stays : τ → Row → Bool)
      (hallows : ∀ t, ∀ r ∈ db t, stays t r.2 = false →
        s.allowsDelete (contents db) t r.2 = true) :
      Step db fun t => (db t).filter fun r => stays t r.2

/-- What committed transactions reach from the empty database. -/
inductive Reachable : Database τ → Prop
  | empty : Reachable fun _ => []
  | commit {db db' : Database τ} (h : Reachable db) (hsteps : Relation.ReflTransGen (Step s) db db')
      (hreferences : ReferencesHold s db') : Reachable db'

/-! ## The constraints hold -/

variable {s}

theorem insert_eq_ok {db db' : Database τ} {t : τ} {row stored : Row}
    (hstored : (s.table t).storedRow s.affinity (TableSchema.nextRowid (db t)) row = stored) :
    insert s db t row = .ok db' ↔
      row.length = (s.table t).columns.length ∧ s.allowsInsert (contents db) t stored = true ∧
        (s.table t).notNull stored = true ∧
        (s.table t).check ((s.table t).value stored) = true ∧
        (∀ r ∈ db t, (s.table t).clashes stored r.2 = false) ∧
        ∃ rowid, (s.table t).rowidOf (db t) stored = some rowid ∧
          db' = Function.update db t (place (db t) (rowid, stored)) := by
  simp only [insert, Except.bind_eq_ok, Except.ensure_eq_ok, Except.fromOption_eq_ok,
    Except.pure_eq_ok, hstored, List.all_eq_true, Bool.not_eq_true']
  constructor
  · rintro ⟨_, h1, _, h2, _, h3, _, h4, _, h5, n, h6, rfl⟩
    exact ⟨h1, h2, h3, h4, h5, n, h6, rfl⟩
  · rintro ⟨h1, h2, h3, h4, h5, n, h6, rfl⟩
    exact ⟨⟨⟩, h1, ⟨⟩, h2, ⟨⟩, h3, ⟨⟩, h4, ⟨⟩, h5, n, h6, rfl⟩

omit [DecidableEq τ] in
theorem TableSchema.rowidOf_spec {t : TableSchema τ} {rows : List (Int × Row)} {row : Row} {n : Int}
    (h : t.rowidOf rows row = some n) :
    (∀ c, t.rowid = some c → t.value row c = .integer n) ∧
      (t.rowid = none → n = nextRowid rows) := by
  unfold TableSchema.rowidOf at h
  cases hc : t.rowid with
  | none =>
    simp only [hc, Option.some.injEq] at h
    exact ⟨fun c hc' => (by cases hc'), fun _ => h.symm⟩
  | some c =>
    simp only [hc] at h
    refine ⟨fun c' hc' => ?_, fun hnone => by cases hnone⟩
    obtain rfl := Option.some.inj hc'
    cases hv : t.value row c with
    | integer m =>
      simp only [hv, Option.some.injEq] at h
      rw [h]
    | null => simp [hv] at h
    | real _ => simp [hv] at h
    | text _ => simp [hv] at h
    | blob _ => simp [hv] at h

omit [DecidableEq τ] in
theorem TableSchema.Intact.insert {t : TableSchema τ} {rows : List (Int × Row)} (h : t.Intact rows)
    {row : Row} {n : Int} (htyped : t.typed row = true) (hcheck : t.check (t.value row) = true)
    (hclash : ∀ r ∈ rows, t.clashes row r.2 = false) (hrowid : t.rowidOf rows row = some n) :
    t.Intact (place rows (n, row)) := by
  have hboth : (place rows (n, row)).Pairwise fun x y =>
      x.1 < y.1 ∧ t.clashes y.2 x.2 = false := by
    refine pairwise_place (R := fun x y => t.clashes y.2 x.2 = false) ?_ hclash
      fun x hx => by rw [TableSchema.clashes_comm]; exact hclash x hx
    exact h.ordered.imp₂ (fun _ _ h1 h2 => ⟨h1, h2⟩) h.keys
  refine ⟨hboth.imp fun h => h.1, fun r hr => ?_, fun r hr => ?_, hboth.imp fun h => h.2,
    fun r hr c hc => ?_⟩
  · rcases mem_place hr with rfl | hr
    · exact htyped
    · exact h.typed r hr
  · rcases mem_place hr with rfl | hr
    · exact hcheck
    · exact h.checked r hr
  · rcases mem_place hr with rfl | hr
    · exact (TableSchema.rowidOf_spec hrowid).1 c hc
    · exact h.rowid r hr c hc

/-- A statement keeps the constraints of every table. -/
theorem Step.intact {db db' : Database τ} (h : Step s db db')
    (hI : ∀ t, (s.table t).Intact (db t)) : ∀ t, (s.table t).Intact (db' t) := by
  cases h with
  | @insert _ t row h htyped =>
    obtain ⟨_, _, _, hcheck, hclash, n, hn, rfl⟩ := (insert_eq_ok rfl).1 h
    intro u
    by_cases hu : u = t
    · subst hu
      rw [Function.update_self]
      exact (hI u).insert htyped hcheck hclash hn
    · rw [Function.update_of_ne hu]
      exact hI u
  | @update t f hrowid htyped hcheck hkeys _ =>
    intro u
    by_cases hu : u = t
    · subst hu
      rw [Function.update_self]
      refine ⟨List.pairwise_map.2 (hI u).ordered, fun r hr => ?_, fun r hr => ?_,
        List.pairwise_map.2 hkeys, fun r hr c hc => ?_⟩
      · obtain ⟨x, hx, rfl⟩ := List.mem_map.1 hr
        exact htyped x hx
      · obtain ⟨x, hx, rfl⟩ := List.mem_map.1 hr
        exact hcheck x hx
      · obtain ⟨x, hx, rfl⟩ := List.mem_map.1 hr
        rw [hrowid x hx c hc]
        exact (hI u).rowid x hx c hc
    · rw [Function.update_of_ne hu]
      exact hI u
  | delete stays _ =>
    intro t
    have hmem : ∀ r ∈ (db t).filter (fun r => stays t r.2), r ∈ db t :=
      fun r hr => (List.mem_filter.1 hr).1
    exact ⟨(hI t).ordered.sublist List.filter_sublist, fun r hr => (hI t).typed r (hmem r hr),
      fun r hr => (hI t).checked r (hmem r hr), (hI t).keys.sublist List.filter_sublist,
      fun r hr => (hI t).rowid r (hmem r hr)⟩

theorem steps_intact {db db' : Database τ} (h : Relation.ReflTransGen (Step s) db db')
    (hI : ∀ t, (s.table t).Intact (db t)) : ∀ t, (s.table t).Intact (db' t) := by
  induction h with
  | refl => exact hI
  | tail _ hstep ih => exact hstep.intact ih

/-- **Every reachable database satisfies its constraints.** -/
theorem Reachable.valid {db : Database τ} (h : Reachable s db) :
    (∀ t, (s.table t).Intact (db t)) ∧ ReferencesHold s db := by
  induction h with
  | empty =>
    exact ⟨fun t => ⟨.nil, by simp, by simp, .nil, by simp⟩, fun t k _ row hrow => by cases hrow⟩
  | commit _ hsteps hreferences ih => exact ⟨steps_intact hsteps ih.1, hreferences⟩

/-- What one transaction of insertions reaches from the empty database. -/
theorem Reachable.of_inserts {l : List (τ × Row)} {db : Database τ}
    (h : l.foldlM (fun db r => insert s db r.1 r.2) (fun _ => []) = .ok db)
    (htyped : ∀ r ∈ l, (s.table r.1).typed r.2 = true) (hreferences : ReferencesHold s db) :
    Reachable s db := by
  have hsteps : ∀ rows : List (τ × Row), (∀ r ∈ rows, (s.table r.1).typed r.2 = true) →
      ∀ start, rows.foldlM (fun db r => insert s db r.1 r.2) start = .ok db →
        Relation.ReflTransGen (Step s) start db := by
    intro rows
    induction rows with
    | nil =>
      intro _ start h
      rw [List.foldlM_nil, Except.pure_eq_ok] at h
      exact h ▸ .refl
    | cons r rows ih =>
      intro htyped start h
      rw [List.foldlM_cons, Except.bind_eq_ok] at h
      obtain ⟨next, hinsert, hrest⟩ := h
      have hr := htyped r List.mem_cons_self
      refine .head (.insert hinsert ?_) (ih (fun x hx => htyped x (List.mem_cons_of_mem _ hx)) next hrest)
      rw [TableSchema.storedRow_of_typed s.affinity _ hr]
      exact hr
  exact .commit .empty (hsteps l htyped _ h) hreferences

/-! ## Reading a table back in -/

omit [DecidableEq τ] in
/-- Rows under the same numbers of an `INTEGER PRIMARY KEY`, whatever their own numbers were. -/
theorem TableSchema.Intact.rows_eq {t : TableSchema τ} {rows rows' : List (Int × Row)} {c : String}
    (hc : t.rowid = some c) (h : t.Intact rows) (h' : t.Intact rows')
    (heq : rows.map Prod.snd = rows'.map Prod.snd) : rows = rows' := by
  induction rows generalizing rows' with
  | nil => exact (List.map_eq_nil_iff.1 heq.symm).symm
  | cons r rows ih =>
    cases rows' with
    | nil => cases heq
    | cons r' rows' =>
      simp only [List.map_cons, List.cons.injEq] at heq
      have htail : ∀ {x : Int × Row} {l : List (Int × Row)}, t.Intact (x :: l) → t.Intact l :=
        fun hI => ⟨hI.ordered.of_cons, fun y hy => hI.typed y (List.mem_cons_of_mem _ hy),
          fun y hy => hI.checked y (List.mem_cons_of_mem _ hy), hI.keys.of_cons,
          fun y hy => hI.rowid y (List.mem_cons_of_mem _ hy)⟩
      have hn := h.rowid r List.mem_cons_self c hc
      have hn' := h'.rowid r' List.mem_cons_self c hc
      rw [heq.1, hn', Value.integer.injEq] at hn
      rw [ih (htail h) (htail h') heq.2]
      exact congrArg (· :: rows') (Prod.ext hn.symm heq.1)

/-- The next row of a table goes in after the rows before it. -/
theorem insert_next {db : Database τ} {t : τ} {before after : List (Int × Row)} {r : Int × Row}
    (hsource : (s.table t).Intact (before ++ r :: after)) (hI : (s.table t).Intact (db t))
    (hcontents : contents db t = before.map Prod.snd)
    (hallows : s.allowsInsert (contents db) t r.2 = true) :
    ∃ n, insert s db t r.2 = .ok (Function.update db t (db t ++ [(n, r.2)])) ∧
      (s.table t).Intact (db t ++ [(n, r.2)]) := by
  have hr : r ∈ before ++ r :: after := by simp
  have hclash : ∀ x ∈ db t, (s.table t).clashes r.2 x.2 = false := by
    intro x hx
    have hrow : x.2 ∈ before.map Prod.snd := hcontents ▸ List.mem_map_of_mem hx
    obtain ⟨y, hy, he⟩ := List.mem_map.1 hrow
    rw [← he]
    exact (List.pairwise_append.1 hsource.keys).2.2 y hy r List.mem_cons_self
  -- the number is larger than those of the rows before, for both kinds of row numbers
  obtain ⟨n, hn, hlast⟩ : ∃ n, (s.table t).rowidOf (db t) r.2 = some n ∧
      ∀ x ∈ db t, x.1 < n := by
    cases hc : (s.table t).rowid with
    | none =>
      refine ⟨TableSchema.nextRowid (db t), by simp [TableSchema.rowidOf, hc], ?_⟩
      intro x hx
      exact lt_nextRowid hI.ordered hx
    | some c =>
      refine ⟨r.1, by simp [TableSchema.rowidOf, hc, hsource.rowid r hr c hc], ?_⟩
      have hbefore : (s.table t).Intact before :=
        ⟨(List.pairwise_append.1 hsource.ordered).1,
          fun x hx => hsource.typed x (List.mem_append_left _ hx),
          fun x hx => hsource.checked x (List.mem_append_left _ hx),
          (List.pairwise_append.1 hsource.keys).1,
          fun x hx => hsource.rowid x (List.mem_append_left _ hx)⟩
      rw [hI.rows_eq hc hbefore hcontents]
      exact fun x hx => (List.pairwise_append.1 hsource.ordered).2.2 x hx r List.mem_cons_self
  have htyped := hsource.typed r hr
  have hstored := TableSchema.storedRow_of_typed s.affinity (TableSchema.nextRowid (db t)) htyped
  have hlength : r.2.length = (s.table t).columns.length := by
    simp only [TableSchema.typed, Bool.and_eq_true, decide_eq_true_eq] at htyped
    exact htyped.1
  have hplace : place (db t) (n, r.2) = db t ++ [(n, r.2)] := place_last hlast
  refine ⟨n, (insert_eq_ok hstored).2 ⟨hlength, hallows, TableSchema.notNull_of_typed htyped,
    hsource.checked r hr, hclash, n, hn, by rw [hplace]⟩, ?_⟩
  rw [← hplace]
  exact hI.insert htyped (hsource.checked r hr) hclash hn

variable (s) in
/-- Insert rows one after another. -/
def insertRows (db : Database τ) (t : τ) (rows : List Row) : Except String (Database τ) :=
  rows.foldlM (fun db row => insert s db t row) db

/-- **The rows of a table with its constraints go into an empty table in the order of a scan**,
where no trigger on the table reads the table itself and the triggers allow every row. -/
theorem insertRows_ok {db : Database τ} {t : τ} {source : List (Int × Row)}
    (hsource : (s.table t).Intact source) (hempty : db t = [])
    (hallows : ∀ rows, ∀ row ∈ source.map Prod.snd,
      s.allowsInsert (Function.update (contents db) t rows) t row = true) :
    ∃ rows, insertRows s db t (source.map Prod.snd) = .ok (Function.update db t rows) ∧
      rows.map Prod.snd = source.map Prod.snd ∧ (s.table t).Intact rows := by
  have hgo : ∀ after before rows, before ++ after = source → (s.table t).Intact rows →
      rows.map Prod.snd = before.map Prod.snd →
      ∃ rows', insertRows s (Function.update db t rows) t (after.map Prod.snd) =
          .ok (Function.update db t rows') ∧
        rows'.map Prod.snd = source.map Prod.snd ∧ (s.table t).Intact rows' := by
    intro after
    induction after with
    | nil =>
      intro before rows hsplit hI hcontents
      rw [List.append_nil] at hsplit
      exact ⟨rows, rfl, hsplit ▸ hcontents, hI⟩
    | cons r after ih =>
      intro before rows hsplit hI hcontents
      have hself : Function.update db t rows t = rows := Function.update_self ..
      have hrow : r.2 ∈ source.map Prod.snd :=
        List.mem_map_of_mem (hsplit ▸ List.mem_append_right _ List.mem_cons_self)
      have htrigger : s.allowsInsert (contents (Function.update db t rows)) t r.2 = true := by
        have hupdate : contents (Function.update db t rows) =
            Function.update (contents db) t (rows.map Prod.snd) := by
          funext u
          by_cases hu : u = t
          · subst hu
            simp [contents]
          · simp [contents, Function.update_of_ne hu]
        rw [hupdate]
        exact hallows _ r.2 hrow
      have hI' : (s.table t).Intact (Function.update db t rows t) := by rwa [hself]
      have hcontents' : contents (Function.update db t rows) t = before.map Prod.snd := by
        rwa [contents, hself]
      obtain ⟨n, hinsert, hnext⟩ := insert_next (hsplit ▸ hsource) hI' hcontents' htrigger
      rw [hself, Function.update_idem] at hinsert
      rw [hself] at hnext
      obtain ⟨rows', hrest, hdone⟩ := ih (before ++ [r]) (rows ++ [(n, r.2)])
        (by rw [List.append_assoc]; exact hsplit) hnext (by simp [hcontents])
      refine ⟨rows', ?_, hdone⟩
      simp only [insertRows, List.map_cons, List.foldlM_cons, hinsert] at hrest ⊢
      exact hrest
  have hnil : (s.table t).Intact [] := ⟨.nil, by simp, by simp, .nil, by simp⟩
  obtain ⟨rows, hrows, hdone⟩ := hgo source [] [] rfl hnil rfl
  have hsame : Function.update db t [] = db := by
    rw [← hempty]
    exact Function.update_eq_self t db
  rw [hsame] at hrows
  exact ⟨rows, hrows, hdone⟩

end

end Relational
