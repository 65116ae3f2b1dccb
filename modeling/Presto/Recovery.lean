import Presto.Backup
import Presto.Generations

/-!
# From the server to the phone and back

The phone requires the tables that the server exports from version 14 on, and counts the rows that the
server counted (`validate_interchange`), in whatever order the members of the document come. So a backup
is published, is what `restore` uploads again, and an empty server restores the tables from it.
-/

namespace Recovery

open Relational Server.Backup

variable {platform : Platform} {Body : Type}

/-! ## Documents -/

/-- The same document, up to the order of members. -/
inductive Same : Json → Json → Prop
  | refl (json : Json) : Same json json
  | array {xs ys : List Json} (hlength : xs.length = ys.length)
      (h : ∀ (i : Nat) x y, xs[i]? = some x → ys[i]? = some y → Same x y) : Same (.array xs) (.array ys)
  | object {fs hs gs : List (String × Json)} (hnames : fs.map Prod.fst = hs.map Prod.fst)
      (h : ∀ (i : Nat) f g, fs[i]? = some f → hs[i]? = some g → Same f.2 g.2) (hperm : hs.Perm gs) :
      Same (.object fs) (.object gs)

theorem Same.integer {n : Int} {json : Json} (h : Same (.integer n) json) : json = .integer n := by
  cases h
  rfl

theorem Same.string {s : String} {json : Json} (h : Same (.string s) json) : json = .string s := by
  cases h
  rfl

theorem Same.value {v : Value} {json : Json} (h : Same (valueJson v) json) : json = valueJson v := by
  cases v <;> cases h <;> rfl

/-- A member has the same name and the same document. -/
theorem Same.member {fs : List (String × Json)} {json : Json} (h : Same (.object fs) json) :
    ∃ gs, json = .object gs ∧ (gs.map Prod.fst).Perm (fs.map Prod.fst) ∧
      ∀ g ∈ gs, ∃ f ∈ fs, f.1 = g.1 ∧ Same f.2 g.2 := by
  cases h with
  | refl => exact ⟨fs, rfl, .refl _, fun g hg => ⟨g, hg, rfl, .refl g.2⟩⟩
  | @object _ hs gs hnames h hperm =>
    refine ⟨gs, rfl, hnames ▸ (hperm.map _).symm, fun g hg => ?_⟩
    obtain ⟨i, hi⟩ := List.mem_iff_getElem?.1 (hperm.mem_iff.2 hg)
    have hname : (fs.map Prod.fst)[i]? = some g.1 := by
      rw [hnames, List.getElem?_map, hi]
      rfl
    rw [List.getElem?_map, Option.map_eq_some_iff] at hname
    obtain ⟨f, hf, hname⟩ := hname
    exact ⟨f, List.mem_of_getElem? hf, hname, h i f g hf hi⟩

theorem Same.isObject {x y : Json} (h : Same x y) (hobject : x.asObject.isSome = true) :
    y.asObject.isSome = true := by
  cases h with
  | refl => exact hobject
  | array hlength h => exact hobject
  | object hnames h hperm => rfl

/-- The rows of a table. -/
theorem Same.rows {xs : List Json} {json : Json} (h : Same (.array xs) json)
    (hobject : ∀ x ∈ xs, x.asObject.isSome = true) : ∃ ys, json = .array ys ∧
      ys.length = xs.length ∧ ∀ y ∈ ys, y.asObject.isSome = true := by
  cases h with
  | refl => exact ⟨xs, rfl, rfl, hobject⟩
  | @array _ ys hlength h =>
    refine ⟨ys, rfl, hlength.symm, fun y hy => ?_⟩
    obtain ⟨i, hi⟩ := List.mem_iff_getElem?.1 hy
    obtain ⟨hlt, -⟩ := List.getElem?_eq_some_iff.1 hi
    obtain ⟨x, hx⟩ : ∃ x, xs[i]? = some x := ⟨_, List.getElem?_eq_getElem (hlength ▸ hlt)⟩
    exact (h i x y hx hi).isObject (hobject x (List.mem_of_getElem? hx))

/-! ## Validation -/

/-- The counts of the exported rows. -/
def rowCounts (db : Database FinanceTable) : List (String × Int) :=
  FINANCE_BACKUP_TABLES.map fun t => (t.name, ((contents db t).length : Int))

theorem nodup_names : (FINANCE_BACKUP_TABLES.map FinanceTable.name).Nodup := by
  decide +kernel

theorem nextInt_integer {n : Int} (hlo : -2 ^ 31 ≤ n) (hhi : n < 2 ^ 31) :
    nextInt platform (.integer n) = .ok n := by
  have hint : (n : Rat).den = 1 ∧ -2 ^ 31 ≤ (n : Rat).num ∧ (n : Rat).num < 2 ^ 31 :=
    ⟨rfl, hlo, hhi⟩
  rw [nextInt, intOf, if_pos hint]
  rfl

/-- A loop that files the number of each member. -/
theorem foldlM_numbers {numbers : List (String × Int)} {members : List (String × Json)}
    {f : List (String × Int) → String × Json → Except String (List (String × Int))}
    (hnodup : (members.map Prod.fst).Nodup) (hlength : members.length = numbers.length)
    (hf : ∀ member ∈ members, ∃ number, (member.1, number) ∈ numbers ∧
      ∀ filed : List (String × Int), member.1 ∉ filed.map Prod.fst →
        f filed member = .ok (filed ++ [(member.1, number)])) :
    ∃ filed, members.foldlM f [] = .ok filed ∧ filed.Perm numbers := by
  have hrun : ∀ {filed : List (String × Int)}, filed ⊆ numbers →
      (filed.map Prod.fst ++ members.map Prod.fst).Nodup → ∃ filed', members.foldlM f filed =
        .ok filed' ∧ filed' ⊆ numbers ∧
          filed'.map Prod.fst = filed.map Prod.fst ++ members.map Prod.fst := by
    clear hnodup hlength
    induction members with
    | nil => exact fun hfiled _ => ⟨_, rfl, hfiled, by simp⟩
    | cons member members ih =>
      intro filed hfiled hnodup
      have hfresh : member.1 ∉ filed.map Prod.fst := fun hmem =>
        (List.nodup_append.1 hnodup).2.2 _ hmem _ List.mem_cons_self rfl
      obtain ⟨number, hnumber, hnext⟩ := hf member List.mem_cons_self
      have hsubset : filed ++ [(member.1, number)] ⊆ numbers :=
        List.append_subset.2 ⟨hfiled, by simpa using hnumber⟩
      obtain ⟨filed', hfiled', hsubset', hnames⟩ :=
        ih (fun member' hmember' => hf member' (List.mem_cons_of_mem member hmember')) hsubset
          (by simpa using hnodup)
      refine ⟨filed', ?_, hsubset', by simpa using hnames⟩
      rw [List.foldlM_cons, hnext filed hfresh]
      exact hfiled'
  obtain ⟨filed, hfiled, hsubset, hnames⟩ := hrun (List.nil_subset _) (by simpa using hnodup)
  refine ⟨filed, hfiled, (List.subperm_of_subset ?_ hsubset).perm_of_length_le ?_⟩
  · exact List.Nodup.of_map Prod.fst (by simpa [hnames] using hnodup)
  · have hlengths := congrArg List.length hnames
    simp only [List.length_map, List.map_nil, List.nil_append] at hlengths
    omega

/-- The members of an object that stand for the tables. -/
theorem tables_members {item : FinanceTable → Json} {members : List (String × Json)}
    (hnames : (members.map Prod.fst).Perm ((FINANCE_BACKUP_TABLES.map fun t => (t.name, item t)).map
      Prod.fst)) (db : Database FinanceTable) :
    (members.map Prod.fst).Nodup ∧ members.length = (rowCounts db).length := by
  rw [List.map_map] at hnames
  refine ⟨hnames.nodup_iff.2 nodup_names, ?_⟩
  have hlength := hnames.length_eq
  simp only [List.length_map] at hlength
  rw [hlength, rowCounts, List.length_map]

theorem readCounts_interchange {db : Database FinanceTable} {members : List (String × Json)}
    (h : Same (.object (FINANCE_BACKUP_TABLES.map fun t =>
      (t.name, Json.integer (contents db t).length))) (.object members))
    (hcounts : ∀ t, (contents db t).length < 2 ^ 31) :
    ∃ counts, members.foldlM (readCount platform) [] = .ok counts ∧ counts.Perm (rowCounts db) := by
  obtain ⟨_, ⟨⟩, hnames, hmembers⟩ := h.member
  obtain ⟨hnodup, hlength⟩ := tables_members hnames db
  refine foldlM_numbers hnodup hlength fun member hmember => ?_
  obtain ⟨_, hmem, hname, hsame⟩ := hmembers member hmember
  obtain ⟨t, ht, rfl⟩ := List.mem_map.1 hmem
  have hcount := hcounts t
  refine ⟨(contents db t).length, List.mem_map.2 ⟨t, ht, by rw [← hname]⟩, fun filed hfresh => ?_⟩
  simp only [readCount, Except.bind_eq_ok, Except.ensure_eq_ok, Except.pure_eq_ok, hsame.integer]
  exact ⟨(), hfresh, _, nextInt_integer (by omega) (by omega), (), by omega, rfl⟩

theorem readTables_interchange {db : Database FinanceTable} {members : List (String × Json)}
    (h : Same (.object (FINANCE_BACKUP_TABLES.map fun t =>
      (t.name, Json.array ((contents db t).map (sqliteRowJson t))))) (.object members)) :
    ∃ actual, members.foldlM readTable [] = .ok actual ∧ actual.Perm (rowCounts db) := by
  obtain ⟨_, ⟨⟩, hnames, hmembers⟩ := h.member
  obtain ⟨hnodup, hlength⟩ := tables_members hnames db
  refine foldlM_numbers hnodup hlength fun member hmember => ?_
  obtain ⟨_, hmem, hname, hsame⟩ := hmembers member hmember
  obtain ⟨t, ht, rfl⟩ := List.mem_map.1 hmem
  have hobject : ∀ row ∈ (contents db t).map (sqliteRowJson t), row.asObject.isSome = true := by
    intro row hrow
    obtain ⟨row, _, rfl⟩ := List.mem_map.1 hrow
    rfl
  obtain ⟨rows, hrows, hlength, hobject⟩ := hsame.rows hobject
  rw [List.length_map] at hlength
  refine ⟨(contents db t).length, List.mem_map.2 ⟨t, ht, by rw [← hname]⟩, fun filed hfresh => ?_⟩
  simp only [readTable, Except.bind_eq_ok, Except.ensure_eq_ok, Except.pure_eq_ok,
    Except.fromOption_eq_ok, hrows]
  exact ⟨(), hfresh, rows, rfl, (), List.all_eq_true.2 hobject, by rw [hlength]⟩

/-- What has been read once some members were met. -/
def readingOf (full : Reading) (names : List String) : Reading where
  format := if "interchangeFormatVersion" ∈ names then full.format else none
  schema := if "databaseSchemaVersion" ∈ names then full.schema else none
  exported := if "exportedAt" ∈ names then full.exported else none
  watermark := if "operationWatermark" ∈ names then full.watermark else none
  sawWatermark := decide ("operationWatermark" ∈ names)
  counts := if "tableCounts" ∈ names then full.counts else []
  actual := if "tables" ∈ names then full.actual else []

/-- The members may come in any order. -/
theorem readFields_ok {full : Reading} {fields : List (String × Json)}
    (hnodup : (fields.map Prod.fst).Nodup)
    (hf : ∀ field ∈ fields, ∀ names : List String, field.1 ∉ names →
      readMember platform (readingOf full names) field.1 field.2 =
        .ok (readingOf full (field.1 :: names))) :
    ∃ names, fields.foldlM (readField platform) ([], Reading.start) =
      .ok (names, readingOf full names) ∧ ∀ name ∈ fields.map Prod.fst, name ∈ names := by
  have hrun : ∀ {names : List String}, (∀ name ∈ names, name ∉ fields.map Prod.fst) →
      ∃ names', fields.foldlM (readField platform) (names, readingOf full names) =
        .ok (names', readingOf full names') ∧ names ⊆ names' ∧
          ∀ name ∈ fields.map Prod.fst, name ∈ names' := by
    induction fields with
    | nil => exact fun _ => ⟨_, rfl, List.Subset.refl _, by simp⟩
    | cons field fields ih =>
      intro names hfresh
      rw [List.map_cons, List.nodup_cons] at hnodup
      have hnew : field.1 ∉ names := fun hmem => hfresh _ hmem List.mem_cons_self
      have hfresh' : ∀ name ∈ field.1 :: names, name ∉ fields.map Prod.fst := by
        intro name hname hmem
        rcases List.mem_cons.1 hname with rfl | hname
        · exact hnodup.1 hmem
        · exact hfresh name hname (List.mem_cons_of_mem _ hmem)
      obtain ⟨names', hnames', hsubset, hall⟩ := ih hnodup.2
        (fun field' hfield' => hf field' (List.mem_cons_of_mem field hfield')) hfresh'
      refine ⟨names', ?_, fun name hname => hsubset (List.mem_cons_of_mem _ hname), ?_⟩
      · simp only [List.foldlM_cons, Except.bind_eq_ok, readField, Except.ensure_eq_ok,
          Except.pure_eq_ok]
        exact ⟨_, ⟨(), hnew, _, hf field List.mem_cons_self names hnew, rfl⟩, hnames'⟩
      · intro name hname
        rcases List.mem_cons.1 hname with rfl | hname
        · exact hsubset List.mem_cons_self
        · exact hall name hname
  obtain ⟨names, hnames, _, hall⟩ := @hrun [] (by simp)
  exact ⟨names, hnames, hall⟩

theorem readMember_watermark (v : Value) : ∃ watermark, ∀ r : Reading, r.watermark = none →
    readMember platform r "operationWatermark" (valueJson v) =
      .ok { r with sawWatermark := true, watermark := watermark } := by
  cases v with
  | null => exact ⟨none, fun r hr => by simp [readMember, valueJson, ← hr]⟩
  | integer n => exact ⟨_, fun r _ => rfl⟩
  | real x => exact ⟨_, fun r _ => rfl⟩
  | text s => exact ⟨_, fun r _ => rfl⟩
  | blob bytes => exact ⟨_, fun r _ => rfl⟩

/-- The document of a member. -/
theorem exists_member {fields gs : List (String × Json)} (hnames : (gs.map Prod.fst).Perm (fields.map Prod.fst))
    (hnodup : (fields.map Prod.fst).Nodup)
    (hmembers : ∀ g ∈ gs, ∃ f ∈ fields, f.1 = g.1 ∧ Same f.2 g.2) {name : String} {json : Json}
    (hmem : (name, json) ∈ fields) : ∃ value, Same json value ∧ ∀ g ∈ gs, g.1 = name → g.2 = value := by
  obtain ⟨g, hg, hname⟩ := List.mem_map.1 (hnames.mem_iff.2 (List.mem_map_of_mem hmem))
  obtain ⟨f, hf, hfname, hsame⟩ := hmembers g hg
  obtain rfl := List.inj_on_of_nodup_map hnodup hf hmem (hfname.trans hname)
  refine ⟨g.2, hsame, fun g' hg' hname' => ?_⟩
  rw [List.inj_on_of_nodup_map (hnames.nodup_iff.2 hnodup) hg' hg (hname'.trans hname.symm)]

theorem sameMembers_iff {α : Type} [DecidableEq α] {l l' : List α} :
    sameMembers l l' = true ↔ ∀ a, a ∈ l ↔ a ∈ l' := by
  simp only [sameMembers, Bool.and_eq_true, List.all_eq_true, decide_eq_true_eq]
  exact ⟨fun h a => ⟨h.1 a, h.2 a⟩, fun h => ⟨fun a => (h a).1, fun a => (h a).2⟩⟩

/-- The tables that the phone requires are the tables that the server exports. -/
theorem mem_requiredTables {version : Int} (h : 14 ≤ version) (name : String) :
    name ∈ requiredTables version ↔ name ∈ FINANCE_BACKUP_TABLES.map FinanceTable.name := by
  have heq : requiredTables version = requiredTables 14 := by
    simp [requiredTables, h, (by omega : (11 : Int) ≤ version)]
  have hsame : sameMembers (requiredTables 14) (FINANCE_BACKUP_TABLES.map FinanceTable.name) = true := by
    decide +kernel
  rw [heq]
  exact sameMembers_iff.1 hsame name

theorem checkReading_ok {version : Int} {exportedAt : String} {watermark : Option String}
    {counts actual : List (String × Int)} {db : Database FinanceTable}
    (hlo : 14 ≤ version) (hhi : version ≤ 16) (hexported : Entry.isBlank exportedAt = false)
    (hcounts : counts.Perm (rowCounts db)) (hactual : actual.Perm (rowCounts db)) :
    checkReading ⟨some 1, some version, some exportedAt, watermark, true, counts, actual⟩ =
      .ok ⟨version, exportedAt, watermark, counts⟩ := by
  have hschema : ((some version).filter fun schema =>
      decide (some (1 : Int) = some 1 ∧ 1 ≤ schema ∧ schema ≤ 16)) = some version := by
    rw [Option.filter_eq_some_iff]
    exact ⟨rfl, decide_eq_true ⟨rfl, by omega, hhi⟩⟩
  have hexportedAt : ((some exportedAt).filter fun exported =>
      decide (Entry.isBlank exported = false ∧ true = true)) = some exportedAt := by
    rw [Option.filter_eq_some_iff]
    exact ⟨rfl, decide_eq_true ⟨hexported, rfl⟩⟩
  have hnames : sameMembers (counts.map Prod.fst) (requiredTables version) = true := by
    have hmap : (rowCounts db).map Prod.fst = FINANCE_BACKUP_TABLES.map FinanceTable.name := by
      rw [rowCounts, List.map_map]
      rfl
    refine sameMembers_iff.2 fun name => ?_
    rw [mem_requiredTables hlo, ← hmap]
    exact (hcounts.map Prod.fst).mem_iff
  have hsame : sameMembers actual counts = true :=
    sameMembers_iff.2 fun count => (hactual.trans hcounts.symm).mem_iff
  exact Except.bind_eq_ok.2 ⟨_, Except.fromOption_eq_ok.2 hschema, Except.bind_eq_ok.2
    ⟨_, Except.fromOption_eq_ok.2 hexportedAt, Except.bind_eq_ok.2
      ⟨(), Except.ensure_eq_ok.2 ⟨hnames, hsame⟩, rfl⟩⟩⟩

/-- The phone accepts what the server exports. -/
theorem validate_interchange {app : AppState Body} {db : Database FinanceTable} {exportedAt : String}
    {raw : Bytes} {json : Json} (hparse : platform.parse raw = some json)
    (hsame : Same (interchange app exportedAt db) json)
    (hlo : 14 ≤ app.databaseSchemaVersion) (hhi : app.databaseSchemaVersion ≤ 16)
    (hexported : Entry.isBlank exportedAt = false)
    (hcounts : ∀ t, (contents db t).length < 2 ^ 31) :
    ∃ watermark counts, validate platform raw =
      .ok ⟨app.databaseSchemaVersion, exportedAt, watermark, counts⟩ ∧ counts.Perm (rowCounts db) := by
  obtain ⟨gs, rfl, hnames, hmembers⟩ := hsame.member
  have hmember := fun {name : String} {json : Json} =>
    @exists_member _ gs hnames (by simp) hmembers name json
  obtain ⟨_, hsame, hformat⟩ := hmember (by simp : ("interchangeFormatVersion", Json.integer 1) ∈ _)
  obtain rfl := hsame.integer
  obtain ⟨_, hsame, hschema⟩ := hmember
    (by simp : ("databaseSchemaVersion", Json.integer app.databaseSchemaVersion) ∈ _)
  obtain rfl := hsame.integer
  obtain ⟨_, hsame, hexportedAt⟩ := hmember (by simp : ("exportedAt", Json.string exportedAt) ∈ _)
  obtain rfl := hsame.string
  obtain ⟨_, hsame, hwatermark⟩ := hmember (by simp; rfl : ("operationWatermark", _) ∈ _)
  obtain rfl := hsame.value
  obtain ⟨_, hsame, htableCounts⟩ := hmember (by simp; rfl : ("tableCounts", Json.object _) ∈ _)
  obtain ⟨members, rfl, -⟩ := hsame.member
  obtain ⟨counts, hread, hperm⟩ := @readCounts_interchange platform _ _ hsame hcounts
  obtain ⟨_, hsame, htables⟩ := hmember (by simp; rfl : ("tables", Json.object _) ∈ _)
  obtain ⟨members', rfl, -⟩ := hsame.member
  obtain ⟨actual, hread', hperm'⟩ := readTables_interchange hsame
  obtain ⟨watermark, hreadWatermark⟩ := @readMember_watermark platform
    (maxText ((contents db .financeOperations).map fun row =>
      (tableSchema .financeOperations).value row "created_at"))
  have hone : nextInt platform (.integer 1) = .ok 1 := nextInt_integer (by omega) (by omega)
  have hversion : nextInt platform (.integer app.databaseSchemaVersion) =
      .ok app.databaseSchemaVersion := nextInt_integer (by omega) (by omega)
  have hnodup : (gs.map Prod.fst).Nodup := hnames.nodup_iff.2 (by simp)
  have hstep : ∀ field ∈ gs, ∀ names : List String, field.1 ∉ names →
      readMember platform (readingOf ⟨some 1, some app.databaseSchemaVersion, some exportedAt,
        watermark, true, counts, actual⟩ names) field.1 field.2 =
          .ok (readingOf ⟨some 1, some app.databaseSchemaVersion, some exportedAt, watermark, true,
            counts, actual⟩ (field.1 :: names)) := by
    rintro ⟨name, value⟩ hfield names hfresh
    obtain ⟨f, hf, rfl, -⟩ := hmembers _ hfield
    simp only [List.mem_cons, List.not_mem_nil, or_false] at hf
    rcases hf with rfl | rfl | rfl | rfl | rfl | rfl
    · obtain rfl : value = _ := hformat _ hfield rfl
      simp [readMember, readingOf, hone, Except.map]
    · obtain rfl : value = _ := hschema _ hfield rfl
      simp [readMember, readingOf, hversion, Except.map]
    · obtain rfl : value = _ := hexportedAt _ hfield rfl
      simp [readMember, readingOf, nextString, Except.map]
    · obtain rfl : value = _ := hwatermark _ hfield rfl
      rw [hreadWatermark _ (if_neg hfresh)]
      simp [readingOf]
    · obtain rfl : value = _ := htableCounts _ hfield rfl
      have hnone : (readingOf ⟨some 1, some app.databaseSchemaVersion, some exportedAt, watermark,
          true, counts, actual⟩ names).counts = [] := if_neg hfresh
      simp only [readMember, Except.bind_eq_ok, Except.fromOption_eq_ok, Except.pure_eq_ok]
      exact ⟨members, rfl, counts, by rw [hnone, hread], by simp [readingOf]⟩
    · obtain rfl : value = _ := htables _ hfield rfl
      have hnone : (readingOf ⟨some 1, some app.databaseSchemaVersion, some exportedAt, watermark,
          true, counts, actual⟩ names).actual = [] := if_neg hfresh
      simp only [readMember, Except.bind_eq_ok, Except.fromOption_eq_ok, Except.pure_eq_ok]
      exact ⟨members', rfl, actual, by rw [hnone, hread'], by simp [readingOf]⟩
  obtain ⟨names, hfields, hall⟩ := readFields_ok hnodup hstep
  have hfull : ∀ name ∈ ["interchangeFormatVersion", "databaseSchemaVersion", "exportedAt",
      "operationWatermark", "tableCounts", "tables"], name ∈ names :=
    fun name hname => hall name (hnames.mem_iff.2 (by simpa using hname))
  refine ⟨watermark, counts, ?_, hperm⟩
  refine Except.bind_eq_ok.2 ⟨_, Except.fromOption_eq_ok.2 hparse, Except.bind_eq_ok.2
    ⟨gs, rfl, Except.bind_eq_ok.2 ⟨_, hfields, ?_⟩⟩⟩
  rw [← checkReading_ok hlo hhi hexported hperm hperm']
  simp [readingOf, hfull]

/-! ## Saves and uploads -/

section

variable {w : World} {actions : List Action} {save : Save} {input : Input} {raw : Bytes} {digest : String}

theorem openSource_valid {metadata : Metadata} (hdigest : Server.Auth.isCredentialId digest = true)
    (hlower : Server.Auth.toAsciiLowercase digest = digest) (hsha : platform.sha256 raw = digest)
    (hlength : (raw.length : Int) < 2 ^ 31) (hvalid : validate platform raw = .ok metadata) :
    openSource platform input raw digest = .ok ⟨input.id, raw, digest, input.createdAt, metadata⟩ := by
  simp only [openSource, Except.bind_eq_ok, Except.ensure_eq_ok, Except.pure_eq_ok, hlower]
  exact ⟨(), hdigest, (), hlength, metadata, hvalid, (), hsha, rfl⟩

/-- A save that nothing disturbs until it is published stays published. -/
theorem save_published (hid : input.id ∉ (run platform actions).drawn)
    (hopen : openSource platform input raw digest = .ok save) (hne : raw ≠ [])
    (hkey : ∀ nonce chunk, platform.decrypt (platform.encrypt nonce chunk) = some chunk) :
    ∃ n, ∀ more, save ∈ (run platform (actions ++ .save input raw digest ::
      (List.replicate n (.resume 0 input) ++ more))).saved := by
  obtain ⟨_, _, rfl⟩ := openSource_ok hopen
  have hstep : (step platform (run platform actions) (.save input save.source digest)).tasks =
      .chunk save 0 save.source :: (run platform actions).tasks := by
    simp [step, hid, hopen]
  have hcompleted := @save_completes platform _ save _ input hkey hne _ rfl _ 0 save.source
    ((run_kept actions).step (.save input save.source digest)) hstep rfl
  generalize (save.source.length + _) / _ + 3 = n at hcompleted
  refine ⟨n, fun more => ?_⟩
  simp only [run, List.foldl_append, List.foldl_cons] at hcompleted ⊢
  exact (foldl_saved more).mem (by rw [hcompleted.saved]; exact List.mem_cons_self)

/-- `restore` uploads the newest save. -/
theorem Kept.restoreFile (h : Kept platform w) (hsave : save ∈ w.saved)
    (hdamaged : save.id ∉ w.damaged) (hnewest : ∀ newer ∈ w.saved, newer.id ≤ save.id) :
    restoreFile platform w.published = .ok (save.source, save.digest) := by
  have hnewer : (w.saved.countP fun newer => save.id < newer.id) < 8 := by
    have hzero : (w.saved.countP fun newer => save.id < newer.id) = 0 :=
      List.countP_eq_zero.2 fun newer hnewer hlt =>
        not_lt.2 (hnewest newer hnewer) (of_decide_eq_true hlt)
    omega
  obtain ⟨hchecked, g, hg, hintact⟩ := h.intact hsave hdamaged hnewer
  obtain ⟨id, g', info, hle, hg', _, hinfo, hlatest, _⟩ := h.latest hsave hdamaged hnewer
  have hid : id = save.id := by
    have hmem := h.published id (AList.mem_keys.1 (AList.lookup_isSome.1 (by rw [hg']; rfl)))
    obtain ⟨newer, hnewer, rfl⟩ := List.mem_map.1 hmem
    exact le_antisymm (hnewest newer hnewer) hle
  rw [hinfo hid] at hlatest
  simp only [Recovery.restoreFile, Except.bind_eq_ok, Except.fromOption_eq_ok, Except.pure_eq_ok]
  exact ⟨save.info, hlatest, save.source, hintact.materialize hchecked hg, rfl⟩

end

/-! ## Saves in October -/

theorem Same.of_members {fs hs gs : List (String × Json)}
    (h : List.Forall₂ (fun f g => f.1 = g.1 ∧ Same f.2 g.2) fs hs) (hperm : hs.Perm gs) :
    Same (.object fs) (.object gs) := by
  have hmap : fs.map Prod.fst = hs.map Prod.fst := by
    clear hperm
    induction h with
    | nil => rfl
    | cons hfirst _ ih => rw [List.map_cons, List.map_cons, hfirst.1, ih]
  refine .object hmap (fun i f g hf hg => ?_) hperm
  clear hperm hmap
  induction h generalizing i with
  | nil => cases hf
  | cons hfirst _ ih =>
    cases i with
    | zero =>
      cases hf
      cases hg
      exact hfirst.2
    | succ i => exact ih i hf hg

def octoberDigest : String := "9991e2a09b29fa0da0eaa70a028ca9ca145e8a76f92e6072c9f0572106c69a43"

def octoberExternal : External Json :=
  { septemberExternal with
    sha256 := fun _ => octoberDigest
    sha256_hex := fun _ => by decide +kernel }

def octoberApp : AppState Json := { septemberApp with external := octoberExternal }

def food : Row := [.text "food", .text "Food", .integer 1, .integer 2, .text "\x7b\x7d"]

/-- One category. -/
def october : Database FinanceTable := Function.update (fun _ => []) .financeCategories [(1, food)]

theorem october_reachable : Reachable (schema octoberExternal.affinity) october :=
  Reachable.of_inserts (l := [(.financeCategories, food)]) rfl (by decide +kernel)
    (foreignKeyCheck_iff.1 (by decide +kernel))

theorem october_contents (t : FinanceTable) :
    contents october t = if t = .financeCategories then [food] else [] := by
  rw [contents, october, Function.update_apply]
  split <;> rfl

theorem october_counts (t : FinanceTable) : (contents october t).length < 2 ^ 31 := by
  rw [october_contents]
  split <;> decide

/-- `serde_json` orders the members by their names. -/
def octoberTables : List FinanceTable :=
  [.budgetCoverageClosures, .budgetIncomeExpectations, .budgetIncomeReceipts,
    .budgetLedgerMovements, .budgetLedgerState, .budgetMonthClosures, .budgetMonthSnapshots,
    .budgetOpeningState, .budgetPlanIncome, .categoryBudgetPeriods, .exchangeRates,
    .financeAccountActuals, .financeAccountBalanceCheckpoints, .financeAccountOpeningBalances,
    .financeAccounts, .financeCategories, .financeCategoryCorrectionItems,
    .financeCategoryCorrections, .financeExchangeRateSourceRows, .financeImportRuns,
    .financeOperations, .financeQuarantinedRows, .financeSourceArtifacts,
    .financeTransactionRevisions, .financeTransactions, .reconciliationBatches,
    .reconciliationItems, .transactionValuationSourceCells, .transactionValuations]

def octoberRows (t : FinanceTable) : List Json :=
  if t = .financeCategories then
    [.object [("id", .string "food"), ("is_real", .integer 1), ("name", .string "Food"),
      ("source_row", .integer 2), ("source_row_json", .string "\x7b\x7d")]]
  else []

def octoberDocument : Json := .object [
  ("databaseSchemaVersion", .integer 16),
  ("exportedAt", .string "2026-10-02T08:00:00Z"),
  ("interchangeFormatVersion", .integer 1),
  ("operationWatermark", .null),
  ("tableCounts", .object (octoberTables.map fun t => (t.name, .integer (octoberRows t).length))),
  ("tables", .object (octoberTables.map fun t => (t.name, .array (octoberRows t))))]

def utf8 (text : String) : Bytes := text.toUTF8.data.toList

/-- The members, each after a comma. -/
def octoberMembers (category others : String) : Bytes :=
  octoberTables.flatMap fun t => utf8 ",\"" ++ utf8 t.name ++ utf8 "\":" ++
    utf8 (if t = .financeCategories then category else others)

/-- The text of `octoberDocument`. -/
def octoberBytes : Bytes :=
  utf8 "\x7b\"databaseSchemaVersion\":16,\"exportedAt\":\"2026-10-02T08:00:00Z\"," ++
    utf8 "\"interchangeFormatVersion\":1,\"operationWatermark\":null,\"tableCounts\":\x7b" ++
    (octoberMembers "1" "0").tail ++ utf8 "\x7d,\"tables\":\x7b" ++
    (octoberMembers ("[\x7b\"id\":\"food\",\"is_real\":1,\"name\":\"Food\",\"source_row\":2," ++
      "\"source_row_json\":\"\x7b\x7d\"\x7d]") "[]").tail ++ utf8 "\x7d\x7d"

/-- A sealed chunk follows a nonce of twelve bytes. -/
def octoberPlatform : Platform where
  parse raw := if raw = octoberBytes then some octoberDocument else none
  intIn := String.toInt?
  floatText _ := ""
  sha256 _ := octoberDigest
  encrypt nonce chunk := (utf8 nonce ++ List.replicate 12 0).take 12 ++ chunk
  decrypt sealed := if 12 ≤ sealed.length then some (sealed.drop 12) else none

theorem october_length : octoberBytes.length = 1906 := by
  decide +kernel

theorem october_nonempty : octoberBytes ≠ [] := by
  intro hnil
  have hlength := october_length
  rw [hnil] at hlength
  cases hlength

theorem october_parse : octoberPlatform.parse octoberBytes = some octoberDocument := by
  simp [octoberPlatform]

theorem october_rows (t : FinanceTable) :
    Same (.array ((contents october t).map (sqliteRowJson t))) (.array (octoberRows t)) := by
  by_cases ht : t = .financeCategories
  · have hrow : Same (sqliteRowJson .financeCategories food)
        (.object [("id", .string "food"), ("is_real", .integer 1), ("name", .string "Food"),
          ("source_row", .integer 2), ("source_row_json", .string "\x7b\x7d")]) :=
      .of_members (List.forall₂_same.2 fun _ _ => ⟨rfl, .refl _⟩) ((List.Perm.swap _ _ _).cons _)
    rw [october_contents, octoberRows, if_pos ht, if_pos ht, ht]
    refine .array rfl fun i x y hx hy => ?_
    cases i with
    | zero =>
      cases hx
      cases hy
      exact hrow
    | succ i => cases hx
  · rw [october_contents, octoberRows, if_neg ht, if_neg ht]
    exact .refl _

theorem october_same : Same (interchange octoberApp "2026-10-02T08:00:00Z" october)
    octoberDocument := by
  have htables : FINANCE_BACKUP_TABLES.Perm octoberTables := by decide +kernel
  have hlength : ∀ t, (contents october t).length = (octoberRows t).length := by
    intro t
    rw [october_contents, octoberRows]
    split <;> rfl
  refine @Same.of_members _ [("interchangeFormatVersion", .integer 1),
    ("databaseSchemaVersion", .integer 16), ("exportedAt", .string "2026-10-02T08:00:00Z"),
    ("operationWatermark", .null),
    ("tableCounts", .object (octoberTables.map fun t => (t.name, .integer (octoberRows t).length))),
    ("tables", .object (octoberTables.map fun t => (t.name, .array (octoberRows t))))] _
    (.cons ⟨rfl, .refl _⟩ (.cons ⟨rfl, .refl _⟩ (.cons ⟨rfl, .refl _⟩ (.cons ⟨rfl, .refl _⟩
      (.cons ⟨rfl, ?_⟩ (.cons ⟨rfl, ?_⟩ .nil))))))
    ((List.Perm.swap _ _ _).trans ((List.Perm.swap _ _ _).cons _))
  · refine .of_members ?_ (htables.map fun t => (t.name, Json.integer (octoberRows t).length))
    simp only [List.forall₂_map_left_iff, List.forall₂_map_right_iff, hlength]
    exact List.forall₂_same.2 fun _ _ => ⟨rfl, .refl _⟩
  · refine .of_members ?_ (htables.map fun t => (t.name, Json.array (octoberRows t)))
    simp only [List.forall₂_map_left_iff, List.forall₂_map_right_iff]
    exact List.forall₂_same.2 fun t _ => ⟨rfl, october_rows t⟩

theorem october_lower : Server.Auth.toAsciiLowercase octoberDigest = octoberDigest := by
  decide +kernel

theorem october_key (nonce : String) (chunk : Bytes) :
    octoberPlatform.decrypt (octoberPlatform.encrypt nonce chunk) = some chunk := by
  simp [octoberPlatform]

/-- What a save on a day draws, each read returning a kilobyte. The ids are the part of a version 7 uuid
that differs. -/
def octoberInput (day : Nat) : Input :=
  ⟨"7d" ++ toString day, "2026-10-" ++ toString day ++ "T08:00:05Z", "a9f3c1d07b52", 1024, 0⟩

def octoberSave (day : Nat) : Action := .save (octoberInput day) octoberBytes octoberDigest

def octoberSteps (day n : Nat) : List Action := List.replicate n (.resume 0 (octoberInput day))

/-- The phone stops during the save of the 10th, and the save of the 11th is published after that of the
12th. -/
def octoberInterleaved : List Action :=
  octoberSave 10 :: octoberSteps 10 1 ++ [.stop] ++ octoberSave 11 :: octoberSteps 11 1 ++
    octoberSave 12 :: octoberSteps 12 5 ++ [.resume 1 (octoberInput 11)] ++ octoberSteps 11 3

/-- Once there are nine the oldest is to be deleted. -/
def octoberRun : List Action :=
  octoberInterleaved ++
    ([13, 14, 15, 16, 17, 18, 19].flatMap fun day => octoberSave day :: octoberSteps day 5) ++
    octoberSteps 19 1

/-- A file has been deleted when the phone stops again. -/
def octoberStopped : List Action := [.resume 0 (octoberInput 19), .stop]

section

variable {w : World} {metadata : Metadata} {day : Nat}

def octoberSaved (metadata : Metadata) (day : Nat) : Save :=
  ⟨(octoberInput day).id, octoberBytes, octoberDigest, (octoberInput day).createdAt, metadata⟩

theorem october_opens (hvalid : validate octoberPlatform octoberBytes = .ok metadata) (day : Nat) :
    openSource octoberPlatform (octoberInput day) octoberBytes octoberDigest =
      .ok (octoberSaved metadata day) :=
  openSource_valid (by decide +kernel) october_lower rfl (by rw [october_length]; decide) hvalid

/-- A save begins. -/
theorem october_begins (hvalid : validate octoberPlatform octoberBytes = .ok metadata)
    (hfresh : (octoberInput day).id ∉ w.drawn) : step octoberPlatform w (octoberSave day) = { w with
      partials := w.partials.insert (octoberInput day).id ⟨[], none⟩
      tasks := .chunk (octoberSaved metadata day) 0 octoberBytes :: w.tasks
      drawn := (octoberInput day).id :: w.drawn } := by
  simp only [octoberSave, step, if_neg hfresh, october_opens hvalid]
  rfl

/-- A save that has read once. -/
theorem october_reads (hvalid : validate octoberPlatform octoberBytes = .ok metadata)
    (hfresh : (octoberInput day).id ∉ w.drawn) {w₁ : World}
    (hw₁ : w₁ = (octoberSave day :: octoberSteps day 1).foldl (step octoberPlatform) w) :
    w₁.tasks = .chunk (octoberSaved metadata day) 1 (octoberBytes.drop 1024) :: w.tasks ∧
      w₁.saved = w.saved ∧ w₁.drawn = (octoberInput day).id :: w.drawn ∧ w₁.published = w.published := by
  have hread := @step_chunk octoberPlatform (step octoberPlatform w (octoberSave day))
    (octoberSaved metadata day) (octoberInput day) october_key 1024 rfl 0 0 octoberBytes
    (by rw [october_begins hvalid hfresh]; rfl) october_nonempty
  rw [hw₁, octoberSteps, List.replicate_one, List.foldl_cons, List.foldl_cons, List.foldl_nil]
  rw [october_begins hvalid hfresh] at hread ⊢
  exact hread

/-- What the saves of some days leave, each published before the next. -/
structure Saved (w w' : World) (ids : List String) : Prop where
  kept : Kept octoberPlatform w'
  tasks : w'.tasks = List.replicate ids.length .list ++ w.tasks
  saved : w'.saved.map Save.id = ids.reverse ++ w.saved.map Save.id
  drawn : w'.drawn.Perm (ids ++ w.drawn)
  published : w'.published.keys = ids.reverse ++ w.published.keys

theorem Saved.trans {w₁ w₂ : World} {ids ids' : List String} (h : Saved w w₁ ids) (h' : Saved w₁ w₂ ids') :
    Saved w w₂ (ids ++ ids') where
  kept := h'.kept
  tasks := by rw [h'.tasks, h.tasks, ← List.append_assoc, List.replicate_append_replicate,
    List.length_append, Nat.add_comm]
  saved := by rw [h'.saved, h.saved, List.reverse_append, List.append_assoc]
  drawn := by
    rw [List.append_assoc]
    exact h'.drawn.trans ((h.drawn.append_left ids').trans (List.perm_append_comm_assoc _ _ _))
  published := by rw [h'.published, h.published, List.reverse_append, List.append_assoc]

/-- The keys after a save. -/
theorem Completed.keys {w' : World} {save : Save} {tasks : List Task} (h : Completed w w' save tasks)
    (hkept : Kept octoberPlatform w) (hfresh : save.id ∉ w.saved.map Save.id) :
    w'.published.keys = save.id :: w.published.keys := by
  obtain ⟨g, hg⟩ := h.published
  rw [hg, AList.keys_insert, List.erase_of_not_mem fun hmem => hfresh (hkept.published _ hmem)]

theorem october_day (hvalid : validate octoberPlatform octoberBytes = .ok metadata)
    (hkept : Kept octoberPlatform w) (hfresh : (octoberInput day).id ∉ w.drawn) :
    Saved w ((octoberSave day :: octoberSteps day 5).foldl (step octoberPlatform) w)
      [(octoberInput day).id] := by
  have hbegins := october_begins hvalid hfresh
  have hopened := hkept.step (octoberSave day)
  have hcompleted := @save_completes octoberPlatform _ (octoberSaved metadata day) w.tasks (octoberInput day)
    october_key october_nonempty 1024 rfl 2 0 octoberBytes hopened (by rw [hbegins])
    (by rw [october_length])
  have hunsaved : (octoberInput day).id ∉ w.saved.map Save.id := by
    intro hmem
    obtain ⟨save, hsave, hid⟩ := List.mem_map.1 hmem
    exact hfresh (hid ▸ (hkept.saved save hsave).2)
  rw [hbegins] at hopened hcompleted
  rw [List.foldl_cons, hbegins]
  refine ⟨hopened.foldl _, hcompleted.tasks, ?_, .of_eq hcompleted.drawn,
    hcompleted.keys hopened hunsaved⟩
  exact congrArg (List.map Save.id) hcompleted.saved

theorem october_days (hvalid : validate octoberPlatform octoberBytes = .ok metadata) {days : List Nat}
    (hkept : Kept octoberPlatform w) (hnodup : (days.map fun day => (octoberInput day).id).Nodup)
    (hfresh : ∀ day ∈ days, (octoberInput day).id ∉ w.drawn) :
    Saved w ((days.flatMap fun day => octoberSave day :: octoberSteps day 5).foldl
      (step octoberPlatform) w) (days.map fun day => (octoberInput day).id) := by
  induction days generalizing w with
  | nil => exact ⟨hkept, rfl, rfl, .refl _, rfl⟩
  | cons day days ih =>
    rw [List.map_cons, List.nodup_cons] at hnodup
    have hfirst := october_day hvalid hkept (hfresh day List.mem_cons_self)
    rw [List.flatMap_cons, List.foldl_append]
    refine hfirst.trans (ih hfirst.kept hnodup.2 fun day' hday' hmem => ?_)
    rcases List.mem_cons.1 (hfirst.drawn.mem_iff.1 hmem) with heq | hmem
    · exact hnodup.1 (heq ▸ List.mem_map_of_mem hday')
    · exact hfresh day' (List.mem_cons_of_mem day hday') hmem

theorem october_interleaved (hvalid : validate octoberPlatform octoberBytes = .ok metadata) :
    Saved ⟨∅, ∅, [], [(octoberInput 10).id], [], []⟩ (run octoberPlatform octoberInterleaved)
      [(octoberInput 12).id, (octoberInput 11).id] := by
  obtain ⟨rest, hrest⟩ : ∃ rest, rest = octoberBytes.drop 1024 := ⟨_, rfl⟩
  have hlength : rest.length = 882 := by rw [hrest, List.length_drop, october_length]
  have hne : rest ≠ [] := List.length_pos_iff.1 (by omega)
  have hids : (octoberInput 11).id ∉ [(octoberInput 10).id] ∧
      (octoberInput 12).id ∉ [(octoberInput 11).id, (octoberInput 10).id] ∧
      (octoberInput 11).id ∉ [(octoberInput 12).id] := by decide +kernel
  -- the phone stops after a read
  obtain ⟨w₁, hw₁⟩ : ∃ w, w = run octoberPlatform (octoberSave 10 :: octoberSteps 10 1) := ⟨_, rfl⟩
  obtain ⟨-, hsaved₁, hdrawn₁, hpublished₁⟩ := october_reads hvalid List.not_mem_nil hw₁
  have hkept₁ : Kept octoberPlatform w₁ := by
    rw [hw₁]
    exact run_kept _
  -- the next save has read once when another one is published
  obtain ⟨w₂, hw₂⟩ : ∃ w, w = (octoberSave 11 :: octoberSteps 11 1).foldl (step octoberPlatform)
    (step octoberPlatform w₁ .stop) := ⟨_, rfl⟩
  have hfresh₂ : (octoberInput 11).id ∉ (step octoberPlatform w₁ .stop).drawn := by
    rw [step, hdrawn₁]
    exact hids.1
  obtain ⟨htasks₂, hsaved₂, hdrawn₂, hpublished₂⟩ := october_reads hvalid hfresh₂ hw₂
  have hkept₂ : Kept octoberPlatform w₂ := by
    rw [hw₂]
    exact (hkept₁.step .stop).foldl _
  rw [step, hdrawn₁] at hdrawn₂
  rw [step, hsaved₁] at hsaved₂
  rw [step, hpublished₁] at hpublished₂
  rw [← hrest] at htasks₂
  have hday₃ := @october_day w₂ metadata 12 hvalid hkept₂ (by rw [hdrawn₂]; exact hids.2.1)
  obtain ⟨w₃, hw₃⟩ : ∃ w, w = (octoberSave 12 :: octoberSteps 12 5).foldl (step octoberPlatform) w₂ :=
    ⟨_, rfl⟩
  rw [← hw₃] at hday₃
  -- its second and last read comes after that
  have htasks₃ : w₃.tasks = [.list, .chunk (octoberSaved metadata 11) 1 rest] := by
    rw [hday₃.tasks, htasks₂]
    rfl
  obtain ⟨htasks₄, hsaved₄, hdrawn₄, hpublished₄⟩ := @step_chunk octoberPlatform w₃
    (octoberSaved metadata 11) (octoberInput 11) october_key 1024 rfl 1 1 rest (by rw [htasks₃]; rfl) hne
  rw [htasks₃] at htasks₄
  have hkept₄ := hday₃.kept.step (.resume 1 (octoberInput 11))
  have hcompleted := @save_completes octoberPlatform _ (octoberSaved metadata 11) _ (octoberInput 11)
    october_key october_nonempty 1024 rfl 0 2 _ hkept₄ htasks₄ (by rw [List.length_drop, hlength])
  have hunsaved : (octoberSaved metadata 11).id ∉
      (step octoberPlatform w₃ (.resume 1 (octoberInput 11))).saved.map Save.id := by
    rw [hsaved₄, hday₃.saved, hsaved₂]
    exact hids.2.2
  have hkeys := hcompleted.keys hkept₄ hunsaved
  rw [hpublished₄, hday₃.published, hpublished₂] at hkeys
  have hrun : run octoberPlatform octoberInterleaved = (octoberSteps 11 3).foldl (step octoberPlatform)
      (step octoberPlatform w₃ (.resume 1 (octoberInput 11))) := by
    have hone : ∀ w a, [a].foldl (step octoberPlatform) w = step octoberPlatform w a := fun _ _ => rfl
    rw [octoberInterleaved, run_append, run_append, run_append, run_append, run_append, hone, hone, ← hw₁,
      ← hw₂, ← hw₃]
  rw [hrun]
  refine ⟨hkept₄.foldl _, hcompleted.tasks, ?_, ?_, hkeys⟩
  · refine (congrArg (List.map Save.id) hcompleted.saved).trans ?_
    rw [List.map_cons, hsaved₄, hday₃.saved, hsaved₂]
    rfl
  · refine (List.Perm.of_eq (hcompleted.drawn.trans hdrawn₄)).trans ?_
    exact hday₃.drawn.trans (.of_eq (by rw [hdrawn₂]; rfl))

theorem october_run (hvalid : validate octoberPlatform octoberBytes = .ok metadata) :
    ∃ others, (run octoberPlatform octoberRun).tasks = .delete [(octoberInput 11).id] :: others ∧
      (run octoberPlatform octoberRun).saved.map Save.id =
        ([19, 18, 17, 16, 15, 14, 13, 11, 12].map fun day => (octoberInput day).id) ∧
      (octoberInput 20).id ∉ (run octoberPlatform octoberRun).drawn := by
  have hinterleaved := october_interleaved hvalid
  have hfresh : ∀ day ∈ [13, 14, 15, 16, 17, 18, 19], (octoberInput day).id ∉
      [(octoberInput 12).id, (octoberInput 11).id] ++ [(octoberInput 10).id] := by decide +kernel
  have hsaved := hinterleaved.trans (october_days hvalid hinterleaved.kept (by decide +kernel)
    fun day hday hmem => hfresh day hday (hinterleaved.drawn.mem_iff.1 hmem))
  obtain ⟨w, hw⟩ : ∃ w, w = ([13, 14, 15, 16, 17, 18, 19].flatMap fun day =>
    octoberSave day :: octoberSteps day 5).foldl (step octoberPlatform)
      (run octoberPlatform octoberInterleaved) := ⟨_, rfl⟩
  rw [← hw] at hsaved
  have hrun : run octoberPlatform octoberRun =
      step octoberPlatform w (.resume 0 (octoberInput 19)) := by
    rw [octoberRun, run_append, run_append, ← hw, octoberSteps, List.replicate_one, List.foldl_cons,
      List.foldl_nil]
  have hgenerations : generations w.published =
      [19, 18, 17, 16, 15, 14, 13, 12, 11].map fun day => (octoberInput day).id := by
    rw [generations, hsaved.published]
    decide +kernel
  rw [hrun, step_head hsaved.tasks, resume, hgenerations]
  refine ⟨_, rfl, hsaved.saved, fun hmem => ?_⟩
  have hnew : (octoberInput 20).id ∉ ([(octoberInput 12).id, (octoberInput 11).id] ++
      [13, 14, 15, 16, 17, 18, 19].map fun day => (octoberInput day).id) ++ [(octoberInput 10).id] := by
    decide +kernel
  exact hnew (hsaved.drawn.mem_iff.1 hmem)

end

theorem october_undamaged {more : List Action} (hmore : ∀ id g, .damage id g ∉ more) (id : String) :
    id ∉ (run octoberPlatform (octoberRun ++ more)).damaged := by
  intro hdamaged
  obtain ⟨g, hg⟩ := run_damaged hdamaged
  simp [octoberRun, octoberInterleaved, octoberSave, octoberSteps, hmore] at hg

theorem october_newest {n : Nat} {save : Save} (h : save ∈ (run octoberPlatform (octoberRun ++
    octoberSave 20 :: (octoberSteps 20 n ++ octoberStopped))).saved) :
    save.id ≤ (octoberInput 20).id := by
  have hdays : ∀ day ∈ [10, 11, 12, 13, 14, 15, 16, 17, 18, 19, 20],
      (octoberInput day).id ≤ (octoberInput 20).id := by decide +kernel
  obtain ⟨input, digest, hmem, hid⟩ := run_saves (List.mem_append_left _ h)
  obtain ⟨day, hday, rfl⟩ : ∃ day ∈ [10, 11, 12, 13, 14, 15, 16, 17, 18, 19, 20],
      input = octoberInput day := by
    simp [octoberRun, octoberInterleaved, octoberSave, octoberSteps, octoberStopped] at hmem
    rcases hmem with ⟨rfl, _⟩ | ⟨rfl, _⟩ | ⟨rfl, _⟩ | ⟨rfl, _⟩ | ⟨rfl, _⟩ | ⟨rfl, _⟩ | ⟨rfl, _⟩ |
      ⟨rfl, _⟩ | ⟨rfl, _⟩ | ⟨rfl, _⟩ | ⟨rfl, _⟩
    all_goals
      refine ⟨_, ?_, rfl⟩
      decide
  rw [hid]
  exact hdays day hday

theorem october_valid : ∃ metadata, validate octoberPlatform octoberBytes = .ok metadata := by
  obtain ⟨watermark, counts, hvalid, _⟩ := validate_interchange october_parse october_same
    (by decide) (by decide) (by decide +kernel) october_counts
  exact ⟨_, hvalid⟩

/-- The phone stops while it deletes. -/
theorem stopped_saved {actions : List Action} {input : Input} {old : List String} {others : List Task}
    (h : (run platform actions).tasks = .delete old :: others) :
    (run platform (actions ++ [.resume 0 input, .stop])).saved = (run platform actions).saved := by
  rw [run_append, List.foldl_cons, step_head h]
  exact delete_saved.2

/-- The save of the 12th is the oldest of eight. -/
theorem october_kept : ∃ (others : List Task) (save : Save),
    (run octoberPlatform octoberRun).tasks = .delete [(octoberInput 11).id] :: others ∧
      save.id = (octoberInput 12).id ∧
      save ∈ (run octoberPlatform (octoberRun ++ octoberStopped)).saved ∧
      save.id ∉ (run octoberPlatform (octoberRun ++ octoberStopped)).damaged ∧
      ((run octoberPlatform (octoberRun ++ octoberStopped)).saved.countP
        fun newer => save.id < newer.id) < 8 := by
  obtain ⟨metadata, hvalid⟩ := october_valid
  obtain ⟨others, htasks, hids, -⟩ := october_run hvalid
  have hsaved : (run octoberPlatform (octoberRun ++ octoberStopped)).saved.map Save.id =
      [19, 18, 17, 16, 15, 14, 13, 11, 12].map fun day => (octoberInput day).id := by
    rw [octoberStopped, stopped_saved htasks, hids]
  have hlisted : (octoberInput 12).id ∈
      [19, 18, 17, 16, 15, 14, 13, 11, 12].map fun day => (octoberInput day).id := by decide +kernel
  have hnewer : ([19, 18, 17, 16, 15, 14, 13, 11, 12].map fun day => (octoberInput day).id).countP
      ((octoberInput 12).id < ·) < 8 := by decide +kernel
  rw [← hsaved] at hlisted hnewer
  obtain ⟨save, hsave, hid⟩ := List.mem_map.1 hlisted
  rw [List.countP_map, ← hid] at hnewer
  exact ⟨others, save, htasks, hid, hsave, october_undamaged (by simp [octoberStopped]) _, hnewer⟩

/-! ## Results -/

section

variable {actions : List Action} {save : Save}

/-- However saves are interleaved and cut off, the newest eight that were published and that nothing
else has changed verify, and give back the bytes that were saved. -/
theorem recovery_kept (hsave : save ∈ (run platform actions).saved)
    (hdamaged : save.id ∉ (run platform actions).damaged)
    (hnewer : ((run platform actions).saved.countP fun newer => save.id < newer.id) < 8) :
    (∃ input digest, .save input save.source digest ∈ actions ∧ save.id = input.id) ∧
      validate platform save.source = .ok save.metadata ∧
      (∃ g, (run platform actions).published.lookup save.id = some g ∧
        verify platform g = .ok save.info) ∧
      materialize platform (run platform actions).published save.info = .ok save.source := by
  obtain ⟨hchecked, g, hg, hintact⟩ := (run_kept actions).intact hsave hdamaged hnewer
  exact ⟨run_saves (List.mem_append_left _ hsave), hchecked.valid, ⟨g, hg, hintact.verify hchecked⟩,
    hintact.materialize hchecked hg⟩

theorem recovery_kept_october : ∃ (others : List Task) (save : Save),
    (run octoberPlatform octoberRun).tasks = .delete [(octoberInput 11).id] :: others ∧
      save.id = (octoberInput 12).id ∧
      materialize octoberPlatform (run octoberPlatform (octoberRun ++ octoberStopped)).published
        save.info = .ok save.source := by
  obtain ⟨others, save, hdeletes, hid, hsave, hdamaged, hnewer⟩ := october_kept
  exact ⟨others, save, hdeletes, hid, (recovery_kept hsave hdamaged hnewer).2.2.2⟩

/-- `latestInfo` passes over newer generations only if they do not verify. -/
theorem recovery_latest (hsave : save ∈ (run platform actions).saved)
    (hdamaged : save.id ∉ (run platform actions).damaged)
    (hnewer : ((run platform actions).saved.countP fun newer => save.id < newer.id) < 8) :
    ∃ id g info, save.id ≤ id ∧ (run platform actions).published.lookup id = some g ∧
      verify platform g = .ok info ∧ (id = save.id → info = save.info) ∧
      latestInfo platform (run platform actions).published = some info ∧
      ∀ id' g', id < id' → (run platform actions).published.lookup id' = some g' →
        ∃ e, verify platform g' = .error e :=
  (run_kept actions).latest hsave hdamaged hnewer

theorem recovery_latest_october : ∃ id info, (octoberInput 12).id ≤ id ∧
    latestInfo octoberPlatform (run octoberPlatform (octoberRun ++ octoberStopped)).published =
      some info := by
  obtain ⟨_, save, _, hid, hsave, hdamaged, hnewer⟩ := october_kept
  obtain ⟨id, _, info, hle, _, _, _, hinfo, _⟩ := recovery_latest hsave hdamaged hnewer
  exact ⟨id, info, hid ▸ hle, hinfo⟩

end

/-- A backup that the phone has saved last is what it uploads, and an empty server restores the tables
from it, with whatever else the phone saved before, meanwhile or since. -/
theorem recovery_roundTrip {app : AppState Body} {headers : Server.Auth.Headers}
    {verifiedAt exportedAt : String} {db db₁ : Database FinanceTable} {response : BackupResponse Body}
    (hreachable : Reachable (schema app.external.affinity) db)
    (hbackup : Session.serve (getDbFinanceBackup app headers verifiedAt exportedAt) db =
      (.ok response, db₁))
    (hlo : 14 ≤ app.databaseSchemaVersion) (hhi : app.databaseSchemaVersion ≤ 16)
    (hexported : Entry.isBlank exportedAt = false)
    (hcounts : ∀ t, (contents db₁ t).length < 2 ^ 31)
    (hlower : Server.Auth.toAsciiLowercase response.sha256 = response.sha256)
    -- the bytes of the body, as the phone and another server read them
    {encode : Body → Bytes} {decode : Bytes → Body}
    (hne : encode response.body ≠ []) (hlength : (encode response.body).length < 2 ^ 31)
    (hdecode : decode (encode response.body) = response.body) {json : Json}
    (hparse : platform.parse (encode response.body) = some json)
    (hsame : Same (interchange app exportedAt db₁) json)
    (hsha : platform.sha256 (encode response.body) = response.sha256)
    (hkey : ∀ nonce chunk, platform.decrypt (platform.encrypt nonce chunk) = some chunk)
    {actions : List Action} {input : Input} (hid : input.id ∉ (run platform actions).drawn) :
    ∃ n, ∀ more w, w = run platform (actions ++
        .save input (encode response.body) response.sha256 ::
          (List.replicate n (.resume 0 input) ++ more)) →
      -- the save is published
      (∃ save ∈ w.saved, save.id = input.id ∧ save.source = encode response.body ∧
        save.digest = response.sha256) ∧
      (input.id ∉ w.damaged → (∀ newer ∈ w.saved, newer.id ≤ input.id) →
        restoreFile platform w.published = .ok (encode response.body, response.sha256) ∧
        ∀ (target : AppState Body) (request : RestoreRequest Body),
          target.external = app.external →
          target.databaseSchemaVersion = app.databaseSchemaVersion →
          target.financeDbRestoreEnabled = true →
          Server.Auth.ensureDbRequestOrigin request.headers = .ok () →
          requireSession target request.headers = .ok () →
          request.body = decode (encode response.body) →
          request.snapshotSha256 = some response.sha256 →
          ∃ restored db₂, Session.serve (restoreDbFinance target request) (fun _ => []) =
              (.ok restored, db₂) ∧ ∀ t, contents db₂ t = contents db₁ t) := by
  obtain ⟨hseed, hreferences, hbody, hanswer⟩ := getDbFinanceBackup_ok hbackup
  have hintact := (seedOpeningState_seeded hreachable.valid.1 hseed).intact hreachable.valid.1
  obtain ⟨watermark, counts, hvalid, _⟩ :=
    validate_interchange hparse hsame hlo hhi hexported hcounts
  have hdigest : Server.Auth.isCredentialId response.sha256 = true :=
    hanswer ▸ app.external.sha256_hex response.body
  have hopen := @openSource_valid platform input _ _ _ hdigest hlower hsha (by omega) hvalid
  obtain ⟨n, hn⟩ := save_published hid hopen hne hkey
  refine ⟨n, fun more w hw => ⟨⟨_, hw ▸ hn more, rfl, rfl, rfl⟩, fun hdamaged hnewest => ?_⟩⟩
  have hrestore := (run_kept _).restoreFile (hn more) (hw ▸ hdamaged) (hw ▸ hnewest)
  refine ⟨hw ▸ hrestore, fun target request hexternal hversion henabled horigin hsession hrequest
    hdigest => ?_⟩
  rw [hdecode] at hrequest
  rw [hanswer, ← hrequest, ← hexternal] at hdigest
  have hparse' : target.external.parse request.body = some (interchange app exportedAt db₁) := by
    rw [hrequest, hbody, hexternal]
    exact app.external.parse_write _
  have hread := readSnapshot_interchange horigin hsession henabled hdigest hparse'
  obtain ⟨restored, db₂, hserve, hcontents⟩ := restore_exported hintact
    (hexternal ▸ hreferences) (hversion ▸ hread)
  exact ⟨restored, db₂, hserve, fun t => congrFun hcontents t⟩

/-- A save of the 20th, when the oldest generation is due for deletion; the phone stops after it. -/
theorem recovery_roundTrip_october : ∃ n restored db₂,
    restoreFile octoberPlatform (run octoberPlatform (octoberRun ++
      octoberSave 20 :: (octoberSteps 20 n ++ octoberStopped))).published =
        .ok (octoberBytes, octoberDigest) ∧
      Session.serve (restoreDbFinance octoberApp ⟨septemberHeaders, some octoberDigest,
        interchange octoberApp "2026-10-02T08:00:00Z" october⟩) (fun _ => []) = (.ok restored, db₂) ∧
      contents db₂ .financeCategories = [food] := by
  obtain ⟨response, db₁, hbackup⟩ : ∃ response db₁,
      Session.serve (getDbFinanceBackup octoberApp septemberHeaders "2026-10-02T08:00:00.000Z"
        "2026-10-02T08:00:00Z") october = (.ok response, db₁) := ⟨_, _, rfl⟩
  obtain ⟨hseed, _, hbody, hanswer⟩ := getDbFinanceBackup_ok hbackup
  obtain rfl : october = db₁ := Except.ok.inj hseed
  obtain ⟨metadata, hvalid⟩ := october_valid
  obtain ⟨_, _, _, hfresh⟩ := october_run hvalid
  obtain ⟨n, hn⟩ := @recovery_roundTrip octoberPlatform Json octoberApp septemberHeaders
    "2026-10-02T08:00:00.000Z" "2026-10-02T08:00:00Z" _ _ response october_reachable hbackup (by decide)
    (by decide) (by decide +kernel) october_counts (by rw [hanswer]; exact october_lower)
    (fun _ => octoberBytes) (fun _ => interchange octoberApp "2026-10-02T08:00:00Z" october)
    october_nonempty (by rw [october_length]; decide) hbody.symm _ october_parse october_same hanswer.symm
    october_key octoberRun (octoberInput 20) hfresh
  have hdigest : response.sha256 = octoberDigest := hanswer
  rw [hdigest] at hn
  obtain ⟨hrestore, hserve⟩ := (hn octoberStopped _ rfl).2
    (october_undamaged (by simp [octoberStopped]) _) fun _ => october_newest
  obtain ⟨restored, db₂, hserve, hcontents⟩ := hserve octoberApp ⟨septemberHeaders, some octoberDigest,
    interchange octoberApp "2026-10-02T08:00:00Z" october⟩ rfl rfl rfl rfl rfl rfl rfl
  exact ⟨n, restored, db₂, hrestore, hserve, hcontents _⟩

end Recovery
