import StoredRoutines.Batch.Placeholders
import StoredRoutines.Config.Reader
import StoredRoutines.Proofs.Load.Frame
import StoredRoutines.Proofs.Placeholder.Spelling
import StoredRoutines.Proofs.Record.RoundTrip

/-!
# The placeholders of a run

A table holds its tokens in upper case and keeps the value that was inserted last. So constants
whose names differ in nothing but case share an entry, and so do columns, and the last of them in
the order in which they are inserted gives the value. A constant and a column never share one.

## Main definitions

- `IsName` — names of placeholders

## Main results

- `Table.get?_ofList_map`, `Table.get?_extend` — looking up what has been inserted
- `fold_eq_iff` — names that share an entry
- `Loading.placeholderTable_addressable` — what the placeholders of a run stand for
-/

namespace StoredRoutines

/-- The name of a column together with its table. -/
def SchemaColumn.path (c : SchemaColumn) : String :=
  c.table ++ "." ++ c.column

/-- The token of the type of a column, as it is written in a source. -/
def SchemaColumn.typeToken (c : SchemaColumn) : String :=
  "@" ++ c.path ++ "%type@"

namespace Placeholder

/-! ### Names -/

/-- All characters of a text may stand in the name of a placeholder. -/
def IsName (name : String) : Prop :=
  ∀ c ∈ name.toList, isNameChar c = true

instance : DecidablePred IsName := fun name =>
  decidable_of_iff (name.toList.all isNameChar = true) List.all_eq_true

section

variable {name name' ending ending' : String}

theorem toList_fold (h : IsName name) (ending : String) :
    (fold ("@" ++ name ++ ending)).toList =
      '@' :: (name.toList.map Char.toUpper ++ Text.uppercase ending.toList) := by
  have hascii : ∀ c ∈ "@".toList ++ name.toList, c.toNat < 128 := by
    intro c hc
    rcases List.mem_append.1 hc with hc | hc
    · obtain rfl := List.mem_singleton.1 hc
      decide
    · exact toNat_lt_of_isNameChar (h c hc)
  rw [fold, String.toList_ofList, String.toList_append, String.toList_append,
    Text.uppercase_append, uppercase_eq_map hascii, List.map_append]
  rfl

/-- Tokens of one kind share an entry exactly if their names do not differ in more than case. -/
theorem fold_eq_iff (h : IsName name) (h' : IsName name')
    (hending : Text.uppercase ending.toList = Text.uppercase ending'.toList) :
    fold ("@" ++ name ++ ending) = fold ("@" ++ name' ++ ending') ↔ sameName name name' = true := by
  rw [← String.toList_inj, toList_fold h, toList_fold h', hending, List.cons_inj_right,
    List.append_left_inj, sameName, beq_iff_eq]

/-- A constant and a column never share an entry. -/
theorem fold_constant_ne (h : IsName name) (h' : IsName name')
    (hending : '%' ∈ Text.uppercase ending.toList) :
    fold ("@" ++ name ++ "@") ≠ fold ("@" ++ name' ++ ending) := by
  rw [Ne, ← String.toList_inj, toList_fold h, toList_fold h', List.cons_inj_right]
  intro heq
  have hmem : '%' ∈ name.toList.map Char.toUpper ++ Text.uppercase "@".toList :=
    heq ▸ List.mem_append_right _ hending
  rw [List.mem_append, List.mem_map] at hmem
  rcases hmem with ⟨c, hc, hupper⟩ | hmem
  · obtain rfl := toUpper_eq_percent.1 hupper
    exact absurd (h _ hc) (by decide)
  · exact absurd hmem (by decide +kernel)

end

/-! ### Looking up -/

namespace Table

theorem get?_foldl_insert {α : Type} (f : α → String × String) (l : List α) (t : Table)
    (token : String) :
    ((l.map f).foldl (fun t p => t.insert p.1 p.2) t).get? token =
      ((l.findRev? fun a => fold (f a).1 == fold token).map fun a => (f a).2).or
        (t.get? token) := by
  induction l generalizing t with
  | nil => rfl
  | cons a l ih =>
    rw [List.map_cons, List.foldl_cons, ih, get?_insert, List.findRev?]
    cases l.findRev? fun a => fold (f a).1 == fold token with
    | some b => rfl
    | none =>
      by_cases ha : fold token = fold (f a).1
      · simp [ha]
      · simp [ha, Ne.symm ha]

/-- The value that was inserted last is the one that is found. -/
theorem get?_ofList_map {α : Type} (f : α → String × String) (l : List α) (token : String) :
    (ofList (l.map f)).get? token =
      (l.findRev? fun a => fold (f a).1 == fold token).map fun a => (f a).2 := by
  rw [ofList, get?_foldl_insert]
  exact Option.or_none

theorem get?_extend (t u : Table) (token : String) :
    (t.extend u).get? token = (u.get? token).or (t.get? token) := by
  unfold extend get? SortedMap.union
  rw [SortedMap.get?_foldl_insert, ← SortedMap.get?_ofList, SortedMap.ofList_entries]

/-- Among tokens of one kind the last one whose name differs in case only is found. -/
theorem get?_ofList_names {α : Type} {l : List α} (name value : α → String)
    {sought ending ending' : String} (hl : ∀ a ∈ l, IsName (name a)) (hsought : IsName sought)
    (hending : Text.uppercase ending.toList = Text.uppercase ending'.toList) :
    (ofList (l.map fun a => ("@" ++ name a ++ ending, value a))).get? ("@" ++ sought ++ ending') =
      (l.findRev? fun a => sameName (name a) sought).map value := by
  rw [get?_ofList_map, List.findRev?_eq_find?_reverse, List.findRev?_eq_find?_reverse]
  refine congrArg (Option.map value) (List.find?_congr fun a ha => ?_)
  rw [Bool.eq_iff_iff, beq_iff_eq]
  exact fold_eq_iff (hl a (List.mem_reverse.1 ha)) hsought hending

end Table

/-- The last item with a name is there if any is. -/
theorem exists_findRev?_sameName {α : Type} {l : List α} (name : α → String) {a : α} (ha : a ∈ l) :
    ∃ b, (l.findRev? fun x => sameName (name x) (name a)) = some b := by
  rw [← Option.isSome_iff_exists, List.findRev?_eq_find?_reverse, List.find?_isSome]
  exact ⟨a, List.mem_reverse.2 ha, sameName_refl _⟩

end Placeholder

open Placeholder

/-! ### The two kinds of placeholder -/

theorem columnToken_eq (c : SchemaColumn) : columnToken c = "@" ++ c.path ++ "%TYPE@" := by
  simp only [columnToken, SchemaColumn.path, String.append_assoc]

section

variable {constants : SortedMap String} {columns : List SchemaColumn}

/-- The token of a constant finds the last constant that is spelled like it up to case. -/
theorem get?_constantToken (t : Table) (hconstants : ∀ e ∈ constants.entries, IsName e.1)
    {e : String × String} (he : e ∈ constants.entries) :
    ∃ e', (constants.entries.findRev? fun x => sameName x.1 e.1) = some e' ∧
      (t.extend (constantTable constants)).get? (constantToken e.1) = some e'.2 := by
  obtain ⟨e', hlast⟩ := exists_findRev?_sameName Prod.fst he
  have hget : (constantTable constants).get? (constantToken e.1) = _ :=
    Table.get?_ofList_names Prod.fst Prod.snd hconstants (hconstants e he) rfl
  rw [hlast] at hget
  refine ⟨e', hlast, ?_⟩
  rw [Table.get?_extend, hget]
  rfl

/-- The token of a column finds the last column that is spelled like it up to case, and no
    constant. -/
theorem get?_typeToken (hconstants : ∀ e ∈ constants.entries, IsName e.1)
    (hcolumns : ∀ c ∈ columns, IsName c.path) {sought : SchemaColumn}
    (hsought : IsName sought.path) :
    ((columnTable columns).extend (constantTable constants)).get? sought.typeToken =
      (columns.findRev? fun x => sameName x.path sought.path).map columnValue := by
  have hconstant : (constantTable constants).get? sought.typeToken = none := by
    rw [constantTable, Table.get?_ofList_map, Option.map_eq_none_iff,
      List.findRev?_eq_find?_reverse, List.find?_eq_none]
    intro e he
    rw [beq_iff_eq]
    exact fold_constant_ne (hconstants e (List.mem_reverse.1 he)) hsought (by decide +kernel)
  have hcolumn : (columnTable columns).get? sought.typeToken =
      (columns.findRev? fun x => sameName x.path sought.path).map columnValue := by
    simp only [columnTable, columnToken_eq]
    exact Table.get?_ofList_names _ _ hcolumns hsought (by decide +kernel)
  -- the constants are looked at first, and none of them is found
  rw [Table.get?_extend, hconstant, hcolumn, Option.none_or]

end

theorem isToken_constantToken {name : String} (h : Config.isConstantName name = true) :
    IsToken (constantToken name).toList := by
  obtain ⟨hempty, hall⟩ := Bool.and_eq_true_iff.1 h
  refine ⟨name.toList, ?_, List.all_eq_true.1 hall, .inl ?_⟩
  · simpa using hempty
  · simp [constantToken]

theorem SchemaColumn.isToken_typeToken {c : SchemaColumn} (h : IsName c.path) :
    IsToken c.typeToken.toList := by
  refine ⟨c.path.toList, by simp [SchemaColumn.path], h, .inr ?_⟩
  simp [SchemaColumn.typeToken, typeSuffix]

/-! ### The placeholders of a configuration -/

namespace Config

variable {config : Config}

/-- A configuration that is accepted has only names of constants that may be used. -/
theorem isConstantName_of_check (h : config.check = .ok ()) :
    ∀ e ∈ config.constants.entries, isConstantName e.1 = true := by
  unfold check at h
  split at h
  · cases h
  split at h
  · cases h
  split at h
  · cases h
  split at h
  · cases h
  split at h
  · cases h
  · next hnone =>
    intro e he
    simpa using List.find?_eq_none.1 hnone e.1 (List.mem_map_of_mem he)

theorem check_of_load {files : FileTree} {path : Path} (h : load files path = .ok config) :
    config.check = .ok () := by
  unfold load at h
  split at h
  · cases h
  · unfold parse at h
    split at h
    · cases h
    · next c _ =>
      cases hcheck : c.check with
      | error e =>
        rw [hcheck] at h
        cases h
      | ok u =>
        rw [hcheck] at h
        cases h
        exact hcheck

end Config

/-- Every constant and every column can be addressed, whatever the columns of the schema are. Those
    that share a name up to case all stand for the last one of them in the order of their list, the
    constants in the order of their names. Without column types the schema is not read, and no
    column has a placeholder. -/
theorem Loading.placeholderTable_addressable {σ : Type} {db : Database σ} {files : FileTree}
    {path : Path} {config : Config} {s : Session σ} {columns : List SchemaColumn}
    (hconfig : Config.load files path = .ok config)
    (hschema : config.loader.columnTypePlaceholders = true →
      (db.schemaColumns s.database).1 = .ok columns)
    (hnames : ∀ c ∈ columns, IsName c.path) :
    ∃ table s', Loading.placeholderTable db config s = .ok table s' ∧
      (∀ e ∈ config.constants.entries, ∃ e',
        (config.constants.entries.findRev? fun x => sameName x.1 e.1) = some e' ∧
        resolve (constantToken e.1) table = (e'.2, [])) ∧
      (config.loader.columnTypePlaceholders = true → ∀ c ∈ columns, ∃ c',
        (columns.findRev? fun x => sameName x.path c.path) = some c' ∧
        resolve c.typeToken table = (columnValue c', [])) ∧
      (config.loader.columnTypePlaceholders = false → ∀ c ∈ columns,
        resolve c.typeToken table = (c.typeToken, [c.typeToken])) := by
  have hvalid := Config.isConstantName_of_check (Config.check_of_load hconfig)
  have hconstants : ∀ e ∈ config.constants.entries, IsName e.1 := fun e he =>
    List.all_eq_true.1 (Bool.and_eq_true_iff.1 (hvalid e he)).2
  -- the constants are looked up first, whatever the table of the columns is
  have hconstant : ∀ t : Table, ∀ e ∈ config.constants.entries, ∃ e',
      (config.constants.entries.findRev? fun x => sameName x.1 e.1) = some e' ∧
      resolve (constantToken e.1) (t.extend (constantTable config.constants)) = (e'.2, []) := by
    intro t e he
    obtain ⟨e', hlast, hget⟩ := get?_constantToken t hconstants he
    exact ⟨e', hlast, by rw [resolve_token (isToken_constantToken (hvalid e he)), hget]⟩
  unfold Loading.placeholderTable
  cases hon : config.loader.columnTypePlaceholders with
  | true =>
    have hask : Loading.ask RunError.schemaUnreadable db.schemaColumns s = .ok columns _ :=
      Loading.ask_eq_ok_iff.2 ⟨_, Prod.ext (hschema hon) rfl, rfl⟩
    rw [if_pos rfl, Loading.bind_of_ok hask]
    refine ⟨_, _, rfl, hconstant _, fun _ c hc => ?_, nofun⟩
    obtain ⟨c', hlast⟩ := exists_findRev?_sameName SchemaColumn.path hc
    refine ⟨c', hlast, ?_⟩
    rw [resolve_token (SchemaColumn.isToken_typeToken (hnames c hc)),
      get?_typeToken hconstants hnames (hnames c hc), hlast]
    rfl
  | false =>
    -- without columns in the table the token of a column is looked up among the constants only
    have hnone : ∀ c ∈ ([] : List SchemaColumn), IsName c.path := nofun
    refine ⟨_, s, rfl, hconstant _, nofun, fun _ c hc => ?_⟩
    rw [resolve_token (SchemaColumn.isToken_typeToken (hnames c hc)),
      get?_typeToken hconstants hnone (hnames c hc)]
    rfl

/-- The settings of a shop; its two constants differ in case only. -/
def shopConfig : Config where
  databaseUrl := "mysql://shop"
  loader :=
    { sourceDirectory := ⟨"psql"⟩
      includePatterns := ["**/*.psql"]
      excludePatterns := []
      recordsPath := ⟨"records"⟩
      session := ⟨"ANSI", "ascii", "binary"⟩
      columnTypePlaceholders := true }
  constants := .ofList [("MAX", "32"), ("max", "64")]
  logLevel := "info"

/-- A configuration with two constants that are spelled alike. -/
def shopText : String :=
  "[database]\nurl='mysql://shop'\n[loader]\nsource_dir='psql'\nmetadata_path='records'\n" ++
    "sql_mode='ANSI'\ncharacter_set='ascii'\ncollation='binary'\n" ++
    "[placeholders]\nMAX='32'\nmax='64'"

/-- The configuration as the only file. -/
def shopFiles : FileTree :=
  (FileTree.empty 2000).add ⟨"/shop.toml"⟩ shopText.toUTF8 1000

/-- A database in which two columns are spelled alike together with their tables. -/
def shopDatabase : InMemory :=
  { InMemory.empty with
    schemaColumns :=
      [⟨"shop.item", "name", "varchar(64)", some "utf8mb4"⟩,
        ⟨"shop", "item.name", "int(11)", none⟩] }

theorem load_shopConfig : Config.load shopFiles ⟨"/shop.toml"⟩ = .ok shopConfig := by
  decide +kernel

/-- Both constants have the value of the second, and both columns the type of the second. -/
theorem Loading.placeholderTable_addressable_shop :
    ∃ table s', Loading.placeholderTable inMemory shopConfig ⟨shopDatabase, []⟩ = .ok table s' ∧
      resolve (constantToken "MAX") table = ("64", []) ∧
      resolve (constantToken "max") table = ("64", []) ∧
      ∀ c ∈ shopDatabase.schemaColumns, resolve c.typeToken table = ("int(11)", []) := by
  have hschema : (inMemory.schemaColumns shopDatabase).1 = .ok shopDatabase.schemaColumns := rfl
  have hnames : ∀ c ∈ shopDatabase.schemaColumns, IsName c.path := by decide +kernel
  obtain ⟨table, s', htable, hconstants, hcolumns, -⟩ :=
    Loading.placeholderTable_addressable (s := ⟨shopDatabase, []⟩) load_shopConfig
      (fun _ => hschema) hnames
  have hconstant : ∀ e ∈ shopConfig.constants.entries,
      (shopConfig.constants.entries.findRev? fun x => sameName x.1 e.1) = some ("max", "64") := by
    decide +kernel
  have hcolumn : ∀ c ∈ shopDatabase.schemaColumns,
      (shopDatabase.schemaColumns.findRev? fun x => sameName x.path c.path) =
        some ⟨"shop", "item.name", "int(11)", none⟩ := by
    decide +kernel
  have hvalue : ∀ e ∈ shopConfig.constants.entries,
      resolve (constantToken e.1) table = ("64", []) := by
    intro e he
    obtain ⟨e', hlast, hresolve⟩ := hconstants e he
    rw [hconstant e he] at hlast
    cases hlast
    exact hresolve
  refine ⟨table, s', htable, hvalue ("MAX", "32") (by decide +kernel),
    hvalue ("max", "64") (by decide +kernel), fun c hc => ?_⟩
  obtain ⟨c', hlast, hresolve⟩ := hcolumns rfl c hc
  rw [hcolumn c hc] at hlast
  cases hlast
  exact hresolve

/-- A constant does not have its own value if another one follows that is spelled like it up to
    case, and neither does a column: `@MAX@` stands for the value of `max`, and the token of the
    first column for the type of the second. -/
theorem Loading.placeholderTable_shadowed :
    Config.load shopFiles ⟨"/shop.toml"⟩ = .ok shopConfig ∧
      shopConfig.constants.get? "MAX" = some "32" ∧
      ∃ table s', Loading.placeholderTable inMemory shopConfig ⟨shopDatabase, []⟩ = .ok table s' ∧
        resolve "@MAX@" table ≠ ("32", []) ∧
        resolve "@shop.item.name%type@" table ≠ ("varchar(64) character set utf8mb4", []) := by
  refine ⟨load_shopConfig, by decide +kernel, _, _, rfl, ?_, ?_⟩
  · decide +kernel
  · decide +kernel

end StoredRoutines
