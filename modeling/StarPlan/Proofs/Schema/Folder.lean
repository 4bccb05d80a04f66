import StarPlan.Proofs.Files.Renaming
import StarPlan.Proofs.Schema.Order
import StarPlan.SchemaFolder

/-!
# Folders whose files are renamed

The files of a folder are loaded in the order of their paths, and each of them becomes a table by
its content and its ending alone. So other stems change nothing but the order in which the same
tables are added, and the order does not matter: `SchemaFolder.schema_of_any_order`.
-/

namespace StarPlan

section

variable {ε ε' α β : Type}

private theorem toOption_bind (x : Except ε α) (f : α → Except ε β) :
    (x >>= f).toOption = x.toOption.bind fun a => (f a).toOption := by
  cases x <;> rfl

private theorem toOption_mapError (x : Except ε α) (f : ε → ε') :
    (x.mapError f).toOption = x.toOption := by
  cases x <;> rfl

private theorem bind_eq_of_rel {r : α → α → Prop} {x y : Option α} {f g : α → Option β}
    (related : Option.Rel r x y) (same : ∀ a b, r a b → f a = g b) : x.bind f = y.bind g := by
  cases related with
  | none => rfl
  | some h => exact same _ _ h

private theorem toOption_pure (a : α) : (pure a : Except ε α).toOption = some a := rfl

end

namespace Schema

/-- Adds tables up to the first that is missing or refused. -/
def addFound (s : Schema) (found : List (Option Table)) : Option Schema :=
  found.foldlM (fun s table => table.bind fun t => (s.add t).toOption) s

variable {s s' : Schema} {found found' : List (Option Table)}

theorem addFound_cons (s : Schema) (table : Option Table) (rest : List (Option Table)) :
    s.addFound (table :: rest) =
      (table.bind fun t => (s.add t).toOption).bind fun s => s.addFound rest := rfl

theorem addFound_append (s : Schema) (front back : List (Option Table)) :
    s.addFound (front ++ back) = (s.addFound front).bind fun s => s.addFound back :=
  List.foldlM_append ..

theorem addAll_cons (s : Schema) (t : Table) (rest : List Table) :
    s.addAll (t :: rest) = (s.add t).bind fun s => s.addAll rest := rfl

theorem addFound_eq_some_iff :
    s.addFound found = some s' ↔ none ∉ found ∧ s.addAll (found.filterMap id) = .ok s' := by
  induction found generalizing s with
  | nil =>
      show some s = some s' ↔ _ ∧ Except.ok s = .ok s'
      simp
  | cons table rest ih =>
      cases table with
      | none => exact iff_of_false nofun fun accepted => accepted.1 List.mem_cons_self
      | some t =>
          have tables : (some t :: rest).filterMap id = t :: rest.filterMap id := rfl
          rw [addFound_cons, tables, addAll_cons, List.mem_cons, or_iff_right nofun,
            Option.bind_some]
          cases s.add t with
          | error => exact iff_of_false nofun fun accepted => nomatch accepted.2
          | ok s₁ => exact ih

theorem addFound_perm (perm : found.Perm found') :
    empty.addFound found = empty.addFound found' := by
  apply Option.ext
  intro s
  rw [addFound_eq_some_iff, addFound_eq_some_iff, perm.mem_iff,
    addAll_perm (perm.filterMap id)]

end Schema

namespace SchemaFolder

variable {T : Type}

/-- The table that a file makes, unless it cannot be read or made a table. -/
def table? (make : TableFile → Except SchemaFault T) (kind : T → Table)
    (file : FilePath × FileEntry) : Option Table :=
  (readTable file.1 file.2).toOption.bind fun read => (make read).toOption.map kind

/-- What the files of a folder inside this one make, in order. -/
def found? (f : SchemaFolder) (inside : String) (make : TableFile → Except SchemaFault T)
    (kind : T → Table) : Option (List (Option Table)) :=
  (f.tableFiles inside).toOption.map (·.map (table? make kind))

/-- The schema of a folder, if it can be loaded. -/
def schema? (f : SchemaFolder) : Option Schema :=
  f.load.toOption.map (·.schema)

section

variable {f : SchemaFolder} {make : TableFile → Except SchemaFault T} {kind : T → Table}
variable {add : Schema → T → Except SchemaFault Schema}

theorem loadFile_schema (adds : ∀ s t, add s t = s.add (kind t)) (loaded : LoadedSchema)
    (file : FilePath × FileEntry) :
    (f.loadFile make add loaded file).toOption.map (·.schema) =
      (table? make kind file).bind fun t => (loaded.schema.add t).toOption := by
  obtain ⟨p, e⟩ := file
  simp only [loadFile, table?, adds, toOption_bind, toOption_mapError, toOption_pure,
    Option.map_bind, Option.bind_assoc, Option.bind_map, Function.comp_def, Option.map_some,
    Option.bind_fun_some]

/-- Loading files one after another adds the tables that they make. -/
theorem foldlM_loadFile (adds : ∀ s t, add s t = s.add (kind t))
    (files : List (FilePath × FileEntry)) (loaded : LoadedSchema) :
    (files.foldlM (f.loadFile make add) loaded).toOption.map (·.schema) =
      loaded.schema.addFound (files.map (table? make kind)) := by
  induction files generalizing loaded with
  | nil => rfl
  | cons file rest ih =>
      rw [List.foldlM_cons, List.map_cons, Schema.addFound_cons, ← loadFile_schema adds]
      cases f.loadFile make add loaded file with
      | error => rfl
      | ok loaded => exact ih loaded

end

theorem schema?_eq (f : SchemaFolder) :
    f.schema? =
      (f.found? "dimension" TableFile.toDimension .dimension).bind fun dimensions =>
        (f.found? "data" TableFile.toFact .fact).bind fun facts =>
          Schema.empty.addFound (dimensions ++ facts) := by
  have addsDimension : ∀ s t, Schema.addDimension s t = s.add (.dimension t) := fun _ _ => rfl
  have addsFact : ∀ s t, Schema.addFact s t = s.add (.fact t) := fun _ _ => rfl
  simp only [schema?, load, found?, toOption_bind, Option.map_bind, Option.bind_map,
    Function.comp_def, Schema.addFound_append, foldlM_loadFile addsFact]
  refine congrArg (Option.bind _) (funext fun files => ?_)
  rw [← foldlM_loadFile addsDimension files ⟨[], .empty⟩]
  simp only [Option.bind_map, Function.comp_def]
  exact Option.bind_comm ..

/-- The folders with the table files. -/
def tableFolders (f : SchemaFolder) : List FilePath :=
  ["dimension", "data"].map fun inside => FilePath.ofText f.place ++ [inside]

variable {f : SchemaFolder} {tree : FileTree} {a b : FilePath × FileEntry}

/-- The reader of a file is chosen by the ending of its name. -/
theorem readTable_congr {p q : FilePath} {e : FileEntry}
    (same : p.getLast?.bind FilePath.ending? = q.getLast?.bind FilePath.ending?) :
    readTable p e = readTable q e := by
  rw [readTable, readTable, same]

theorem table?_renamed (renamed : FileTree.Renamed f.tableFolders a b)
    (make : TableFile → Except SchemaFault T) (kind : T → Table) :
    table? make kind (a.1.drop (FilePath.ofText f.place).length, a.2) =
      table? make kind (b.1.drop (FilePath.ofText f.place).length, b.2) := by
  cases renamed with
  | same => rfl
  | @file folder member name name' alike bytes =>
      obtain ⟨inside, -, rfl⟩ := List.mem_map.1 member
      have same : ([inside, name].getLast?.bind FilePath.ending?) =
          [inside, name'].getLast?.bind FilePath.ending? := alike.ending?
      simp only [table?, List.append_assoc, List.singleton_append, List.drop_left,
        readTable_congr same]

theorem covers_renamed {folders : List FilePath} (renamed : FileTree.Renamed folders a b)
    {ending : String} (plain : '.' ∉ ending.toList) (pattern : PathPattern) :
    PathPattern.covers (pattern ++ [.withEnding ending]) a.1 =
      PathPattern.covers (pattern ++ [.withEnding ending]) b.1 := by
  cases renamed with
  | same => rfl
  | @file folder _ name name' alike _ =>
      rw [NamePattern.withEnding, PathPattern.covers_concat, PathPattern.covers_concat]
      congr 1
      rw [Bool.eq_iff_iff, NamePart.matchAll_withEnding_iff, NamePart.matchAll_withEnding_iff]
      exact alike.suffix_iff plain

/-- The patterns for table files look at the endings of names. -/
theorem any_covers_renamed {inside : String} {patterns : List PathPattern}
    (found : f.patterns? inside = some patterns) {folders : List FilePath}
    (renamed : FileTree.Renamed folders a b) :
    (patterns.any fun p => PathPattern.covers p a.1) =
      patterns.any fun p => PathPattern.covers p b.1 := by
  obtain ⟨way, -, listed⟩ := Option.bind_eq_some_iff.1 found
  cases Option.some.inj listed
  have plain : ∀ ending ∈ endings, '.' ∉ ending.toList := by decide
  rw [Bool.eq_iff_iff, List.any_eq_true, List.any_eq_true]
  refine exists_congr fun p => and_congr_right fun member => ?_
  obtain ⟨ending, listed, rfl⟩ := List.mem_map.1 member
  have parts : way ++ [.exactly inside, .withEnding ending] =
      way ++ [.exactly inside] ++ [.withEnding ending] := by simp
  rw [parts, covers_renamed renamed (plain ending listed)]

theorem found?_renamed (renamed : f.tree.RenamedIn f.tableFolders tree) (inside : String)
    (make : TableFile → Except SchemaFault T) (kind : T → Table) :
    Option.Rel List.Perm (f.found? inside make kind)
      (found? { f with tree := tree } inside make kind) := by
  have present : f.tree.contains (FilePath.ofText f.place ++ [inside]) =
      tree.contains (FilePath.ofText f.place ++ [inside]) := by
    refine renamed.contains_eq (by simp) fun folder member name same => ?_
    obtain ⟨_, -, rfl⟩ := List.mem_map.1 member
    simpa using congrArg List.length same
  have patterns : patterns? { f with tree := tree } inside = f.patterns? inside := rfl
  simp only [found?, tableFiles, present, patterns]
  cases tree.contains (FilePath.ofText f.place ++ [inside]) with
  | false => exact .none
  | true =>
      cases found : f.patterns? inside with
      | none => exact .none
      | some patterns =>
          refine .some ?_
          simp only [PathPattern.select, List.map_map]
          have files := fun t : FileTree =>
            (List.mergeSort_perm (t.entries.filter fun e => patterns.any fun p =>
              PathPattern.covers p e.1) fun a b => PathPattern.precedes a.1 b.1).map
                (table? make kind ∘ fun file =>
                  (file.1.drop (FilePath.ofText f.place).length, file.2))
          refine (files f.tree).trans (.trans ?_ (files tree).symm)
          exact renamed.filter_map_perm (any_covers_renamed found) fun renamed _ =>
            table?_renamed renamed make kind

theorem schema?_renamed (renamed : f.tree.RenamedIn f.tableFolders tree) :
    schema? { f with tree := tree } = f.schema? := by
  rw [schema?_eq, schema?_eq, eq_comm]
  refine bind_eq_of_rel (found?_renamed renamed "dimension" _ _) fun _ _ dimensions => ?_
  refine bind_eq_of_rel (found?_renamed renamed "data" _ _) fun _ _ facts => ?_
  exact Schema.addFound_perm (dimensions.append facts)

end SchemaFolder

/-! A folder of two fact tables, of which one may stand before or behind the other. -/

namespace Games

def tableText (name : String) : String :=
  "database='d'\nschema='s'\ntable='" ++ name ++ "'\nfields=\x7b\x7d"

def folder (name : String) : SchemaFolder where
  tree :=
    ⟨[(["r", "dimension"], .folder), (["r", "data"], .folder),
      (["r", "data", name], .file (tableText "sales").toUTF8),
      (["r", "data", "b.toml"], .file (tableText "rollup").toUTF8)]⟩
  place := "r"
  title := "r"

theorem ofText_place : FilePath.ofText "r" = ["r"] := by
  have whole : "r".splitOn "/" = ["r"] := by
    rw [String.splitOn, if_neg (by decide), String.splitOnAux, String.splitOnAux]
    decide
  rw [FilePath.ofText, whole]
  decide

theorem folder_patterns? (name inside : String) :
    (folder name).patterns? inside = some
      (SchemaFolder.endings.map fun ending =>
        [.exactly "r", .exactly inside, .withEnding ending]) := by
  rw [SchemaFolder.patterns?, folder, ofText_place]
  rfl

theorem tableFiles_dimension : (folder "a.toml").tableFiles "dimension" = .ok [] := by
  rw [SchemaFolder.tableFiles, folder_patterns?]
  simp [folder, ofText_place, FileTree.contains, FileTree.get?, PathPattern.select,
    SchemaFolder.endings, PathPattern.covers, NamePattern.exactly, NamePattern.withEnding,
    NamePart.matchAll, NamePart.admits]

theorem tableFiles_data :
    (folder "a.toml").tableFiles "data" =
      .ok [(["data", "a.toml"], .file (tableText "sales").toUTF8),
        (["data", "b.toml"], .file (tableText "rollup").toUTF8)] := by
  have sorted : ∀ a b : FileEntry,
      [(["r", "data", "a.toml"], a), (["r", "data", "b.toml"], b)].mergeSort
          (fun a b => PathPattern.precedes a.1 b.1) =
        [(["r", "data", "a.toml"], a), (["r", "data", "b.toml"], b)] := fun a b =>
    List.mergeSort_of_pairwise (by simp only [List.pairwise_pair]; decide)
  rw [SchemaFolder.tableFiles, folder_patterns?]
  simp [folder, ofText_place, FileTree.contains, FileTree.get?, List.lookup_cons,
    PathPattern.select, SchemaFolder.endings, PathPattern.covers, NamePattern.exactly,
    NamePattern.withEnding, NamePart.matchAll, NamePart.admits, sorted]

theorem folder_renamed :
    (folder "a.toml").tree.RenamedIn (folder "a.toml").tableFolders (folder "c.toml").tree := by
  have inside : ["r", "data"] ∈ (folder "a.toml").tableFolders := by
    rw [SchemaFolder.tableFolders, folder, ofText_place]
    decide
  have alike : FilePath.SameEnding "a.toml" "c.toml" :=
    @FilePath.SameEnding.point "a" "c" "toml" (by decide) (by decide) (by decide)
  exact ⟨_, .cons (.same _) (.cons (.same _) (.cons (.file inside alike _)
    (.cons (.same _) .nil))), .refl _⟩

end Games

namespace SchemaFolder

variable {f : SchemaFolder} {tree : FileTree}

/-- Tables that are accepted in one order are accepted in every order and make the same schema.
So a folder whose table files get other stems can be loaded exactly if it could before, and the
schema stays the same. -/
theorem schema_of_any_order {tables tables' : List Table} (perm : tables.Perm tables')
    (renamed : f.tree.RenamedIn f.tableFolders tree) :
    (∀ s, Schema.empty.addAll tables = .ok s ↔ Schema.empty.addAll tables' = .ok s) ∧
      (load { f with tree := tree }).toOption.map (·.schema) =
        f.load.toOption.map (·.schema) :=
  ⟨fun _ => Schema.addAll_perm perm, schema?_renamed renamed⟩

/-- The star of game sales may begin with its rollup, and a file that is read second after its
new name gives the same tables. -/
theorem schema_of_any_order_games :
    let tables := [Table.dimension Games.game, .fact Games.sales, .fact Games.byYear]
    let tables' := [Table.fact Games.byYear, .dimension Games.game, .fact Games.sales]
    let before := Games.folder "a.toml"
    let after := Games.folder "c.toml"
    tables.Perm tables' ∧ before.tree.RenamedIn before.tableFolders after.tree ∧
      Schema.empty.addAll tables' = .ok Games.star ∧
      (after.load.toOption.map (·.schema)).isSome = true := by
  intro tables tables' before after
  have perm : tables.Perm tables' := by decide
  obtain ⟨accepted, loaded⟩ := schema_of_any_order perm Games.folder_renamed
  refine ⟨perm, Games.folder_renamed, (accepted _).1 (by decide), ?_⟩
  have first : (before.load.toOption.map (·.schema)).isSome = true := by
    rw [load, Games.tableFiles_dimension, Games.tableFiles_data]
    decide +kernel
  exact (congrArg Option.isSome loaded).trans first

end SchemaFolder

end StarPlan
