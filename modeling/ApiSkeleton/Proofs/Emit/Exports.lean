import ApiSkeleton.Proofs.Emit.Header
import ApiSkeleton.Proofs.Emit.Tables
import ApiSkeleton.Proofs.Model.Identifiers
import ApiSkeleton.Proofs.Text.Identifier

namespace ApiSkeleton.Emit

open Model
open Text (IsPlainWord IsDeclarable IsOrdinary)

variable {api : Api} {s t : Schema}

/-- A part of the storage schema. -/
inductive StoragePart where
  | comment (line : String)
  | imports (names : List String) (package : String)
  | constant (name definition : String)

def StoragePart.text : StoragePart → String
  | .comment line => line ++ "\n"
  | .imports names package =>
    "import \x7b " ++ ", ".intercalate names ++ " \x7d from \"" ++ package ++ "\";\n"
  | .constant name definition => "\nexport const " ++ name ++ " = " ++ definition ++ ";\n"

/-- The names that a part imports. -/
def StoragePart.imported : StoragePart → List String
  | .imports names _ => names
  | .comment _ | .constant .. => []

/-- The name that a part exports. -/
def StoragePart.exported? : StoragePart → Option String
  | .constant name _ => some name
  | .comment _ | .imports .. => none

def importedNames (parts : List StoragePart) : List String := parts.flatMap StoragePart.imported

def exportedNames (parts : List StoragePart) : List String :=
  parts.filterMap StoragePart.exported?

/-- What the validators of a table are for. -/
inductive ValidatorKind where
  | select
  | insert
  | patch
deriving DecidableEq

/-- The first word of a validator's name. -/
def ValidatorKind.word : ValidatorKind → String
  | .select => "select"
  | .insert => "insert"
  | .patch => "patch"

/-- The name of a validator, after the schema in Pascal case. -/
def ValidatorKind.name (k : ValidatorKind) (s : Schema) : String :=
  k.word ++ (Text.pascalCase s.name ++ "Schema")

/-- The expression that makes a validator. The last one is made of the one before. -/
def ValidatorKind.definition (s : Schema) : ValidatorKind → String
  | .select => "createSelectSchema(" ++ tableName s ++ ")"
  | .insert => "createInsertSchema(" ++ tableName s ++ ").omit(\x7b id: true \x7d)"
  | .patch => ValidatorKind.insert.name s ++ ".partial()"

def validatorKinds : List ValidatorKind := [.select, .insert, .patch]

/-- A table with its validators. -/
def tableParts (s : Schema) : List StoragePart :=
  .constant (tableName s)
      ("sqliteTable(" ++ Text.quoted (Text.lowercase s.name) ++ ", \x7b\n" ++
        String.join ((columns s).map Column.text) ++ "\x7d)") ::
    validatorKinds.map fun k => .constant (k.name s) (k.definition s)

/-- The functions that build columns. -/
def columnFunctions : List String := ["integer", "real", "text"]

/-- The names that the module imports. -/
def storageImports : List String :=
  ["integer", "real", "sqliteTable", "text", "createInsertSchema", "createSelectSchema"]

/-- The lines before the tables. -/
def headerParts (m : Metadata) : List StoragePart :=
  [.comment (aboutComment m), .comment originComment,
   .imports ["integer", "real", "sqliteTable", "text"] "drizzle-orm/sqlite-core",
   .imports ["createInsertSchema", "createSelectSchema"] "drizzle-zod"]

def storageParts (api : Api) : List StoragePart :=
  headerParts api.metadata ++ api.schemas.flatMap tableParts

/-- The text of the parts. -/
def storageText (parts : List StoragePart) : String := String.join (parts.map StoragePart.text)

private theorem text_constant (name definition : String) :
    (StoragePart.constant name definition).text =
      "\nexport const " ++ name ++ " = " ++ definition ++ ";\n" := rfl

private theorem storageText_tableParts (s : Schema) : storageText (tableParts s) = tableText s := by
  rw [tableText_eq]
  unfold storageText tableParts tableBlock validatorsBlock validatorKinds
  simp only [List.map_cons, List.map_nil, String.join_cons, String.join_nil, text_constant]
  unfold ValidatorKind.definition ValidatorKind.name ValidatorKind.word
  rw [← String.toList_inj]
  simp

private theorem storageText_headerParts (m : Metadata) :
    storageText (headerParts m) = schemaHeader m := by
  have hcolumns : (StoragePart.imports ["integer", "real", "sqliteTable", "text"]
      "drizzle-orm/sqlite-core").text = columnsImport ++ "\n" := by
    decide +kernel
  have hvalidators : (StoragePart.imports ["createInsertSchema", "createSelectSchema"]
      "drizzle-zod").text = validatorsImport ++ "\n" := by
    decide +kernel
  have hcomment (line : String) : (StoragePart.comment line).text = line ++ "\n" := rfl
  unfold storageText headerParts
  rw [schemaHeader_eq]
  simp only [List.map_cons, List.map_nil, String.join_cons, String.join_nil, hcomment, hcolumns,
    hvalidators, String.append_assoc, String.append_empty]

private theorem schemaText_eq_parts (api : Api) :
    schemaText api = storageText (storageParts api) := by
  have htables : storageText (api.schemas.flatMap tableParts) =
      String.join (api.schemas.map tableText) := by
    induction api.schemas with
    | nil => rfl
    | cons s rest ih =>
      rw [List.flatMap_cons, List.map_cons, String.join_cons, ← ih, ← storageText_tableParts]
      simp [storageText]
  rw [schemaText, ← htables, ← storageText_headerParts]
  simp [storageText, storageParts]

/-- The names that a schema gives to its table and its validators. -/
def exportsOf (s : Schema) : List String := tableName s :: validatorKinds.map fun k => k.name s

theorem exportedNames_storageParts (api : Api) :
    exportedNames (storageParts api) = api.schemas.flatMap exportsOf := by
  have htables : (api.schemas.flatMap tableParts).filterMap StoragePart.exported? =
      api.schemas.flatMap exportsOf := by
    rw [List.filterMap_flatMap]
    rfl
  rw [exportedNames, storageParts, List.filterMap_append, htables]
  rfl

theorem importedNames_storageParts (api : Api) :
    importedNames (storageParts api) = storageImports := by
  have htables : (api.schemas.flatMap tableParts).flatMap StoragePart.imported = [] := by
    rw [List.flatMap_eq_nil_iff]
    intro part hpart
    obtain ⟨s, -, hpart⟩ := List.mem_flatMap.mp hpart
    rcases List.mem_cons.mp hpart with rfl | hpart
    · rfl
    · obtain ⟨k, -, rfl⟩ := List.mem_map.mp hpart
      rfl
  rw [importedNames, storageParts, List.flatMap_append, htables]
  rfl

private theorem prefixFree_word : PrefixFree ValidatorKind.word := by
  intro a b
  cases a <;> cases b <;> decide

/-- A validator shows what it is for and its schema. -/
theorem ValidatorKind.name_eq_iff {k other : ValidatorKind} :
    k.name s = other.name t ↔ k = other ∧ Text.pascalCase s.name = Text.pascalCase t.name := by
  unfold ValidatorKind.name
  rw [prefixFree_word.append_eq_iff, String.append_left_inj]

/-- The name of a table has no capital letter of ASCII, and that of a validator has one. -/
theorem tableName_ne_of_isUpper {w : String} {c : Char} (hc : c ∈ w.toList) (hupper : c.isUpper) :
    tableName s ≠ w := by
  rintro rfl
  rcases Text.mem_identifier hc with hlower | rfl
  · exact absurd hupper (by simp [Text.isUpper_of_mem_lowercase hlower])
  · exact absurd hupper (by decide)

theorem tableName_ne_name (k : ValidatorKind) : tableName s ≠ k.name t :=
  tableName_ne_of_isUpper (c := 'S') (by simp [ValidatorKind.name]) (by decide)

theorem mem_exportsOf_iff {name : String} :
    name ∈ exportsOf s ↔ tableName s = name ∨ ∃ k : ValidatorKind, k.name s = name := by
  have hall (k : ValidatorKind) : k ∈ validatorKinds := by cases k <;> decide
  simp only [exportsOf, List.mem_cons, List.mem_map, hall, true_and, eq_comm]

private theorem nodup_exportsOf (s : Schema) : (exportsOf s).Nodup := by
  have hkinds : validatorKinds.Nodup := by decide
  rw [exportsOf, List.nodup_cons]
  refine ⟨fun hmem => ?_, hkinds.map fun k other hsame => (ValidatorKind.name_eq_iff.mp hsame).1⟩
  obtain ⟨k, -, hname⟩ := List.mem_map.mp hmem
  exact tableName_ne_name k hname.symm

/-- Two schemas share a name exactly if they share that of the table or all the others. -/
private theorem disjoint_exportsOf_iff : (exportsOf s).Disjoint (exportsOf t) ↔
    tableName s ≠ tableName t ∧ Text.pascalCase s.name ≠ Text.pascalCase t.name := by
  constructor
  · intro hdisjoint
    refine ⟨fun hsame => ?_, fun hsame => ?_⟩
    · exact hdisjoint (mem_exportsOf_iff.mpr (.inl hsame)) (mem_exportsOf_iff.mpr (.inl rfl))
    · have hname : ValidatorKind.select.name s = ValidatorKind.select.name t :=
        ValidatorKind.name_eq_iff.mpr ⟨rfl, hsame⟩
      exact hdisjoint (mem_exportsOf_iff.mpr (.inr ⟨_, hname⟩))
        (mem_exportsOf_iff.mpr (.inr ⟨_, rfl⟩))
  · rintro ⟨htables, htypes⟩ name hs ht
    rw [mem_exportsOf_iff] at hs ht
    obtain rfl | ⟨k, rfl⟩ := hs
    · obtain hname | ⟨k, hname⟩ := ht
      · exact htables hname.symm
      · exact tableName_ne_name k hname.symm
    · obtain hname | ⟨other, hname⟩ := ht
      · exact tableName_ne_name k hname
      · exact htypes (ValidatorKind.name_eq_iff.mp hname).2.symm

theorem nodup_exports_iff (schemas : List Schema) : (schemas.flatMap exportsOf).Nodup ↔
    (schemas.map tableName).Nodup ∧ (schemas.map fun s => Text.pascalCase s.name).Nodup := by
  have hpairs : schemas.Pairwise (Function.onFun List.Disjoint exportsOf) ↔ schemas.Pairwise
      fun s t => tableName s ≠ tableName t ∧ Text.pascalCase s.name ≠ Text.pascalCase t.name :=
    List.Pairwise.iff fun s t => disjoint_exportsOf_iff
  rw [List.nodup_flatMap, and_iff_right fun s _ => nodup_exportsOf s, hpairs,
    List.pairwise_and_iff]
  simp only [List.Nodup, List.pairwise_map]

/-- A table has the name of a function for columns exactly if its schema has, in capitals or not. -/
private theorem tableName_eq_iff {w : String} (hw : w ∈ columnFunctions) :
    tableName s = w ↔ Text.asciiLowercase s.name = w := by
  have hall : ∀ w ∈ columnFunctions, IsPlainWord w.toList ∧ IsDeclarable w := by decide
  obtain ⟨hplain, hname⟩ := hall w hw
  rw [tableName, Text.identifier_eq_iff hplain.underscore_notMem, and_iff_left hname,
    Text.lowercase_eq_iff hplain]

private theorem tableName_mem_columnFunctions_iff :
    tableName s ∈ columnFunctions ↔ Text.asciiLowercase s.name ∈ columnFunctions := by
  constructor
  · intro hmem
    rwa [(tableName_eq_iff hmem).mp rfl]
  · intro hmem
    rwa [(tableName_eq_iff hmem).mpr rfl]

/-- All other imports have capitals. -/
private theorem tableName_mem_imports_iff :
    tableName s ∈ storageImports ↔ tableName s ∈ columnFunctions := by
  have htable : tableName s ≠ "sqliteTable" :=
    tableName_ne_of_isUpper (c := 'T') (by decide) (by decide)
  have hinsert : tableName s ≠ "createInsertSchema" :=
    tableName_ne_of_isUpper (c := 'S') (by decide) (by decide)
  have hselect : tableName s ≠ "createSelectSchema" :=
    tableName_ne_of_isUpper (c := 'S') (by decide) (by decide)
  simp [storageImports, columnFunctions, htable, hinsert, hselect]

/-- No import begins like a validator. -/
private theorem ValidatorKind.name_notMem_imports (k : ValidatorKind) :
    k.name s ∉ storageImports := by
  have hfree : ∀ w ∈ storageImports, ¬ k.word.toList <+: w.toList := by
    cases k <;> decide
  intro hmem
  refine hfree _ hmem ?_
  unfold ValidatorKind.name
  rw [String.toList_append]
  exact List.prefix_append ..

theorem exports_notMem_imports_iff (schemas : List Schema) :
    (∀ name ∈ schemas.flatMap exportsOf, name ∉ storageImports) ↔
      ∀ s ∈ schemas, Text.asciiLowercase s.name ∉ columnFunctions := by
  have hone (s : Schema) : (∀ name ∈ exportsOf s, name ∉ storageImports) ↔
      Text.asciiLowercase s.name ∉ columnFunctions := by
    rw [← tableName_mem_columnFunctions_iff, ← tableName_mem_imports_iff]
    constructor
    · exact fun h => h _ (mem_exportsOf_iff.mpr (.inl rfl))
    · intro htable name hname
      obtain rfl | ⟨k, rfl⟩ := mem_exportsOf_iff.mp hname
      · exact htable
      · exact k.name_notMem_imports
  simp only [List.forall_mem_flatMap, hone]

/-- Schemas with ordinary names share nothing if their names differ by more than capitals. -/
private theorem nodup_exports_of_ordinary {schemas : List Schema}
    (h : ∀ s ∈ schemas, IsOrdinary s.name) :
    (schemas.flatMap exportsOf).Nodup ↔
      (schemas.map fun s => Text.asciiLowercase s.name).Nodup := by
  have htables : schemas.map tableName =
      (schemas.map fun s => Text.asciiLowercase s.name).map Text.identifier := by
    rw [List.map_map]
    refine List.map_congr_left fun s hs => ?_
    rw [Function.comp_apply, tableName,
      Text.lowercase_of_ascii fun c hc => (h s hs).toNat_lt_of_mem hc]
  rw [nodup_exports_iff, htables]
  constructor
  · exact fun hboth => .of_map _ hboth.1
  · intro hnames
    refine ⟨hnames.map_on ?_, ?_⟩
    · simp only [List.forall_mem_map]
      exact fun s hs t ht hsame =>
        (h s hs).asciiLowercase.eq_of_identifier_eq (h t ht).asciiLowercase hsame
    · rw [List.Nodup, List.pairwise_map] at hnames ⊢
      refine hnames.imp_of_mem fun hs ht hne hsame => hne ?_
      exact (h _ hs).asciiLowercase_eq_of_pascalCase_eq (h _ ht) hsame

/-- The names in the scope of the storage schema, and when none of them is there twice. -/
structure StorageScope (l : Layout) (api : Api) : Prop where
  written : .ok ⟨l.schemaPath, (storageText (storageParts api)).toUTF8⟩ ∈ steps l api
  imported : importedNames (storageParts api) = storageImports
  exported : exportedNames (storageParts api) = api.schemas.flatMap exportsOf
  /-- The document gives no two schemas one name. -/
  names : (api.schemas.map (·.name)).Nodup
  /-- Exported names are distinct exactly if the schemas differ in both forms of their names. -/
  distinct : (exportedNames (storageParts api)).Nodup ↔
    (api.schemas.map tableName).Nodup ∧
      (api.schemas.map fun s => Text.pascalCase s.name).Nodup
  /-- None of them is imported exactly if no schema is called like a function for columns. -/
  apart : (∀ name ∈ exportedNames (storageParts api), name ∉ importedNames (storageParts api)) ↔
    ∀ s ∈ api.schemas, Text.asciiLowercase s.name ∉ columnFunctions
  /-- Names of letters and digits only have to differ by more than their capitals. -/
  ordinary : (∀ s ∈ api.schemas, IsOrdinary s.name) →
    ((exportedNames (storageParts api)).Nodup ↔
      (api.schemas.map fun s => Text.asciiLowercase s.name).Nodup)

/-- The names that the storage schema of an accepted document exports. Its schemas have names of
their own, but what is exported is made of these in ways that forget the case of letters and the
characters that no name can hold; the exact conditions are given under which no two exported names
are one, and none is imported as well. -/
theorem storage_exports_distinct_iff {document : Tree} (hdocument : document.WellFormed)
    (hapi : Api.ofTree document = .ok api) (hcheck : checkApi api = .ok ()) (l : Layout) :
    StorageScope l api := by
  constructor
  case written =>
    rw [steps_of_checked (wellFormed_ofTree hdocument hapi) hcheck, ← schemaText_eq_parts]
    exact List.mem_map_of_mem (List.mem_cons_self ..)
  case imported => exact importedNames_storageParts api
  case exported => exact exportedNames_storageParts api
  case names => exact nodup_schemaNames hdocument hapi
  case distinct =>
    rw [exportedNames_storageParts]
    exact nodup_exports_iff api.schemas
  case apart =>
    rw [exportedNames_storageParts, importedNames_storageParts]
    exact exports_notMem_imports_iff api.schemas
  case ordinary =>
    intro hordinary
    rw [exportedNames_storageParts]
    exact nodup_exports_of_ordinary hordinary

/-- A document with one operation and with schemas of the given names, which have no properties. -/
def shelvedDocument (names : List String) : Tree :=
  .object
    [("info", .object []),
     ("paths", .object
       [("/pets", .object
          [("get", .object [("operationId", .text "listPets"), ("tags", .list [.text "Pets"])])])]),
     ("components", .object
       [("schemas", .object (names.map fun name => (name, .object [("properties", .object [])])))])]

def shelvedApi (names : List String) : Api where
  endpoints := [⟨"/pets", .get, "listPets", ["Pets"], [], none, []⟩]
  schemas := names.map fun name => ⟨name, [], []⟩
  metadata := ⟨"", "", none⟩

/-- One of these names is reserved in small letters. -/
theorem shelvedDocument_distinct :
    ((shelvedDocument ["Pet", "Class", "Pet2"]).WellFormed ∧
      Api.ofTree (shelvedDocument ["Pet", "Class", "Pet2"]) =
        .ok (shelvedApi ["Pet", "Class", "Pet2"]) ∧
      checkApi (shelvedApi ["Pet", "Class", "Pet2"]) = .ok ()) ∧
    StorageScope defaultLayout (shelvedApi ["Pet", "Class", "Pet2"]) ∧
    (exportedNames (storageParts (shelvedApi ["Pet", "Class", "Pet2"]))).Nodup ∧
    (shelvedApi ["Pet", "Class", "Pet2"]).schemas.map tableName = ["pet", "class_", "pet2"] := by
  have hdocument : (shelvedDocument ["Pet", "Class", "Pet2"]).WellFormed := by
    simp [shelvedDocument, Tree.wellFormed_object_iff, Tree.wellFormed_list_iff,
      Tree.WellFormed.text]
  have hscope := storage_exports_distinct_iff hdocument
    (show Api.ofTree _ = .ok (shelvedApi ["Pet", "Class", "Pet2"]) from rfl) rfl defaultLayout
  refine ⟨⟨hdocument, rfl, rfl⟩, hscope, (hscope.ordinary ?_).mpr ?_, ?_⟩ <;> decide

/-- Two names that differ in a capital, and one that a function for columns has. -/
theorem shelvedDocument_clash :
    Api.ofTree (shelvedDocument ["Pet", "pet", "Text"]) = .ok (shelvedApi ["Pet", "pet", "Text"]) ∧
    checkApi (shelvedApi ["Pet", "pet", "Text"]) = .ok () ∧
    exportedNames (storageParts (shelvedApi ["Pet", "pet", "Text"])) =
      ["pet", "selectPetSchema", "insertPetSchema", "patchPetSchema",
       "pet", "selectPetSchema", "insertPetSchema", "patchPetSchema",
       "text", "selectTextSchema", "insertTextSchema", "patchTextSchema"] ∧
    ¬ (exportedNames (storageParts (shelvedApi ["Pet", "pet", "Text"]))).Nodup ∧
    ∃ name ∈ exportedNames (storageParts (shelvedApi ["Pet", "pet", "Text"])),
      name ∈ importedNames (storageParts (shelvedApi ["Pet", "pet", "Text"])) := by
  have hexported : exportedNames (storageParts (shelvedApi ["Pet", "pet", "Text"])) =
      ["pet", "selectPetSchema", "insertPetSchema", "patchPetSchema",
       "pet", "selectPetSchema", "insertPetSchema", "patchPetSchema",
       "text", "selectTextSchema", "insertTextSchema", "patchTextSchema"] := by
    rw [exportedNames_storageParts]
    decide
  rw [importedNames_storageParts, hexported]
  exact ⟨rfl, rfl, rfl, by decide, "text", by decide, by decide⟩

end ApiSkeleton.Emit
