import ApiSkeleton.Proofs.Emit.Storage
import ApiSkeleton.Proofs.Text.SnakeCase
import ApiSkeleton.Proofs.Tree.Printer

namespace ApiSkeleton.Emit

open Template Model

/-- The declared types that are not stored as text. -/
def storedTypes : List String := ["integer", "number", "boolean"]

private theorem ofDeclared_of_not_stored {type : String} (h : type ∉ storedTypes) :
    StorageType.ofDeclared (some type) = .text := by
  unfold StorageType.ofDeclared
  split <;> simp_all [storedTypes]

private theorem point_mem_positionalChars (digits : List Char) (exponent : Int) :
    '.' ∈ Decimal.positionalChars digits exponent := by
  unfold Decimal.positionalChars
  dsimp only
  split
  · simp
  · split <;> simp

/-- What a template prints for a number in double precision has a point, if the number is finite. -/
private theorem render_not_stored (x : Binary64) : Decimal.plainStyle.render x ∉ storedTypes := by
  have hpoint {cs : List Char} (h : '.' ∈ cs) : String.ofList cs ∉ storedTypes := by
    intro hstored
    have hfree : ∀ s ∈ storedTypes, '.' ∉ s.toList := by decide
    exact hfree _ hstored (by rwa [String.toList_ofList])
  unfold Decimal.Style.render
  dsimp only [Decimal.plainStyle]
  split
  · decide
  · split
    · split <;> decide
    · split
      · exact hpoint (by simp)
      · exact hpoint (List.mem_append_right _ (point_mem_positionalChars _ _))

/-- No value but a text prints like a type that is not stored as text. -/
private theorem printed_ofTree_not_stored {t : Tree} (h : t.asText? = none) :
    (Value.ofTree t).printed ∉ storedTypes := by
  cases t with
  | text s => cases h
  | null => decide
  | bool b => cases b <;> decide
  | int n =>
    intro hstored
    have hletter : ∀ s ∈ storedTypes, 'e' ∈ s.toList := by decide
    exact absurd (isDigit_of_mem_toString (hletter _ hstored)) (by decide)
  | float x => exact render_not_stored x
  | list items =>
    intro hstored
    have hfree : ∀ s ∈ storedTypes, '[' ∉ s.toList := by decide
    exact hfree _ hstored (by simp [Value.ofTree, Value.printed, Value.inspected])
  | object members =>
    intro hstored
    have hfree : ∀ s ∈ storedTypes, '\x7b' ∉ s.toList := by decide
    exact hfree _ hstored (by simp [Value.ofTree, Value.printed, Value.inspected])

/-- The text that a property declares as its type, if it does so. -/
def typeText (property : Tree) : Option String := (property.member? "type").bind Tree.asText?

/-- The printed text of a type that is no text never chooses a column. -/
theorem storageColumn_declaredType (property : Tree) :
    storageColumn (declaredType property) = storageColumn (typeText property) := by
  unfold declaredType typeText
  cases property.member? "type" with
  | none => rfl
  | some t =>
    cases htext : t.asText? with
    | some s =>
      cases t with
      | text s' =>
        cases htext
        rfl
      | _ => cases htext
    | none =>
      have hother := ofDeclared_of_not_stored (printed_ofTree_not_stored htext)
      cases t with
      | null => rfl
      | text s => cases htext
      | _ =>
        funext name
        simp only [storageColumn, hother, htext, Option.bind_some]
        rfl

/-- What a column is besides what it stores. -/
inductive ColumnRole where
  | countingKey
  | key
  | required
  | plain
deriving DecidableEq

/-- The calls that mark a role. -/
def ColumnRole.text : ColumnRole → String
  | .countingKey => ".primaryKey(\x7b autoIncrement: true \x7d)"
  | .key => ".primaryKey()"
  | .required => ".notNull()"
  | .plain => ""

/-- Whether a role is marked as that of a primary key. -/
def ColumnRole.isKey (r : ColumnRole) : Bool := ".primaryKey(".toList.isPrefixOf r.text.toList

/-- A column of a table. -/
structure Column where
  property : String
  /-- The name in the database. -/
  name : String
  /-- The call that builds a column with a name. -/
  build : String → String
  role : ColumnRole

def Column.text (c : Column) : String :=
  "  " ++ Text.propertyKey c.property ++ ": " ++ c.build c.name ++ c.role.text ++ ",\n"

/-- The key of a schema that has no property for it. -/
def countingColumn : Column where
  property := "id"
  name := "id"
  build := fun name => "integer(\"" ++ name ++ "\", \x7b mode: \"number\" \x7d)"
  role := .countingKey

/-- The column of a property. -/
def propertyColumn (s : Schema) (property : String × Tree) : Column where
  property := property.1
  name := Text.snakeCase property.1
  build := storageColumn (typeText property.2)
  role :=
    if property.1 = "id" then .key else if property.1 ∈ s.required then .required else .plain

/-- The columns of a table in order. -/
def columns (s : Schema) : List Column :=
  (if "id" ∈ s.properties.map (·.1) then [] else [countingColumn]) ++
    s.properties.map (propertyColumn s)

private theorem text_countingColumn : countingColumn.text = idColumn := by
  have hkey : Text.propertyKey "id" = "id" := if_pos (by decide)
  unfold countingColumn Column.text idColumn
  rw [hkey, ← String.toList_inj]
  simp [-String.reduceAppend, ColumnRole.text]

private theorem text_role (s : Schema) (property : String × Tree) :
    (propertyColumn s property).role.text = columnMark s property.1 := by
  unfold propertyColumn columnMark
  by_cases hid : property.1 = "id"
  · simp [hid, ColumnRole.text]
  · by_cases hrequired : property.1 ∈ s.required <;>
      simp [hid, hrequired, ColumnRole.text, Schema.isRequired]

private theorem text_propertyColumn (s : Schema) (property : String × Tree) :
    (propertyColumn s property).text = columnText s property := by
  rw [Column.text, text_role, columnText, storageColumn_declaredType]
  rfl

private theorem text_columns (s : Schema) : String.join ((columns s).map Column.text) =
    idColumnText s ++ String.join (s.properties.map (columnText s)) := by
  have hproperties : (s.properties.map (propertyColumn s)).map Column.text =
      s.properties.map (columnText s) := by
    simp [text_propertyColumn]
  unfold columns idColumnText
  by_cases hid : "id" ∈ s.properties.map (·.1)
  · have hfound : (findMember? s.properties "id").isSome := by
      rw [Option.isSome_iff_ne_none, ne_eq, findMember?_eq_none_iff, not_not]
      exact hid
    rw [if_pos hid, if_pos hfound, List.nil_append, hproperties, String.empty_append]
  · have hmissing : findMember? s.properties "id" = none := findMember?_eq_none_iff.mpr hid
    rw [if_neg hid, hmissing, List.singleton_append, List.map_cons, hproperties, String.join_cons,
      text_countingColumn]
    rfl

/-- The validators of a table. -/
def validatorsBlock (table typeName : String) : String :=
  "\nexport const select" ++ typeName ++ "Schema = createSelectSchema(" ++ table ++ ");\n\n" ++
    "export const insert" ++ typeName ++ "Schema = createInsertSchema(" ++ table ++
    ").omit(\x7b id: true \x7d);\n\n" ++
    "export const patch" ++ typeName ++ "Schema = insert" ++ typeName ++ "Schema.partial();\n"

/-- A table under a binding and with a name in the database. -/
def tableBlock (table label : String) (columns : List Column) : String :=
  "\nexport const " ++ table ++ " = sqliteTable(" ++ Text.quoted label ++ ", \x7b\n" ++
    String.join (columns.map Column.text) ++ "\x7d);\n"

theorem tableText_eq (s : Schema) : tableText s =
    tableBlock (tableName s) (Text.lowercase s.name) (columns s) ++
      validatorsBlock (tableName s) (Text.pascalCase s.name) := by
  have hend : "\x7d);\n\n" = "\x7d);\n" ++ "\n" := by decide
  have hselect : "\nexport const select" = "\n" ++ "export const select" := by decide
  unfold tableText tableBlock validatorsBlock validatorsText
  rw [text_columns, hend, hselect]
  simp only [String.append_assoc]

/-- The columns that are marked as primary keys. -/
def keyColumns (s : Schema) : List Column := (columns s).filter (·.role.isKey)

private theorem isKey_propertyColumn (s : Schema) (property : String × Tree) :
    (propertyColumn s property).role.isKey = decide (property.1 = "id") := by
  unfold propertyColumn
  by_cases hid : property.1 = "id"
  · simp only [hid, if_true]
    decide
  · by_cases hrequired : property.1 ∈ s.required <;> simp only [hid, hrequired, if_true, if_false] <;>
      decide

theorem filter_isKey_properties (s : Schema) :
    (s.properties.map (propertyColumn s)).filter (·.role.isKey) =
      (s.properties.filter (fun p => decide (p.1 = "id"))).map (propertyColumn s) := by
  rw [List.filter_map]
  exact congrArg (List.map _) (List.filter_congr fun p _ => isKey_propertyColumn s p)

private theorem keyColumns_added {s : Schema} (hid : "id" ∉ s.properties.map (·.1)) :
    keyColumns s = [countingColumn] := by
  rw [keyColumns, columns, if_neg hid, List.singleton_append,
    List.filter_cons_of_pos (by decide), filter_isKey_properties, filter_key_eq_nil hid,
    List.map_nil]

private theorem keyColumns_own {s : Schema} (hnames : (s.properties.map (·.1)).Nodup)
    {property : String × Tree} (hproperty : property ∈ s.properties) (hid : property.1 = "id") :
    keyColumns s = [propertyColumn s property] := by
  have hone := filter_key_eq hnames hproperty
  rw [hid] at hone
  rw [keyColumns, columns, if_pos (hid ▸ List.mem_map_of_mem hproperty), List.nil_append,
    filter_isKey_properties, hone, List.map_singleton]

/-- How the columns of a table come from the properties of its schema. -/
structure TableDeclared (s : Schema) : Prop where
  /-- A schema without a property `id` has a key that counts up before all other columns. -/
  added : "id" ∉ s.properties.map (·.1) →
    columns s = countingColumn :: s.properties.map (propertyColumn s) ∧
      keyColumns s = [countingColumn]
  /-- A property `id` is the key, and nothing is added. -/
  own : ∀ property ∈ s.properties, property.1 = "id" →
    columns s = s.properties.map (propertyColumn s) ∧
      keyColumns s = [propertyColumn s property]
  key : ∃ column, keyColumns s = [column] ∧ column.property = "id" ∧ column.name = "id"
  required : ∀ property ∈ s.properties,
    (propertyColumn s property).role.text = ".notNull()" ↔
      property.1 ∈ s.required ∧ property.1 ≠ "id"
  typed : ∀ property ∈ s.properties, ∀ type, property.2.member? "type" = some (.text type) →
    (propertyColumn s property).build = storageColumn (some type)
  /-- What is no object, or has no text for its type, is stored as text. -/
  untyped : ∀ property ∈ s.properties,
    (∀ type, property.2.member? "type" ≠ some (.text type)) →
      (propertyColumn s property).build = StorageType.text.column
  named : ∀ property ∈ s.properties, (propertyColumn s property).name = "id" ↔ property.1 = "id"

private theorem role_text_eq_notNull_iff (s : Schema) (property : String × Tree) :
    (propertyColumn s property).role.text = ".notNull()" ↔
      property.1 ∈ s.required ∧ property.1 ≠ "id" := by
  unfold propertyColumn
  by_cases hid : property.1 = "id"
  · simp [hid, ColumnRole.text]
  · by_cases hrequired : property.1 ∈ s.required <;> simp [hid, hrequired, ColumnRole.text]

theorem snakeCase_eq_id_iff {name : String} : Text.snakeCase name = "id" ↔ name = "id" := by
  have hsmall : ∀ c ∈ "id".toList, Text.isUppercase c = false := by
    simp [Text.isUppercase]
  rw [Text.snakeCase_eq_iff (by simp)]
  exact and_iff_left hsmall

theorem tableDeclared {s : Schema} (hnames : (s.properties.map (·.1)).Nodup) :
    TableDeclared s where
  added hid := ⟨by rw [columns, if_neg hid]; rfl, keyColumns_added hid⟩
  own property hproperty hid :=
    ⟨by rw [columns, if_pos (hid ▸ List.mem_map_of_mem hproperty)]; rfl,
      keyColumns_own hnames hproperty hid⟩
  key := by
    by_cases hid : "id" ∈ s.properties.map (·.1)
    · obtain ⟨property, hproperty, hname⟩ := List.mem_map.mp hid
      exact ⟨_, keyColumns_own hnames hproperty hname, hname, snakeCase_eq_id_iff.mpr hname⟩
    · exact ⟨_, keyColumns_added hid, rfl, rfl⟩
  required property _ := role_text_eq_notNull_iff s property
  typed property _ type htype := by
    simp only [propertyColumn, typeText, htype]
    rfl
  untyped property _ hother := by
    have hnone : typeText property.2 = none := bind_asText?_eq_none hother
    simp only [propertyColumn, hnone]
    rfl
  named property _ := snakeCase_eq_id_iff

/-- The storage schema is a header and one table for every schema in order, each with its validators
under the same names; no property but `id` makes or is named like a key. -/
theorem storage_schema_tables (api : Api)
    (hnames : ∀ s ∈ api.schemas, (s.properties.map (·.1)).Nodup) :
    ModuleKind.schema.render (schemaContext api) =
        .ok (schemaHeader api.metadata ++ String.join (api.schemas.map fun s =>
          tableBlock (tableName s) (Text.lowercase s.name) (columns s) ++
            validatorsBlock (tableName s) (Text.pascalCase s.name))) ∧
      ∀ s ∈ api.schemas, TableDeclared s := by
  refine ⟨?_, fun s hs => tableDeclared (hnames s hs)⟩
  rw [render_schema, schemaText, List.map_congr_left fun s _ => tableText_eq s]

/-- A schema without a key of its own, which has a name in capitals for something else, and one
whose key is not its first property. -/
def shelter : Api where
  endpoints := []
  metadata := ⟨"Shelter", "1", none⟩
  schemas :=
    [⟨"Pet", [("petId", .object [("type", .text "integer")]), ("ID", .null),
      ("chips", .object [("type", .list [.text "integer"])])], ["petId", "id"]⟩,
     ⟨"Owner", [("name", .object [("type", .text "string")]),
      ("id", .object [("type", .text "number")])], ["id", "name"]⟩]

theorem shelter_tables : (∀ s ∈ shelter.schemas, (s.properties.map (·.1)).Nodup) ∧
    (ModuleKind.schema.render (schemaContext shelter) =
        .ok (schemaHeader shelter.metadata ++ String.join (shelter.schemas.map fun s =>
          tableBlock (tableName s) (Text.lowercase s.name) (columns s) ++
            validatorsBlock (tableName s) (Text.pascalCase s.name))) ∧
      ∀ s ∈ shelter.schemas, TableDeclared s) ∧
    shelter.schemas.map (fun s => (columns s).map fun c =>
        (c.property, c.build c.name, c.role)) =
      [[("id", "integer(\"id\", \x7b mode: \"number\" \x7d)", .countingKey),
        ("petId", "integer(\"pet_id\")", .required), ("ID", "text(\"_i_d\")", .plain),
        ("chips", "text(\"chips\")", .plain)],
       [("name", "text(\"name\")", .required), ("id", "real(\"id\")", .key)]] :=
  ⟨by decide, storage_schema_tables shelter (by decide), by decide⟩

end ApiSkeleton.Emit
