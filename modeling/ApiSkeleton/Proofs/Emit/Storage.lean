import ApiSkeleton.Emit.Modules
import ApiSkeleton.Proofs.Emit.Text
import ApiSkeleton.Proofs.Template.Run

namespace ApiSkeleton.Emit

open Template Model

variable {s : Scope}

/-- The members of a document object are found under their keys. -/
theorem get?_ofMembers (members : List (String × Tree)) (key : String) :
    Value.get? (Value.ofMembers members) (.text key) =
      (findMember? members key).map Value.ofTree := by
  induction members with
  | nil => rfl
  | cons entry rest ih =>
    obtain ⟨k, t⟩ := entry
    unfold Value.get? at ih ⊢
    by_cases hkey : k = key
    · simp [Value.ofMembers, findMember?, Value.same_text, hkey]
    · simpa [Value.ofMembers, findMember?, Value.same_text, hkey] using ih

/-- The type of a property, which is undefined for what is no object. -/
private theorem member_type_ofTree (property : Tree) :
    (Value.ofTree property).member "type" =
      .ok (((property.member? "type").map Value.ofTree).getD .undefined) := by
  cases property with
  | object members => simp [Value.ofTree, Value.member, get?_ofMembers, Tree.member?]
  | _ => rfl

/-- The type of a property as the text that a column is chosen by. -/
private theorem text?_type (property : Tree) :
    (Arguments.Argument.given
      (((property.member? "type").map Value.ofTree).getD .undefined)).text? =
      .ok (declaredType property) := by
  unfold declaredType
  cases property.member? "type" with
  | none => rfl
  | some type => cases type <;> rfl

/-- A property as a pair of its name and its schema. -/
def propertyValue (property : String × Tree) : Value :=
  .list [.text property.1, Value.ofTree property.2]

private theorem pairs_ofMembers (members : List (String × Tree)) :
    pairs (.map (Value.ofMembers members)) = .ok (.list (members.map propertyValue)) := by
  simp only [pairs, Except.ok.injEq, Value.list.injEq]
  induction members with
  | nil => rfl
  | cons entry rest ih =>
    obtain ⟨k, t⟩ := entry
    simp [Value.ofMembers, propertyValue, ih]

private theorem holds_properties (members : List (String × Tree)) (name : String) :
    Value.holds (.map (Value.ofMembers members)) (.text name) =
      .ok (.bool (findMember? members name).isSome) := by
  simp [Value.holds, get?_ofMembers]

private theorem holds_texts (names : List String) (name : String) :
    Value.holds (texts names) (.text name) = .ok (.bool (names.contains name)) := by
  simp only [texts, Value.holds, Except.ok.injEq, Value.bool.injEq]
  induction names with
  | nil => rfl
  | cons first rest ih =>
    have hfirst : (first == name) = (name == first) := Bool.beq_comm
    rw [List.map_cons, List.any_cons, Value.same_text, ih, List.contains_cons, hfirst]

/-- What is marked on a column, of which the key is marked in another way than the others. -/
private theorem run_columnMark {schema : Schema} {name : String}
    (hschema : s.find? "schema" = some (schemaValue schema))
    (hname : s.find? "name" = some (.text name)) :
    (Statement.branch (.binary .eq (.name "name") (.literal (.text "id")))
      [.text ".primaryKey()"]
      [.when (.binary .isIn (.name "name") (.of "schema" "required"))
        [.text ".notNull()"]]).run s = .ok (columnMark schema name, s) := by
  rw [run_branch]
  by_cases hid : name = "id"
  · simp [hname, Value.apply, Value.same_text, hid, columnMark]
  · simp [hname, hschema, schemaValue, findMember?, Value.apply, Value.same_text, hid, holds_texts,
      columnMark, Schema.isRequired]

theorem runAll_columnTemplate {schema : Schema} {property : String × Tree}
    (hschema : s.find? "schema" = some (schemaValue schema))
    (hstorage : s.find? "storage_type" = none)
    (hname : s.find? "name" = some (.text property.1))
    (hproperty : s.find? "property" = some (Value.ofTree property.2)) :
    runAll columnTemplate s = .ok (columnText schema property, s) := by
  have hmark := run_columnMark hschema hname
  have htype := text?_type property.2
  simp [columnTemplate, hname, hproperty, hstorage, hmark, member_type_ofTree, applyFunction,
    Arguments.toList, Arguments.Argument.text, htype, columnText, String.append_assoc]

theorem runAll_columnsTemplate {schema : Schema}
    (hschema : s.find? "schema" = some (schemaValue schema))
    (hstorage : s.find? "storage_type" = none) :
    runAll columnsTemplate s =
      .ok (idColumnText schema ++ String.join (schema.properties.map (columnText schema)), s) := by
  have hitems : (Expr.via (.of "schema" "properties") "items").eval s =
      .ok (.list (schema.properties.map propertyValue)) := by
    simp [hschema, schemaValue, findMember?, applyFilter, textFilter?, Arguments.toList,
      pairs_ofMembers]
  have hloop : (Statement.each (.tuple [(.name "name"), (.name "property")])
      (.via (.of "schema" "properties") "items") columnTemplate).run s =
      .ok (String.join (schema.properties.mapIdx fun _ => columnText schema), s) := by
    refine run_loop_lines ["name", "property"] schema.properties propertyValue
      (fun _ => columnText schema) hitems (fun _ _ => ⟨_, rfl⟩) ?_
    intro i property t before after _ ht
    let loop := loopValue (s.frames.length - 1) schema.properties.length i before after
    let inside := ((t.setLoop loop).set "name" (.text property.1)).set "property"
      (Value.ofTree property.2)
    have hinside : s.InLoop ["name", "property"] inside :=
      ((ht.setLoop loop).set (by simp) _).set (by simp) _
    exact ⟨inside, inside, rfl, runAll_columnTemplate
      (by rw [hinside.find? (by simp) (by simp), hschema])
      (by rw [hinside.find? (by simp) (by simp), hstorage])
      (by rw [Scope.find?_set_of_ne _ _ (by simp), Scope.find?_set_self])
      (Scope.find?_set_self _ _ _), hinside⟩
  rw [mapIdx_line] at hloop
  have hid : (Statement.when (.not (.binary .isIn (.literal (.text "id"))
      (.of "schema" "properties"))) [.text idColumn]).run s = .ok (idColumnText schema, s) := by
    cases hfound : findMember? schema.properties "id" <;>
      simp [hschema, schemaValue, findMember?, Value.apply, holds_properties, hfound, idColumnText]
  simp [columnsTemplate, hid, hloop]

/-- The scope after the beginning of a table, in which its names are assigned. -/
def inTable (s : Scope) (schema : Schema) : Scope :=
  (s.set "table" (.text (tableName schema))).set "type_name" (.text (Text.pascalCase schema.name))

/-- A table with its validators. It assigns nothing but the names of the two. -/
theorem runAll_tableTemplate {schema : Schema}
    (hschema : s.find? "schema" = some (schemaValue schema))
    (hstorage : s.find? "storage_type" = none) :
    runAll (tableTemplate ++ (columnsTemplate ++ validatorsTemplate)) s =
      .ok (tableText schema, inTable s schema) := by
  have hkeep {name : String} (h : name ≠ "table") (h' : name ≠ "type_name") :
      (inTable s schema).find? name = s.find? name := by
    rw [inTable, Scope.find?_set_of_ne _ _ h'.symm, Scope.find?_set_of_ne _ _ h.symm]
  have htable : (inTable s schema).find? "table" = some (.text (tableName schema)) := by
    rw [inTable, Scope.find?_set_of_ne _ _ (by simp), Scope.find?_set_self]
  have htype : (inTable s schema).find? "type_name" = some (.text (Text.pascalCase schema.name)) :=
    Scope.find?_set_self _ _ _
  have hschema' : (inTable s schema).find? "schema" = some (schemaValue schema) := by
    rw [hkeep (by simp) (by simp), hschema]
  have hopening : runAll tableTemplate s = .ok ("\nexport const " ++ tableName schema ++
      " = sqliteTable(" ++ Text.quoted (Text.lowercase schema.name) ++ ", \x7b\n",
      inTable s schema) := by
    have hset : (s.set "table" (.text (Text.identifier (Text.lowercase schema.name)))).set
      "type_name" (.text (Text.pascalCase schema.name)) = inTable s schema := rfl
    simp [tableTemplate, hschema, schemaValue, findMember?, hset, tableName,
      String.append_assoc]
  have hcolumns := runAll_columnsTemplate hschema'
    (by rw [hkeep (by simp) (by simp), hstorage])
  have hvalidators : runAll validatorsTemplate (inTable s schema) =
      .ok (validatorsText schema, inTable s schema) := by
    unfold validatorsText
    simp [-String.reduceAppend, validatorsTemplate, htable, htype, String.append_assoc]
  exact runAll_append _ _ hopening (runAll_append _ _ hcolumns hvalidators)

/-- The storage schema of an API can always be rendered. -/
theorem render_schema (api : Api) :
    ModuleKind.schema.render (schemaContext api) = .ok (schemaText api) := by
  let s := Scope.ofContext (schemaContext api)
  have hmetadata : s.find? "metadata" = some (metadataValue api.metadata) :=
    Scope.find?_ofContext rfl (by simp [metadataValue, Value.ofFields])
  have hschemas : s.find? "schemas" = some (.list (api.schemas.map schemaValue)) :=
    Scope.find?_ofContext rfl (by simp)
  have hstorage : s.find? "storage_type" = none := Scope.find?_ofContext_none rfl
  have hitems : (Expr.name "schemas").eval s = .ok (.list (api.schemas.map schemaValue)) := by
    simp [hschemas]
  have hloop : (Statement.each (.name "schema") (.name "schemas")
      (tableTemplate ++ (columnsTemplate ++ validatorsTemplate))).run s =
      .ok (String.join (api.schemas.map tableText), s) := by
    refine run_each ["schema", "table", "type_name"] api.schemas schemaValue tableText hitems
      (by simp) (by simp) ?_
    intro schema _ t ht hschema
    have htable := runAll_tableTemplate hschema (by rw [ht.find? (by simp) (by simp), hstorage])
    exact ⟨_, htable, (ht.set (by simp) _).set (by simp) _⟩
  have hrun : runAll schemaTemplate s = .ok (schemaText api, s) := by
    unfold schemaText schemaHeader
    simp [-String.reduceAppend, schemaTemplate, hmetadata, metadataValue, findMember?, hloop,
      String.append_assoc]
  simp [ModuleKind.render, ModuleKind.template, render, s, hrun]

end ApiSkeleton.Emit
