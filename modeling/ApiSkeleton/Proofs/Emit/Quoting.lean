import ApiSkeleton.Proofs.Emit.Expression
import ApiSkeleton.Proofs.Emit.Reads
import ApiSkeleton.Proofs.Emit.Tables
import ApiSkeleton.Proofs.Text.Quoted

namespace ApiSkeleton.Emit

open Model

variable {api : Api} {e : Endpoint}

/-- The call that builds a column from what is written as its first argument. -/
def StorageType.call : StorageType → String → String
  | .text, argument => "text(" ++ argument ++ ")"
  | .integer, argument => "integer(" ++ argument ++ ")"
  | .real, argument => "real(" ++ argument ++ ")"
  | .boolean, argument => "integer(" ++ argument ++ ", \x7b mode: \"boolean\" \x7d)"

/-- A call shows its argument. -/
theorem StorageType.call_injective (type : StorageType) : Function.Injective type.call := by
  intro a b hsame
  cases type <;> simpa [StorageType.call] using hsame

theorem StorageType.column_eq_call (type : StorageType) (name : String) :
    type.column name = type.call (Text.betweenQuotes name) := by
  cases type <;>
    simp [StorageType.column, StorageType.call, Text.betweenQuotes, ← String.toList_inj]

/-- A status whose key stands between quotes. -/
def IsQuotedStatus (status : String) : Prop :=
  statusConstant? status = none ∧ ¬ (status ≠ "" ∧ status.toList.all Char.isDigit)

instance : DecidablePred IsQuotedStatus := fun _ => inferInstanceAs (Decidable (_ ∧ _))

theorem statusKey_of_isQuotedStatus {status : String} (h : IsQuotedStatus status) :
    statusKey status = Text.betweenQuotes status := by
  rw [statusKey, h.1]
  exact if_neg h.2

/-- A name between quotes, and when that is a literal of the name. -/
structure BetweenQuotes (literal name : String) : Prop where
  text : literal = "\"" ++ name ++ "\""
  escaped : literal = Text.quoted name ↔ Text.IsPlain name
  denotes : Text.Denotes literal name ↔ Text.IsPlain name

theorem betweenQuotes_betweenQuotes (name : String) :
    BetweenQuotes (Text.betweenQuotes name) name :=
  ⟨rfl, Text.betweenQuotes_eq_quoted_iff, Text.denotes_betweenQuotes_iff⟩

/-- The column of a property is a line of the storage schema. -/
private theorem occurs_columnText {s : Schema} (hs : s ∈ api.schemas) {property : String × Tree}
    (hproperty : property ∈ s.properties) :
    Occurs (columnText s property) (schemaText api) := by
  have hcolumn : Occurs (columnText s property)
      (String.join (s.properties.map (columnText s))) :=
    occurs_join (List.mem_map_of_mem hproperty)
  have htable : Occurs (columnText s property) (tableText s) := by
    unfold tableText
    exact hcolumn.append_left _ |>.append_right _ |>.append_left _
  have htables : Occurs (tableText s) (String.join (api.schemas.map tableText)) :=
    occurs_join (List.mem_map_of_mem hs)
  exact (htable.trans htables).append_left _

/-- A response is part of the route. -/
private theorem occurs_responseText {r : Response} (hr : r ∈ e.responses) :
    Occurs (responseText r) (routeText e) := by
  have hresponse : Occurs (responseText r) (String.join (e.responses.map responseText)) :=
    occurs_join (List.mem_map_of_mem hr)
  have hbody : Occurs (responseText r) (routeBody e) := by
    unfold routeBody
    exact hresponse.append_left _ |>.append_right _
  unfold routeText
  exact hbody.append_left _ |>.append_right _ |>.append_right _ |>.append_right _ |>.append_right _
    |>.append_right _

/-- The literals in the generated files. -/
structure LiteralsWritten (l : Layout) (api : Api) : Prop where
  columns : ∃ text, .ok ⟨l.schemaPath, text.toUTF8⟩ ∈ steps l api ∧
    ∀ s ∈ api.schemas, ∀ property ∈ s.properties, ∃ literal,
      Occurs ("  " ++ Text.propertyKey property.1 ++ ": " ++
        (StorageType.ofDeclared (typeText property.2)).call literal) text ∧
      BetweenQuotes literal (Text.snakeCase property.1) ∧
      (Text.IsPlain (Text.snakeCase property.1) ↔ Text.IsPlain property.1)
  keys : ∀ g ∈ groups api.endpoints, ∃ text, .ok ⟨l.routesPath g.tag, text.toUTF8⟩ ∈ steps l api ∧
    ∀ e ∈ g.endpoints, ∀ r ∈ e.responses, IsQuotedStatus r.status → ∃ literal,
      Occurs ("    [" ++ literal ++ "]: \x7b\n") text ∧ BetweenQuotes literal r.status

theorem literalsWritten (hapi : api.WellFormed) (hcheck : checkApi api = .ok ()) (l : Layout) :
    LiteralsWritten l api where
  columns := by
    refine ⟨schemaText api, ?_, fun s hs property hproperty =>
      ⟨_, ?_, betweenQuotes_betweenQuotes _, Text.isPlain_snakeCase_iff⟩⟩
    · rw [steps_of_checked hapi hcheck]
      exact List.mem_map_of_mem (List.mem_cons_self ..)
    · refine Occurs.trans ?_ (occurs_columnText hs hproperty)
      rw [columnText, storageColumn_declaredType, storageColumn, StorageType.column_eq_call]
      refine ⟨"", columnMark s property.1 ++ ",\n", ?_⟩
      simp only [String.empty_append, String.append_assoc]
  keys g hg := by
    refine ⟨routesText g, (groupWritten hapi hcheck l hg).routes, fun e he r hr hstatus =>
      ⟨_, ?_, betweenQuotes_betweenQuotes _⟩⟩
    have hroute : Occurs (routeText e) (routesText g) :=
      (occurs_join (List.mem_map_of_mem he)).append_left _
    refine Occurs.trans ?_ ((occurs_responseText hr).trans hroute)
    have hline : "]: \x7b\n      description: " = "]: \x7b\n" ++ "      description: " := by
      decide
    rw [responseText, statusKey_of_isQuotedStatus hstatus, hline]
    refine ⟨"", "      description: " ++ Text.quoted r.description ++ ",\n" ++
      responseContentText r.content ++ "    \x7d,\n", ?_⟩
    simp only [String.empty_append, String.append_assoc]

/-- A literal of a column or of a response key is the name between quotes. It is the escaped literal
of the name, and denotes the name, exactly if nothing in the name needs an escape; so it is in the
files of every document that is accepted. -/
theorem literals_denote_iff_plain {document : Tree} (hdocument : document.WellFormed)
    (hapi : Api.ofTree document = .ok api) (hcheck : checkApi api = .ok ()) (l : Layout) :
    (∀ declared name, ∃ literal, BetweenQuotes literal name ∧
      ∀ argument, storageColumn declared name = (StorageType.ofDeclared declared).call argument ↔
        argument = literal) ∧
    (∀ status, IsQuotedStatus status → BetweenQuotes (statusKey status) status) ∧
    LiteralsWritten l api := by
  refine ⟨fun declared name => ⟨_, betweenQuotes_betweenQuotes name, fun argument => ?_⟩,
    fun status hstatus => ?_, literalsWritten (wellFormed_ofTree hdocument hapi) hcheck l⟩
  · rw [storageColumn, StorageType.column_eq_call, (StorageType.call_injective _).eq_iff, eq_comm]
  · rw [statusKey_of_isQuotedStatus hstatus]
    exact betweenQuotes_betweenQuotes status

/-- A document with quotes in the name of a property and in the key of a response. -/
def quotedPets : Tree :=
  .object
    [("info", .object []),
     ("paths", .object
       [("/pets", .object
          [("get", .object
             [("operationId", .text "listPets"), ("tags", .list [.text "Pets"]),
              ("responses", .object [("o\"k", .object [])])])])]),
     ("components", .object
       [("schemas", .object
          [("Pet", .object
             [("properties", .object [("a\"b", .object [("type", .text "string")])])])])])]

/-- The API of the document. -/
def quotedApi : Api where
  endpoints := [⟨"/pets", .get, "listPets", ["Pets"], [], none, [⟨"o\"k", "", none⟩]⟩]
  schemas := [⟨"Pet", [("a\"b", .object [("type", .text "string")])], []⟩]
  metadata := ⟨"", "", none⟩

private theorem quotedPets_accepted :
    Api.ofTree quotedPets = .ok quotedApi ∧ checkApi quotedApi = .ok () :=
  ⟨rfl, rfl⟩

theorem quotedPets_written : quotedPets.WellFormed ∧
    Api.ofTree quotedPets = .ok quotedApi ∧ checkApi quotedApi = .ok () ∧
    (∃ literal, BetweenQuotes literal "a\"b" ∧ ∀ argument,
      storageColumn (some "string") "a\"b" = StorageType.text.call argument ↔ argument = literal) ∧
    BetweenQuotes (statusKey "o\"k") "o\"k" ∧
    LiteralsWritten defaultLayout quotedApi := by
  have hdocument : quotedPets.WellFormed := by
    simp [quotedPets, Tree.wellFormed_object_iff, Tree.wellFormed_list_iff, Tree.WellFormed.text]
  obtain ⟨hapi, hcheck⟩ := quotedPets_accepted
  obtain ⟨hcolumns, hkeys, hwritten⟩ :=
    literals_denote_iff_plain hdocument hapi hcheck defaultLayout
  exact ⟨hdocument, hapi, hcheck, hcolumns (some "string") "a\"b", hkeys "o\"k" (by decide),
    hwritten⟩

/-- The quotes end both literals early. -/
theorem quotedPets_cut_short :
    (Api.ofTree quotedPets = .ok quotedApi ∧ checkApi quotedApi = .ok ()) ∧
    storageColumn (some "string") "a\"b" = "text(\"a\"b\")" ∧
    StorageType.text.call (Text.quoted "a\"b") = "text(\"a\\\"b\")" ∧
    (∀ argument, storageColumn (some "string") "a\"b" = StorageType.text.call argument →
      argument ≠ Text.quoted "a\"b" ∧ ¬ Text.Denotes argument "a\"b") ∧
    IsQuotedStatus "o\"k" ∧ statusKey "o\"k" = "\"o\"k\"" ∧
    Text.quoted "o\"k" = "\"o\\\"k\"" ∧ ¬ Text.Denotes (statusKey "o\"k") "o\"k" := by
  have hname : ¬ Text.IsPlain "a\"b" := fun h => (h '"' (by simp)).1 rfl
  have hstatus : ¬ Text.IsPlain "o\"k" := fun h => (h '"' (by simp)).1 rfl
  refine ⟨quotedPets_accepted, rfl, rfl, ?_, by decide, by decide, rfl, ?_⟩
  · intro argument hargument
    rw [storageColumn, StorageType.column_eq_call] at hargument
    obtain rfl := StorageType.call_injective _ hargument
    exact ⟨mt Text.betweenQuotes_eq_quoted_iff.mp hname, mt Text.denotes_betweenQuotes_iff.mp hname⟩
  · rw [statusKey_of_isQuotedStatus (by decide)]
    exact mt Text.denotes_betweenQuotes_iff.mp hstatus

end ApiSkeleton.Emit
