import ApiSkeleton.Proofs.Emit.Reads
import ApiSkeleton.Proofs.Text.Name

namespace ApiSkeleton.Emit

open Model
open Text (IsDeclarable isName isNamePart lowerChar upperChar camelCase pascalCase reservedWords)

variable {l : Layout} {api : Api} {e : Endpoint}

/-- The declaration of a body is part of the route. -/
theorem occurs_bodyText {b : RequestBody} (hb : b ∈ e.requestBody) :
    Occurs (bodyText b) (routeText e) := by
  have hentry : ("body", bodyText b) ∈ requestEntries e := by
    simp [requestEntries, Option.mem_def.mp hb]
  have hentries : Occurs (bodyText b) (String.join ((requestEntries e).map (·.2))) :=
    occurs_join (List.mem_map_of_mem hentry)
  have hrequest : Occurs (bodyText b) (requestText e) := by
    rw [requestText_eq, if_neg (List.ne_nil_of_mem hentry)]
    exact hentries.append_left _ |>.append_right _
  have hbody : Occurs (bodyText b) (routeBody e) := by
    unfold routeBody
    exact hrequest.append_left _ |>.append_right _ |>.append_right _ |>.append_right _
  unfold routeText
  exact hbody.append_left _ |>.append_right _ |>.append_right _ |>.append_right _ |>.append_right _
    |>.append_right _

/-- What the names in the texts of an endpoint are, and when they can be declared. -/
structure NamesWritten (table : String) (e : Endpoint) : Prop where
  route : routeText e = "\nexport const " ++ camelCase e.operationId ++ " = createRoute(" ++
    routeBody e ++ ");\n\nexport type " ++ pascalCase e.operationId ++ "Route = typeof " ++
    camelCase e.operationId ++ ";\n"
  stub : stubText table e = "\nexport const " ++ camelCase e.operationId ++ ": AppRouteHandler<" ++
    pascalCase e.operationId ++ "Route> = async (c) => \x7b\n" ++
    ((reads e).text ++ stubWork table e) ++ "\x7d;\n"
  routeType : routeTypeText e = "  " ++ pascalCase e.operationId ++ "Route,\n"
  constant : IsDeclarable (camelCase e.operationId) ↔
    (∃ c rest, e.operationId.toList = c :: rest ∧ isName (lowerChar c) ∧ rest.all isNamePart) ∧
      camelCase e.operationId ∉ reservedWords
  type : IsDeclarable (pascalCase e.operationId ++ "Route") ↔
    e.operationId = "" ∨
      ∃ c rest, e.operationId.toList = c :: rest ∧ isName (upperChar c) ∧ rest.all isNamePart
  /-- Operations without an identifier of their own get names that can be declared. -/
  synthesized : e.operationId = synthesizedId e.method.name e.path →
    IsDeclarable (camelCase e.operationId) ∧ IsDeclarable (pascalCase e.operationId ++ "Route")
  /-- A parameter is taken under the name that the document gives it. -/
  parameter : ∀ name ∈ (reads e).parameter,
    name = ((e.parametersIn .path).head?.map (·.name)).getD "id"
  /-- The flag of a body is no literal of the language. -/
  required : ∀ b ∈ e.requestBody, Occurs (bodyText b) (routeText e) ∧
    bodyText b = "    body: \x7b\n      content: \x7b\n" ++
      String.join (b.content.map mediaText) ++ "      \x7d,\n      required: " ++
      (if b.required then "True" else "False") ++ ",\n    \x7d,\n"

theorem namesWritten (table : String) (e : Endpoint) : NamesWritten table e := by
  constructor
  case route =>
    unfold routeText
    rfl
  case stub => exact stubText_eq_reads table e
  case routeType => rfl
  case constant => exact Text.isDeclarable_camelCase_iff
  case type => exact Text.isDeclarable_routeType_iff
  case synthesized =>
    intro hid
    rw [hid]
    exact isDeclarable_synthesizedId e.method e.path
  case parameter => exact fun name hname => (parameter_reads hname).1
  case required =>
    intro b hb
    refine ⟨occurs_bodyText hb, ?_⟩
    unfold bodyText Template.Value.boolText
    rfl

/-- The names outside of literals in the routes and the handlers of a generated API. Each endpoint of
a group has one declaration in either file; its constant and its type can be declared exactly if the
identifier of the operation is a name from its second character on, and the other form of its first
character is one; a parameter is taken under the name that the document gives it; and the flag of a
body is written `True` or `False`. -/
theorem names_written_as_declared {document : Tree} (hdocument : document.WellFormed)
    (hapi : Api.ofTree document = .ok api) (hcheck : checkApi api = .ok ()) (l : Layout) :
    ∀ g ∈ groups api.endpoints, GroupWritten l api g ∧
      ∀ e ∈ g.endpoints, NamesWritten (tagBinding g.tag) e := fun g hg =>
  ⟨groupWritten (wellFormed_ofTree hdocument hapi) hcheck l hg,
    fun e _ => namesWritten (tagBinding g.tag) e⟩

/-- A document with names that cannot be declared. -/
def hyphenatedPets : Tree :=
  .object
    [("info", .object []),
     ("paths", .object
       [("/pets/\x7bpet-id\x7d", .object
          [("patch", .object
             [("operationId", .text "update-pet"), ("tags", .list [.text "Pets"]),
              ("parameters", .list [.object [("name", .text "pet-id"), ("in", .text "path")]]),
              ("requestBody", .object [("required", .bool true), ("content", .object [])])])])])]

/-- The one operation of the document. -/
def updatePet : Endpoint :=
  ⟨"/pets/\x7bpet-id\x7d", .patch, "update-pet", ["Pets"], [⟨"pet-id", .path, true, none⟩],
    some ⟨true, []⟩, []⟩

theorem hyphenatedPets_written : hyphenatedPets.WellFormed ∧
    ∃ api, Api.ofTree hyphenatedPets = .ok api ∧ checkApi api = .ok () ∧
      groups api.endpoints = [⟨"Pets", [updatePet]⟩] ∧
      NamesWritten (tagBinding "Pets") updatePet := by
  have hdocument : hyphenatedPets.WellFormed := by
    simp [hyphenatedPets, Tree.wellFormed_object_iff, Tree.wellFormed_list_iff,
      Tree.WellFormed.text, Tree.WellFormed.bool]
  have hgroup := names_written_as_declared hdocument rfl rfl defaultLayout
    ⟨"Pets", [updatePet]⟩ (List.mem_singleton_self _)
  exact ⟨hdocument, _, rfl, rfl, rfl, hgroup.2 updatePet (List.mem_singleton_self _)⟩

/-- Neither the constant nor the type nor the parameter can be declared, and the flag is no
literal. -/
theorem hyphenatedPets_undeclarable :
    (∃ api, Api.ofTree hyphenatedPets = .ok api ∧ checkApi api = .ok () ∧
      groups api.endpoints = [⟨"Pets", [updatePet]⟩]) ∧
    camelCase updatePet.operationId = "update-pet" ∧ ¬ IsDeclarable "update-pet" ∧
    pascalCase updatePet.operationId ++ "Route" = "Update-petRoute" ∧
    ¬ IsDeclarable "Update-petRoute" ∧
    (reads updatePet).parameter = some "pet-id" ∧ ¬ IsDeclarable "pet-id" ∧
    (∃ b, updatePet.requestBody = some b ∧ b.required = true ∧ Occurs (bodyText b)
      (routeText updatePet) ∧ bodyText b = "    body: \x7b\n      content: \x7b\n" ++
        "      \x7d,\n      required: True,\n    \x7d,\n") := by
  have htext : bodyText ⟨true, []⟩ = "    body: \x7b\n      content: \x7b\n" ++
      "      \x7d,\n      required: True,\n    \x7d,\n" := by
    unfold bodyText Template.Value.boolText
    simp only [List.map_nil, String.join_nil, if_true, String.reduceAppend]
  exact ⟨⟨_, rfl, rfl, rfl⟩, by decide, by decide, by decide, by decide, rfl, by decide, _, rfl,
    rfl, occurs_bodyText rfl, htext⟩

end ApiSkeleton.Emit
