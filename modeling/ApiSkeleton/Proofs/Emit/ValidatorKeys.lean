import ApiSkeleton.Proofs.Emit.RouteLiterals
import ApiSkeleton.Proofs.Model.Override
import ApiSkeleton.Proofs.Text.Quoted

namespace ApiSkeleton

namespace Model

variable {shared own ps : List Parameter} {location : Location}

/-- The names of the parameters that are carried at a place. -/
def namesAt (ps : List Parameter) (location : Location) : List String :=
  (ps.filter (·.location = location)).map (·.name)

private theorem mem_namesAt_iff {name : String} :
    name ∈ namesAt ps location ↔ (name, location) ∈ ps.map (·.key) := by
  simp only [namesAt, Parameter.key, List.mem_map, List.mem_filter, decide_eq_true_eq,
    Prod.mk.injEq]
  constructor
  · rintro ⟨p, ⟨hp, hlocation⟩, hname⟩
    exact ⟨p, hp, hname, hlocation⟩
  · rintro ⟨p, hp, hname, hlocation⟩
    exact ⟨p, ⟨hp, hlocation⟩, hname⟩

/-- At one place, parameters are told apart by their names alone. -/
private theorem namesAt_eq (ps : List Parameter) (location : Location) :
    namesAt ps location = ((ps.map (·.key)).filter (·.2 = location)).map (·.1) := by
  rw [List.filter_map, List.map_map]
  rfl

private theorem nodup_namesAt_iff :
    (namesAt ps location).Nodup ↔ ((ps.map (·.key)).filter (·.2 = location)).Nodup := by
  rw [namesAt_eq]
  refine ⟨List.Nodup.of_map _, fun hnodup => ?_⟩
  refine hnodup.map_on ?_
  rintro ⟨name, place⟩ hkey ⟨other, otherPlace⟩ hother hsame
  have hplace : place = location := by simpa using (List.mem_filter.mp hkey).2
  have hotherPlace : otherPlace = location := by simpa using (List.mem_filter.mp hother).2
  rw [Prod.mk.injEq]
  exact ⟨hsame, hplace.trans hotherPlace.symm⟩

private theorem mem_namesAt_override_iff {name : String} :
    name ∈ namesAt (override shared own) location ↔
      name ∈ namesAt shared location ∨ name ∈ namesAt own location := by
  rw [mem_namesAt_iff, keys_override, List.mem_append, mem_newKeys_iff, mem_namesAt_iff,
    mem_namesAt_iff]
  tauto

/-- Own parameters add no name twice, and none that is there already. -/
private theorem nodup_namesAt_override_iff :
    (namesAt (override shared own) location).Nodup ↔ (namesAt shared location).Nodup := by
  rw [nodup_namesAt_iff, nodup_namesAt_iff, keys_override, List.filter_append, List.nodup_append]
  refine ⟨And.left, fun hshared => ⟨hshared, (nodup_newKeys shared own).filter _, ?_⟩⟩
  rintro key hkey other hother rfl
  exact (mem_newKeys_iff.mp (List.mem_filter.mp hother).1).2 (List.mem_filter.mp hkey).1

end Model

namespace Emit

open Model

variable {api : Api} {shared own : List Parameter} {e : Endpoint} {location : Location}

/-- What a route declares for the parameters that are carried at a place. -/
def validatorAt? (e : Endpoint) (location : Location) : Option Literal :=
  (findMember? (routeMembers e) "request").bind fun request =>
    findMember? request.members (locationLabel location)

/-- The keys of an object that may be left out. -/
def keysOf? (object : Option Literal) : List String :=
  ((object.map Literal.members).getD []).map (·.1)

theorem validatorAt?_eq (e : Endpoint) (location : Location) : validatorAt? e location =
    if e.parametersIn location = [] then none
    else
      some (.object "z.object(\x7b" ((e.parametersIn location).map parameterMember) "\x7d)") := by
  by_cases hnone : requestMembers e = []
  · have hrequest : findMember? (routeMembers e) "request" = none := by
      simp [routeMembers, findMember?, hnone]
    have hparameters : e.parametersIn location = [] := by
      simp [Endpoint.parametersIn, (requestMembers_eq_nil_iff.mp hnone).1]
    rw [validatorAt?, hrequest, if_pos hparameters]
    rfl
  · have hrequest : findMember? (routeMembers e) "request" =
        some (.object "\x7b" (requestMembers e) "\x7d") := by
      simp [routeMembers, findMember?, hnone]
    rw [validatorAt?, hrequest]
    exact (requestDeclared hnone).parameters location

theorem keysOf?_validatorAt? (e : Endpoint) (location : Location) :
    keysOf? (validatorAt? e location) = (e.parametersIn location).map parameterKey := by
  rw [validatorAt?_eq, keysOf?]
  by_cases hnone : e.parametersIn location = []
  · simp [hnone]
  · simp [hnone, Literal.members, parameterMember]

/-- What a key tells of a name: in headers its letters, but not their case. -/
def shownName (location : Location) (name : String) : String :=
  if location = .header then Text.lowercase name else name

/-- A key is as good as what it tells of the name. -/
private theorem nodup_keys_iff : (keysOf? (validatorAt? e location)).Nodup ↔
    ((namesAt e.parameters location).map (shownName location)).Nodup := by
  have hkeys : (e.parametersIn location).map parameterKey =
      ((namesAt e.parameters location).map (shownName location)).map Text.propertyKey := by
    rw [namesAt, List.map_map, List.map_map]
    refine List.map_congr_left fun p hp => ?_
    have hplace : p.location = location := by simpa using (List.mem_filter.mp hp).2
    by_cases hheader : location = .header <;> simp [parameterKey, shownName, hplace, hheader]
  rw [keysOf?_validatorAt?, hkeys, List.nodup_map_iff Text.propertyKey_injective]

/-- When the objects for the parameters of an endpoint have no key twice, by what is shared and what
the operation declares itself. -/
structure KeysDistinct (shared own : List Parameter) (e : Endpoint) : Prop where
  /-- An object has the keys of the parameters at its place in order, and is left out if there are
  none. -/
  keys : ∀ location, keysOf? (validatorAt? e location) = (e.parametersIn location).map parameterKey
  names : ∀ location name, name ∈ namesAt e.parameters location ↔
    name ∈ namesAt shared location ∨ name ∈ namesAt own location
  /-- Outside of headers it is enough that what is shared has no name twice. -/
  plain : ∀ location, location ≠ .header →
    ((keysOf? (validatorAt? e location)).Nodup ↔ (namesAt shared location).Nodup)
  /-- In headers no two of the names may be one but for the case of their letters, either. -/
  headers : (keysOf? (validatorAt? e .header)).Nodup ↔ (namesAt shared .header).Nodup ∧
    ∀ a b, (a ∈ namesAt shared .header ∨ a ∈ namesAt own .header) →
      (b ∈ namesAt shared .header ∨ b ∈ namesAt own .header) →
      Text.lowercase a = Text.lowercase b → a = b
  /-- Where no key is there twice, each parameter is declared as it is. -/
  effective : ∀ location, (keysOf? (validatorAt? e location)).Nodup →
    ∀ p ∈ e.parametersIn location, ∃ object, validatorAt? e location = some object ∧
      findMember? object.members (parameterKey p) = some (parameterMember p).2

theorem keysDistinct (hmerged : e.parameters = override shared own) :
    KeysDistinct shared own e := by
  constructor
  case keys => exact keysOf?_validatorAt? e
  case names =>
    intro location name
    rw [hmerged, mem_namesAt_override_iff]
  case plain =>
    intro location hlocation
    have hshown : shownName location = id := by
      funext name
      exact if_neg hlocation
    rw [nodup_keys_iff, hshown, List.map_id, hmerged, nodup_namesAt_override_iff]
  case headers =>
    have hshown : shownName .header = Text.lowercase := by
      funext name
      exact if_pos rfl
    have hmap (names : List String) : (names.map Text.lowercase).Nodup ↔ names.Nodup ∧
        ∀ a ∈ names, ∀ b ∈ names, Text.lowercase a = Text.lowercase b → a = b :=
      ⟨fun h => ⟨.of_map _ h, (List.nodup_map_iff_inj_on (.of_map _ h)).mp h⟩,
        fun h => (List.nodup_map_iff_inj_on h.1).mpr h.2⟩
    rw [nodup_keys_iff, hshown, hmap, hmerged, nodup_namesAt_override_iff]
    simp only [mem_namesAt_override_iff]
    refine and_congr_right fun _ => ⟨fun h a b ha hb => h a ha b hb, fun h a ha b hb => h a b ha hb⟩
  case effective =>
    intro location hnodup p hp
    have hsome : e.parametersIn location ≠ [] := List.ne_nil_of_mem hp
    refine ⟨_, (validatorAt?_eq e location).trans (if_neg hsome), ?_⟩
    rw [keysOf?_validatorAt?] at hnodup
    refine findMember?_of_mem ?_ (List.mem_map.mpr ⟨p, hp, rfl⟩)
    simpa [Literal.members, parameterMember, Function.comp_def] using hnodup

/-- An endpoint with the keys of its objects, by the operation that declares it and the path item
that shares parameters with it. -/
def KeysDeclared (document : Tree) (e : Endpoint) : Prop :=
  ∃ item ∈ pathItems document, ∃ d ∈ declarationsIn item.1 item.2, d.Names e ∧ ∃ shared own,
    List.Forall₂ DeclaresParameter (keptEntries (item.2.member? "parameters")) shared ∧
    List.Forall₂ DeclaresParameter (keptEntries (d.operation.member? "parameters")) own ∧
    KeysDistinct shared own e

theorem keysDeclared {document : Tree} (hapi : Api.ofTree document = .ok api)
    (he : e ∈ api.endpoints) : KeysDeclared document e := by
  obtain ⟨blocks, hendpoints, hblocks⟩ := ofTree_makes hapi
  rw [hendpoints] at he
  obtain ⟨es, hes, he⟩ := List.mem_flatten.mp he
  obtain ⟨item, hitem, shared, hshared, hmakes⟩ := exists_of_forall₂ hblocks es hes
  obtain ⟨d, hd, method, hkey, hmade⟩ := exists_of_forall₂ hmakes e he
  obtain ⟨_, own, hown, hmerged⟩ := (operationOf_parts hmade).parameters
  exact ⟨item, hitem, d, hd, operationOf_names hkey hmade, shared, own,
    parametersOf_declared hshared, parametersOf_declared hown, keysDistinct hmerged⟩

/-- The keys of all objects for parameters in the generated routes. Outside of headers there is none
twice exactly if the path item does not list a parameter twice, whatever the operation declares; in
headers the names must differ by more than the case of their letters as well. -/
theorem validator_keys_distinct_iff {document : Tree} (hdocument : document.WellFormed)
    (hapi : Api.ofTree document = .ok api) (hcheck : checkApi api = .ok ()) (l : Layout) :
    ∀ g ∈ groups api.endpoints, ∃ text, .ok ⟨l.routesPath g.tag, text.toUTF8⟩ ∈ steps l api ∧
      ∀ e ∈ g.endpoints, Occurs (routeBlock e) text ∧ KeysDeclared document e := by
  intro g hg
  refine ⟨_, (groupWritten (wellFormed_ofTree hdocument hapi) hcheck l hg).routes,
    fun e he => ⟨?_, ?_⟩⟩
  · rw [← routeText_eq]
    exact (occurs_join (List.mem_map_of_mem he)).append_left _
  · exact keysDeclared hapi (forall_mem_groups (fun _ he => he) g hg e he)

/-- A document with one operation, which declares parameters besides those that its path item
shares. Each is given by its name and its place. -/
def sharingDocument (shared own : List (String × String)) : Tree :=
  let parameters (ps : List (String × String)) : Tree :=
    .list (ps.map fun p => .object [("name", .text p.1), ("in", .text p.2)])
  .object
    [("info", .object []),
     ("paths", .object
       [("/pets/\x7bid\x7d", .object
          [("parameters", parameters shared),
           ("get", .object
             [("operationId", .text "getPet"), ("tags", .list [.text "Pets"]),
              ("parameters", parameters own)])])])]

/-- The API with that operation alone. -/
def sharingApi (parameters : List Parameter) : Api :=
  ⟨[⟨"/pets/\x7bid\x7d", .get, "getPet", ["Pets"], parameters, none, []⟩], [], ⟨"", "", none⟩⟩

/-- The operation declares a shared parameter twice more, and headers of different names. -/
def distinctDocument : Tree :=
  sharingDocument [("id", "path"), ("trace", "query")]
    [("id", "path"), ("X-Trace", "header"), ("id", "path"), ("ETag", "header")]

def distinctApi : Api :=
  sharingApi [⟨"id", .path, true, none⟩, ⟨"trace", .query, false, none⟩,
    ⟨"X-Trace", .header, false, none⟩, ⟨"ETag", .header, false, none⟩]

theorem distinctDocument_keys : distinctDocument.WellFormed ∧
    Api.ofTree distinctDocument = .ok distinctApi ∧ checkApi distinctApi = .ok () ∧
    ∃ e, groups distinctApi.endpoints = [⟨"Pets", [e]⟩] ∧ KeysDeclared distinctDocument e ∧
      keysOf? (validatorAt? e .path) = ["id"] ∧ keysOf? (validatorAt? e .query) = ["trace"] ∧
      keysOf? (validatorAt? e .header) = ["\"x-trace\"", "etag"] := by
  have hdocument : distinctDocument.WellFormed := by
    simp [distinctDocument, sharingDocument, Tree.wellFormed_object_iff, Tree.wellFormed_list_iff,
      Tree.WellFormed.text]
  have hapi : Api.ofTree distinctDocument = .ok distinctApi := rfl
  have hgroups := validator_keys_distinct_iff hdocument hapi rfl defaultLayout
  obtain ⟨text, _, hroutes⟩ := hgroups _ (List.mem_singleton_self _)
  exact ⟨hdocument, hapi, rfl, _, rfl, (hroutes _ (List.mem_singleton_self _)).2, by decide,
    by decide, by decide⟩

/-- The path item shares one parameter twice, and the headers differ in their capitals. -/
def repeatingDocument : Tree :=
  sharingDocument [("id", "path"), ("id", "path")] [("X-Trace", "header"), ("x-trace", "header")]

def repeatingApi : Api :=
  sharingApi [⟨"id", .path, true, none⟩, ⟨"id", .path, true, none⟩,
    ⟨"X-Trace", .header, false, none⟩, ⟨"x-trace", .header, false, none⟩]

theorem repeatingDocument_keys : Api.ofTree repeatingDocument = .ok repeatingApi ∧
    checkApi repeatingApi = .ok () ∧ ∃ e, groups repeatingApi.endpoints = [⟨"Pets", [e]⟩] ∧
      keysOf? (validatorAt? e .path) = ["id", "id"] ∧
      keysOf? (validatorAt? e .header) = ["\"x-trace\"", "\"x-trace\""] ∧
      ¬ (keysOf? (validatorAt? e .path)).Nodup ∧ ¬ (keysOf? (validatorAt? e .header)).Nodup := by
  have hkeys {e : Endpoint} (hpath : keysOf? (validatorAt? e .path) = ["id", "id"])
      (hheader : keysOf? (validatorAt? e .header) = ["\"x-trace\"", "\"x-trace\""]) :
      ¬ (keysOf? (validatorAt? e .path)).Nodup ∧ ¬ (keysOf? (validatorAt? e .header)).Nodup := by
    simp [hpath, hheader]
  refine ⟨rfl, rfl, _, rfl, ?_, ?_, hkeys ?_ ?_⟩ <;> decide

end Emit

end ApiSkeleton
