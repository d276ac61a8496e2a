import Mathlib.Data.List.Forall2
import ApiSkeleton.Model.OfTree
import ApiSkeleton.Proofs.Outcome

namespace ApiSkeleton.Model

/-- A member that may be missing or null, and fulfils a condition otherwise. -/
def Optionally (condition : Tree → Prop) : Option Tree → Prop
  | none | some .null => True
  | some t => condition t

def IsObject (t : Tree) : Prop := ∃ members, t = .object members

/-- An object, not a reference, that names itself and one of the four places. -/
def IsParameter (entry : Tree) : Prop :=
  ∃ members, entry = .object members ∧ findMember? members "$ref" = none ∧
    (∃ name, findMember? members "name" = some (.text name)) ∧
    ∃ place ∈ ["path", "query", "header", "cookie"], findMember? members "in" = some (.text place)

def IsParameterList (t : Tree) : Prop :=
  ∃ entries, t = .list entries ∧ ∀ entry ∈ entries, IsParameter entry

def IsTagList (t : Tree) : Prop := ∃ items, t = .list items ∧ ∀ item ∈ items, ∃ s, item = .text s

/-- What is common to bodies and responses: the forms they list are an object. -/
def HasContent (members : List (String × Tree)) : Prop :=
  Optionally IsObject (findMember? members "content")

/-- A body may be a reference, whatever else it holds. -/
def IsRequestBody (t : Tree) : Prop :=
  ∃ members, t = .object members ∧
    ((findMember? members "$ref").isSome ∨ HasContent members)

/-- A response must not be a reference. -/
def IsResponse (t : Tree) : Prop :=
  ∃ members, t = .object members ∧ findMember? members "$ref" = none ∧ HasContent members

def IsResponseTable (t : Tree) : Prop :=
  ∃ members, t = .object members ∧ ∀ entry ∈ members, IsResponse entry.2

def IsOperation (t : Tree) : Prop :=
  ∃ members, t = .object members ∧
    Optionally IsTagList (findMember? members "tags") ∧
    Optionally IsParameterList (findMember? members "parameters") ∧
    Optionally IsRequestBody (findMember? members "requestBody") ∧
    Optionally IsResponseTable (findMember? members "responses")

/-- The keys of operations in lower case. -/
def methodKeys : List String :=
  ["get", "put", "post", "delete", "options", "head", "patch", "trace"]

/-- Whether a key of a path item declares an operation. -/
def declaresOperation (key : String) : Bool := methodKeys.contains (Text.asciiLowercase key)

/-- The parameters are looked at even where no operation shares them. -/
def IsPathItem (t : Tree) : Prop :=
  ∃ members, t = .object members ∧
    Optionally IsParameterList (findMember? members "parameters") ∧
    ∀ entry ∈ members, declaresOperation entry.1 → IsOperation entry.2

def IsPathTable (t : Tree) : Prop :=
  ∃ members, t = .object members ∧ ∀ entry ∈ members, IsPathItem entry.2

/-- A document that describes an API. -/
def IsDescription (document : Tree) : Prop :=
  ∃ members, document = .object members ∧
    (∃ info, findMember? members "info" = some info ∧ IsObject info) ∧
    Optionally IsPathTable (findMember? members "paths")

/-- The items of a list; nothing else has items. -/
def itemsOf (t : Option Tree) : List Tree := (t.bind Tree.asList?).getD []

/-- The members of an object; nothing else has members. -/
def membersOf (t : Option Tree) : List (String × Tree) := (t.bind Tree.asObject?).getD []

/-- An operation where a document declares it. -/
structure Declaration where
  path : String
  /-- The key as it is written. -/
  key : String
  operation : Tree

/-- The operations that a path item declares. -/
def declarationsIn (path : String) (item : Tree) : List Declaration :=
  ((item.asObject?.getD []).filter fun entry => declaresOperation entry.1).map
    fun entry => ⟨path, entry.1, entry.2⟩

/-- The operations that a document declares, path by path and key by key. -/
def declarations (document : Tree) : List Declaration :=
  (((document.member? "paths").bind Tree.asObject?).getD []).flatMap
    fun entry => declarationsIn entry.1 entry.2

/-- The method that an operation is declared under, as it is sent. -/
def Declaration.method (d : Declaration) : String := Text.uppercase (Text.asciiLowercase d.key)

/-- The identifier that an operation declares, or the one made from its method and path. -/
def Declaration.id (d : Declaration) : String :=
  ((d.operation.member? "operationId").bind Tree.asText?).getD (synthesizedId d.method d.path)

/-- An endpoint under the path, the method and the identifier that a declaration gives it. -/
structure Declaration.Names (d : Declaration) (e : Endpoint) : Prop where
  path : e.path = d.path
  method : e.method.name = d.method
  id : e.operationId = d.id

@[simp] theorem not_succeeds_invalid {α : Type} (location : String) (fault : DocumentFault) :
    ¬ Succeeds (invalid location fault : Checked α) := not_succeeds_error _

/-- Cookies are passed over, so their place is accepted like the three that are kept. -/
theorem place_accepted_iff (place : String) :
    ((Location.ofName? place).isSome ∨ place = "cookie") ↔
      place ∈ ["path", "query", "header", "cookie"] := by
  unfold Location.ofName?
  split <;> simp_all

theorem parameterOf_succeeds_iff (location : String) (entry : Tree) :
    Succeeds (parameterOf location entry) ↔ IsParameter entry := by
  cases entry with
  | object members =>
    simp only [parameterOf, referenceOf?, Tree.member?, IsParameter, Tree.object.injEq,
      exists_eq_left']
    cases href : findMember? members "$ref" with
    | some reference => simp
    | none =>
      simp only [Option.map_none, true_and]
      cases hname : findMember? members "name" with
      | none => simp
      | some name =>
        cases name with
        | text name =>
          cases hplace : findMember? members "in" with
          | none => simp
          | some place =>
            cases place with
            | text place =>
              simp only [Option.some.injEq, Tree.text.injEq, exists_eq', true_and,
                exists_eq_right', ← place_accepted_iff]
              cases Location.ofName? place with
              | some carried => simp
              | none => by_cases hcookie : place = "cookie" <;> simp [hcookie]
            | _ => simp
        | _ => simp
  | _ => simp [parameterOf, referenceOf?, Tree.member?, IsParameter]

theorem parametersFrom_succeeds_iff (location : String) (index : Nat) (entries : List Tree) :
    Succeeds (parametersFrom location index entries) ↔ ∀ entry ∈ entries, IsParameter entry := by
  induction entries generalizing index with
  | nil => simp [parametersFrom]
  | cons entry rest ih =>
    rw [parametersFrom, succeeds_both_iff, parameterOf_succeeds_iff, ih, List.forall_mem_cons]

theorem parametersOf_succeeds_iff (location : String) (list : Option Tree) :
    Succeeds (parametersOf location list) ↔ Optionally IsParameterList list := by
  rcases list with _ | t
  · simp [parametersOf, Optionally]
  · cases t <;> simp [parametersOf, Optionally, IsParameterList, parametersFrom_succeeds_iff]

theorem tagsFrom_succeeds_iff (location : String) (index : Nat) (seen : List String)
    (items : List Tree) :
    Succeeds (tagsFrom location index seen items) ↔ ∀ item ∈ items, ∃ s, item = .text s := by
  induction items generalizing index seen with
  | nil => simp [tagsFrom]
  | cons item rest ih => cases item <;> simp [tagsFrom, ih]

theorem tagsOf_succeeds_iff (location : String) (tags : Option Tree) :
    Succeeds (tagsOf location tags) ↔ Optionally IsTagList tags := by
  rcases tags with _ | t
  · simp [tagsOf, Optionally]
  · cases t with
    | list items =>
      simp only [tagsOf, Optionally, IsTagList, Tree.list.injEq, exists_eq_left']
      rw [succeeds_return_iff, tagsFrom_succeeds_iff]
    | _ => simp [tagsOf, Optionally, IsTagList]

theorem contentOf_succeeds_iff (location : String) (content : Option Tree) :
    Succeeds (contentOf location content) ↔ Optionally IsObject content := by
  rcases content with _ | t
  · simp [contentOf, Optionally]
  · cases t <;> simp [contentOf, Optionally, IsObject]

theorem requestBodyOf_succeeds_iff (location : String) (body : Option Tree) :
    Succeeds (requestBodyOf location body) ↔ Optionally IsRequestBody body := by
  rcases body with _ | t
  · simp [requestBodyOf, Optionally]
  · cases t with
    | object members =>
      simp only [requestBodyOf, Optionally, IsRequestBody, HasContent, Tree.object.injEq,
        exists_eq_left', referenceOf?, Tree.member?, Option.isSome_map]
      by_cases href : (findMember? members "$ref").isSome
      · simp [href]
      · simp only [href, Bool.false_eq_true, if_false, false_or]
        rw [succeeds_return_iff, contentOf_succeeds_iff]
        rfl
    | _ => simp [requestBodyOf, Optionally, IsRequestBody, referenceOf?, Tree.member?]

theorem responseOf_succeeds_iff (location status : String) (response : Tree) :
    Succeeds (responseOf location status response) ↔ IsResponse response := by
  cases response with
  | object members =>
    simp only [responseOf, IsResponse, HasContent, Tree.object.injEq, exists_eq_left',
      referenceOf?, Tree.member?]
    cases findMember? members "$ref" with
    | some reference => simp
    | none =>
      simp only [Option.map_none, true_and]
      rw [succeeds_return_iff, contentOf_succeeds_iff]
  | _ => simp [responseOf, IsResponse, referenceOf?, Tree.member?]

theorem responsesFrom_succeeds_iff (location : String) (members : List (String × Tree)) :
    Succeeds (responsesFrom location members) ↔ ∀ entry ∈ members, IsResponse entry.2 := by
  induction members with
  | nil => simp [responsesFrom]
  | cons entry rest ih =>
    rw [responsesFrom, succeeds_both_iff, responseOf_succeeds_iff, ih, List.forall_mem_cons]

theorem responsesOf_succeeds_iff (location : String) (responses : Option Tree) :
    Succeeds (responsesOf location responses) ↔ Optionally IsResponseTable responses := by
  rcases responses with _ | t
  · simp [responsesOf, Optionally]
  · cases t <;> simp [responsesOf, Optionally, IsResponseTable, responsesFrom_succeeds_iff]

theorem operationOf_succeeds_iff (path : String) (method : Method) (shared : List Parameter)
    (operation : Tree) :
    Succeeds (operationOf path method shared operation) ↔ IsOperation operation := by
  cases operation with
  | object members =>
    simp only [operationOf, IsOperation, Tree.object.injEq, exists_eq_left']
    rw [succeeds_bind_iff, tagsOf_succeeds_iff]
    intro tags
    rw [succeeds_bind_iff, parametersOf_succeeds_iff]
    intro own
    rw [succeeds_bind_iff, requestBodyOf_succeeds_iff]
    intro body
    rw [succeeds_return_iff, responsesOf_succeeds_iff]
  | _ => simp [operationOf, IsOperation]

/-- A key declares an operation exactly if it stands for one of the methods. -/
theorem declaresOperation_iff (key : String) :
    declaresOperation key = (Method.ofKey? key).isSome := by
  unfold declaresOperation Method.ofKey?
  split <;> simp_all [methodKeys]

theorem operationsFrom_succeeds_iff (path : String) (shared : List Parameter)
    (members : List (String × Tree)) :
    Succeeds (operationsFrom path shared members) ↔
      ∀ entry ∈ members, declaresOperation entry.1 → IsOperation entry.2 := by
  induction members with
  | nil => simp [operationsFrom]
  | cons entry rest ih =>
    obtain ⟨key, operation⟩ := entry
    simp only [operationsFrom, List.forall_mem_cons, declaresOperation_iff] at ih ⊢
    cases Method.ofKey? key with
    | none => simpa using ih
    | some method =>
      simp only [Option.isSome_some, forall_const]
      rw [succeeds_both_iff, operationOf_succeeds_iff, ih]

theorem pathItemOf_succeeds_iff (path : String) (item : Tree) :
    Succeeds (pathItemOf path item) ↔ IsPathItem item := by
  cases item with
  | object members =>
    simp only [pathItemOf, IsPathItem, Tree.object.injEq, exists_eq_left']
    rw [succeeds_bind_iff (fun shared => operationsFrom_succeeds_iff path shared members),
      parametersOf_succeeds_iff]
  | _ => simp [pathItemOf, IsPathItem]

theorem pathItemsFrom_succeeds_iff (members : List (String × Tree)) :
    Succeeds (pathItemsFrom members) ↔ ∀ entry ∈ members, IsPathItem entry.2 := by
  induction members with
  | nil => simp [pathItemsFrom]
  | cons entry rest ih =>
    rw [pathItemsFrom, succeeds_both_iff, pathItemOf_succeeds_iff, ih, List.forall_mem_cons]

theorem endpointsOf_succeeds_iff (paths : Option Tree) :
    Succeeds (endpointsOf paths) ↔ Optionally IsPathTable paths := by
  rcases paths with _ | t
  · simp [endpointsOf, Optionally]
  · cases t <;> simp [endpointsOf, Optionally, IsPathTable, pathItemsFrom_succeeds_iff]

theorem metadataOf_succeeds_iff (info : Option Tree) :
    Succeeds (metadataOf info) ↔ ∃ t, info = some t ∧ IsObject t := by
  rcases info with _ | t
  · simp [metadataOf]
  · cases t <;> simp [metadataOf, IsObject]

theorem ofTree_succeeds_iff (document : Tree) :
    Succeeds (Api.ofTree document) ↔ IsDescription document := by
  cases document with
  | object members =>
    simp only [Api.ofTree, IsDescription, Tree.object.injEq, exists_eq_left']
    rw [succeeds_bind_iff, metadataOf_succeeds_iff]
    intro metadata
    rw [succeeds_return_iff, endpointsOf_succeeds_iff]
  | _ => simp [Api.ofTree, IsDescription]

theorem name_of_ofKey? {key : String} {method : Method} (h : Method.ofKey? key = some method) :
    method.name = Text.uppercase (Text.asciiLowercase key) := by
  unfold Method.ofKey? at h
  split at h
  case h_9 => cases h
  all_goals
    cases h
    simp_all only
    decide

/-- What an endpoint is put together from: each part is read from one member of its operation. -/
structure OperationParts (under : String) (m : Method) (shared : List Parameter)
    (operation : Tree) (e : Endpoint) : Prop where
  path : e.path = under
  method : e.method = m
  id : e.operationId =
    ((operation.member? "operationId").bind Tree.asText?).getD (synthesizedId m.name under)
  tags : ∃ location, tagsOf location (operation.member? "tags") = .ok e.tags
  parameters : ∃ location own, parametersOf location (operation.member? "parameters") = .ok own ∧
    e.parameters = override shared own
  requestBody : ∃ location,
    requestBodyOf location (operation.member? "requestBody") = .ok e.requestBody
  responses : ∃ location, responsesOf location (operation.member? "responses") = .ok e.responses

theorem operationOf_parts {path : String} {method : Method} {shared : List Parameter}
    {operation : Tree} {e : Endpoint} (h : operationOf path method shared operation = .ok e) :
    OperationParts path method shared operation e := by
  cases operation with
  | object members =>
    simp only [operationOf, bind_eq_ok_iff, pure_eq_ok, Except.ok.injEq] at h
    obtain ⟨tags, htags, own, hown, body, hbody, responses, hresponses, rfl⟩ := h
    exact {
      path := rfl
      method := rfl
      id := rfl
      tags := ⟨_, htags⟩
      parameters := ⟨_, own, hown, rfl⟩
      requestBody := ⟨_, hbody⟩
      responses := ⟨_, hresponses⟩ }
  | _ => simp [operationOf, invalid] at h

theorem operationOf_names {path key : String} {method : Method} {shared : List Parameter}
    {operation : Tree} {e : Endpoint} (hkey : Method.ofKey? key = some method)
    (h : operationOf path method shared operation = .ok e) :
    Declaration.Names ⟨path, key, operation⟩ e := by
  have hparts := operationOf_parts h
  have hmethod := name_of_ofKey? hkey
  exact ⟨hparts.path, by rw [hparts.method, hmethod, Declaration.method],
    by rw [hparts.id, hmethod, Declaration.id, Declaration.method]⟩

/-- An endpoint is what an operation is read as, beside the parameters that its path item shares. -/
def Declaration.Makes (shared : List Parameter) (d : Declaration) (e : Endpoint) : Prop :=
  ∃ method, Method.ofKey? d.key = some method ∧
    operationOf d.path method shared d.operation = .ok e

/-- The endpoints of a path item are what its operations are read as, all beside the same
    parameters. -/
def ItemMakes (item : String × Tree) (es : List Endpoint) : Prop :=
  ∃ shared, parametersOf ("paths." ++ item.1 ++ ".parameters") (item.2.member? "parameters") =
      .ok shared ∧
    List.Forall₂ (Declaration.Makes shared) (declarationsIn item.1 item.2) es

/-- The path items of a document. -/
def pathItems (document : Tree) : List (String × Tree) := membersOf (document.member? "paths")

theorem operationsFrom_makes {path : String} {shared : List Parameter}
    {members : List (String × Tree)} {es : List Endpoint}
    (h : operationsFrom path shared members = .ok es) :
    List.Forall₂ (Declaration.Makes shared) (declarationsIn path (.object members)) es := by
  induction members generalizing es with
  | nil =>
    cases h
    exact .nil
  | cons entry rest ih =>
    obtain ⟨key, operation⟩ := entry
    simp only [operationsFrom] at h
    cases hkey : Method.ofKey? key with
    | none =>
      rw [hkey] at h
      simpa [declarationsIn, declaresOperation_iff, hkey, Tree.asObject?] using ih h
    | some method =>
      simp only [hkey, bind_eq_ok_iff, pure_eq_ok, Except.ok.injEq] at h
      obtain ⟨first, hfirst, others, hothers, rfl⟩ := h
      have hrest := ih hothers
      simp only [declarationsIn, declaresOperation_iff, Tree.asObject?, Option.getD_some, hkey,
        List.filter_cons, Option.isSome_some, if_true, List.map_cons] at hrest ⊢
      exact .cons ⟨method, hkey, hfirst⟩ hrest

theorem pathItemOf_makes {path : String} {item : Tree} {es : List Endpoint}
    (h : pathItemOf path item = .ok es) : ItemMakes (path, item) es := by
  cases item with
  | object members =>
    simp only [pathItemOf, bind_eq_ok_iff] at h
    obtain ⟨shared, hshared, hes⟩ := h
    exact ⟨shared, hshared, operationsFrom_makes hes⟩
  | _ => simp [pathItemOf, invalid] at h

theorem pathItemsFrom_makes {members : List (String × Tree)} {es : List Endpoint}
    (h : pathItemsFrom members = .ok es) :
    ∃ blocks : List (List Endpoint), es = blocks.flatten ∧
      List.Forall₂ ItemMakes members blocks := by
  induction members generalizing es with
  | nil =>
    cases h
    exact ⟨[], rfl, .nil⟩
  | cons entry rest ih =>
    simp only [pathItemsFrom, bind_eq_ok_iff, pure_eq_ok, Except.ok.injEq] at h
    obtain ⟨first, hfirst, others, hothers, rfl⟩ := h
    obtain ⟨blocks, rfl, hblocks⟩ := ih hothers
    exact ⟨first :: blocks, rfl, .cons (pathItemOf_makes hfirst) hblocks⟩

/-- The endpoints of an API, path item by path item. -/
theorem ofTree_makes {document : Tree} {api : Api} (h : Api.ofTree document = .ok api) :
    ∃ blocks : List (List Endpoint), api.endpoints = blocks.flatten ∧
      List.Forall₂ ItemMakes (pathItems document) blocks := by
  cases document with
  | object members =>
    simp only [Api.ofTree, bind_eq_ok_iff, pure_eq_ok, Except.ok.injEq] at h
    obtain ⟨metadata, _, endpoints, hendpoints, rfl⟩ := h
    unfold endpointsOf at hendpoints
    split at hendpoints
    case h_1 hpaths =>
      cases hendpoints
      exact ⟨[], rfl, by simp [pathItems, membersOf, Tree.member?, hpaths]⟩
    case h_2 hpaths =>
      cases hendpoints
      exact ⟨[], rfl, by simp [pathItems, membersOf, Tree.member?, hpaths, Tree.asObject?]⟩
    case h_3 items hpaths =>
      have hitems : pathItems (.object members) = items := by
        simp [pathItems, membersOf, Tree.member?, hpaths, Tree.asObject?]
      rw [hitems]
      exact pathItemsFrom_makes hendpoints
    case h_4 => cases hendpoints
  | _ => simp [Api.ofTree, invalid] at h

/-- What holds of an operation and what it is read as holds of all declarations and endpoints. -/
theorem ofTree_forall₂ {R : Declaration → Endpoint → Prop}
    (hmakes : ∀ shared d e, d.Makes shared e → R d e) {document : Tree} {api : Api}
    (h : Api.ofTree document = .ok api) :
    List.Forall₂ R (declarations document) api.endpoints := by
  obtain ⟨blocks, hendpoints, hblocks⟩ := ofTree_makes h
  have hitems : List.Forall₂ (List.Forall₂ R)
      ((pathItems document).map fun item => declarationsIn item.1 item.2) blocks := by
    rw [List.forall₂_map_left_iff]
    refine hblocks.imp ?_
    rintro item es ⟨shared, _, hes⟩
    exact hes.imp (hmakes shared)
  rw [hendpoints]
  exact List.rel_flatten hitems

theorem ofTree_names {document : Tree} {api : Api} (h : Api.ofTree document = .ok api) :
    List.Forall₂ Declaration.Names (declarations document) api.endpoints := by
  refine ofTree_forall₂ ?_ h
  rintro shared d e ⟨method, hkey, he⟩
  exact operationOf_names hkey he

/-- A document is read exactly if it fulfils the conditions on its shape, and every operation that
    it declares has then become one endpoint, path by path and key by key. -/
theorem ofTree_accepts_descriptions (document : Tree) :
    (Succeeds (Api.ofTree document) ↔ IsDescription document) ∧
      ∀ api, Api.ofTree document = .ok api →
        List.Forall₂ Declaration.Names (declarations document) api.endpoints :=
  ⟨ofTree_succeeds_iff document, fun _ => ofTree_names⟩

/-- A document with one operation under a key in capitals, one with a referenced body, and one
    member of the path item that is no operation. -/
def petDocument : Tree :=
  .object
    [("info", .object [("title", .text "Pets")]),
     ("paths", .object
       [("/pets/{id}", .object
          [("summary", .text "one pet"),
           ("parameters", .list [.object [("name", .text "id"), ("in", .text "path")]]),
           ("GET", .object [("operationId", .text "onePet")]),
           ("delete", .object [("requestBody", .object [("$ref", .null)])])])])]

theorem petDocument_endpoints :
    ∃ api, Api.ofTree petDocument = .ok api ∧
      List.Forall₂ Declaration.Names (declarations petDocument) api.endpoints ∧
      (declarations petDocument).map (·.id) = ["onePet", "DELETEpetsid"] :=
  ⟨_, rfl, (ofTree_accepts_descriptions petDocument).2 _ rfl, by decide⟩

end ApiSkeleton.Model
