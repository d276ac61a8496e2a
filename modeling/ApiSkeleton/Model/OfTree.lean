import ApiSkeleton.Model.Basic
import ApiSkeleton.Tree.Printer
import ApiSkeleton.Failure

namespace ApiSkeleton.Model

/-- A result, or the first violation. -/
abbrev Checked (α : Type) := Except Failure α

/-- The failure of a document at a place. -/
def invalid {α : Type} (location : String) (fault : DocumentFault) : Checked α :=
  .error (.invalidDocument location fault)

/-- The target of a reference as the document writes it. -/
def referenceOf? (t : Tree) : Option String := (t.member? "$ref").map Tree.asPrinted

/-- The place of an item in a list. -/
def itemLocation (location : String) (index : Nat) : String :=
  location ++ "[" ++ toString index ++ "]"

def metadataOf (info : Option Tree) : Checked Metadata :=
  match info with
  | some (.object members) =>
    let text (key : String) := (findMember? members key).map Tree.asPrinted
    .ok ⟨(text "title").getD "", (text "version").getD "", text "description"⟩
  | _ => invalid "info" .missingInfo

/-- The tags from the given index on, less those seen before. -/
def tagsFrom (location : String) (index : Nat) (seen : List String) :
    List Tree → Checked (List String)
  | [] => .ok seen
  | .text tag :: rest =>
    tagsFrom location (index + 1) (if seen.contains tag then seen else seen ++ [tag]) rest
  | _ :: _ => invalid (itemLocation location index) .tagNotText

/-- The tags of an operation, without repetitions. -/
def tagsOf (location : String) (tags : Option Tree) : Checked (List String) :=
  match tags with
  | none | some .null => .ok [defaultTag]
  | some (.list items) => do
    let out ← tagsFrom location 0 [] items
    return if out.isEmpty then [defaultTag] else out
  | some _ => invalid location .tagsNotList

/-- A parameter, none for one that a cookie carries. -/
def parameterOf (location : String) (entry : Tree) : Checked (Option Parameter) :=
  match referenceOf? entry with
  | some reference => .error (.unsupportedReference reference location)
  | none =>
    match entry with
    | .object members =>
      match findMember? members "name" with
      | some (.text name) =>
        match findMember? members "in" with
        | some (.text place) =>
          match Location.ofName? place with
          | some carried =>
            let required := ((findMember? members "required").bind Tree.asBool?).getD
              (carried = .path)
            .ok (some ⟨name, carried, required, findMember? members "schema"⟩)
          | none =>
            if place = "cookie" then .ok none else invalid location (.unknownLocation place)
        | _ => invalid location .parameterWithoutLocation
      | _ => invalid location .parameterWithoutName
    | _ => invalid location .parameterNotMapping

/-- The parameters from the given index on. -/
def parametersFrom (location : String) (index : Nat) : List Tree → Checked (List Parameter)
  | [] => .ok []
  | entry :: rest => do
    let first ← parameterOf (itemLocation location index) entry
    let others ← parametersFrom location (index + 1) rest
    return first.toList ++ others

def parametersOf (location : String) (list : Option Tree) : Checked (List Parameter) :=
  match list with
  | none | some .null => .ok []
  | some (.list entries) => parametersFrom location 0 entries
  | some _ => invalid location .parametersNotList

/-- Puts a parameter in the place of the one with its name and location, or at the end. -/
def overrideOne (p : Parameter) : List Parameter → List Parameter
  | [] => [p]
  | q :: rest =>
    if q.name = p.name ∧ q.location = p.location then p :: rest else q :: overrideOne p rest

/-- The shared parameters of a path item with an operation's own ones taking effect. -/
def override (shared own : List Parameter) : List Parameter :=
  own.foldl (fun merged p => overrideOne p merged) shared

/-- The forms of a body; none if the document lists none at all. -/
def contentOf (location : String) (content : Option Tree) : Checked (Option (List Media)) :=
  match content with
  | none | some .null => .ok none
  | some (.object members) =>
    .ok (some (members.map fun (mediaType, media) => ⟨mediaType, media.member? "schema"⟩))
  | some _ => invalid location .mediaTypesNotMapping

/-- The body of a request. A reference counts as none; it is refused only where a parameter or a
    response stands. -/
def requestBodyOf (location : String) (body : Option Tree) : Checked (Option RequestBody) :=
  match body with
  | none | some .null => .ok none
  | some t =>
    if (referenceOf? t).isSome then .ok none
    else
      match t with
      | .object members => do
        let content ← contentOf (location ++ ".content") (findMember? members "content")
        let required := ((findMember? members "required").bind Tree.asBool?).getD false
        return some ⟨required, content.getD []⟩
      | _ => invalid location .bodyNotMapping

def responseOf (location status : String) (response : Tree) : Checked Response :=
  match referenceOf? response with
  | some reference => .error (.unsupportedReference reference location)
  | none =>
    match response with
    | .object members => do
      let content ← contentOf (location ++ ".content") (findMember? members "content")
      let description := ((findMember? members "description").map Tree.asPrinted).getD ""
      return ⟨status, description, content⟩
    | _ => invalid location .responseNotMapping

def responsesFrom (location : String) : List (String × Tree) → Checked (List Response)
  | [] => .ok []
  | (status, response) :: rest => do
    let first ← responseOf (location ++ "." ++ status) status response
    let others ← responsesFrom location rest
    return first :: others

def responsesOf (location : String) (responses : Option Tree) : Checked (List Response) :=
  match responses with
  | none | some .null => .ok []
  | some (.object members) => responsesFrom location members
  | some _ => invalid location .responsesNotMapping

def operationOf (path : String) (method : Method) (shared : List Parameter) (operation : Tree) :
    Checked Endpoint :=
  let location := "paths." ++ path ++ "." ++ method.key
  match operation with
  | .object members => do
    let declared := (findMember? members "operationId").bind Tree.asText?
    let tags ← tagsOf (location ++ ".tags") (findMember? members "tags")
    let own ← parametersOf (location ++ ".parameters") (findMember? members "parameters")
    let body ← requestBodyOf (location ++ ".requestBody") (findMember? members "requestBody")
    let responses ← responsesOf (location ++ ".responses") (findMember? members "responses")
    return {
      path, method, tags, responses
      operationId := declared.getD (synthesizedId method.name path)
      parameters := override shared own
      requestBody := body }
  | _ => invalid location .operationNotMapping

/-- The operations among the members of a path item. -/
def operationsFrom (path : String) (shared : List Parameter) :
    List (String × Tree) → Checked (List Endpoint)
  | [] => .ok []
  | (key, operation) :: rest =>
    match Method.ofKey? key with
    | none => operationsFrom path shared rest
    | some method => do
      let first ← operationOf path method shared operation
      let others ← operationsFrom path shared rest
      return first :: others

def pathItemOf (path : String) (item : Tree) : Checked (List Endpoint) :=
  let location := "paths." ++ path
  match item with
  | .object members => do
    let shared ← parametersOf (location ++ ".parameters") (findMember? members "parameters")
    operationsFrom path shared members
  | _ => invalid location .pathItemNotMapping

def pathItemsFrom : List (String × Tree) → Checked (List Endpoint)
  | [] => .ok []
  | (path, item) :: rest => do
    let first ← pathItemOf path item
    let others ← pathItemsFrom rest
    return first ++ others

def endpointsOf (paths : Option Tree) : Checked (List Endpoint) :=
  match paths with
  | none | some .null => .ok []
  | some (.object members) => pathItemsFrom members
  | some _ => invalid "paths" .notMapping

/-- The texts of a list; what is no text is passed over. -/
def textsOf (list : Option Tree) : List String :=
  ((list.bind Tree.asList?).getD []).filterMap Tree.asText?

/-- The schema under a name, if it is an object with properties. -/
def schemaOf? (name : String) (schema : Tree) : Option Schema :=
  match schema with
  | .object members =>
    (findMember? members "properties").map fun properties =>
      ⟨name, properties.asObject?.getD [], textsOf (findMember? members "required")⟩
  | _ => none

/-- The schemas of a document in order. -/
def schemasOf (components : Option Tree) : List Schema :=
  (((components.bind (·.member? "schemas")).bind Tree.asObject?).getD []).filterMap
    fun (name, schema) => schemaOf? name schema

/-- The API that a document describes, or the first violation. The walk goes through the root,
    `info` and `paths`, then for each path item through its shape, its parameters and its
    operations, and for each operation through its shape, tags, parameters, body and responses. -/
def Api.ofTree (document : Tree) : Checked Api :=
  match document with
  | .object members => do
    let metadata ← metadataOf (findMember? members "info")
    let endpoints ← endpointsOf (findMember? members "paths")
    return ⟨endpoints, schemasOf (findMember? members "components"), metadata⟩
  | _ => invalid "$" .rootNotMapping

end ApiSkeleton.Model
