import ApiSkeleton.Tree.Basic
import ApiSkeleton.Text.Case

namespace ApiSkeleton.Model

/-- The methods that a path item may declare operations for. -/
inductive Method where
  | get
  | put
  | post
  | delete
  | options
  | head
  | patch
  | trace
deriving DecidableEq, Inhabited

/-- The method as a key of a path item. -/
def Method.key : Method → String
  | .get => "get"
  | .put => "put"
  | .post => "post"
  | .delete => "delete"
  | .options => "options"
  | .head => "head"
  | .patch => "patch"
  | .trace => "trace"

/-- The method as it is sent. -/
def Method.name : Method → String
  | .get => "GET"
  | .put => "PUT"
  | .post => "POST"
  | .delete => "DELETE"
  | .options => "OPTIONS"
  | .head => "HEAD"
  | .patch => "PATCH"
  | .trace => "TRACE"

/-- The method that a key declares; the case of ASCII letters does not count. -/
def Method.ofKey? (key : String) : Option Method :=
  match Text.asciiLowercase key with
  | "get" => some .get
  | "put" => some .put
  | "post" => some .post
  | "delete" => some .delete
  | "options" => some .options
  | "head" => some .head
  | "patch" => some .patch
  | "trace" => some .trace
  | _ => none

/-- Where a request carries a parameter. Cookies are not among them. -/
inductive Location where
  | path
  | query
  | header
deriving DecidableEq, Inhabited

def Location.name : Location → String
  | .path => "path"
  | .query => "query"
  | .header => "header"

def Location.ofName? : String → Option Location
  | "path" => some .path
  | "query" => some .query
  | "header" => some .header
  | _ => none

structure Parameter where
  name : String
  location : Location
  required : Bool
  /-- The schema as the document has it. -/
  schema : Option Tree
deriving DecidableEq, Inhabited

/-- One form that a body may take. -/
structure Media where
  mediaType : String
  schema : Option Tree
deriving DecidableEq, Inhabited

structure RequestBody where
  required : Bool
  content : List Media
deriving DecidableEq, Inhabited

structure Response where
  /-- The status as the document writes it, which need not be a number. -/
  status : String
  description : String
  content : Option (List Media)
deriving DecidableEq, Inhabited

/-- One operation. -/
structure Endpoint where
  /-- The path with its placeholders. -/
  path : String
  method : Method
  operationId : String
  /-- The first one decides the group. -/
  tags : List String
  parameters : List Parameter
  requestBody : Option RequestBody
  responses : List Response
deriving DecidableEq, Inhabited

/-- The tag of endpoints that declare none. -/
def defaultTag : String := "default"

/-- The tag that decides which group an endpoint belongs to. -/
def Endpoint.primaryTag (e : Endpoint) : String := e.tags.headD defaultTag

/-- The parameters carried at a place, in order. -/
def Endpoint.parametersIn (e : Endpoint) (location : Location) : List Parameter :=
  e.parameters.filter (·.location = location)

/-- A reusable object schema. -/
structure Schema where
  name : String
  properties : List (String × Tree)
  required : List String
deriving DecidableEq, Inhabited

def Schema.isRequired (s : Schema) (property : String) : Bool := s.required.contains property

structure Metadata where
  title : String
  version : String
  description : Option String
deriving DecidableEq, Inhabited

/-- What the generated modules are made from. Every list keeps the order of the document. -/
structure Api where
  endpoints : List Endpoint
  schemas : List Schema
  metadata : Metadata
deriving DecidableEq, Inhabited

/-- Endpoints with the same primary tag. -/
structure Group where
  tag : String
  endpoints : List Endpoint
deriving DecidableEq, Inhabited

/-- Puts an endpoint at the end of the group of its tag, which is opened if need be. -/
def addToGroup (e : Endpoint) : List Group → List Group
  | [] => [⟨e.primaryTag, [e]⟩]
  | g :: rest =>
    if g.tag = e.primaryTag then ⟨g.tag, g.endpoints ++ [e]⟩ :: rest else g :: addToGroup e rest

/-- The groups of endpoints in order of their first endpoint. -/
def groups (endpoints : List Endpoint) : List Group :=
  endpoints.foldl (fun gs e => addToGroup e gs) []

/-- The identifier of an operation that declares none: the method in capitals, and the letters and
    digits of the path. -/
def synthesizedId (method path : String) : String :=
  String.ofList (((Text.uppercase method).toList ++ path.toList).filter Char.isAlphanum)

end ApiSkeleton.Model
