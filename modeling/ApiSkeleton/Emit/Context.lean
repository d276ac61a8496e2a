import ApiSkeleton.Template.Value
import ApiSkeleton.Layout

namespace ApiSkeleton.Emit

open Template (Value)
open Model

/-- A text, or nothing. -/
def optionalText (s : Option String) : Value := (s.map Value.text).getD .none

/-- A schema as the document has it, or nothing. -/
def optionalTree (t : Option Tree) : Value := (t.map Value.ofTree).getD .none

def texts (ss : List String) : Value := .list (ss.map .text)

def metadataValue (m : Metadata) : Value :=
  .ofFields [("title", .text m.title), ("version", .text m.version),
    ("description", optionalText m.description)]

def layoutValue (l : Layout) : Value :=
  .ofFields [("extension", .text l.extension), ("source_dir", .text l.sourceDir),
    ("routes_dir", .text l.routesDir), ("db_dir", .text l.dbDir)]

def parameterValue (p : Parameter) : Value :=
  .ofFields [("name", .text p.name), ("location", .text p.location.name),
    ("required", .bool p.required), ("schema", optionalTree p.schema)]

def parameterValues (ps : List Parameter) : Value := .list (ps.map parameterValue)

def mediaValue (m : Media) : Value :=
  .ofFields [("media_type", .text m.mediaType), ("schema", optionalTree m.schema)]

def bodyValue (b : RequestBody) : Value :=
  .ofFields [("required", .bool b.required), ("content", .list (b.content.map mediaValue))]

def responseValue (r : Response) : Value :=
  .ofFields [("status_code", .text r.status), ("description", .text r.description),
    ("content", (r.content.map fun ms => Value.list (ms.map mediaValue)).getD .none)]

/-- An endpoint, with its parameters once more by where they are carried. -/
def endpointValue (e : Endpoint) : Value :=
  .ofFields [("path", .text e.path), ("method", .text e.method.name),
    ("operation_id", .text e.operationId), ("tags", texts e.tags),
    ("parameters", parameterValues e.parameters),
    ("request_body", (e.requestBody.map bodyValue).getD .none),
    ("responses", .list (e.responses.map responseValue)),
    ("path_params", parameterValues (e.parametersIn .path)),
    ("query_params", parameterValues (e.parametersIn .query)),
    ("header_params", parameterValues (e.parametersIn .header))]

def schemaValue (s : Schema) : Value :=
  .ofFields [("name", .text s.name), ("properties", .map (Value.ofMembers s.properties)),
    ("required", texts s.required)]

/-- The context of the storage schema. -/
def schemaContext (api : Api) : Value :=
  .ofFields [("schemas", .list (api.schemas.map schemaValue)),
    ("metadata", metadataValue api.metadata)]

def endpointValues (g : Group) : Value := .list (g.endpoints.map endpointValue)

/-- The context of the routes of a group. -/
def routesContext (g : Group) : Value :=
  .ofFields [("tag", .text g.tag), ("endpoints", endpointValues g)]

/-- The context of the handlers of a group. -/
def handlersContext (l : Layout) (g : Group) : Value :=
  .ofFields [("table", .text (tagBinding g.tag)), ("src_root", .text l.sourceRootImport),
    ("db_module", .text l.dbModule), ("routes_module", .text (Layout.routesModule g.tag)),
    ("endpoints", endpointValues g)]

/-- The context of the router of a group. -/
def routerContext (l : Layout) (g : Group) : Value :=
  .ofFields [("src_root", .text l.sourceRootImport),
    ("handlers_module", .text (Layout.handlersModule g.tag)),
    ("routes_module", .text (Layout.routesModule g.tag)), ("endpoints", endpointValues g)]

/-- The context of the list of routers. -/
def routeIndexContext (gs : List Group) : Value :=
  .ofFields [("groups", .list (gs.map fun g =>
    .ofFields [("binding", .text (tagBinding g.tag)),
      ("module", .text (Layout.routerModule g.tag))]))]

end ApiSkeleton.Emit
