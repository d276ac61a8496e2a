import ApiSkeleton.Emit.Templates
import ApiSkeleton.Layout
import ApiSkeleton.Proofs.Template.Document
import ApiSkeleton.Text.Case

namespace ApiSkeleton.Emit

open Model

/-- A part stands in a text. -/
def Occurs (part text : String) : Prop := ∃ before after, text = before ++ part ++ after

theorem Occurs.append_left {part text : String} (h : Occurs part text) (front : String) :
    Occurs part (front ++ text) := by
  obtain ⟨before, after, rfl⟩ := h
  exact ⟨front ++ before, after, by simp only [String.append_assoc]⟩

theorem Occurs.append_right {part text : String} (h : Occurs part text) (more : String) :
    Occurs part (text ++ more) := by
  obtain ⟨before, after, rfl⟩ := h
  exact ⟨before, after ++ more, by simp only [String.append_assoc]⟩

theorem Occurs.trans {part text whole : String} (h : Occurs part text)
    (hwhole : Occurs text whole) : Occurs part whole := by
  obtain ⟨before, after, rfl⟩ := hwhole
  exact (h.append_left before).append_right after

theorem occurs_join {part : String} {parts : List String} (h : part ∈ parts) :
    Occurs part (String.join parts) := by
  obtain ⟨before, after, rfl⟩ := List.append_of_mem h
  exact ⟨String.join before, String.join after, by simp [String.append_assoc]⟩

/-- One member of a validator object. -/
def parameterText (key : String → String) (p : Parameter) : String :=
  "      " ++ key p.name ++ ": " ++ validatorText p.schema ++
    (if p.required then "" else ".optional()") ++ ",\n"

/-- The validator object of the parameters that are carried at one place, if there are any. -/
def parametersText (label : String) (key : String → String) (ps : List Parameter) : String :=
  if ps.isEmpty then ""
  else
    "    " ++ label ++ ": z.object(\x7b\n" ++ String.join (ps.map (parameterText key)) ++
      "    \x7d),\n"

def mediaText (m : Media) : String :=
  "        " ++ Text.quoted m.mediaType ++ ": \x7b schema: " ++ validatorText m.schema ++ " \x7d,\n"

def bodyText (b : RequestBody) : String :=
  "    body: \x7b\n      content: \x7b\n" ++ String.join (b.content.map mediaText) ++
    "      \x7d,\n      required: " ++ Template.Value.boolText b.required ++ ",\n    \x7d,\n"

/-- The key of a header, whose name has no letter case. -/
def headerKey (name : String) : String := Text.propertyKey (Text.lowercase name)

/-- What a request has to hold, if anything. -/
def requestText (e : Endpoint) : String :=
  if e.parameters.isEmpty ∧ e.requestBody.isNone then ""
  else
    "  request: \x7b\n" ++
      parametersText "params" Text.propertyKey (e.parametersIn .path) ++
      parametersText "query" Text.propertyKey (e.parametersIn .query) ++
      parametersText "headers" headerKey (e.parametersIn .header) ++
      (e.requestBody.map bodyText).getD "" ++ "  \x7d,\n"

/-- The forms of a response; an empty list of them is left out like a missing one. -/
def responseContentText (content : Option (List Media)) : String :=
  if (content.getD []).isEmpty then ""
  else
    "      content: \x7b\n" ++ String.join ((content.getD []).map mediaText) ++ "      \x7d,\n"

def responseText (r : Response) : String :=
  "    [" ++ statusKey r.status ++ "]: \x7b\n      description: " ++ Text.quoted r.description ++
    ",\n" ++ responseContentText r.content ++ "    \x7d,\n"

/-- What the call that creates a route is given. -/
def routeBody (e : Endpoint) : String :=
  "\x7b\n  path: " ++ Text.quoted e.path ++ ",\n  method: " ++
    Text.quoted (Text.lowercase e.method.name) ++ ",\n  tags,\n" ++ requestText e ++
    "  responses: \x7b\n" ++ String.join (e.responses.map responseText) ++ "  \x7d,\n\x7d"

/-- The declaration of a route and of its type. -/
def routeText (e : Endpoint) : String :=
  "\nexport const " ++ Text.camelCase e.operationId ++ " = createRoute(" ++ routeBody e ++
    ");\n\nexport type " ++ Text.pascalCase e.operationId ++ "Route = typeof " ++
    Text.camelCase e.operationId ++ ";\n"

/-- The lines before the routes of a tag. -/
def routesHeader (tag : String) : String :=
  "import \x7b createRoute, z \x7d from \"@hono/zod-openapi\";\n" ++
    "import * as HttpStatusCodes from \"stoker/http-status-codes\";\n\n" ++
    "const tags = [" ++ Text.quoted tag ++ "];\n"

/-- The module of the routes of a group. -/
def routesText (g : Group) : String :=
  routesHeader g.tag ++ String.join (g.endpoints.map routeText)

/-- The name that a stub reads the item's identifier from: the first path parameter's, or `id`. -/
def idParameter (e : Endpoint) : String :=
  ((e.parametersIn .path).head?.map (·.name)).getD "id"

def fetchOneText (table id : String) : String :=
  "  const \x7b " ++ id ++ " \x7d = c.req.valid(\"param\");\n" ++
    "  const item = await db.query." ++ table ++ ".findFirst(\x7b\n" ++
    "    where: eq(" ++ table ++ ".id, " ++ id ++ "),\n" ++
    "  \x7d);\n" ++
    "  if (!item) \x7b\n" ++
    "    return c.json(\x7b message: HttpStatusPhrases.NOT_FOUND \x7d, " ++
    "HttpStatusCodes.NOT_FOUND);\n" ++
    "  \x7d\n" ++
    "  return c.json(item, HttpStatusCodes.OK);\n"

def fetchAllText (table : String) : String :=
  "  const items = await db.query." ++ table ++ ".findMany();\n" ++
    "  return c.json(items, HttpStatusCodes.OK);\n"

def insertText (table : String) : String :=
  "  const body = c.req.valid(\"json\");\n" ++
    "  const [inserted] = await db.insert(" ++ table ++ ").values(body).returning();\n" ++
    "  return c.json(inserted, HttpStatusCodes.CREATED);\n"

def updateText (table id : String) : String :=
  "  const \x7b " ++ id ++ " \x7d = c.req.valid(\"param\");\n" ++
    "  const updates = c.req.valid(\"json\");\n" ++
    "  const [updated] = await db\n" ++
    "    .update(" ++ table ++ ")\n" ++
    "    .set(updates)\n" ++
    "    .where(eq(" ++ table ++ ".id, " ++ id ++ "))\n" ++
    "    .returning();\n" ++
    "  if (!updated) \x7b\n" ++
    "    return c.json(\x7b message: HttpStatusPhrases.NOT_FOUND \x7d, " ++
    "HttpStatusCodes.NOT_FOUND);\n" ++
    "  \x7d\n" ++
    "  return c.json(updated, HttpStatusCodes.OK);\n"

def deleteText (table id : String) : String :=
  "  const \x7b " ++ id ++ " \x7d = c.req.valid(\"param\");\n" ++
    "  const result = await db.delete(" ++ table ++ ").where(eq(" ++ table ++ ".id, " ++ id ++
    "));\n" ++
    "  if (result.rowsAffected === 0) \x7b\n" ++
    "    return c.json(\x7b message: HttpStatusPhrases.NOT_FOUND \x7d, " ++
    "HttpStatusCodes.NOT_FOUND);\n" ++
    "  \x7d\n" ++
    "  return c.body(null, HttpStatusCodes.NO_CONTENT);\n"

/-- What a stub does. Only fetching looks at whether there is a path parameter. -/
def stubBody (table : String) (e : Endpoint) : String :=
  match e.method with
  | .get =>
    if (e.parametersIn .path).isEmpty then fetchAllText table
    else fetchOneText table (idParameter e)
  | .post => insertText table
  | .patch => updateText table (idParameter e)
  | .delete => deleteText table (idParameter e)
  | _ => "  return c.json(\x7b message: \"Not implemented\" \x7d, 501);\n"

/-- The stub of one endpoint, under the name and the type of its route. -/
def stubText (table : String) (e : Endpoint) : String :=
  "\nexport const " ++ Text.camelCase e.operationId ++ ": AppRouteHandler<" ++
    Text.pascalCase e.operationId ++ "Route> = async (c) => \x7b\n" ++ stubBody table e ++
    "\x7d;\n"

/-- The import of the type of one route. -/
def routeTypeText (e : Endpoint) : String := "  " ++ Text.pascalCase e.operationId ++ "Route,\n"

/-- The lines before the types of the routes. -/
def handlersHeader (l : Layout) (tag : String) : String :=
  "import \x7b eq \x7d from \"drizzle-orm\";\n" ++
    "import * as HttpStatusCodes from \"stoker/http-status-codes\";\n" ++
    "import * as HttpStatusPhrases from \"stoker/http-status-phrases\";\n\n" ++
    "import type \x7b AppRouteHandler \x7d from \"" ++ l.sourceRootImport ++ "lib/types\";\n" ++
    "import db from \"" ++ l.dbModule ++ "\";\n" ++
    "import \x7b " ++ tagBinding tag ++ " \x7d from \"" ++ l.dbModule ++ "/schema\";\n\n"

/-- The module of the handlers of a group. -/
def handlersText (l : Layout) (g : Group) : String :=
  handlersHeader l g.tag ++ "import type \x7b\n" ++ String.join (g.endpoints.map routeTypeText) ++
    "\x7d from \"./" ++ Layout.routesModule g.tag ++ "\";\n" ++
    String.join (g.endpoints.map (stubText (tagBinding g.tag)))

/-- The line that joins a route to its handler, among `count` of them. -/
def joinText (count position : Nat) (e : Endpoint) : String :=
  "  .openapi(routes." ++ Text.camelCase e.operationId ++ ", handlers." ++
    Text.camelCase e.operationId ++ ")" ++ (if position + 1 = count then ";" else "") ++ "\n"

/-- The imports of a router. -/
def routerImports (l : Layout) (tag : String) : String :=
  "import \x7b createRouter \x7d from \"" ++ l.sourceRootImport ++ "lib/create-app\";\n\n" ++
    "import * as handlers from \"./" ++ Layout.handlersModule tag ++ "\";\n" ++
    "import * as routes from \"./" ++ Layout.routesModule tag ++ "\";\n\n"

/-- The module of the router of a group. -/
def routerText (l : Layout) (g : Group) : String :=
  routerImports l g.tag ++ "const router = createRouter()\n" ++
    String.join (g.endpoints.mapIdx (joinText g.endpoints.length)) ++
    "\nexport default router;\n"

/-- The import of the router of a group. -/
def routerImportText (g : Group) : String :=
  "import " ++ tagBinding g.tag ++ " from \"./" ++ Layout.routerModule g.tag ++ "\";\n"

/-- The entry of a group in the list of routers. -/
def routerEntryText (g : Group) : String := "  " ++ tagBinding g.tag ++ ",\n"

/-- The module that lists the routers of all groups. -/
def routeIndexText (gs : List Group) : String :=
  String.join (gs.map routerImportText) ++ "\nexport const routers = [\n" ++
    String.join (gs.map routerEntryText) ++ "] as const;\n"

/-- The type that a property declares, as far as it is looked at. -/
def declaredType (property : Tree) : Option String :=
  match property.member? "type" with
  | none | some .null => none
  | some t => some (Template.Value.ofTree t).printed

/-- What a column is besides its type. -/
def columnMark (s : Schema) (name : String) : String :=
  if name = "id" then ".primaryKey()" else if s.isRequired name then ".notNull()" else ""

def columnText (s : Schema) (property : String × Tree) : String :=
  "  " ++ Text.propertyKey property.1 ++ ": " ++
    storageColumn (declaredType property.2) (Text.snakeCase property.1) ++
    columnMark s property.1 ++ ",\n"

/-- The column that counts up, for a schema without an `id` of its own. -/
def idColumnText (s : Schema) : String :=
  if (findMember? s.properties "id").isSome then "" else idColumn

/-- The name of the table of a schema. -/
def tableName (s : Schema) : String := Text.identifier (Text.lowercase s.name)

def validatorsText (s : Schema) : String :=
  "\x7d);\n\n" ++
    "export const select" ++ Text.pascalCase s.name ++ "Schema = createSelectSchema(" ++
    tableName s ++ ");\n\n" ++
    "export const insert" ++ Text.pascalCase s.name ++ "Schema = createInsertSchema(" ++
    tableName s ++ ").omit(\x7b id: true \x7d);\n\n" ++
    "export const patch" ++ Text.pascalCase s.name ++ "Schema = insert" ++
    Text.pascalCase s.name ++ "Schema.partial();\n"

/-- A table and its validators. -/
def tableText (s : Schema) : String :=
  "\nexport const " ++ tableName s ++ " = sqliteTable(" ++ Text.quoted (Text.lowercase s.name) ++
    ", \x7b\n" ++ (idColumnText s ++ String.join (s.properties.map (columnText s)) ++
    validatorsText s)

/-- The lines before the tables. -/
def schemaHeader (m : Metadata) : String :=
  "// Storage schema for " ++ m.title ++ " " ++ m.version ++ ".\n" ++
    "// Generated by oas-scaffold; edit freely.\n" ++
    "import \x7b integer, real, sqliteTable, text \x7d from " ++
    "\"drizzle-orm/sqlite-core\";\n" ++
    "import \x7b createInsertSchema, createSelectSchema \x7d from \"drizzle-zod\";\n"

/-- The module of the storage schema. -/
def schemaText (api : Api) : String :=
  schemaHeader api.metadata ++ String.join (api.schemas.map tableText)

end ApiSkeleton.Emit
