import ApiSkeleton.Template.Statement

namespace ApiSkeleton.Emit

open Template (Expr Statement)

/-- The kinds of generated modules. -/
inductive ModuleKind where
  | schema
  | routes
  | handlers
  | router
  | routeIndex
deriving DecidableEq, Inhabited

/-- The name of a kind, by which its template is called. -/
def ModuleKind.name : ModuleKind → String
  | .schema => "schema.ts"
  | .routes => "routes.ts"
  | .handlers => "handlers.ts"
  | .router => "router.ts"
  | .routeIndex => "route_index.ts"

/-- The kind with a name. -/
def ModuleKind.ofName? (name : String) : Option ModuleKind :=
  [ModuleKind.schema, .routes, .handlers, .router, .routeIndex].find? (·.name == name)

/-- The column for a schema without an `id`, which counts up. -/
def idColumn : String :=
  "  id: integer(\"id\", \x7b mode: \"number\" \x7d).primaryKey(\x7b " ++
    "autoIncrement: true \x7d),\n"

/-- The column for a property. -/
def columnTemplate : List Statement :=
  [.text "  ",
   .print (.via (.name "name") "ts_key"),
   .text ": ",
   .print (.call (.name "storage_type") [(.of "property" "type"), (.via
       (.name "name") "snake_case")] []),
   .branch (.binary .eq (.name "name") (.literal (.text "id")))
     [.text ".primaryKey()"]
     [.when (.binary .isIn (.name "name") (.of "schema" "required"))
        [.text ".notNull()"]],
   .text ",\n"]

/-- The columns of a table. -/
def columnsTemplate : List Statement :=
  [.when (.not (.binary .isIn (.literal (.text "id")) (.of "schema" "properties")))
     [.text idColumn],
   .each (.tuple [(.name "name"), (.name "property")]) (.via (.of "schema" "properties") "items")
     columnTemplate]

/-- The beginning of a table, with the names that it and its validators have. -/
def tableTemplate : List Statement :=
  [.set (.name "table") (.via (.via (.of "schema" "name") "lowercase") "identifier"),
   .set (.name "type_name") (.via (.of "schema" "name") "pascal_case"),
   .text ("\n" ++
       "export const "),
   .print (.name "table"),
   .text " = sqliteTable(",
   .print (.via (.via (.of "schema" "name") "lowercase") "ts_string"),
   .text ", \x7b\n"]

/-- The end of a table, with its validators. -/
def validatorsTemplate : List Statement :=
  [.text ("\x7d);\n\n" ++
       "export const select"),
   .print (.name "type_name"),
   .text "Schema = createSelectSchema(",
   .print (.name "table"),
   .text (");\n\n" ++
       "export const insert"),
   .print (.name "type_name"),
   .text "Schema = createInsertSchema(",
   .print (.name "table"),
   .text (").omit(\x7b id: true \x7d);\n\n" ++
       "export const patch"),
   .print (.name "type_name"),
   .text "Schema = insert",
   .print (.name "type_name"),
   .text "Schema.partial();\n"]

/-- The storage schema with its validators, one table for every schema of the document. -/
def schemaTemplate : List Statement :=
  [.text "// Storage schema for ",
   .print (.of "metadata" "title"),
   .text " ",
   .print (.of "metadata" "version"),
   .text (".\n" ++
       "// Generated by oas-scaffold; edit freely.\n" ++
       "import \x7b integer, real, sqliteTable, text \x7d from " ++
       "\"drizzle-orm/sqlite-core\";\n" ++
       "import \x7b createInsertSchema, createSelectSchema \x7d from \"drizzle-zod\";\n"),
   .each (.name "schema") (.name "schemas")
     (tableTemplate ++ (columnsTemplate ++ validatorsTemplate))]

/-- The validators of the parameters that are carried at one place. -/
def parametersTemplate (label parameters : String) (key : Expr) : Statement :=
  .when (.of "ep" parameters)
    [.text ("    " ++ label ++ ": z.object(\x7b\n"),
     .each (.name "param") (.of "ep" parameters)
       [.text "      ",
        .print key,
        .text ": ",
        .print (.call (.name "validator") [(.of "param" "schema")] []),
        .when (.not (.of "param" "required"))
          [.text ".optional()"],
        .text ",\n"],
     .text "    \x7d),\n"]

/-- The forms that a body may take, each with its validator. -/
def mediaTemplate (forms : Expr) : Statement :=
  .each (.name "media") forms
    [.text "        ",
     .print (.via (.of "media" "media_type") "ts_string"),
     .text ": \x7b schema: ",
     .print (.call (.name "validator") [(.of "media" "schema")] []),
     .text " \x7d,\n"]

/-- The body of a request, if there is one. -/
def bodyTemplate : Statement :=
  .when (.of "ep" "request_body")
    [.text ("    body: \x7b\n" ++
         "      content: \x7b\n"),
     mediaTemplate (.member (.of "ep" "request_body") "content"),
     .text ("      \x7d,\n" ++
         "      required: "),
     .print (.member (.of "ep" "request_body") "required"),
     .text (",\n" ++
         "    \x7d,\n")]

/-- What a request has to hold, if anything. -/
def requestTemplate : Statement :=
  .when (.or (.of "ep" "parameters") (.of "ep" "request_body"))
    [.text "  request: \x7b\n",
     parametersTemplate "params" "path_params" (.via (.of "param" "name") "ts_key"),
     parametersTemplate "query" "query_params" (.via (.of "param" "name") "ts_key"),
     parametersTemplate "headers" "header_params"
       (.via (.via (.of "param" "name") "lowercase") "ts_key"),
     bodyTemplate,
     .text "  \x7d,\n"]

/-- The forms that a response may take, if it has any. -/
def responseContentTemplate : Statement :=
  .when (.of "response" "content")
    [.text "      content: \x7b\n",
     mediaTemplate (.of "response" "content"),
     .text "      \x7d,\n"]

def responsesTemplate : Statement :=
  .each (.name "response") (.of "ep" "responses")
    [.text "    [",
     .print (.call (.name "status_code") [(.of "response" "status_code")] []),
     .text ("]: \x7b\n" ++
          "      description: "),
     .print (.via (.of "response" "description") "ts_string"),
     .text ",\n",
     responseContentTemplate,
     .text "    \x7d,\n"]

/-- One route with its type. -/
def routeTemplate : List Statement :=
  [.set (.name "route") (.via (.of "ep" "operation_id") "camel_case"),
   .text ("\n" ++
       "export const "),
   .print (.name "route"),
   .text (" = createRoute(\x7b\n" ++
       "  path: "),
   .print (.via (.of "ep" "path") "ts_string"),
   .text (",\n" ++
       "  method: "),
   .print (.via (.via (.of "ep" "method") "lowercase") "ts_string"),
   .text (",\n" ++
       "  tags,\n"),
   requestTemplate,
   .text "  responses: \x7b\n",
   responsesTemplate,
   .text ("  \x7d,\n" ++
       "\x7d);\n\n" ++
       "export type "),
   .print (.via (.of "ep" "operation_id") "pascal_case"),
   .text "Route = typeof ",
   .print (.name "route"),
   .text ";\n"]

/-- The declarations of the routes of one group. -/
def routesTemplate : List Statement :=
  [.text ("import \x7b createRoute, z \x7d from \"@hono/zod-openapi\";\n" ++
       "import * as HttpStatusCodes from \"stoker/http-status-codes\";\n\n" ++
       "const tags = ["),
   .print (.via (.name "tag") "ts_string"),
   .text "];\n",
   .each (.name "ep") (.name "endpoints") routeTemplate]

/-- What a stub does that fetches the item which the first path parameter names. -/
def fetchOneTemplate : List Statement :=
  [.text "  const \x7b ",
   .print (.name "id_param"),
   .text (" \x7d = c.req.valid(\"param\");\n" ++
       "  const item = await db.query."),
   .print (.name "table"),
   .text (".findFirst(\x7b\n" ++
       "    where: eq("),
   .print (.name "table"),
   .text ".id, ",
   .print (.name "id_param"),
   .text ("),\n" ++
       "  \x7d);\n" ++
       "  if (!item) \x7b\n" ++
       "    return c.json(\x7b message: HttpStatusPhrases.NOT_FOUND \x7d, " ++
       "HttpStatusCodes.NOT_FOUND);\n" ++
       "  \x7d\n" ++
       "  return c.json(item, HttpStatusCodes.OK);\n")]

def fetchAllTemplate : List Statement :=
  [.text "  const items = await db.query.",
   .print (.name "table"),
   .text (".findMany();\n" ++
       "  return c.json(items, HttpStatusCodes.OK);\n")]

def insertTemplate : List Statement :=
  [.text ("  const body = c.req.valid(\"json\");\n" ++
       "  const [inserted] = await db.insert("),
   .print (.name "table"),
   .text (").values(body).returning();\n" ++
       "  return c.json(inserted, HttpStatusCodes.CREATED);\n")]

def updateTemplate : List Statement :=
  [.text "  const \x7b ",
   .print (.name "id_param"),
   .text (" \x7d = c.req.valid(\"param\");\n" ++
       "  const updates = c.req.valid(\"json\");\n" ++
       "  const [updated] = await db\n" ++
       "    .update("),
   .print (.name "table"),
   .text (")\n" ++
       "    .set(updates)\n" ++
       "    .where(eq("),
   .print (.name "table"),
   .text ".id, ",
   .print (.name "id_param"),
   .text ("))\n" ++
       "    .returning();\n" ++
       "  if (!updated) \x7b\n" ++
       "    return c.json(\x7b message: HttpStatusPhrases.NOT_FOUND \x7d, " ++
       "HttpStatusCodes.NOT_FOUND);\n" ++
       "  \x7d\n" ++
       "  return c.json(updated, HttpStatusCodes.OK);\n")]

def deleteTemplate : List Statement :=
  [.text "  const \x7b ",
   .print (.name "id_param"),
   .text (" \x7d = c.req.valid(\"param\");\n" ++
       "  const result = await db.delete("),
   .print (.name "table"),
   .text ").where(eq(",
   .print (.name "table"),
   .text ".id, ",
   .print (.name "id_param"),
   .text ("));\n" ++
       "  if (result.rowsAffected === 0) \x7b\n" ++
       "    return c.json(\x7b message: HttpStatusPhrases.NOT_FOUND \x7d, " ++
       "HttpStatusCodes.NOT_FOUND);\n" ++
       "  \x7d\n" ++
       "  return c.body(null, HttpStatusCodes.NO_CONTENT);\n")]

/-- Whether an endpoint has a method. -/
def methodIs (name : String) : Expr :=
  .call (.name "eq") [(.of "ep" "method"), (.literal (.text name))] []

/-- What a stub does, by its method. -/
def stubBodyTemplate : Statement :=
  .branch (.and (methodIs "GET") (.of "ep" "path_params")) fetchOneTemplate
    [.branch (methodIs "GET") fetchAllTemplate
      [.branch (methodIs "POST") insertTemplate
        [.branch (methodIs "PATCH") updateTemplate
          [.branch (methodIs "DELETE") deleteTemplate
            [.text "  return c.json(\x7b message: \"Not implemented\" \x7d, 501);\n"]]]]]

def stubTemplate : List Statement :=
  [.set (.name "id_param") (.choice (.of "ep" "path_params") (.member (.item
       (.of "ep" "path_params") (.literal (.int 0))) "name") (.literal (.text "id"))),
   .text ("\n" ++
       "export const "),
   .print (.via (.of "ep" "operation_id") "camel_case"),
   .text ": AppRouteHandler<",
   .print (.via (.of "ep" "operation_id") "pascal_case"),
   .text "Route> = async (c) => \x7b\n",
   stubBodyTemplate,
   .text "\x7d;\n"]

/-- A stub for every route of one group. -/
def handlersTemplate : List Statement :=
  [.text ("import \x7b eq \x7d from \"drizzle-orm\";\n" ++
       "import * as HttpStatusCodes from \"stoker/http-status-codes\";\n" ++
       "import * as HttpStatusPhrases from \"stoker/http-status-phrases\";\n\n" ++
       "import type \x7b AppRouteHandler \x7d from \""),
   .print (.name "src_root"),
   .text ("lib/types\";\n" ++
       "import db from \""),
   .print (.name "db_module"),
   .text ("\";\n" ++
       "import \x7b "),
   .print (.name "table"),
   .text " \x7d from \"",
   .print (.name "db_module"),
   .text ("/schema\";\n\n" ++
       "import type \x7b\n"),
   .each (.name "ep") (.name "endpoints")
     [.text "  ",
      .print (.via (.of "ep" "operation_id") "pascal_case"),
      .text "Route,\n"],
   .text "\x7d from \"./",
   .print (.name "routes_module"),
   .text "\";\n",
   .each (.name "ep") (.name "endpoints") stubTemplate]

/-- The router that joins the routes of one group to their handlers. -/
def routerTemplate : List Statement :=
  [.text "import \x7b createRouter \x7d from \"",
   .print (.name "src_root"),
   .text ("lib/create-app\";\n\n" ++
       "import * as handlers from \"./"),
   .print (.name "handlers_module"),
   .text ("\";\n" ++
       "import * as routes from \"./"),
   .print (.name "routes_module"),
   .text ("\";\n\n" ++
       "const router = createRouter()\n"),
   .each (.name "ep") (.name "endpoints")
     [.text "  .openapi(routes.",
      .print (.via (.of "ep" "operation_id") "camel_case"),
      .text ", handlers.",
      .print (.via (.of "ep" "operation_id") "camel_case"),
      .text ")",
      .when (.of "loop" "last")
        [.text ";"],
      .text "\n"],
   .text ("\n" ++
       "export default router;\n")]

/-- The list of the routers of all groups. -/
def routeIndexTemplate : List Statement :=
  [.each (.name "group") (.name "groups")
     [.text "import ",
      .print (.of "group" "binding"),
      .text " from \"./",
      .print (.of "group" "module"),
      .text "\";\n"],
   .text ("\n" ++
       "export const routers = [\n"),
   .each (.name "group") (.name "groups")
     [.text "  ",
      .print (.of "group" "binding"),
      .text ",\n"],
   .text "] as const;\n"]

/-- The template of a kind of module. -/
def ModuleKind.template : ModuleKind → List Statement
  | .schema => schemaTemplate
  | .routes => routesTemplate
  | .handlers => handlersTemplate
  | .router => routerTemplate
  | .routeIndex => routeIndexTemplate

end ApiSkeleton.Emit
