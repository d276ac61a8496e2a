import ApiSkeleton.Template.Statement

namespace ApiSkeleton.App

open Template (Statement)

/-- The package of the application. -/
def packageTemplate : List Statement :=
  [.text ("\x7b\n" ++
       "  \"name\": "),
   .print (.via (.name "app_name") "ts_string"),
   .text (",\n" ++
       "  \"version\": \"0.1.0\",\n" ++
       "  \"description\": "),
   .print (.via (.or (.of "metadata" "description") (.of "metadata" "title")) "ts_string"),
   .text (",\n" ++
       "  \"type\": \"module\",\n" ++
       "  \"private\": true,\n" ++
       "  \"scripts\": \x7b\n" ++
       "    \"dev\": \"tsx watch "),
   .print (.of "layout" "source_dir"),
   .text ("/index.ts\",\n" ++
       "    \"build\": \"tsc\",\n" ++
       "    \"start\": \"node dist/index.js\",\n" ++
       "    \"db:push\": \"drizzle-kit push\"\n" ++
       "  \x7d,\n" ++
       "  \"dependencies\": \x7b\n" ++
       "    \"@hono/node-server\": \"^1.13.7\",\n" ++
       "    \"@hono/zod-openapi\": \"^0.18.3\",\n" ++
       "    \"@libsql/client\": \"^0.14.0\",\n" ++
       "    \"drizzle-orm\": \"^0.38.3\",\n" ++
       "    \"drizzle-zod\": \"^0.6.1\",\n" ++
       "    \"hono\": \"^4.6.16\",\n" ++
       "    \"stoker\": \"^1.4.2\",\n" ++
       "    \"zod\": \"^3.24.1\"\n" ++
       "  \x7d,\n" ++
       "  \"devDependencies\": \x7b\n" ++
       "    \"drizzle-kit\": \"^0.30.1\",\n" ++
       "    \"tsx\": \"^4.19.2\",\n" ++
       "    \"typescript\": \"^5.7.2\"\n" ++
       "  \x7d\n" ++
       "\x7d\n")]

/-- The settings of the compiler. -/
def compilerTemplate : List Statement :=
  [.text ("\x7b\n" ++
       "  \"compilerOptions\": \x7b\n" ++
       "    \"target\": \"ES2022\",\n" ++
       "    \"module\": \"ESNext\",\n" ++
       "    \"moduleResolution\": \"Bundler\",\n" ++
       "    \"strict\": true,\n" ++
       "    \"skipLibCheck\": true,\n" ++
       "    \"outDir\": \"dist\",\n" ++
       "    \"rootDir\": \""),
   .print (.of "layout" "source_dir"),
   .text ("\"\n" ++
       "  \x7d,\n" ++
       "  \"include\": [\""),
   .print (.of "layout" "source_dir"),
   .text ("\"]\n" ++
       "\x7d\n")]

/-- The settings of the database. -/
def databaseTemplate : List Statement :=
  [.text ("import \x7b defineConfig \x7d from \"drizzle-kit\";\n\n" ++
       "export default defineConfig(\x7b\n" ++
       "  schema: \"./"),
   .print (.of "layout" "source_dir"),
   .text "/",
   .print (.of "layout" "db_dir"),
   .text "/schema.",
   .print (.of "layout" "extension"),
   .text ("\",\n" ++
       "  out: \"./drizzle\",\n" ++
       "  dialect: \"sqlite\",\n" ++
       "  dbCredentials: \x7b\n" ++
       "    url: process.env.DATABASE_URL ?? \"file:"),
   .print (.name "app_name"),
   .text (".db\",\n" ++
       "  \x7d,\n" ++
       "\x7d);\n")]

/-- The introduction for readers. -/
def readmeTemplate : List Statement :=
  [.text "# ",
   .print (.name "app_name"),
   .text ("\n\n" ++
       "Backend skeleton for **"),
   .print (.of "metadata" "title"),
   .text "** (API version ",
   .print (.of "metadata" "version"),
   .text ").\n",
   .when (.of "metadata" "description")
     [.text "\n",
      .print (.of "metadata" "description"),
      .text "\n"],
   .text ("\n" ++
       "## Getting started\n\n" ++
       "```sh\n" ++
       "npm install\n" ++
       "npm run db:push\n" ++
       "npm run dev\n" ++
       "```\n\n" ++
       "Route declarations and handler stubs live in `"),
   .print (.of "layout" "source_dir"),
   .text "/",
   .print (.of "layout" "routes_dir"),
   .text ("/`,\n" ++
       "one pair of files per OpenAPI tag. The storage schema is in\n" ++
       "`"),
   .print (.of "layout" "source_dir"),
   .text "/",
   .print (.of "layout" "db_dir"),
   .text "/schema.",
   .print (.of "layout" "extension"),
   .text ("`.\n" ++
       "The OpenAPI document this project was generated from is kept in `doc/`.\n")]

/-- The application that serves all routers. -/
def appTemplate : List Statement :=
  [.text ("import createApp from \"./lib/create-app\";\n" ++
       "import \x7b routers \x7d from \"./"),
   .print (.of "layout" "routes_dir"),
   .text ("/index\";\n\n" ++
       "const app = createApp();\n\n" ++
       "app.doc(\"/doc\", \x7b\n" ++
       "  openapi: \"3.0.0\",\n" ++
       "  info: \x7b\n" ++
       "    title: "),
   .print (.via (.of "metadata" "title") "ts_string"),
   .text (",\n" ++
       "    version: "),
   .print (.via (.of "metadata" "version") "ts_string"),
   .text (",\n" ++
       "  \x7d,\n" ++
       "\x7d);\n\n" ++
       "for (const router of routers) \x7b\n" ++
       "  app.route(\"/\", router);\n" ++
       "\x7d\n\n" ++
       "export default app;\n")]

/-- The files that are not kept under version control. -/
def ignoredFiles : String :=
  "node_modules/\n" ++
    "dist/\n" ++
    "*.db\n" ++
    ".env\n"

/-- The entry point of the server. -/
def serverModule : String :=
  "import \x7b serve \x7d from \"@hono/node-server\";\n\n" ++
    "import app from \"./app\";\n\n" ++
    "const port = Number(process.env.PORT ?? 3000);\n\n" ++
    "serve(\x7b fetch: app.fetch, port \x7d);\n" ++
    "console.log(`Server listening on http://localhost:$\x7bport\x7d`);\n"

/-- The connection to the database. -/
def connectionModule : String :=
  "import \x7b createClient \x7d from \"@libsql/client\";\n" ++
    "import \x7b drizzle \x7d from \"drizzle-orm/libsql\";\n\n" ++
    "import * as schema from \"./schema\";\n\n" ++
    "const client = createClient(\x7b url: process.env.DATABASE_URL " ++
    "?? \"file:local.db\" \x7d);\n\n" ++
    "const db = drizzle(client, \x7b schema \x7d);\n\n" ++
    "export default db;\n"

/-- The functions that make routers and the application. -/
def createAppModule : String :=
  "import \x7b OpenAPIHono \x7d from \"@hono/zod-openapi\";\n" ++
    "import \x7b defaultHook \x7d from \"stoker/openapi\";\n" ++
    "import \x7b notFound, onError \x7d from \"stoker/middlewares\";\n\n" ++
    "import type \x7b AppBindings \x7d from \"./types\";\n\n" ++
    "export function createRouter() \x7b\n" ++
    "  return new OpenAPIHono<AppBindings>(\x7b strict: false, defaultHook \x7d);\n" ++
    "\x7d\n\n" ++
    "export default function createApp() \x7b\n" ++
    "  const app = createRouter();\n" ++
    "  app.notFound(notFound);\n" ++
    "  app.onError(onError);\n" ++
    "  return app;\n" ++
    "\x7d\n"

/-- The types that handlers share. -/
def typesModule : String :=
  "import type \x7b OpenAPIHono, RouteConfig, RouteHandler \x7d from " ++
    "\"@hono/zod-openapi\";\n\n" ++
    "export interface AppBindings \x7b\n" ++
    "  Variables: Record<string, unknown>;\n" ++
    "\x7d\n\n" ++
    "export type AppOpenAPI = OpenAPIHono<AppBindings>;\n\n" ++
    "export type AppRouteHandler<R extends RouteConfig> = " ++
    "RouteHandler<R, AppBindings>;\n"

/-- What a file of the application holds: a text as it stands, or one to be rendered. -/
inductive Body where
  | verbatim (text : String)
  | template (statements : List Statement)

/-- The files in the order in which they are written. They stand under the places that the default
    layout gives them, and a name ending in `.jinja` marks a template. -/
def files : List (String × Body) :=
  [("package.json.jinja", .template packageTemplate),
   ("tsconfig.json.jinja", .template compilerTemplate),
   ("gitignore", .verbatim ignoredFiles),
   ("drizzle.config.ts.jinja", .template databaseTemplate),
   ("README.md.jinja", .template readmeTemplate),
   ("src/index.ts", .verbatim serverModule),
   ("src/app.ts.jinja", .template appTemplate),
   ("src/db/index.ts", .verbatim connectionModule),
   ("src/lib/create-app.ts", .verbatim createAppModule),
   ("src/lib/types.ts", .verbatim typesModule)]

end ApiSkeleton.App
