import ApiSkeleton.Proofs.App.Files
import ApiSkeleton.Proofs.Emit.Handlers
import ApiSkeleton.Proofs.Emit.Routers
import ApiSkeleton.Proofs.Path.Landing

namespace ApiSkeleton

/-- A specifier, read in a directory, leads to the place of a path, wherever the application
lies. -/
def Path.Resolves (dir : Path) (specifier : String) (target : Path) : Prop :=
  ∀ start, (Path.mk specifier).landing (dir.landing start) = target.landing start

/-- A specifier in a file leads to a path: it is read in the directory around the file. -/
def Path.Imports (file : Path) (specifier : String) (target : Path) : Prop :=
  ∃ dir, file.parent? = some dir ∧ dir.Resolves specifier target

theorem Path.resolves_congr {dir dir' target target' : Path} {specifier : String}
    (hdir : dir.components = dir'.components) (htarget : target.components = target'.components) :
    dir.Resolves specifier target ↔ dir'.Resolves specifier target' := by
  simp only [Resolves, landing_congr hdir, landing_congr htarget]

/-- The directory around a file is known by its steps. -/
private theorem Path.imports_of_components {file dir target : Path} {name specifier : String}
    (hfile : file.components = dir.components ++ [.name name])
    (h : dir.Resolves specifier target) : file.Imports specifier target := by
  obtain ⟨up, hup, haround⟩ := exists_parent hfile
  exact ⟨up, hup, (resolves_congr haround.components rfl).mpr h⟩

/-- A specifier that begins with a dot goes on from the directory itself. -/
theorem Path.resolves_current {p : Path} (hp : ∀ c ∈ p.components, c.isPlain) (dir : Path) :
    dir.Resolves ("./" ++ p.text) (dir.join p) := fun start => by
  rw [landing_current hp, landing_join hp]

/-- Two paths with a slash between them lead where they lead one behind the other. -/
theorem Path.Resolves.of_slash {dir up p q : Path} {specifier : String} (hp : p.IsPlain)
    (hq : q.IsPlain) (h : dir.Resolves specifier (up.join ⟨p.text ++ "/" ++ q.text⟩)) :
    dir.Resolves specifier ((up.join p).join q) := fun start => by
  rw [h start, landing_join (hp.slash hq).steps, names_slash hp hq, landing_join hq.steps,
    landing_join hp.steps, List.append_assoc]

namespace Layout

variable {l : Layout}

private theorem routesDepth_eq (l : Layout) :
    l.routesDepth = (Path.mk l.routesDir).names.length := by
  rw [routesDepth, Path.names]
  induction (Path.mk l.routesDir).components with
  | nil => rfl
  | cons c rest ih => cases c <;> simp [Path.Component.name?, ih]

/-- The way from the directory of the groups leads back to that of the sources, and down from
there. -/
theorem Accepted.resolves_sourceRoot (h : l.Accepted) {p : Path}
    (hp : ∀ c ∈ p.components, c.isPlain) :
    l.routesRoot.Resolves (l.sourceRootImport ++ p.text) ((Path.mk l.sourceDir).join p) := by
  intro start
  have hroutes := (isPlain_of_isInside h.routesDir).steps
  rw [routesRoot, Path.landing_join hroutes, Path.landing_join hp, sourceRootImport, routesDepth_eq]
  split
  · rename_i hdepth
    rw [Path.landing_current hp, List.eq_nil_of_length_eq_zero hdepth, List.append_nil]
  · rename_i hdepth
    exact Path.landing_climbs hp (List.ne_nil_of_length_pos (Nat.pos_of_ne_zero hdepth)) _

theorem Accepted.isPlain_dbDir (h : l.Accepted) : (Path.mk l.dbDir).IsPlain :=
  isPlain_of_isInside h.dbDir

theorem Accepted.isPlain_schemaFile (h : l.Accepted) :
    (Path.mk ("schema." ++ l.extension)).IsPlain :=
  (Path.isFile_of_fileName (@Accepted.isFileName l h "schema" (by decide))).toIsPlain

/-- The modules of a tag lie side by side in the directory of the groups. -/
private theorem Accepted.components_tagPaths (h : l.Accepted) {tag : String} {file : Path}
    (hfile : file ∈ l.tagPaths tag) :
    ∃ name, file.components = l.routesRoot.components ++ [.name name] := by
  simp only [tagPaths, List.mem_cons, List.not_mem_nil, or_false] at hfile
  rcases hfile with hfile | hfile | hfile <;> rw [hfile]
  · exact ⟨_, h.components_groupPath (slash_notMem_routesModule tag)⟩
  · exact ⟨_, h.components_groupPath (slash_notMem_handlersModule tag)⟩
  · exact ⟨_, h.components_groupPath (slash_notMem_routerModule tag)⟩

/-- The directory of the schema, seen from the modules of the groups. -/
private theorem Accepted.resolves_dbModule (h : l.Accepted) :
    l.routesRoot.Resolves l.dbModule ((Path.mk l.sourceDir).join ⟨l.dbDir⟩) := by
  rw [dbModule]
  exact @Accepted.resolves_sourceRoot l h ⟨l.dbDir⟩ h.isPlain_dbDir.steps

private theorem Accepted.resolves_schema (h : l.Accepted) :
    l.routesRoot.Resolves (l.dbModule ++ "/schema" ++ "." ++ l.extension) l.schemaPath := by
  have htext : l.dbModule ++ "/schema" ++ "." ++ l.extension =
      l.sourceRootImport ++ (l.dbDir ++ "/" ++ ("schema." ++ l.extension)) := by
    have hslash : "/schema" = "/" ++ "schema" := rfl
    have hdot : "schema." = "schema" ++ "." := rfl
    simp only [dbModule, hslash, hdot, String.append_assoc]
  rw [htext]
  exact .of_slash h.isPlain_dbDir h.isPlain_schemaFile
    (h.resolves_sourceRoot (h.isPlain_dbDir.slash h.isPlain_schemaFile).steps)

/-- A module beside those of the groups is imported by its name. -/
private theorem Accepted.resolves_groupPath (h : l.Accepted) {module : String}
    (hmodule : '/' ∉ module.toList) :
    l.routesRoot.Resolves ("./" ++ module ++ "." ++ l.extension) (l.groupPath module) := by
  have hfile : (Path.mk (module ++ "." ++ l.extension)).IsPlain :=
    (Path.isFile_of_fileName (h.isFileName hmodule)).toIsPlain
  have htext : "./" ++ module ++ "." ++ l.extension = "./" ++ (module ++ "." ++ l.extension) := by
    simp only [String.append_assoc]
  rw [htext]
  exact Path.resolves_current hfile.steps l.routesRoot

/-- The list of the routers, seen from the directory of the sources. -/
private theorem Accepted.resolves_routeIndex (h : l.Accepted) : (Path.mk l.sourceDir).Resolves
    ("./" ++ l.routesDir ++ "/index" ++ "." ++ l.extension) l.routeIndexPath := by
  have hroutes : (Path.mk l.routesDir).IsPlain := isPlain_of_isInside h.routesDir
  have hindex : (Path.mk ("index" ++ "." ++ l.extension)).IsPlain :=
    (Path.isFile_of_fileName (@Accepted.isFileName l h "index" (by decide))).toIsPlain
  have htext : "./" ++ l.routesDir ++ "/index" ++ "." ++ l.extension =
      "./" ++ (l.routesDir ++ "/" ++ ("index" ++ "." ++ l.extension)) := by
    have hslash : "/index" = "/" ++ "index" := rfl
    simp only [hslash, String.append_assoc]
  rw [htext]
  exact .of_slash hroutes hindex (Path.resolves_current (hroutes.slash hindex).steps _)

/-- The schema, seen from the directory of the application. -/
private theorem Accepted.resolves_schemaSetting (h : l.Accepted) : (Path.mk "").Resolves
    ("./" ++ l.sourceDir ++ "/" ++ l.dbDir ++ "/schema." ++ l.extension) l.schemaPath := by
  have hbelow := h.isPlain_dbDir.slash h.isPlain_schemaFile
  have htext : "./" ++ l.sourceDir ++ "/" ++ l.dbDir ++ "/schema." ++ l.extension =
      "./" ++ (l.sourceDir ++ "/" ++ (l.dbDir ++ "/" ++ ("schema." ++ l.extension))) := by
    have hslash : "/schema." = "/" ++ "schema." := rfl
    simp only [hslash, String.append_assoc]
  have hsource : (Path.mk "").join ⟨l.sourceDir⟩ = ⟨l.sourceDir⟩ :=
    Path.join_of_empty rfl (Path.not_isAbsolute_of_plain h.isPlain_source.steps)
  have hwhole := Path.resolves_current (h.isPlain_source.slash hbelow).steps ⟨""⟩
  rw [htext, schemaPath, ← hsource]
  exact .of_slash h.isPlain_dbDir h.isPlain_schemaFile (.of_slash h.isPlain_source hbelow hwhole)

/-- Each specifier of a layout leads to the file that it is meant for. An import leaves out how the
name of the file ends: with `.ts` for the files that an application starts with, and with the
extension of the layout for modules. -/
structure Connected (l : Layout) : Prop where
  /-- The modules of all tags lie in the directory that their specifiers are read in. -/
  directory : ∀ tag, ∀ file ∈ l.tagPaths tag, ∃ dir, file.parent? = some dir ∧
    dir.components = l.routesRoot.components
  sourceRoot : l.routesRoot.Resolves l.sourceRootImport ⟨l.sourceDir⟩
  types : l.routesRoot.Resolves (l.sourceRootImport ++ "lib/types" ++ ".ts")
    (l.place "src/lib/types.ts")
  createApp : l.routesRoot.Resolves (l.sourceRootImport ++ "lib/create-app" ++ ".ts")
    (l.place "src/lib/create-app.ts")
  database : ∃ dir, (l.place "src/db/index.ts").parent? = some dir ∧
    l.routesRoot.Resolves l.dbModule dir
  schema : l.routesRoot.Resolves (l.dbModule ++ "/schema" ++ "." ++ l.extension) l.schemaPath
  /-- The modules of one tag refer to each other. -/
  modules : ∀ tag,
    l.routesRoot.Resolves ("./" ++ routesModule tag ++ "." ++ l.extension) (l.routesPath tag) ∧
    l.routesRoot.Resolves ("./" ++ handlersModule tag ++ "." ++ l.extension) (l.handlersPath tag) ∧
    l.routesRoot.Resolves ("./" ++ routerModule tag ++ "." ++ l.extension) (l.routerPath tag)
  appCreateApp : (l.place "src/app.ts").Imports ("./lib/create-app" ++ ".ts")
    (l.place "src/lib/create-app.ts")
  routers : (l.place "src/app.ts").Imports
    ("./" ++ l.routesDir ++ "/index" ++ "." ++ l.extension) l.routeIndexPath
  /-- The settings of the database name the schema from the directory of the application. -/
  settings : (Path.mk "").Resolves
    ("./" ++ l.sourceDir ++ "/" ++ l.dbDir ++ "/schema." ++ l.extension) l.schemaPath

/-- Below the directory of the sources lie the files that an application starts with. -/
private theorem place_source (l : Layout) :
    l.place "src/app.ts" = (Path.mk l.sourceDir).join ⟨"app.ts"⟩ ∧
    l.place "src/lib/types.ts" = (Path.mk l.sourceDir).join ⟨"lib/types.ts"⟩ ∧
    l.place "src/lib/create-app.ts" = (Path.mk l.sourceDir).join ⟨"lib/create-app.ts"⟩ ∧
    l.place "src/db/index.ts" = ((Path.mk l.sourceDir).join ⟨l.dbDir⟩).join ⟨"index.ts"⟩ :=
  ⟨rfl, rfl, rfl, rfl⟩

theorem Accepted.connected (h : l.Accepted) : l.Connected := by
  obtain ⟨happ, htypes, hcreate, hdb⟩ := place_source l
  have happname : Path.IsFileName "app.ts" := by simp [Path.IsFileName]
  have hdbname : Path.IsFileName "index.ts" := by simp [Path.IsFileName]
  have happfile := Path.components_join_file h.isPlain_source.text_ne happname
  have hdbfile := Path.components_join_file h.isPlain_dbRoot.text_ne hdbname
  constructor
  case directory =>
    intro tag file hfile
    obtain ⟨name, hname⟩ := h.components_tagPaths hfile
    obtain ⟨dir, hdir, haround⟩ := Path.exists_parent hname
    exact ⟨dir, hdir, haround.components⟩
  case sourceRoot =>
    intro start
    have hempty := @Accepted.resolves_sourceRoot l h ⟨""⟩ (by decide) start
    have hnames : (Path.mk "").names = [] := rfl
    rw [String.append_empty, Path.landing_join (by decide), hnames, List.append_nil] at hempty
    exact hempty
  case types =>
    rw [htypes, String.append_assoc]
    exact @Accepted.resolves_sourceRoot l h ⟨"lib/types" ++ ".ts"⟩ (by decide)
  case createApp =>
    rw [hcreate, String.append_assoc]
    exact @Accepted.resolves_sourceRoot l h ⟨"lib/create-app" ++ ".ts"⟩ (by decide)
  case database =>
    rw [hdb]
    obtain ⟨dir, hdir, haround⟩ := Path.exists_parent hdbfile
    exact ⟨dir, hdir, (Path.resolves_congr rfl haround.components).mpr h.resolves_dbModule⟩
  case schema => exact h.resolves_schema
  case modules =>
    exact fun tag => ⟨h.resolves_groupPath (slash_notMem_routesModule tag),
      h.resolves_groupPath (slash_notMem_handlersModule tag),
      h.resolves_groupPath (slash_notMem_routerModule tag)⟩
  case appCreateApp =>
    rw [happ, hcreate]
    exact Path.imports_of_components happfile
      (@Path.resolves_current ⟨"lib/create-app.ts"⟩ (by decide) ⟨l.sourceDir⟩)
  case routers =>
    rw [happ]
    exact Path.imports_of_components happfile h.resolves_routeIndex
  case settings => exact h.resolves_schemaSetting

end Layout

/-- An import statement. -/
def importLine (what specifier : String) : String :=
  "import " ++ what ++ " from \"" ++ specifier ++ "\";\n"

namespace Emit

open Model

variable (l : Layout) (tag : String)

/-- The imports in the handlers of a tag that are not of packages, but for that of the types of the
routes. -/
def handlersImports : List String :=
  [importLine "type \x7b AppRouteHandler \x7d" (l.sourceRootImport ++ "lib/types"),
   importLine "db" l.dbModule,
   importLine ("\x7b " ++ tagBinding tag ++ " \x7d") (l.dbModule ++ "/schema")]

private theorem handlersHeader_eq : ∃ packages,
    handlersHeader l tag = String.join (packages :: handlersImports l tag ++ ["\n"]) := by
  have htype : "import type \x7b AppRouteHandler \x7d from \"" =
      "import " ++ ("type \x7b AppRouteHandler \x7d" ++ " from \"") := by simp
  have htypes : "lib/types\";\n" = "lib/types" ++ "\";\n" := by simp
  have hdb : "import db from \"" = "import " ++ ("db" ++ " from \"") := by simp
  have htable : "import \x7b " = "import " ++ "\x7b " := by simp
  have hfrom : " \x7d from \"" = " \x7d" ++ " from \"" := by simp
  have hschema : "/schema\";\n\n" = "/schema" ++ ("\";\n" ++ "\n") := by simp
  refine ⟨"import \x7b eq \x7d from \"drizzle-orm\";\n" ++
    "import * as HttpStatusCodes from \"stoker/http-status-codes\";\n" ++
    "import * as HttpStatusPhrases from \"stoker/http-status-phrases\";\n\n", ?_⟩
  unfold handlersHeader handlersImports importLine
  rw [htype, htypes, hdb, htable, hfrom, hschema]
  simp only [List.cons_append, List.nil_append, String.join_cons, String.join_nil,
    String.append_assoc, String.append_empty]

/-- The imports in the router of a tag. -/
def routerLines : List String :=
  [importLine "\x7b createRouter \x7d" (l.sourceRootImport ++ "lib/create-app"),
   importLine "* as handlers" ("./" ++ Layout.handlersModule tag),
   importLine "* as routes" ("./" ++ Layout.routesModule tag)]

private theorem routerImports_eq :
    routerImports l tag = String.join ((routerLines l tag).insertIdx 1 "\n" ++ ["\n"]) := by
  have hcreate : "import \x7b createRouter \x7d from \"" =
      "import " ++ ("\x7b createRouter \x7d" ++ " from \"") := by simp
  have hlibrary : "lib/create-app\";\n\n" = "lib/create-app" ++ ("\";\n" ++ "\n") := by simp
  have hhandlers : "import * as handlers from \"./" =
      "import " ++ ("* as handlers" ++ (" from \"" ++ "./")) := by simp
  have hroutes : "import * as routes from \"./" =
      "import " ++ ("* as routes" ++ (" from \"" ++ "./")) := by simp
  have hend : "\";\n\n" = "\";\n" ++ "\n" := by simp
  unfold routerImports routerLines importLine
  rw [hcreate, hlibrary, hhandlers, hroutes, hend]
  simp only [List.insertIdx_succ_cons, List.insertIdx_zero, List.cons_append, List.nil_append,
    String.join_cons, String.join_nil, String.append_assoc, String.append_empty]

/-- The handlers of every group have the imports of their tag. -/
private theorem occurs_handlersImports (g : Group) :
    ∀ line ∈ handlersImports l g.tag, Occurs line (handlersText l g) := by
  intro line hline
  obtain ⟨packages, hheader⟩ := handlersHeader_eq l g.tag
  have hbegin : Occurs line (handlersHeader l g.tag) := by
    rw [hheader]
    exact occurs_join (by simp [hline])
  unfold handlersText
  exact hbegin.append_right _ |>.append_right _ |>.append_right _ |>.append_right _
    |>.append_right _ |>.append_right _

/-- The router of every group has the imports of its tag. -/
private theorem occurs_routerLines (g : Group) :
    ∀ line ∈ routerLines l g.tag, Occurs line (routerText l g) := by
  intro line hline
  have hbegin : Occurs line (routerImports l g.tag) := by
    rw [routerImports_eq]
    refine occurs_join (List.mem_append_left _ ?_)
    exact (List.mem_insertIdx (by simp [routerLines])).mpr (.inr hline)
  unfold routerText
  exact hbegin.append_right _ |>.append_right _ |>.append_right _

/-- The list of the routers imports each. -/
private theorem occurs_routerImport {gs : List Group} {g : Group} (hg : g ∈ gs) :
    Occurs (importLine (tagBinding g.tag) ("./" ++ Layout.routerModule g.tag))
      (routeIndexText gs) := by
  have hline : routerImportText g =
      importLine (tagBinding g.tag) ("./" ++ Layout.routerModule g.tag) := by
    have hfrom : " from \"./" = " from \"" ++ "./" := by simp
    simp only [routerImportText, importLine, hfrom, String.append_assoc]
  have hbegin : Occurs (routerImportText g) (String.join (gs.map routerImportText)) :=
    occurs_join (List.mem_map_of_mem hg)
  rw [← hline]
  unfold routeIndexText
  exact hbegin.append_right _ |>.append_right _ |>.append_right _

end Emit

namespace App

open Template Emit

/-- The imports in the application that serves all routers. -/
def appImports (l : Layout) : List String :=
  [importLine "createApp" "./lib/create-app",
   importLine "\x7b routers \x7d" ("./" ++ l.routesDir ++ "/index")]

private theorem appHeader_eq (l : Layout) : appHeader l = String.join (appImports l ++ ["\n"]) := by
  have hcreate : "import createApp from \"./lib/create-app\";\n" =
      importLine "createApp" "./lib/create-app" := by simp [importLine]
  have hrouters : "import \x7b routers \x7d from \"./" =
      "import " ++ ("\x7b routers \x7d" ++ (" from \"" ++ "./")) := by simp
  have hindex : "/index\";\n\n" = "/index" ++ ("\";\n" ++ "\n") := by simp
  unfold appHeader appImports
  rw [hcreate, hrouters, hindex]
  unfold importLine
  simp only [List.cons_append, List.nil_append, String.join_cons, String.join_nil,
    String.append_assoc, String.append_empty]

private theorem occurs_appImports (p : Plan) :
    ∀ line ∈ appImports p.layout, Occurs line (appText p) := by
  intro line hline
  have hbegin : Occurs line (appHeader p.layout) := by
    rw [appHeader_eq]
    exact occurs_join (List.mem_append_left _ hline)
  unfold appText
  exact hbegin.append_right _

private theorem occurs_schemaSetting (p : Plan) :
    Occurs (schemaSetting p.layout) (databaseText p) := by
  unfold databaseText
  exact ⟨_, _, rfl⟩

private theorem fileStep_app (p : Plan) : p.fileStep "src/app.ts.jinja" (.template appTemplate) =
    .ok ⟨p.layout.place "src/app.ts", (appText p).toUTF8⟩ := by
  have hplace : p.layout.place "src/app.ts.jinja" = p.layout.place "src/app.ts" := rfl
  simp [Plan.fileStep, render_appTemplate, Step.ofText, Except.map, hplace]

private theorem fileStep_database (p : Plan) :
    p.fileStep "drizzle.config.ts.jinja" (.template databaseTemplate) =
      .ok ⟨⟨"drizzle.config.ts"⟩, (databaseText p).toUTF8⟩ := by
  have hplace : p.layout.place "drizzle.config.ts.jinja" = ⟨"drizzle.config.ts"⟩ := rfl
  simp [Plan.fileStep, render_databaseTemplate, Step.ofText, Except.map, hplace]

end App

namespace Layout

open App Emit

/-- Relative imports lead to the files that are written, under any layout that has passed its check:
the specifiers resolve to the places of the files, and they are what stands in the texts, in the
modules of all groups and in the files that every application with this layout starts with. -/
theorem imports_lead_to_files {l : Layout} (hl : l.fault? = none) :
    l.Connected ∧
    (∀ g, ∃ text, ModuleKind.handlers.render (handlersContext l g) = .ok text ∧
      ∀ line ∈ handlersImports l g.tag, Occurs line text) ∧
    (∀ g, ∃ text, ModuleKind.router.render (routerContext l g) = .ok text ∧
      ∀ line ∈ routerLines l g.tag, Occurs line text) ∧
    (∀ gs, ∃ text, ModuleKind.routeIndex.render (routeIndexContext gs) = .ok text ∧
      ∀ g ∈ gs, Occurs (importLine (tagBinding g.tag) ("./" ++ routerModule g.tag)) text) ∧
    ∀ p : Plan, p.layout = l →
      (∃ text, p.fileStep "src/app.ts.jinja" (.template appTemplate) =
          .ok ⟨l.place "src/app.ts", text.toUTF8⟩ ∧ ∀ line ∈ appImports l, Occurs line text) ∧
      ∃ text, p.fileStep "drizzle.config.ts.jinja" (.template databaseTemplate) =
          .ok ⟨⟨"drizzle.config.ts"⟩, text.toUTF8⟩ ∧ Occurs (schemaSetting l) text := by
  have haccepted := fault?_eq_none_iff.mp hl
  refine ⟨haccepted.connected, fun g => ?_, fun g => ?_, fun gs => ?_, ?_⟩
  · exact ⟨_, render_handlers l g, occurs_handlersImports l g⟩
  · exact ⟨_, render_router l g, occurs_routerLines l g⟩
  · exact ⟨_, render_routeIndex gs, fun g => occurs_routerImport⟩
  · rintro p rfl
    exact ⟨⟨_, fileStep_app p, occurs_appImports p⟩, _, fileStep_database p,
      occurs_schemaSetting p⟩

/-- A layout that is written with dots and repeated slashes. -/
def winding : Layout := ⟨"mts", "./app", "api//routes/.", "storage/"⟩

theorem winding_connected : winding.fault? = none ∧ winding.Connected ∧
    winding.sourceRootImport = "../../" ∧ winding.dbModule = "../../storage/" := by
  have hfault : winding.fault? = none := by decide
  have hdepth : winding.routesDepth = 2 := by decide
  have hroot : winding.sourceRootImport = "../../" := by
    rw [sourceRootImport, hdepth]
    rfl
  exact ⟨hfault, (imports_lead_to_files hfault).1, hroot, by rw [dbModule, hroot]; rfl⟩

end Layout

end ApiSkeleton
