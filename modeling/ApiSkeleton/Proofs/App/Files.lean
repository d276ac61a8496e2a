import ApiSkeleton.App.Creation
import ApiSkeleton.Proofs.Layout
import ApiSkeleton.Proofs.Template.Run

namespace ApiSkeleton.App

open Template Emit

section Rendering

variable (p : Plan)

theorem find?_appName : (Scope.ofContext p.context).find? "app_name" = some (.text p.name) :=
  Scope.find?_ofContext rfl (by simp)

theorem find?_metadata :
    (Scope.ofContext p.context).find? "metadata" = some (metadataValue p.api.metadata) :=
  Scope.find?_ofContext rfl (by simp [metadataValue, Value.ofFields])

theorem find?_layout : (Scope.ofContext p.context).find? "layout" = some (layoutValue p.layout) :=
  Scope.find?_ofContext rfl (by simp [layoutValue, Value.ofFields])

variable {p} in
/-- A template that assigns nothing can be rendered if each of its statements can be run. -/
theorem render_of_each {statements : List Template.Statement}
    (h : ∀ t ∈ statements, ∃ out, t.run (Scope.ofContext p.context) =
      .ok (out, Scope.ofContext p.context)) : Succeeds (render statements p.context) := by
  obtain ⟨out, hout⟩ := runAll_of_each h
  exact ⟨out, by simp [render, hout]⟩

theorem render_packageTemplate : Succeeds (render packageTemplate p.context) := by
  refine render_of_each ?_
  cases hdescription : (optionalText p.api.metadata.description).isTrue <;>
    simp [-String.reduceAppend, packageTemplate, find?_appName, find?_metadata, find?_layout,
      metadataValue, layoutValue, findMember?, hdescription]

theorem render_compilerTemplate : Succeeds (render compilerTemplate p.context) := by
  refine render_of_each ?_
  simp [-String.reduceAppend, compilerTemplate, find?_layout, layoutValue, findMember?]

/-- The setting that names the module of the storage schema. -/
def schemaSetting (l : Layout) : String :=
  "  schema: \"./" ++ l.sourceDir ++ "/" ++ l.dbDir ++ "/schema." ++ l.extension ++ "\",\n"

/-- The settings of the database. -/
def databaseText : String :=
  "import \x7b defineConfig \x7d from \"drizzle-kit\";\n\n" ++
    "export default defineConfig(\x7b\n" ++
    schemaSetting p.layout ++
    ("  out: \"./drizzle\",\n" ++
    "  dialect: \"sqlite\",\n" ++
    "  dbCredentials: \x7b\n" ++
    "    url: process.env.DATABASE_URL ?? \"file:" ++ p.name ++ ".db\",\n" ++
    "  \x7d,\n" ++
    "\x7d);\n")

variable {p} in
theorem runAll_databaseTemplate {s : Scope} (hname : s.find? "app_name" = some (.text p.name))
    (hlayout : s.find? "layout" = some (layoutValue p.layout)) :
    runAll databaseTemplate s = .ok (databaseText p, s) := by
  unfold databaseText schemaSetting
  simp [-String.reduceAppend, databaseTemplate, hname, hlayout, layoutValue, findMember?,
    String.append_assoc]

theorem render_databaseTemplate : render databaseTemplate p.context = .ok (databaseText p) := by
  simp [render, runAll_databaseTemplate (find?_appName p) (find?_layout p)]

theorem render_readmeTemplate : Succeeds (render readmeTemplate p.context) := by
  refine render_of_each ?_
  cases hdescription : (optionalText p.api.metadata.description).isTrue <;>
    simp [-String.reduceAppend, readmeTemplate, run_branch, find?_appName, find?_metadata,
      find?_layout, metadataValue, layoutValue, findMember?, hdescription]

/-- The imports of the application that serves all routers. -/
def appHeader (l : Layout) : String :=
  "import createApp from \"./lib/create-app\";\n" ++
    "import \x7b routers \x7d from \"./" ++ l.routesDir ++ "/index\";\n\n"

/-- The application that serves all routers. -/
def appText : String :=
  appHeader p.layout ++
    ("const app = createApp();\n\n" ++
    "app.doc(\"/doc\", \x7b\n" ++
    "  openapi: \"3.0.0\",\n" ++
    "  info: \x7b\n" ++
    "    title: " ++ Text.quoted p.api.metadata.title ++ ",\n" ++
    "    version: " ++ Text.quoted p.api.metadata.version ++ ",\n" ++
    "  \x7d,\n" ++
    "\x7d);\n\n" ++
    "for (const router of routers) \x7b\n" ++
    "  app.route(\"/\", router);\n" ++
    "\x7d\n\n" ++
    "export default app;\n")

variable {p} in
theorem runAll_appTemplate {s : Scope}
    (hmetadata : s.find? "metadata" = some (metadataValue p.api.metadata))
    (hlayout : s.find? "layout" = some (layoutValue p.layout)) :
    runAll appTemplate s = .ok (appText p, s) := by
  unfold appText appHeader
  simp [-String.reduceAppend, appTemplate, hmetadata, hlayout, metadataValue, layoutValue,
    findMember?, String.append_assoc]

theorem render_appTemplate : render appTemplate p.context = .ok (appText p) := by
  simp [render, runAll_appTemplate (find?_metadata p) (find?_layout p)]

/-- Every file that an application starts with can be made, whatever the application is. -/
theorem fileStep_ok : ∀ f ∈ files, ∃ content, p.fileStep f.1 f.2 =
    .ok ⟨p.layout.place f.1, content⟩ := by
  have hverbatim (name text : String) : ∃ content, p.fileStep name (.verbatim text) =
      .ok ⟨p.layout.place name, content⟩ := ⟨_, rfl⟩
  have htemplate {statements : List Template.Statement}
      (h : Succeeds (render statements p.context)) (name : String) :
      ∃ content, p.fileStep name (.template statements) = .ok ⟨p.layout.place name, content⟩ := by
    obtain ⟨text, htext⟩ := h
    exact ⟨text.toUTF8, by simp [Plan.fileStep, htext, Step.ofText, Except.map]⟩
  simp only [files, List.forall_mem_cons, List.not_mem_nil, false_implies, implies_true, and_true]
  exact ⟨htemplate (render_packageTemplate p) _, htemplate (render_compilerTemplate p) _,
    hverbatim _ _, htemplate ⟨_, render_databaseTemplate p⟩ _,
    htemplate (render_readmeTemplate p) _, hverbatim _ _, htemplate ⟨_, render_appTemplate p⟩ _,
    hverbatim _ _, hverbatim _ _, hverbatim _ _⟩

end Rendering

/-- The files at the top keep their places, and those below the sources follow the layout. -/
theorem places_files (l : Layout) : files.map (fun f => l.place f.1) =
    [⟨"package.json"⟩, ⟨"tsconfig.json"⟩, ⟨".gitignore"⟩, ⟨"drizzle.config.ts"⟩, ⟨"README.md"⟩,
     (Path.mk l.sourceDir).join ⟨"index.ts"⟩, (Path.mk l.sourceDir).join ⟨"app.ts"⟩,
     ((Path.mk l.sourceDir).join ⟨l.dbDir⟩).join ⟨"index.ts"⟩,
     (Path.mk l.sourceDir).join ⟨"lib/create-app.ts"⟩,
     (Path.mk l.sourceDir).join ⟨"lib/types.ts"⟩] := by
  rfl

/-- The files that an application starts with lie inside it. -/
theorem staysInside_places {l : Layout} (hl : l.Accepted) :
    ∀ path ∈ files.map (fun f => l.place f.1), path.staysInside := by
  have hsource {rest : String} (hrest : Layout.isInside rest) :
      ((Path.mk l.sourceDir).join ⟨rest⟩).staysInside :=
    (hl.isPlain_source.join (Layout.isPlain_of_isInside hrest)).staysInside
  rw [places_files]
  simp only [List.forall_mem_cons, List.not_mem_nil, false_implies, implies_true, and_true]
  refine ⟨by decide, by decide, by decide, by decide, by decide, hsource (by decide),
    hsource (by decide), ?_, hsource (by decide), hsource (by decide)⟩
  exact (hl.isPlain_dbRoot.join (Layout.isPlain_of_isInside (by decide))).staysInside

end ApiSkeleton.App
