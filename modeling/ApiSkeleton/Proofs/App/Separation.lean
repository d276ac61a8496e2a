import ApiSkeleton.Proofs.App.DryRun
import ApiSkeleton.Proofs.Path.Separate

namespace ApiSkeleton

open ApiSkeleton.Path (Beside IsFile beside_of_heads beside_append_left_iff)

theorem Path.isFile_of_isInside {text : String} (hinside : Layout.isInside text)
    (hasks : FileSystem.asksDirectory ⟨text⟩ = false) : (Path.mk text).IsFile :=
  ⟨Layout.isPlain_of_isInside hinside, hasks⟩

/-- The places of the files that an application starts with are those of files. -/
private theorem App.isFile_places {l : Layout} (hl : l.Accepted) :
    ∀ path ∈ App.files.map (fun f => l.place f.1), path.IsFile := by
  have hsource {rest : String} (hinside : Layout.isInside rest)
      (hasks : FileSystem.asksDirectory ⟨rest⟩ = false) :
      ((Path.mk l.sourceDir).join ⟨rest⟩).IsFile :=
    (Path.isFile_of_isInside hinside hasks).join hl.isPlain_source
  have hindex : (((Path.mk l.sourceDir).join ⟨l.dbDir⟩).join ⟨"index.ts"⟩).IsFile :=
    (Path.isFile_of_isInside (by decide) (by decide)).join hl.isPlain_dbRoot
  rw [App.places_files]
  simp only [List.forall_mem_cons, List.not_mem_nil, false_implies, implies_true, and_true]
  refine ⟨?_, ?_, ?_, ?_, ?_, ?_, ?_, hindex, ?_, ?_⟩
  · exact Path.isFile_of_isInside (by decide) (by decide)
  · exact Path.isFile_of_isInside (by decide) (by decide)
  · exact Path.isFile_of_isInside (by decide) (by decide)
  · exact Path.isFile_of_isInside (by decide) (by decide)
  · exact Path.isFile_of_isInside (by decide) (by decide)
  · exact hsource (by decide) (by decide)
  · exact hsource (by decide) (by decide)
  · exact hsource (by decide) (by decide)
  · exact hsource (by decide) (by decide)

namespace Layout

variable {l : Layout}

private theorem Accepted.isFile_modulePaths (h : l.Accepted) (tags : List String) :
    ∀ path ∈ l.modulePaths tags, path.IsFile := by
  have hschema : Path.IsFileName ("schema." ++ l.extension) :=
    @Accepted.isFileName l h "schema" (by decide)
  refine forall_modulePaths ?_ fun module hmodule => ?_
  · exact (Path.isFile_of_fileName hschema).join h.isPlain_dbRoot
  · exact (Path.isFile_of_fileName (h.isFileName hmodule)).join h.isPlain_routesRoot

end Layout

theorem App.Plan.isFile_specPath (p : App.Plan) : p.specPath.IsFile := by
  unfold App.Plan.specPath
  cases Format.ofPath p.spec <;> exact Path.isFile_of_isInside (by decide) (by decide)

theorem App.Plan.Ready.isFile_paths {p : App.Plan} {fs : FileSystem} (h : p.Ready fs) :
    ∀ path ∈ p.paths, path.IsFile := by
  intro path hpath
  rcases List.mem_append.mp hpath with hstart | hrest
  · exact App.isFile_places h.layout path hstart
  · rcases List.mem_cons.mp hrest with hcopy | hmodule
    · rw [hcopy]
      exact p.isFile_specPath
    · exact h.layout.isFile_modulePaths _ path hmodule

namespace Layout

/-- The names at the top of an application that do not depend on the layout. -/
def topNames : List String :=
  ["package.json", "tsconfig.json", ".gitignore", "drizzle.config.ts", "README.md", "doc"]

/-- The names in the directory of the sources that do not depend on the layout. -/
def sourceNames : List String := ["index.ts", "app.ts", "lib"]

/-- A directory that begins with none of some names, and with a name at all. -/
def StartsBeside (dir : String) (taken : List String) : Prop :=
  ∃ first rest, (Path.mk dir).names = first :: rest ∧ first ∉ taken

/-- The directories of a layout stay clear of each other and of what has a fixed name. -/
structure Apart (l : Layout) : Prop where
  source : StartsBeside l.sourceDir topNames
  routes : StartsBeside l.routesDir sourceNames
  db : StartsBeside l.dbDir sourceNames
  routes_db : Beside (Path.mk l.routesDir).names (Path.mk l.dbDir).names

theorem apart_defaultLayout : defaultLayout.Apart := by
  have hsource : (Path.mk "src").names = ["src"] := Path.names_fileName (by simp [Path.IsFileName])
  have hroutes : (Path.mk "routes").names = ["routes"] :=
    Path.names_fileName (by simp [Path.IsFileName])
  have hdb : (Path.mk "db").names = ["db"] := Path.names_fileName (by simp [Path.IsFileName])
  refine ⟨⟨"src", [], hsource, by decide⟩, ⟨"routes", [], hroutes, by decide⟩,
    ⟨"db", [], hdb, by decide⟩, ?_⟩
  simp only [defaultLayout, hroutes, hdb]
  exact beside_of_heads (by decide) _ _

variable {l : Layout}

/-- The modules in the directory of the groups. -/
def groupModules (tags : List String) : List String :=
  tags.flatMap (fun tag => [routesModule tag, handlersModule tag, routerModule tag]) ++ ["index"]

theorem modulePaths_eq (l : Layout) (tags : List String) :
    l.modulePaths tags = l.schemaPath :: (groupModules tags).map l.groupPath := by
  have htag : l.tagPaths = fun tag => [l.groupPath (routesModule tag),
      l.groupPath (handlersModule tag), l.groupPath (routerModule tag)] := rfl
  simp only [modulePaths, htag, groupModules, routeIndexPath, List.map_append, List.map_flatMap,
    List.map_cons, List.map_nil, List.cons_append]

private theorem slash_notMem_groupModules {tags : List String} :
    ∀ module ∈ groupModules tags, '/' ∉ module.toList := by
  intro module hmodule
  simp only [groupModules, List.mem_append, List.mem_flatMap, List.mem_cons, List.not_mem_nil,
    or_false] at hmodule
  rcases hmodule with ⟨tag, _, rfl | rfl | rfl⟩ | rfl
  · exact slash_notMem_routesModule tag
  · exact slash_notMem_handlersModule tag
  · exact slash_notMem_routerModule tag
  · decide

/-- Tags with different stems have different modules. -/
private theorem Accepted.nodup_groupModules (h : l.Accepted) {tags : List String}
    (hstems : (tags.map tagStem).Nodup) : (groupModules tags).Nodup := by
  have hnames := h.nodup_fileNames hstems
  rw [modulePaths_eq, List.map_cons, List.nodup_cons, List.map_map] at hnames
  exact hnames.2.of_map _

variable (l) in
/-- The names on the paths of the modules below a directory of the sources. -/
def under (dir : String) (name : String) : List String :=
  (Path.mk l.sourceDir).names ++ ((Path.mk dir).names ++ [name])

theorem Accepted.names_join_source (h : l.Accepted) {rest : String} (hrest : isInside rest) :
    ((Path.mk l.sourceDir).join ⟨rest⟩).names =
      (Path.mk l.sourceDir).names ++ (Path.mk rest).names :=
  Path.names_join h.isPlain_source.text_ne
    (Path.not_isAbsolute_of_plain (isPlain_of_isInside hrest).steps)

theorem Accepted.names_under (h : l.Accepted) {dir name : String} (hdir : isInside dir)
    (hname : Path.IsFileName name) :
    (((Path.mk l.sourceDir).join ⟨dir⟩).join ⟨name⟩).names = l.under dir name := by
  have hplain := h.isPlain_source.join (isPlain_of_isInside hdir)
  rw [Path.names_join hplain.text_ne (Path.not_isAbsolute_fileName hname), h.names_join_source hdir,
    Path.names_fileName hname, under, List.append_assoc]

private theorem Accepted.names_modulePaths (h : l.Accepted) (tags : List String) :
    (l.modulePaths tags).map Path.names = l.under l.dbDir ("schema." ++ l.extension) ::
      (groupModules tags).map fun module => l.under l.routesDir (module ++ "." ++ l.extension) := by
  have hschema : l.schemaPath.names = l.under l.dbDir ("schema." ++ l.extension) :=
    h.names_under h.dbDir (@Accepted.isFileName l h "schema" (by decide))
  rw [modulePaths_eq, List.map_cons, List.map_map, hschema]
  congr 1
  refine List.map_congr_left fun module hmodule => ?_
  exact h.names_under h.routesDir (h.isFileName (slash_notMem_groupModules module hmodule))

private theorem Accepted.names_places (h : l.Accepted) :
    (App.files.map fun f => l.place f.1).map Path.names =
      [["package.json"], ["tsconfig.json"], [".gitignore"], ["drizzle.config.ts"], ["README.md"],
       (Path.mk l.sourceDir).names ++ ["index.ts"], (Path.mk l.sourceDir).names ++ ["app.ts"],
       l.under l.dbDir "index.ts",
       (Path.mk l.sourceDir).names ++ ["lib", "create-app.ts"],
       (Path.mk l.sourceDir).names ++ ["lib", "types.ts"]] := by
  have hsource {rest : String} {names : List String} (hinside : isInside rest)
      (hnames : (Path.mk rest).names = names) :
      ((Path.mk l.sourceDir).join ⟨rest⟩).names = (Path.mk l.sourceDir).names ++ names := by
    rw [h.names_join_source hinside, hnames]
  have hindex := h.names_under h.dbDir (show Path.IsFileName "index.ts" by simp [Path.IsFileName])
  rw [App.places_files]
  simp only [List.map_cons, List.map_nil, hindex]
  rw [hsource (by decide) (show _ = ["index.ts"] by decide),
    hsource (by decide) (show _ = ["app.ts"] by decide),
    hsource (by decide) (show _ = ["lib", "create-app.ts"] by decide),
    hsource (by decide) (show _ = ["lib", "types.ts"] by decide)]
  rfl

/-- The names on the paths of the files below the directory of the sources, seen from there. -/
def belowSource (l : Layout) (tags : List String) : List (List String) :=
  [["index.ts"], ["app.ts"], ["lib", "create-app.ts"], ["lib", "types.ts"]] ++
    ([["index.ts"], ["schema." ++ l.extension]].map ((Path.mk l.dbDir).names ++ ·) ++
      (groupModules tags).map fun module =>
        (Path.mk l.routesDir).names ++ [module ++ "." ++ l.extension])

/-- The names on all paths of an application, with those below the sources at the end. `copy` is the
name of the copy of the document. -/
def allNames (l : Layout) (copy : String) (tags : List String) : List (List String) :=
  [["package.json"], ["tsconfig.json"], [".gitignore"], ["drizzle.config.ts"], ["README.md"],
    ["doc", copy]] ++ (l.belowSource tags).map ((Path.mk l.sourceDir).names ++ ·)

theorem StartsBeside.beside {dir : String} {taken : List String} (h : StartsBeside dir taken)
    {name : String} (hname : name ∈ taken) (more rest : List String) :
    Beside (name :: more) ((Path.mk dir).names ++ rest) := by
  obtain ⟨first, others, hnames, hfirst⟩ := h
  rw [hnames, List.cons_append]
  refine beside_of_heads ?_ _ _
  rintro rfl
  exact hfirst hname

private theorem Apart.pairwise_belowSource (h : l.Apart) {tags : List String}
    (hmodules : (groupModules tags).Nodup) : (l.belowSource tags).Pairwise Beside := by
  have hfixed : [["index.ts"], ["app.ts"], ["lib", "create-app.ts"], ["lib", "types.ts"]].Pairwise
      Beside := by
    simp [Beside]
  have hstorage : ([["index.ts"], ["schema." ++ l.extension]].map
      ((Path.mk l.dbDir).names ++ ·)).Pairwise Beside := by
    have hne : "index.ts" ≠ "schema." ++ l.extension := by
      intro heq
      have hheads := congrArg (fun name => name.toList.head?) heq
      simp at hheads
    rw [Path.pairwise_beside_append_left_iff]
    simpa using beside_of_heads hne [] []
  have hgroups : ((groupModules tags).map fun module =>
      (Path.mk l.routesDir).names ++ [module ++ "." ++ l.extension]).Pairwise Beside := by
    refine List.pairwise_map.mpr (hmodules.imp fun hne => ?_)
    refine beside_append_left_iff.mpr (beside_of_heads ?_ _ _)
    simpa [String.append_assoc] using hne
  refine List.pairwise_append.mpr ⟨hfixed, List.pairwise_append.mpr ⟨hstorage, hgroups, ?_⟩, ?_⟩
  · intro a ha b hb
    obtain ⟨rest, -, rfl⟩ := List.mem_map.mp ha
    obtain ⟨module, -, rfl⟩ := List.mem_map.mp hb
    exact h.routes_db.symm.append _ _
  · have hhead : ∀ a ∈ [["index.ts"], ["app.ts"], ["lib", "create-app.ts"], ["lib", "types.ts"]],
        ∃ name more, a = name :: more ∧ name ∈ sourceNames := by
      simp [sourceNames]
    intro a ha b hb
    obtain ⟨name, more, rfl, hname⟩ := hhead a ha
    rcases List.mem_append.mp hb with hb | hb
    · obtain ⟨rest, -, rfl⟩ := List.mem_map.mp hb
      exact h.db.beside hname more rest
    · obtain ⟨module, -, rfl⟩ := List.mem_map.mp hb
      exact h.routes.beside hname more _

private theorem Apart.pairwise_allNames (h : l.Apart) {tags : List String}
    (hmodules : (groupModules tags).Nodup) (copy : String) :
    (l.allNames copy tags).Pairwise Beside := by
  have hhead : ∀ a ∈ [["package.json"], ["tsconfig.json"], [".gitignore"], ["drizzle.config.ts"],
      ["README.md"], ["doc", copy]], ∃ name more, a = name :: more ∧ name ∈ topNames := by
    simp [topNames]
  refine List.pairwise_append.mpr ⟨by simp [Beside],
    Path.pairwise_beside_append_left_iff.mpr (h.pairwise_belowSource hmodules), ?_⟩
  intro a ha b hb
  obtain ⟨name, more, rfl, hname⟩ := hhead a ha
  obtain ⟨rest, -, rfl⟩ := List.mem_map.mp hb
  exact h.source.beside hname more rest

end Layout

namespace App.Plan

theorem names_specPath (p : Plan) :
    p.specPath.names = ["doc", "openapi." ++ (Format.ofPath p.spec).name] := by
  unfold specPath
  cases Format.ofPath p.spec <;> decide

/-- The names on all paths of an application, up to their order. -/
private theorem names_paths_perm {p : Plan} (hl : p.layout.Accepted) :
    (p.paths.map Path.names).Perm (p.layout.allNames ("openapi." ++ (Format.ofPath p.spec).name)
      ((Model.groups p.api.endpoints).map (·.tag))) := by
  rw [paths, List.map_append, List.map_cons, hl.names_places, p.names_specPath,
    hl.names_modulePaths]
  simp only [Layout.allNames, Layout.belowSource, Layout.under, List.map_append, List.map_cons,
    List.map_nil, List.map_map, Function.comp_def]
  refine List.perm_iff_count.mpr fun names => ?_
  simp only [List.count_append, List.count_cons, List.count_nil]
  omega

/-- Directories that stay clear of each other keep all files apart. -/
theorem Ready.separate_paths {p : Plan} {fs : FileSystem} (h : p.Ready fs)
    (hapart : p.layout.Apart) : Path.Separate p.paths := by
  have hbindings : (Emit.bindings (Model.groups p.api.endpoints)).Nodup := by
    rcases Emit.checkApi_cases p.api with ⟨_, hbad⟩ | ⟨_, _, _, hbad⟩ | ⟨_, hnodup, _⟩
    · rw [h.checked] at hbad
      cases hbad
    · rw [h.checked] at hbad
      cases hbad
    · exact hnodup
  have hmodules := h.layout.nodup_groupModules (Emit.nodup_stems_of_bindings hbindings)
  refine Path.separate_of_pairwise ?_
  rw [(names_paths_perm h.layout).pairwise_iff Beside.symm]
  exact hapart.pairwise_allNames hmodules _

end App.Plan

end ApiSkeleton
