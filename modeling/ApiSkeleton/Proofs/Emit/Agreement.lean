import ApiSkeleton.Proofs.Emit.Generation

namespace ApiSkeleton.Emit

open Model

variable {l : Layout} {api : Api}

/-- A success says that the checks were passed, so that every file is kept. -/
theorem generate_of_success (hl : l.Accepted) (hapi : api.WellFormed) {paths : List Path}
    (hdone : (generate Memory.sink l api []).2 = .ok paths) :
    (bindings (groups api.endpoints)).Nodup ∧
      (generate Memory.sink l api []).1.Perm (moduleFiles l api) := by
  rcases checkApi_cases api with ⟨_, hcheck⟩ | ⟨_, _, fault, hcheck⟩ | ⟨_, hdistinct, hcheck⟩
  · rw [generate_of_refused l hcheck] at hdone
    cases hdone
  · rw [generate_of_refused l hcheck] at hdone
    cases hdone
  · exact ⟨hdistinct, (generate_of_checked hl hapi hdistinct hcheck).2⟩

/-- Every file of a successful run can be looked up afterwards. -/
theorem content?_of_success (hl : l.Accepted) (hapi : api.WellFormed) {paths : List Path}
    (hdone : (generate Memory.sink l api []).2 = .ok paths) {f : OutputFile}
    (hf : f ∈ moduleFiles l api) :
    (generate Memory.sink l api []).1.content? f.path = some f.content := by
  obtain ⟨hdistinct, hmemory⟩ := generate_of_success hl hapi hdone
  have hplaces := (hmemory.map (·.place)).nodup_iff.mpr (nodup_places_moduleFiles hl hdistinct)
  exact Memory.content?_of_mem hplaces (hmemory.mem_iff.mpr hf)

/-- A file that is found under the name of a module by the modules of the groups. -/
def IsModuleFile (l : Layout) (path : Path) (module : String) : Prop :=
  path.components = l.routesRoot.components ++ [.name (module ++ "." ++ l.extension)]

/-- What the files of a group declare, import and call. For each endpoint in order there is one
route with its type, one handler of that type, and one call that joins the two, the last of which
ends the chain; and the modules that are imported are files of the group. -/
structure GroupAgrees (l : Layout) (memory : Memory) (g : Group) : Prop where
  routes : memory.content? (l.routesPath g.tag) = some (routesHeader g.tag ++
    String.join (g.endpoints.map fun e =>
      "\nexport const " ++ Text.camelCase e.operationId ++ " = createRoute(" ++ routeBody e ++
        ");\n\nexport type " ++ Text.pascalCase e.operationId ++ "Route = typeof " ++
        Text.camelCase e.operationId ++ ";\n")).toUTF8
  handlers : memory.content? (l.handlersPath g.tag) = some (handlersHeader l g.tag ++
    "import type \x7b\n" ++
    String.join (g.endpoints.map fun e => "  " ++ Text.pascalCase e.operationId ++ "Route,\n") ++
    "\x7d from \"./" ++ Layout.routesModule g.tag ++ "\";\n" ++
    String.join (g.endpoints.map fun e =>
      "\nexport const " ++ Text.camelCase e.operationId ++ ": AppRouteHandler<" ++
        Text.pascalCase e.operationId ++ "Route> = async (c) => \x7b\n" ++
        stubBody (tagBinding g.tag) e ++ "\x7d;\n")).toUTF8
  router : memory.content? (l.routerPath g.tag) = some (
    "import \x7b createRouter \x7d from \"" ++ l.sourceRootImport ++ "lib/create-app\";\n\n" ++
    "import * as handlers from \"./" ++ Layout.handlersModule g.tag ++ "\";\n" ++
    "import * as routes from \"./" ++ Layout.routesModule g.tag ++ "\";\n\n" ++
    "const router = createRouter()\n" ++
    String.join (g.endpoints.mapIdx fun i e =>
      "  .openapi(routes." ++ Text.camelCase e.operationId ++ ", handlers." ++
        Text.camelCase e.operationId ++ ")" ++
        (if i + 1 = g.endpoints.length then ";" else "") ++ "\n") ++
    "\nexport default router;\n").toUTF8
  routesFile : IsModuleFile l (l.routesPath g.tag) (Layout.routesModule g.tag)
  handlersFile : IsModuleFile l (l.handlersPath g.tag) (Layout.handlersModule g.tag)
  routerFile : IsModuleFile l (l.routerPath g.tag) (Layout.routerModule g.tag)

/-- What the list of routers imports and lists: one router for every group, in order. -/
structure IndexAgrees (l : Layout) (memory : Memory) (gs : List Group) : Prop where
  content : memory.content? l.routeIndexPath = some (
    String.join (gs.map fun g =>
      "import " ++ tagBinding g.tag ++ " from \"./" ++ Layout.routerModule g.tag ++ "\";\n") ++
    "\nexport const routers = [\n" ++
    String.join (gs.map fun g => "  " ++ tagBinding g.tag ++ ",\n") ++ "] as const;\n").toUTF8
  file : IsModuleFile l l.routeIndexPath "index"

private theorem groupAgrees_of_files (hl : l.Accepted) {memory : Memory} {g : Group}
    (h : ∀ f ∈ groupFiles l g, memory.content? f.path = some f.content) :
    GroupAgrees l memory g := by
  simp only [groupFiles, List.forall_mem_cons, List.not_mem_nil, false_implies, implies_true,
    and_true] at h
  obtain ⟨hroutes, hhandlers, hrouter⟩ := h
  unfold routesText routeText at hroutes
  unfold handlersText routeTypeText stubText at hhandlers
  unfold routerText routerImports joinText at hrouter
  exact {
    routes := hroutes
    handlers := hhandlers
    router := hrouter
    routesFile := hl.components_groupPath (Layout.slash_notMem_routesModule g.tag)
    handlersFile := hl.components_groupPath (Layout.slash_notMem_handlersModule g.tag)
    routerFile := hl.components_groupPath (Layout.slash_notMem_routerModule g.tag) }

private theorem indexAgrees_of_file (hl : l.Accepted) {memory : Memory} {gs : List Group}
    (h : memory.content? l.routeIndexPath = some (routeIndexText gs).toUTF8) :
    IndexAgrees l memory gs := by
  unfold routeIndexText routerImportText routerEntryText at h
  exact ⟨h, hl.components_groupPath (by decide)⟩

/-- The names in the modules of a successful run. The routes, the handlers and the router of a group
have one name and one type for each of its endpoints, in one order; the modules that they name are
the files beside them; and the list of routers imports and lists the router of every group. -/
theorem generated_names_agree (hl : l.fault? = none) (hapi : api.WellFormed) {paths : List Path}
    (hdone : (generate Memory.sink l api []).2 = .ok paths) :
    (∀ g ∈ groups api.endpoints, GroupAgrees l (generate Memory.sink l api []).1 g) ∧
      IndexAgrees l (generate Memory.sink l api []).1 (groups api.endpoints) := by
  have haccepted := Layout.fault?_eq_none_iff.mp hl
  constructor
  · intro g hg
    refine groupAgrees_of_files haccepted fun f hf => content?_of_success haccepted hapi hdone ?_
    exact List.mem_cons_of_mem _ (List.mem_append_left _ (List.mem_flatMap.mpr ⟨g, hg, hf⟩))
  · refine indexAgrees_of_file haccepted ?_
    exact @content?_of_success l api haccepted hapi paths hdone
      ⟨l.routeIndexPath, (routeIndexText (groups api.endpoints)).toUTF8⟩ (by simp [moduleFiles])

def removePets : Endpoint := { listPets with method := .delete, operationId := "removePets" }

/-- A shop whose first group has two endpoints, with one of the other group between them. -/
def petShop : Api := ⟨[listPets, addOrder, removePets], [], ⟨"Shop", "1.0", none⟩⟩

private theorem petShop_wellFormed : petShop.WellFormed := by
  have hpets : listPets.WellFormed := shop_wellFormed _ (by simp [shop])
  have horder : addOrder.WellFormed := shop_wellFormed _ (by simp [shop])
  have hremove : removePets.WellFormed := ⟨hpets.1, hpets.2, hpets.3⟩
  simp [Api.WellFormed, petShop, hpets, horder, hremove]

/-- The calls for the two endpoints stand in their order, and only the last one ends the chain. -/
theorem petShop_names_agree :
    ∃ paths, (generate Memory.sink defaultLayout petShop []).2 = .ok paths ∧
    groups petShop.endpoints = [⟨"Pets", [listPets, removePets]⟩, ⟨"Orders", [addOrder]⟩] ∧
    (∀ g ∈ groups petShop.endpoints,
      GroupAgrees defaultLayout (generate Memory.sink defaultLayout petShop []).1 g) ∧
    IndexAgrees defaultLayout (generate Memory.sink defaultLayout petShop []).1
      (groups petShop.endpoints) ∧
    (generate Memory.sink defaultLayout petShop []).1.content? (defaultLayout.routerPath "Pets") =
      some ("import \x7b createRouter \x7d from \"../lib/create-app\";\n\n" ++
        "import * as handlers from \"./pets.handlers\";\n" ++
        "import * as routes from \"./pets.routes\";\n\n" ++
        "const router = createRouter()\n" ++
        "  .openapi(routes.listPets, handlers.listPets)\n" ++
        "  .openapi(routes.removePets, handlers.removePets);\n" ++
        "\nexport default router;\n").toUTF8 := by
  have hlayout : defaultLayout.fault? = none := by decide
  have hdone := (generate_of_checked (Layout.fault?_eq_none_iff.mp hlayout) petShop_wellFormed
    (by decide) rfl).1
  obtain ⟨hgroups, hindex⟩ := generated_names_agree hlayout petShop_wellFormed hdone
  refine ⟨_, hdone, rfl, hgroups, hindex, ?_⟩
  have hpets := hgroups ⟨"Pets", [listPets, removePets]⟩ (List.mem_cons_self ..)
  have hlist : Text.camelCase listPets.operationId = "listPets" := by decide
  have hremove : Text.camelCase removePets.operationId = "removePets" := by decide
  have hroot : defaultLayout.sourceRootImport = "../" := by decide
  have hhandlers : Layout.handlersModule "Pets" = "pets.handlers" := by decide
  have hroutes : Layout.routesModule "Pets" = "pets.routes" := by decide
  rw [hpets.router]
  simp [hlist, hremove, hroot, hhandlers, hroutes]

end ApiSkeleton.Emit
