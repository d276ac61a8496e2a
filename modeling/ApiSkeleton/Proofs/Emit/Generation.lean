import ApiSkeleton.Proofs.Emit.Handlers
import ApiSkeleton.Proofs.Emit.Routers
import ApiSkeleton.Proofs.Emit.Routes
import ApiSkeleton.Proofs.Emit.Storage
import ApiSkeleton.Proofs.Layout
import ApiSkeleton.Proofs.Model.Groups
import ApiSkeleton.Proofs.Output

namespace ApiSkeleton.Emit

open Model

/-- The names under which the modules of groups are imported. -/
def bindings (gs : List Group) : List String := gs.map fun g => tagBinding g.tag

theorem checkBindings_eq_ok_iff {seen : List (String × String)} {gs : List Group} :
    checkBindings seen gs = .ok () ↔
      (bindings gs).Nodup ∧ ∀ b ∈ bindings gs, b ∉ seen.map (·.1) := by
  induction gs generalizing seen with
  | nil => simp [checkBindings, bindings]
  | cons g rest ih =>
    have hcons : bindings (g :: rest) = tagBinding g.tag :: bindings rest := rfl
    rw [hcons, checkBindings, List.nodup_cons, List.forall_mem_cons]
    generalize tagBinding g.tag = binding
    cases hseen : findMember? seen binding with
    | some first =>
      have hknown : binding ∈ seen.map (·.1) :=
        List.mem_map.mpr ⟨(binding, first), mem_of_findMember? hseen, rfl⟩
      simp [hknown]
    | none =>
      have hnew := findMember?_eq_none_iff.mp hseen
      have hboth : (∀ b ∈ bindings rest, b ∉ binding :: seen.map (·.1)) ↔
          binding ∉ bindings rest ∧ ∀ b ∈ bindings rest, b ∉ seen.map (·.1) := by
        simp only [List.mem_cons, not_or, forall_and]
        exact and_congr_left' ⟨fun h hmem => h binding hmem rfl, fun h b hb heq => h (heq ▸ hb)⟩
      simp only [ih, List.map_cons, hboth]
      tauto

/-- Tags with different names have different stems. -/
theorem nodup_stems_of_bindings {gs : List Group} (h : (bindings gs).Nodup) :
    ((gs.map (·.tag)).map tagStem).Nodup := by
  refine List.Nodup.of_map Text.identifier ?_
  simpa only [bindings, tagBinding, List.map_map, Function.comp_def] using h

/-- The only thing that the check of the names finds is a clash of tags. -/
private theorem checkBindings_error {seen : List (String × String)} {gs : List Group} {f : Failure}
    (h : checkBindings seen gs = .error f) : ∃ fault, f = .invalidDocument "tags" fault := by
  induction gs generalizing seen with
  | nil => cases h
  | cons g rest ih =>
    rw [checkBindings] at h
    cases hseen : findMember? seen (tagBinding g.tag) with
    | some first =>
      simp only [hseen, Except.error.injEq] at h
      exact ⟨_, h.symm⟩
    | none => exact ih (by simpa only [hseen] using h)

/-- The names of groups with their tags. -/
def named (gs : List Group) : List (String × String) := gs.map fun g => (tagBinding g.tag, g.tag)

/-- The check ends at the first group whose name has been seen. -/
theorem checkBindings_eq_error_iff {seen : List (String × String)} {gs : List Group} {f : Failure} :
    checkBindings seen gs = .error f ↔ ∃ before second after first,
      gs = before ++ second :: after ∧ checkBindings seen before = .ok () ∧
      findMember? ((named before).reverse ++ seen) (tagBinding second.tag) = some first ∧
      f = .invalidDocument "tags" (.tagClash first second.tag (tagBinding second.tag)) := by
  induction gs generalizing seen with
  | nil => simp [checkBindings]
  | cons g rest ih =>
    cases hseen : findMember? seen (tagBinding g.tag) with
    | some known =>
      constructor
      · intro h
        refine ⟨[], g, rest, known, rfl, rfl, hseen, ?_⟩
        simpa [checkBindings, hseen, eq_comm] using h
      · rintro ⟨before, second, after, first, hgs, hbefore, hfirst, rfl⟩
        rcases before with - | ⟨other, more⟩
        · obtain ⟨rfl, rfl⟩ := List.cons.inj hgs
          have hsame : known = first := by simpa [named, hseen] using hfirst
          simp [checkBindings, hseen, hsame]
        · obtain ⟨rfl, -⟩ := List.cons.inj hgs
          simp [checkBindings, hseen] at hbefore
    | none =>
      have hmore (before : List Group) : checkBindings seen (g :: before) =
          checkBindings ((tagBinding g.tag, g.tag) :: seen) before := by
        simp [checkBindings, hseen]
      have hnamed (before : List Group) : (named (g :: before)).reverse ++ seen =
          (named before).reverse ++ (tagBinding g.tag, g.tag) :: seen := by
        simp [named]
      rw [hmore, ih]
      constructor
      · rintro ⟨before, second, after, first, rfl, hbefore, hfirst, rfl⟩
        exact ⟨g :: before, second, after, first, rfl, hmore before ▸ hbefore,
          hnamed before ▸ hfirst, rfl⟩
      · rintro ⟨before, second, after, first, hgs, hbefore, hfirst, rfl⟩
        rcases before with - | ⟨other, more⟩
        · obtain ⟨rfl, rfl⟩ := List.cons.inj hgs
          simp [named, hseen] at hfirst
        · obtain ⟨rfl, rfl⟩ := List.cons.inj hgs
          exact ⟨more, second, after, first, rfl, hmore more ▸ hbefore, hnamed more ▸ hfirst, rfl⟩

/-- The check refuses the first group whose name is that of a group before it, and tells of both. -/
theorem checkBindings_refuses_iff {gs : List Group} {f : Failure} :
    checkBindings [] gs = .error f ↔ ∃ before second after, gs = before ++ second :: after ∧
      (bindings before).Nodup ∧ ∃ first ∈ before, tagBinding first.tag = tagBinding second.tag ∧
        f = .invalidDocument "tags" (.tagClash first.tag second.tag (tagBinding second.tag)) := by
  rw [checkBindings_eq_error_iff]
  constructor
  · rintro ⟨before, second, after, first, hgs, hbefore, hfirst, rfl⟩
    have hmem := mem_of_findMember? hfirst
    rw [List.append_nil, List.mem_reverse] at hmem
    obtain ⟨g, hg, hentry⟩ := List.mem_map.mp hmem
    obtain ⟨hsame, rfl⟩ := Prod.mk.inj hentry
    exact ⟨before, second, after, hgs, (checkBindings_eq_ok_iff.mp hbefore).1, g, hg, hsame, rfl⟩
  · rintro ⟨before, second, after, hgs, hdistinct, first, hmem, hsame, rfl⟩
    refine ⟨before, second, after, first.tag, hgs, ?_, ?_, rfl⟩
    · exact checkBindings_eq_ok_iff.mpr ⟨hdistinct, by simp⟩
    · have hkeys : ((named before).reverse.map (·.1)).Nodup := by
        rw [List.map_reverse, List.nodup_reverse]
        simpa [named, bindings, Function.comp_def] using hdistinct
      rw [List.append_nil]
      refine findMember?_of_mem hkeys (List.mem_reverse.mpr ?_)
      exact List.mem_map.mpr ⟨first, hmem, by rw [hsame]⟩

/-- The check of an API refuses it without endpoints, and with tags whose modules would have one
name. -/
theorem checkApi_cases (api : Api) :
    (api.endpoints = [] ∧ checkApi api = .error .noEndpoints) ∨
    (api.endpoints ≠ [] ∧ ¬ (bindings (groups api.endpoints)).Nodup ∧
      ∃ fault, checkApi api = .error (.invalidDocument "tags" fault)) ∨
    (api.endpoints ≠ [] ∧ (bindings (groups api.endpoints)).Nodup ∧ checkApi api = .ok ()) := by
  by_cases hnone : api.endpoints = []
  · exact .inl ⟨hnone, by simp [checkApi, hnone]⟩
  · have hcheck : checkApi api = checkBindings [] (groups api.endpoints) := by
      simp [checkApi, hnone]
    have hdistinct := @checkBindings_eq_ok_iff [] (groups api.endpoints)
    rw [hcheck]
    cases hresult : checkBindings [] (groups api.endpoints) with
    | error f =>
      obtain ⟨fault, rfl⟩ := checkBindings_error hresult
      refine .inr (.inl ⟨hnone, fun hnodup => ?_, fault, rfl⟩)
      rw [hresult] at hdistinct
      cases hdistinct.mpr ⟨hnodup, by simp⟩
    | ok _ => exact .inr (.inr ⟨hnone, (hdistinct.mp hresult).1, rfl⟩)

/-- The files of a group. -/
def groupFiles (l : Layout) (g : Group) : List OutputFile :=
  [⟨l.routesPath g.tag, (routesText g).toUTF8⟩, ⟨l.handlersPath g.tag, (handlersText l g).toUTF8⟩,
   ⟨l.routerPath g.tag, (routerText l g).toUTF8⟩]

/-- The files of an API. -/
def moduleFiles (l : Layout) (api : Api) : List OutputFile :=
  ⟨l.schemaPath, (schemaText api).toUTF8⟩ :: (groups api.endpoints).flatMap (groupFiles l) ++
    [⟨l.routeIndexPath, (routeIndexText (groups api.endpoints)).toUTF8⟩]

private theorem groupSteps_eq {l : Layout} {g : Group} (hg : ∀ e ∈ g.endpoints, e.WellFormed) :
    groupSteps l g = (groupFiles l g).map .ok := by
  simp [groupSteps, groupFiles, Step.ofText, render_routes hg, render_handlers, render_router,
    Except.map]

/-- No step of an API that has passed the checks can fail. -/
private theorem moduleSteps_eq {api : Api} (hapi : api.WellFormed) (l : Layout) :
    moduleSteps l api = (moduleFiles l api).map .ok := by
  have hgroups : (groups api.endpoints).flatMap (groupSteps l) =
      (groups api.endpoints).flatMap fun g => (groupFiles l g).map .ok :=
    List.flatMap_congr fun g hg => groupSteps_eq (forall_mem_groups hapi g hg)
  simp [moduleSteps, moduleFiles, Step.ofText, render_schema, render_routeIndex, hgroups,
    List.map_flatMap, Except.map]

theorem steps_of_checked {api : Api} (hapi : api.WellFormed) (hcheck : checkApi api = .ok ())
    (l : Layout) : steps l api = (moduleFiles l api).map .ok := by
  rw [steps, hcheck]
  exact moduleSteps_eq hapi l

theorem paths_moduleFiles (l : Layout) (api : Api) :
    (moduleFiles l api).map (·.path) = l.modulePaths ((groups api.endpoints).map (·.tag)) := by
  simp [moduleFiles, groupFiles, Layout.modulePaths, Layout.tagPaths, List.map_flatMap,
    List.flatMap_map]

theorem path_mem_modulePaths {l : Layout} {api : Api} {f : OutputFile}
    (hf : f ∈ moduleFiles l api) :
    f.path ∈ l.modulePaths ((groups api.endpoints).map (·.tag)) := by
  rw [← paths_moduleFiles]
  exact List.mem_map_of_mem hf

/-- The modules of groups whose names differ lie in different places. -/
theorem nodup_places_moduleFiles {l : Layout} (hl : l.Accepted) {api : Api}
    (hbindings : (bindings (groups api.endpoints)).Nodup) :
    ((moduleFiles l api).map (·.place)).Nodup := by
  have hstems := nodup_stems_of_bindings hbindings
  have hnames := List.pairwise_map.mp (hl.nodup_fileNames hstems)
  rw [← paths_moduleFiles] at hnames
  refine List.pairwise_map.mpr ((List.pairwise_map.mp hnames).imp fun hne hplace => hne ?_)
  rw [Path.fileName?_congr hplace]

/-- An API that passes the checks is generated in full: every file is written and kept. -/
theorem generate_of_checked {l : Layout} (hl : l.Accepted) {api : Api} (hapi : api.WellFormed)
    (hbindings : (bindings (groups api.endpoints)).Nodup) (hcheck : checkApi api = .ok ()) :
    (generate Memory.sink l api []).2 =
        .ok (l.modulePaths ((groups api.endpoints).map (·.tag))) ∧
      (generate Memory.sink l api []).1.Perm (moduleFiles l api) := by
  have hinside : ∀ f ∈ moduleFiles l api, f.path.staysInside := fun f hf =>
    hl.staysInside_modulePaths f.path (path_mem_modulePaths hf)
  have hrun := Memory.run_files hinside []
  rw [generate, steps_of_checked hapi hcheck, hrun]
  refine ⟨by rw [paths_moduleFiles], ?_⟩
  exact @Memory.foldl_insert_perm (moduleFiles l api) [] (nodup_places_moduleFiles hl hbindings)

/-- An API that is refused leaves nothing behind. -/
theorem generate_of_refused (l : Layout) {api : Api} {f : Failure} (h : checkApi api = .error f) :
    generate Memory.sink l api [] = ([], .error f) := by
  rw [generate, steps, h]
  rfl

/-- The outcome of generating the modules of any API into empty memory, under a layout that has
passed its check. All that is asked of the API is that its schemas are trees of documents, whatever
these hold. It fails without endpoints, or if two tags give one name, and then nothing is written.
In every other case the schema, the three modules of every group and the list of routers are written
in this order, no two under one name, so that memory holds one file for each. -/
theorem generate_outcome {l : Layout} {api : Api} (hl : l.fault? = none) (hapi : api.WellFormed) :
    let gs := groups api.endpoints
    let run := generate Memory.sink l api []
    (run.2 = .error .noEndpoints ↔ api.endpoints = []) ∧
    ((∃ fault, run.2 = .error (.invalidDocument "tags" fault)) ↔
      api.endpoints ≠ [] ∧ ¬ (gs.map fun g => Text.identifier (tagStem g.tag)).Nodup) ∧
    (∀ f, run.2 = .error f → run.1 = []) ∧
    (api.endpoints ≠ [] → (gs.map fun g => Text.identifier (tagStem g.tag)).Nodup →
      ∃ paths, run.2 = .ok paths ∧
        paths = l.schemaPath ::
          gs.flatMap (fun g => [l.routesPath g.tag, l.handlersPath g.tag, l.routerPath g.tag]) ++
          [l.routeIndexPath] ∧
        (paths.map fun path => path.fileName?.map Text.asciiLowercase).Nodup ∧
        run.1.length = 3 * gs.length + 2 ∧ (run.1.map (·.path)).Perm paths) := by
  have haccepted := Layout.fault?_eq_none_iff.mp hl
  have hpaths : l.modulePaths ((groups api.endpoints).map (·.tag)) = l.schemaPath ::
      (groups api.endpoints).flatMap (fun g =>
        [l.routesPath g.tag, l.handlersPath g.tag, l.routerPath g.tag]) ++
      [l.routeIndexPath] := by
    simp only [Layout.modulePaths, List.flatMap_map, Layout.tagPaths]
  intro gs run
  have hbindings : (gs.map fun g => Text.identifier (tagStem g.tag)) = bindings gs := by
    simp only [bindings, tagBinding]
  rw [hbindings]
  rcases checkApi_cases api with ⟨hnone, hcheck⟩ | ⟨hsome, hclash, fault, hcheck⟩ |
      ⟨hsome, hdistinct, hcheck⟩
  · have hrun : run = ([], .error .noEndpoints) := generate_of_refused l hcheck
    simp [hrun, hnone]
  · have hrun : run = ([], .error (.invalidDocument "tags" fault)) := generate_of_refused l hcheck
    simp [hrun, hsome, hclash, gs]
  · obtain ⟨hresult, hmemory⟩ := generate_of_checked haccepted hapi hdistinct hcheck
    have hresult' : run.2 = .ok (l.modulePaths (gs.map (·.tag))) := hresult
    have hmemory' : (run.1.map (·.path)).Perm (l.modulePaths (gs.map (·.tag))) := by
      rw [← paths_moduleFiles]
      exact hmemory.map _
    have hlength : run.1.length = 3 * gs.length + 2 := by
      rw [← List.length_map, hmemory'.length_eq, Layout.length_modulePaths, List.length_map]
    refine ⟨by simp [hresult', hsome], by simp [hresult', hdistinct, gs], by simp [hresult'], ?_⟩
    intro _ _
    exact ⟨_, hresult', hpaths, haccepted.nodup_fileNames (nodup_stems_of_bindings hdistinct),
      hlength, hmemory'⟩

/-- An endpoint with a parameter whose schema names no type. -/
def listPets : Endpoint where
  path := "/pets"
  method := .get
  operationId := "listPets"
  tags := ["Pets"]
  parameters := [⟨"limit", .query, false, some (.object [("type", .null)])⟩]
  requestBody := none
  responses := []

/-- An endpoint with a body whose schema is no object. -/
def addOrder : Endpoint where
  path := "/orders"
  method := .post
  operationId := "addOrder"
  tags := ["Orders"]
  parameters := []
  requestBody := some ⟨true, [⟨"application/json", some (.list [])⟩]⟩
  responses := []

def shop : Api := ⟨[listPets, addOrder], [], ⟨"Shop", "1.0", none⟩⟩

theorem shop_wellFormed : shop.WellFormed := by
  have hlimit : (Tree.object [("type", .null)]).WellFormed :=
    .object (by simp [Tree.WellFormed.null]) (by simp)
  have hbody : (Tree.list []).WellFormed := .list (by simp)
  have hpets : listPets.WellFormed :=
    ⟨by simp [listPets, Parameter.WellFormed, hlimit], by simp [listPets], by simp [listPets]⟩
  have horder : addOrder.WellFormed :=
    ⟨by simp [addOrder], by simp [addOrder, Media.WellFormed, hbody], by simp [addOrder]⟩
  simp [Api.WellFormed, shop, hpets, horder]

theorem generate_shop : defaultLayout.fault? = none ∧ shop.WellFormed ∧
    (generate Memory.sink defaultLayout shop []).1.length = 8 := by
  have hlayout : defaultLayout.fault? = none := by decide
  obtain ⟨_, _, _, hdone⟩ := generate_outcome hlayout shop_wellFormed
  obtain ⟨_, _, _, _, hlength, _⟩ := hdone (by decide) (by decide)
  exact ⟨hlayout, shop_wellFormed, hlength⟩

end ApiSkeleton.Emit
