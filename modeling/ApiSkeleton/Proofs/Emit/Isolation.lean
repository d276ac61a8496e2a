import ApiSkeleton.Proofs.Emit.Agreement

namespace ApiSkeleton.Emit

open Model

/-- Two outputs hold a file under a path, with the same bytes. -/
def SameFile (left right : Memory) (path : Path) : Prop :=
  ∃ content, left.content? path = some content ∧ right.content? path = some content

/-- An output holds no module of a tag: what lies in the place of one is a module of another tag
that has the same stem. -/
def LacksModules (l : Layout) (tags : List String) (memory : Memory) (tag : String) : Prop :=
  ∀ path ∈ l.tagPaths tag, memory.content? path ≠ none →
    ∃ other ∈ tags, other ≠ tag ∧ tagStem other = tagStem tag

/-- The list of routers is made from the tags of the groups. -/
private theorem routeIndexText_congr {gs hs : List Group}
    (htags : gs.map (·.tag) = hs.map (·.tag)) :
    routeIndexText gs = routeIndexText hs := by
  have hlines {line : Group → String} (hline : ∀ g, line g = line ⟨g.tag, []⟩) :
      gs.map line = hs.map line := by
    have hmapped := congrArg (List.map fun tag => line ⟨tag, []⟩) htags
    simpa only [List.map_map, Function.comp_def, ← hline] using hmapped
  rw [routeIndexText, routeIndexText, hlines fun _ => rfl, hlines fun _ => rfl]

variable {l : Layout} {api : Api}

/-- The modules of a tag are among the files of an API that has endpoints with it. -/
theorem groupFiles_subset {tag : String}
    (htag : api.endpoints.filter (·.primaryTag = tag) ≠ []) :
    groupFiles l (groupOf api.endpoints tag) ⊆ moduleFiles l api := fun _ hf =>
  List.mem_cons_of_mem _ (List.mem_append_left _
    (List.mem_flatMap.mpr ⟨_, groupOf_mem_groups htag, hf⟩))

/-- The modules of a tag whose stem no other tag has lie beside all others. -/
private theorem components_ne_of_new_stem (hl : l.Accepted) {tags : List String}
    (hstems : (tags.map tagStem).Nodup) {tag : String} (hnew : tagStem tag ∉ tags.map tagStem) :
    ∀ path ∈ l.modulePaths tags, ∀ own ∈ l.tagPaths tag, path.components ≠ own.components := by
  have hall : ((tags ++ [tag]).map tagStem).Nodup := by
    rw [List.map_append, List.map_singleton, ← List.concat_eq_append]
    exact hstems.concat hnew
  have hnames := hl.nodup_fileNames hall
  have hperm : (l.modulePaths (tags ++ [tag])).Perm (l.modulePaths tags ++ l.tagPaths tag) := by
    simp only [Layout.modulePaths, List.flatMap_append, List.flatMap_cons, List.flatMap_nil,
      List.append_nil, List.cons_append, List.append_assoc]
    exact (List.perm_append_comm.append_left _).cons _
  rw [(hperm.map _).nodup_iff, List.map_append, List.nodup_append] at hnames
  intro path hpath own hown heq
  refine hnames.2.2 _ (List.mem_map_of_mem hpath) _ (List.mem_map_of_mem hown) ?_
  rw [Path.fileName?_congr heq]

private theorem lacksModules_of_success (hl : l.Accepted) (hapi : api.WellFormed)
    {paths : List Path} (hdone : (generate Memory.sink l api []).2 = .ok paths) {tag : String}
    (hnone : api.endpoints.filter (·.primaryTag = tag) = []) :
    LacksModules l (primaryTags api.endpoints) (generate Memory.sink l api []).1 tag := by
  obtain ⟨hdistinct, hmemory⟩ := generate_of_success hl hapi hdone
  have hstems := nodup_stems_of_bindings hdistinct
  rw [tags_groups] at hstems
  have habsent : tag ∉ primaryTags api.endpoints := fun hmem => mem_primaryTags_iff.mp hmem hnone
  intro path hpath hfound
  by_contra hother
  have hnew : tagStem tag ∉ (primaryTags api.endpoints).map tagStem := by
    intro hstem
    obtain ⟨other, hknown, hsame⟩ := List.mem_map.mp hstem
    exact hother ⟨other, hknown, fun heq => habsent (heq ▸ hknown), hsame⟩
  refine hfound (Memory.content?_eq_none fun f hf => ?_)
  have hwritten := path_mem_modulePaths (hmemory.mem_iff.mp hf)
  rw [tags_groups] at hwritten
  exact components_ne_of_new_stem hl hstems hnew _ hwritten _ hpath

/-- The modules of a tag, the storage schema and the list of routers depend on nothing but what they
are about. If two APIs have the same endpoints with a tag, in one order, their outputs have the same
routes, handlers and router for it, and neither has any if there is no such endpoint; if they have
the same schemas and metadata, they have the same storage schema, whatever their endpoints are; and
if their tags occur in one order, they have the same list of routers. -/
theorem modules_depend_on_own_parts (hl : l.fault? = none) {a b : Api} (ha : a.WellFormed)
    (hb : b.WellFormed) {paths others : List Path}
    (hleft : (generate Memory.sink l a []).2 = .ok paths)
    (hright : (generate Memory.sink l b []).2 = .ok others) :
    let left := (generate Memory.sink l a []).1
    let right := (generate Memory.sink l b []).1
    (∀ tag, a.endpoints.filter (·.primaryTag = tag) = b.endpoints.filter (·.primaryTag = tag) →
      (a.endpoints.filter (·.primaryTag = tag) ≠ [] →
        ∀ path ∈ [l.routesPath tag, l.handlersPath tag, l.routerPath tag],
          SameFile left right path) ∧
      (a.endpoints.filter (·.primaryTag = tag) = [] →
        LacksModules l (primaryTags a.endpoints) left tag ∧
        LacksModules l (primaryTags b.endpoints) right tag)) ∧
    (a.schemas = b.schemas → a.metadata = b.metadata → SameFile left right l.schemaPath) ∧
    ((a.endpoints.map (·.primaryTag)).eraseDups = (b.endpoints.map (·.primaryTag)).eraseDups →
      SameFile left right l.routeIndexPath) := by
  have haccepted := Layout.fault?_eq_none_iff.mp hl
  have hsame {f : OutputFile} (hf : f ∈ moduleFiles l a) (hf' : f ∈ moduleFiles l b) :
      SameFile (generate Memory.sink l a []).1 (generate Memory.sink l b []).1 f.path :=
    ⟨f.content, content?_of_success haccepted ha hleft hf,
      content?_of_success haccepted hb hright hf'⟩
  refine ⟨fun tag htag => ⟨fun hsome => ?_, fun hnone => ?_⟩, fun hschemas hmetadata => ?_,
    fun htags => ?_⟩
  · have hgroup : groupOf a.endpoints tag = groupOf b.endpoints tag := by
      rw [groupOf, htag, groupOf]
    have hfiles : ∀ f ∈ groupFiles l (groupOf a.endpoints tag),
        SameFile (generate Memory.sink l a []).1 (generate Memory.sink l b []).1 f.path :=
      fun f hf => hsame (groupFiles_subset hsome hf)
        (groupFiles_subset (htag ▸ hsome) (hgroup ▸ hf))
    simpa [groupFiles, groupOf] using hfiles
  · exact ⟨lacksModules_of_success haccepted ha hleft hnone,
      lacksModules_of_success haccepted hb hright (htag ▸ hnone)⟩
  · have htext : schemaText a = schemaText b := by
      rw [schemaText, hschemas, hmetadata, schemaText]
    exact @hsame ⟨l.schemaPath, (schemaText a).toUTF8⟩ (by simp [moduleFiles])
      (by simp [moduleFiles, htext])
  · have htext : routeIndexText (groups a.endpoints) = routeIndexText (groups b.endpoints) :=
      routeIndexText_congr (by rw [tags_groups, tags_groups, primaryTags, htags, primaryTags])
    exact @hsame ⟨l.routeIndexPath, (routeIndexText (groups a.endpoints)).toUTF8⟩
      (by simp [moduleFiles]) (by simp [moduleFiles, htext])

/-- An endpoint that is like another one but for its tag. -/
def addPet : Endpoint := { addOrder with operationId := "addPet", tags := ["Pets"] }

def sendOrder : Endpoint := { addOrder with operationId := "sendOrder", tags := ["Mail"] }

/-- The endpoints with one tag stand together here. -/
def gatheredShop : Api := ⟨[listPets, addPet, addOrder], [], ⟨"Shop", "1.0", none⟩⟩

/-- Here other endpoints stand before and between them. -/
def scatteredShop : Api :=
  ⟨[sendOrder, listPets, addOrder, addPet], [⟨"Pet", [], []⟩], ⟨"Fair", "2.0", none⟩⟩

theorem scatteredShop_keeps_pets : gatheredShop.WellFormed ∧ scatteredShop.WellFormed ∧
    ∃ paths others, (generate Memory.sink defaultLayout gatheredShop []).2 = .ok paths ∧
      (generate Memory.sink defaultLayout scatteredShop []).2 = .ok others ∧
      ∀ path ∈ [defaultLayout.routesPath "Pets", defaultLayout.handlersPath "Pets",
        defaultLayout.routerPath "Pets"],
        SameFile (generate Memory.sink defaultLayout gatheredShop []).1
          (generate Memory.sink defaultLayout scatteredShop []).1 path := by
  have hpets : listPets.WellFormed := shop_wellFormed _ (by simp [shop])
  have horder : addOrder.WellFormed := shop_wellFormed _ (by simp [shop])
  have hgathered : gatheredShop.WellFormed := by
    simpa [Api.WellFormed, gatheredShop] using
      ⟨hpets, ⟨horder.parameters, horder.requestBody, horder.responses⟩, horder⟩
  have hscattered : scatteredShop.WellFormed := by
    simpa [Api.WellFormed, scatteredShop] using
      ⟨⟨horder.parameters, horder.requestBody, horder.responses⟩, hpets, horder,
        ⟨horder.parameters, horder.requestBody, horder.responses⟩⟩
  have hlayout : defaultLayout.fault? = none := by decide
  have haccepted := Layout.fault?_eq_none_iff.mp hlayout
  have hleft := (generate_of_checked haccepted hgathered (by decide) rfl).1
  have hright := (generate_of_checked haccepted hscattered (by decide) rfl).1
  obtain ⟨hmodules, -⟩ :=
    modules_depend_on_own_parts hlayout hgathered hscattered hleft hright
  exact ⟨hgathered, hscattered, _, _, hleft, hright, (hmodules "Pets" (by decide)).1 (by decide)⟩

end ApiSkeleton.Emit
