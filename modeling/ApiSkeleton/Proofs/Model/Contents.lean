import ApiSkeleton.Proofs.Model.WellFormed

namespace ApiSkeleton

theorem map_eq_of_forall₂ {α β γ : Type} {R : α → β → Prop} {f : α → γ} {g : β → γ}
    (hsame : ∀ a b, R a b → g b = f a) {as : List α} {bs : List β} (h : List.Forall₂ R as bs) :
    bs.map g = as.map f := by
  induction h with
  | nil => rfl
  | cons hfirst _ ih => rw [List.map_cons, List.map_cons, hsame _ _ hfirst, ih]

namespace Model

/-- The keys of an object in order; nothing else has keys. -/
def keysOf (t : Option Tree) : List String := (membersOf t).map (·.1)

theorem nodup_keysOf {t : Option Tree} (h : ∀ s ∈ t, s.WellFormed) : (keysOf t).Nodup := by
  cases t with
  | none => exact .nil
  | some s =>
    cases s with
    | object members => exact (Tree.wellFormed_object_iff.mp (h _ rfl)).2
    | _ => exact .nil

/-- How the tags of an endpoint come from what its operation says: those that are listed, each kept
where it occurs first, or the default one if there is no list or nothing in it. -/
inductive TagsRead : Option Tree → List String → Prop where
  | byDefault {declared : Option Tree}
      (hnone : declared = none ∨ declared = some .null ∨ declared = some (.list [])) :
      TagsRead declared [defaultTag]
  | listed {names : List String} (hsome : names ≠ []) :
      TagsRead (some (.list (names.map .text))) names.eraseDups

theorem TagsRead.ne_nil {declared : Option Tree} {tags : List String} (h : TagsRead declared tags) :
    tags ≠ [] := by
  cases h with
  | byDefault => simp
  | listed hsome =>
    obtain ⟨name, rest, rfl⟩ := List.exists_cons_of_ne_nil hsome
    simp [List.eraseDups_cons]

private theorem TagsRead.nodup {declared : Option Tree} {tags : List String}
    (h : TagsRead declared tags) :
    tags.Nodup := by
  cases h with
  | byDefault => simp
  | listed => exact nodup_eraseDups _

/-- Reading goes on from the tags that are kept of those before. -/
theorem tagsFrom_read {location : String} {index : Nat} (before : List String) {items : List Tree}
    {tags : List String} (h : tagsFrom location index before.eraseDups items = .ok tags) :
    ∃ names : List String, items = names.map .text ∧ tags = (before ++ names).eraseDups := by
  induction items generalizing index before with
  | nil =>
    cases h
    exact ⟨[], rfl, by simp⟩
  | cons item rest ih =>
    cases item with
    | text name =>
      have hseen : (if before.eraseDups.contains name then before.eraseDups
          else before.eraseDups ++ [name]) = (before ++ [name]).eraseDups := by
        simp [eraseDups_concat, List.mem_eraseDups]
      rw [tagsFrom, hseen] at h
      obtain ⟨names, rfl, rfl⟩ := ih _ h
      exact ⟨name :: names, rfl, by simp⟩
    | _ => simp [tagsFrom, invalid] at h

theorem tagsOf_read {location : String} {declared : Option Tree} {tags : List String}
    (h : tagsOf location declared = .ok tags) : TagsRead declared tags := by
  unfold tagsOf at h
  split at h
  · cases h
    exact .byDefault (.inl rfl)
  · cases h
    exact .byDefault (.inr (.inl rfl))
  · simp only [bind_eq_ok_iff, pure_eq_ok, Except.ok.injEq] at h
    obtain ⟨out, hout, rfl⟩ := h
    obtain ⟨names, rfl, rfl⟩ := tagsFrom_read [] hout
    cases names with
    | nil => exact .byDefault (.inr (.inr rfl))
    | cons name rest =>
      have hsome : ([] ++ name :: rest).eraseDups.isEmpty = false := by simp [List.eraseDups_cons]
      rw [hsome]
      exact .listed (List.cons_ne_nil name rest)
  · cases h

theorem contentOf_mediaTypes {location : String} {content : Option Tree}
    {found : Option (List Media)} (h : contentOf location content = .ok found) :
    (found.getD []).map (·.mediaType) = keysOf content := by
  unfold contentOf at h
  split at h
  · cases h; rfl
  · cases h; rfl
  · cases h
    simp [keysOf, membersOf, Tree.asObject?]
  · cases h

/-- There is something that is no reference. -/
def HasBody (declared : Option Tree) : Prop :=
  ∃ t, declared = some t ∧ t ≠ .null ∧ t.member? "$ref" = none

/-- Whether there is a body, and its media types. -/
structure DeclaresBody (declared : Option Tree) (found : Option RequestBody) : Prop where
  present : found.isSome ↔ HasBody declared
  mediaTypes : ∀ b ∈ found,
    b.content.map (·.mediaType) = keysOf (declared.bind (·.member? "content"))

theorem requestBodyOf_declared {location : String} {declared : Option Tree}
    {found : Option RequestBody} (h : requestBodyOf location declared = .ok found) :
    DeclaresBody declared found := by
  unfold requestBodyOf at h
  split at h
  · cases h
    exact ⟨by simp [HasBody], by simp⟩
  · cases h
    exact ⟨by simp [HasBody], by simp⟩
  case h_3 t hnull =>
    split at h
    case isTrue href =>
      cases h
      have href : (t.member? "$ref").isSome := by simpa [referenceOf?] using href
      refine ⟨⟨by simp, ?_⟩, by simp⟩
      rintro ⟨_, ⟨⟩, _, hnone⟩
      simp [hnone] at href
    case isFalse href =>
      have hnone : t.member? "$ref" = none := by simpa [referenceOf?] using href
      split at h
      · simp only [bind_eq_ok_iff, pure_eq_ok, Except.ok.injEq] at h
        obtain ⟨content, hcontent, rfl⟩ := h
        refine ⟨⟨fun _ => ⟨_, rfl, by simp, hnone⟩, fun _ => rfl⟩, ?_⟩
        rintro b ⟨⟩
        exact contentOf_mediaTypes hcontent
      · cases h

/-- The status and the media types of a response. -/
structure DeclaresResponse (entry : String × Tree) (r : Response) : Prop where
  status : r.status = entry.1
  mediaTypes : (r.content.getD []).map (·.mediaType) = keysOf (entry.2.member? "content")

theorem responseOf_declared {location status : String} {response : Tree} {r : Response}
    (h : responseOf location status response = .ok r) : DeclaresResponse (status, response) r := by
  unfold responseOf at h
  split at h
  · cases h
  · split at h
    · simp only [bind_eq_ok_iff, pure_eq_ok, Except.ok.injEq] at h
      obtain ⟨content, hcontent, rfl⟩ := h
      exact ⟨rfl, contentOf_mediaTypes hcontent⟩
    · cases h

theorem responsesFrom_declared {location : String} {members : List (String × Tree)}
    {rs : List Response} (h : responsesFrom location members = .ok rs) :
    List.Forall₂ DeclaresResponse members rs := by
  induction members generalizing rs with
  | nil =>
    cases h
    exact .nil
  | cons entry rest ih =>
    simp only [responsesFrom, bind_eq_ok_iff, pure_eq_ok, Except.ok.injEq] at h
    obtain ⟨first, hfirst, others, hothers, rfl⟩ := h
    exact .cons (responseOf_declared hfirst) (ih hothers)

theorem responsesOf_declared {location : String} {declared : Option Tree} {rs : List Response}
    (h : responsesOf location declared = .ok rs) :
    List.Forall₂ DeclaresResponse (membersOf declared) rs := by
  unfold responsesOf at h
  split at h
  · cases h
    exact .nil
  · cases h
    exact .nil
  · exact responsesFrom_declared h
  · cases h

/-- The entries of the reusable schemas. -/
def schemaEntries (document : Tree) : List (String × Tree) :=
  membersOf ((document.member? "components").bind (·.member? "schemas"))

/-- A schema as its entry declares it. What should hold the properties and is no object holds none,
and of what is required only the names count. -/
structure DeclaresSchema (entry : String × Tree) (s : Schema) : Prop where
  name : s.name = entry.1
  properties : ∀ members, entry.2.member? "properties" = some (.object members) →
    s.properties = members
  noProperties : (∀ members, entry.2.member? "properties" ≠ some (.object members)) →
    s.properties = []
  required : s.required = (itemsOf (entry.2.member? "required")).filterMap Tree.asText?

private theorem schemaOf?_of_properties {entry : String × Tree}
    (h : (entry.2.member? "properties").isSome) :
    ∃ s, schemaOf? entry.1 entry.2 = some s ∧ DeclaresSchema entry s := by
  obtain ⟨name, t⟩ := entry
  cases t with
  | object members =>
    obtain ⟨properties, hproperties⟩ := Option.isSome_iff_exists.mp h
    have hfound : findMember? members "properties" = some properties := hproperties
    refine ⟨⟨name, properties.asObject?.getD [], textsOf (findMember? members "required")⟩,
      by simp [schemaOf?, hfound], ?_⟩
    constructor
    case name => rfl
    case properties =>
      intro found hobject
      cases hproperties.symm.trans hobject
      rfl
    case noProperties =>
      intro hnone
      have hobject := bind_asObject?_eq_none hnone
      rw [hproperties, Option.bind_some] at hobject
      rw [hobject, Option.getD_none]
    case required => rfl
  | _ => simp [Tree.member?] at h

private theorem schemaOf?_eq_none {entry : String × Tree}
    (h : entry.2.member? "properties" = none) :
    schemaOf? entry.1 entry.2 = none := by
  obtain ⟨name, t⟩ := entry
  cases t with
  | object members =>
    have hnone : findMember? members "properties" = none := h
    simp [schemaOf?, hnone]
  | _ => rfl

theorem filterMap_schemaOf?_declared (entries : List (String × Tree)) :
    List.Forall₂ DeclaresSchema
      (entries.filter fun entry => (entry.2.member? "properties").isSome)
      (entries.filterMap fun entry => schemaOf? entry.1 entry.2) := by
  induction entries with
  | nil => exact .nil
  | cons entry rest ih =>
    by_cases hkept : (entry.2.member? "properties").isSome
    · obtain ⟨s, hs, hdeclared⟩ := schemaOf?_of_properties hkept
      rw [List.filter_cons, if_pos hkept, List.filterMap_cons, hs]
      exact .cons hdeclared ih
    · have hnone : schemaOf? entry.1 entry.2 = none :=
        schemaOf?_eq_none (by simpa using hkept)
      rw [List.filter_cons, if_neg hkept, List.filterMap_cons, hnone]
      exact ih

theorem ofTree_schemas {document : Tree} {api : Api} (h : Api.ofTree document = .ok api) :
    api.schemas = (schemaEntries document).filterMap fun entry => schemaOf? entry.1 entry.2 := by
  cases document with
  | object members =>
    simp only [Api.ofTree, bind_eq_ok_iff, pure_eq_ok, Except.ok.injEq] at h
    obtain ⟨metadata, _, endpoints, _, rfl⟩ := h
    rfl
  | _ => simp [Api.ofTree, invalid] at h

theorem wellFormed_schemaTree {document : Tree} (hdocument : document.WellFormed) :
    ∀ t ∈ (document.member? "components").bind (·.member? "schemas"), t.WellFormed := by
  intro t ht
  obtain ⟨components, hcomponents, hschemas⟩ := Option.bind_eq_some_iff.mp ht
  exact (hdocument.member? components hcomponents).member? t hschemas

private theorem nodup_schemaEntries {document : Tree} (hdocument : document.WellFormed) :
    ((schemaEntries document).map (·.1)).Nodup :=
  nodup_keysOf (wellFormed_schemaTree hdocument)

/-- The schemas are the entries with properties in order. -/
theorem schemas_declared {document : Tree} {api : Api} (h : Api.ofTree document = .ok api) :
    List.Forall₂ DeclaresSchema
      ((schemaEntries document).filter fun entry => (entry.2.member? "properties").isSome)
      api.schemas := by
  rw [ofTree_schemas h]
  exact filterMap_schemaOf?_declared (schemaEntries document)

theorem nodup_schemaNames {document : Tree} (hdocument : document.WellFormed) {api : Api}
    (h : Api.ofTree document = .ok api) : (api.schemas.map (·.name)).Nodup := by
  rw [map_eq_of_forall₂ (fun _ _ h => h.name) (schemas_declared h)]
  exact (nodup_schemaEntries hdocument).sublist (List.filter_sublist.map _)

theorem nodup_propertyNames {document : Tree} (hdocument : document.WellFormed) {api : Api}
    (h : Api.ofTree document = .ok api) {s : Schema} (hs : s ∈ api.schemas) :
    (s.properties.map (·.1)).Nodup := by
  obtain ⟨entry, hentry, hdeclared⟩ := exists_of_forall₂ (schemas_declared h) s hs
  have hschema : entry.2.WellFormed :=
    wellFormed_of_mem_membersOf (wellFormed_schemaTree hdocument) (List.mem_filter.mp hentry).1
  by_cases hobject : ∃ members, entry.2.member? "properties" = some (.object members)
  · obtain ⟨members, hmembers⟩ := hobject
    rw [hdeclared.properties members hmembers]
    exact (Tree.wellFormed_object_iff.mp (hschema.member? _ hmembers)).2
  · rw [hdeclared.noProperties fun members hmembers => hobject ⟨members, hmembers⟩]
    exact .nil

/-- What the document is said to be about: a text as it is, and all else printed. -/
def infoText (document : Tree) (key : String) : String :=
  (((document.member? "info").bind (·.member? key)).map Tree.asPrinted).getD ""

theorem metadataOf_eq_ok {info : Option Tree} {m : Metadata} (h : metadataOf info = .ok m) :
    ∃ members, info = some (.object members) ∧
      m.title = ((findMember? members "title").map Tree.asPrinted).getD "" ∧
      m.version = ((findMember? members "version").map Tree.asPrinted).getD "" := by
  unfold metadataOf at h
  split at h
  · cases h
    exact ⟨_, rfl, rfl, rfl⟩
  · cases h

theorem ofTree_metadata {document : Tree} {api : Api} (h : Api.ofTree document = .ok api) :
    api.metadata.title = infoText document "title" ∧
      api.metadata.version = infoText document "version" := by
  cases document with
  | object members =>
    simp only [Api.ofTree, bind_eq_ok_iff, pure_eq_ok, Except.ok.injEq] at h
    obtain ⟨metadata, hmetadata, endpoints, _, rfl⟩ := h
    obtain ⟨found, hfound, htitle, hversion⟩ := metadataOf_eq_ok hmetadata
    have hinfo : (Tree.object members).member? "info" = some (.object found) := hfound
    simp only [infoText, hinfo, Option.bind_some]
    exact ⟨htitle, hversion⟩
  | _ => simp [Api.ofTree, invalid] at h

/-- All lists of media types that an endpoint carries. -/
def Endpoint.contents (e : Endpoint) : List (List Media) :=
  (e.requestBody.map (·.content)).toList ++ e.responses.filterMap (·.content)

/-- An endpoint as its operation declares it. -/
structure Declaration.Describes (d : Declaration) (e : Endpoint) : Prop where
  names : d.Names e
  method : ∃ key ∈ methodKeys, Text.asciiLowercase d.key = key ∧ e.method.name = Text.uppercase key
  tags : TagsRead (d.operation.member? "tags") e.tags
  hasTag : e.tags ≠ []
  distinctTags : e.tags.Nodup
  statuses : e.responses.map (·.status) = keysOf (d.operation.member? "responses")
  distinctStatuses : (e.responses.map (·.status)).Nodup
  distinctMediaTypes : ∀ content ∈ e.contents, (content.map (·.mediaType)).Nodup
  body : e.requestBody.isSome ↔ HasBody (d.operation.member? "requestBody")

private theorem wellFormed_of_mem_declarations {document : Tree} (hdocument : document.WellFormed)
    {d : Declaration} (hd : d ∈ declarations document) : d.operation.WellFormed := by
  obtain ⟨item, hitem, hd⟩ := List.mem_flatMap.mp hd
  exact wellFormed_of_mem_declarationsIn (wellFormed_of_mem_pathItems hdocument hitem) hd

/-- No two forms of a body or a response have one media type. -/
private theorem nodup_mediaTypes {d : Declaration} (hd : d.operation.WellFormed) {e : Endpoint}
    (hbody : DeclaresBody (d.operation.member? "requestBody") e.requestBody)
    (hresponses : List.Forall₂ DeclaresResponse (membersOf (d.operation.member? "responses"))
      e.responses) :
    ∀ content ∈ e.contents, (content.map (·.mediaType)).Nodup := by
  intro content hcontent
  rcases List.mem_append.mp hcontent with hcontent | hcontent
  · obtain ⟨b, hb, rfl⟩ := Option.map_eq_some_iff.mp (Option.mem_toList.mp hcontent)
    rw [hbody.mediaTypes b hb]
    refine nodup_keysOf fun t ht => ?_
    obtain ⟨declared, hdeclared, ht⟩ := Option.bind_eq_some_iff.mp ht
    exact (hd.member? declared hdeclared).member? t ht
  · obtain ⟨r, hr, hcontent⟩ := List.mem_filterMap.mp hcontent
    obtain ⟨entry, hentry, hdeclared⟩ := exists_of_forall₂ hresponses r hr
    have hmedia := hdeclared.mediaTypes
    rw [hcontent, Option.getD_some] at hmedia
    rw [hmedia]
    exact nodup_keysOf (wellFormed_of_mem_membersOf hd.member? hentry).member?

theorem describes_of_makes {shared : List Parameter} {d : Declaration} {e : Endpoint}
    (hd : d.operation.WellFormed) (h : d.Makes shared e) : d.Describes e := by
  obtain ⟨method, hkey, he⟩ := h
  have hparts := operationOf_parts he
  obtain ⟨_, htags⟩ := hparts.tags
  obtain ⟨_, hbody⟩ := hparts.requestBody
  obtain ⟨_, hresponses⟩ := hparts.responses
  have htags := tagsOf_read htags
  have hbody := requestBodyOf_declared hbody
  have hresponses := responsesOf_declared hresponses
  have hstatuses : e.responses.map (·.status) = keysOf (d.operation.member? "responses") :=
    map_eq_of_forall₂ (fun _ _ h => h.status) hresponses
  constructor
  case names => exact operationOf_names hkey he
  case method =>
    have hdeclares : declaresOperation d.key := by rw [declaresOperation_iff, hkey, Option.isSome_some]
    exact ⟨_, List.contains_iff_mem.mp hdeclares, rfl, by rw [hparts.method, name_of_ofKey? hkey]⟩
  case tags => exact htags
  case hasTag => exact htags.ne_nil
  case distinctTags => exact htags.nodup
  case statuses => exact hstatuses
  case distinctStatuses =>
    rw [hstatuses]
    exact nodup_keysOf hd.member?
  case distinctMediaTypes => exact nodup_mediaTypes hd hbody hresponses
  case body => exact hbody.present

/-- What an API holds of the document that it is read from. The endpoints are the operations in order,
and the schemas are the entries with properties in order. -/
theorem api_holds_declarations {document : Tree} (hdocument : document.WellFormed) {api : Api}
    (h : Api.ofTree document = .ok api) :
    List.Forall₂ Declaration.Describes (declarations document) api.endpoints ∧
      List.Forall₂ DeclaresSchema
        ((schemaEntries document).filter fun entry => (entry.2.member? "properties").isSome)
        api.schemas ∧
      (api.schemas.map (·.name)).Nodup := by
  have hmakes : List.Forall₂ (fun d e => d.operation.WellFormed ∧ ∃ shared, d.Makes shared e)
      (declarations document) api.endpoints := by
    rw [List.forall₂_and_left]
    exact ⟨fun d hd => wellFormed_of_mem_declarations hdocument hd,
      ofTree_forall₂ (fun shared _ _ he => ⟨shared, he⟩) h⟩
  refine ⟨hmakes.imp fun d e hde => ?_, schemas_declared h, nodup_schemaNames hdocument h⟩
  obtain ⟨hd, shared, he⟩ := hde
  exact describes_of_makes hd he

/-- A document with an operation that says much, where tags repeat, one that says nothing, with an
empty list of tags and a referenced body, and schemas of which one has no properties. -/
def mixedDocument : Tree :=
  .object
    [("info", .object []),
     ("paths", .object
       [("/pets", .object
          [("pOST", .object
             [("tags", .list [.text "b", .text "a", .text "b"]),
              ("requestBody", .object
                [("content", .object [("text/plain", .null), ("application/json", .object [])])]),
              ("responses", .object
                [("default", .object []), ("200", .object [("content", .object [("a/b", .null)])])])]),
           ("get", .object [("tags", .list []), ("requestBody", .object [("$ref", .null)])])])]),
     ("components", .object
       [("schemas", .object
          [("Pet", .object
             [("properties", .object [("id", .null), ("name", .object [])]),
              ("required", .list [.text "name", .bool true, .text "owner"])]),
           ("Id", .object [("type", .text "string")]),
           ("Odd", .object [("properties", .bool false), ("required", .text "id")])])])]

private theorem wellFormed_mixedDocument : mixedDocument.WellFormed := by
  simp [mixedDocument, Tree.wellFormed_object_iff, Tree.wellFormed_list_iff, Tree.WellFormed.text,
    Tree.WellFormed.null, Tree.WellFormed.bool]

theorem mixedDocument_held : mixedDocument.WellFormed ∧
    ∃ api, Api.ofTree mixedDocument = .ok api ∧
      List.Forall₂ Declaration.Describes (declarations mixedDocument) api.endpoints ∧
      List.Forall₂ DeclaresSchema
        ((schemaEntries mixedDocument).filter fun entry => (entry.2.member? "properties").isSome)
        api.schemas ∧
      (api.schemas.map (·.name)).Nodup ∧
      api.endpoints.map (fun e => (e.method.name, e.tags, e.requestBody.isSome)) =
        [("POST", ["b", "a"], true), ("GET", ["default"], false)] ∧
      api.endpoints.map (fun e => e.responses.map (·.status)) = [["default", "200"], []] ∧
      api.schemas.map (fun s => (s.name, s.properties.map (·.1), s.required)) =
        [("Pet", ["id", "name"], ["name", "owner"]), ("Odd", [], [])] := by
  obtain ⟨hendpoints, hschemas, hnames⟩ := api_holds_declarations wellFormed_mixedDocument rfl
  exact ⟨wellFormed_mixedDocument, _, rfl, hendpoints, hschemas, hnames, by decide, by decide,
    by decide⟩

end Model

end ApiSkeleton
