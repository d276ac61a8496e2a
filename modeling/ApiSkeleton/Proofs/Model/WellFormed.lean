import ApiSkeleton.Proofs.Members
import ApiSkeleton.Proofs.Model.Acceptance
import ApiSkeleton.Proofs.Tree.WellFormed

namespace ApiSkeleton

theorem Tree.WellFormed.findMember? {members : List (String × Tree)}
    (h : (Tree.object members).WellFormed) {key : String} :
    ∀ t ∈ ApiSkeleton.findMember? members key, t.WellFormed := by
  intro t ht
  cases h with
  | object hmembers _ => exact hmembers _ (mem_of_findMember? ht)

theorem Tree.WellFormed.member? {t : Tree} (h : t.WellFormed) {key : String} :
    ∀ s ∈ t.member? key, s.WellFormed := by
  intro s hs
  cases t with
  | object members => exact h.findMember? s hs
  | _ => cases hs

theorem exists_of_forall₂ {α β : Type} {R : α → β → Prop} {as : List α} {bs : List β}
    (h : List.Forall₂ R as bs) : ∀ b ∈ bs, ∃ a ∈ as, R a b := by
  induction h with
  | nil => simp
  | cons hfirst _ ih =>
    intro b hb
    rcases List.mem_cons.mp hb with rfl | hb
    · exact ⟨_, List.mem_cons_self .., hfirst⟩
    · obtain ⟨a, ha, hab⟩ := ih b hb
      exact ⟨a, List.mem_cons_of_mem _ ha, hab⟩

namespace Model

theorem wellFormed_of_mem_membersOf {t : Option Tree} (h : ∀ s ∈ t, s.WellFormed)
    {entry : String × Tree} (hentry : entry ∈ membersOf t) : entry.2.WellFormed := by
  cases t with
  | none => cases hentry
  | some s =>
    cases s with
    | object members => exact (Tree.wellFormed_object_iff.mp (h _ rfl)).1 entry hentry
    | _ => cases hentry

theorem wellFormed_of_mem_pathItems {document : Tree} (hdocument : document.WellFormed)
    {item : String × Tree} (hitem : item ∈ pathItems document) : item.2.WellFormed :=
  wellFormed_of_mem_membersOf hdocument.member? hitem

theorem wellFormed_of_mem_declarationsIn {item : String × Tree} (hitem : item.2.WellFormed)
    {d : Declaration} (hd : d ∈ declarationsIn item.1 item.2) : d.operation.WellFormed := by
  obtain ⟨entry, hentry, rfl⟩ := List.mem_map.mp hd
  refine wellFormed_of_mem_membersOf (t := some item.2) ?_ (List.mem_filter.mp hentry).1
  rintro t ⟨⟩
  exact hitem

def Parameter.WellFormed (p : Parameter) : Prop := ∀ t ∈ p.schema, t.WellFormed

def Media.WellFormed (m : Media) : Prop := ∀ t ∈ m.schema, t.WellFormed

def Response.WellFormed (r : Response) : Prop := ∀ m ∈ r.content.getD [], m.WellFormed

/-- An endpoint that carries nothing but trees of documents. -/
structure Endpoint.WellFormed (e : Endpoint) : Prop where
  parameters : ∀ p ∈ e.parameters, p.WellFormed
  requestBody : ∀ b ∈ e.requestBody, ∀ m ∈ b.content, m.WellFormed
  responses : ∀ r ∈ e.responses, r.WellFormed

def Api.WellFormed (api : Api) : Prop := ∀ e ∈ api.endpoints, e.WellFormed

theorem parameterOf_wellFormed {location : String} {entry : Tree} (hentry : entry.WellFormed)
    {found : Option Parameter} (h : parameterOf location entry = .ok found) :
    ∀ p ∈ found, p.WellFormed := by
  unfold parameterOf at h
  split at h
  · cases h
  · split at h
    · split at h
      · split at h
        · split at h
          · cases h
            rintro p ⟨⟩ t ht
            exact hentry.findMember? t ht
          · split at h
            · cases h
              simp
            · cases h
        · cases h
      · cases h
    · cases h

theorem parametersFrom_wellFormed {location : String} {index : Nat} {entries : List Tree}
    (hentries : ∀ t ∈ entries, t.WellFormed) {ps : List Parameter}
    (h : parametersFrom location index entries = .ok ps) : ∀ p ∈ ps, p.WellFormed := by
  induction entries generalizing index ps with
  | nil =>
    cases h
    simp
  | cons entry rest ih =>
    simp only [parametersFrom, bind_eq_ok_iff, pure_eq_ok, Except.ok.injEq] at h
    obtain ⟨first, hfirst, others, hothers, rfl⟩ := h
    rw [List.forall_mem_cons] at hentries
    intro p hp
    rcases List.mem_append.mp hp with hp | hp
    · exact parameterOf_wellFormed hentries.1 hfirst p (Option.mem_toList.mp hp)
    · exact ih hentries.2 hothers p hp

theorem parametersOf_wellFormed {location : String} {list : Option Tree}
    (hlist : ∀ t ∈ list, t.WellFormed) {ps : List Parameter}
    (h : parametersOf location list = .ok ps) : ∀ p ∈ ps, p.WellFormed := by
  unfold parametersOf at h
  split at h
  · cases h; simp
  · cases h; simp
  · cases hlist _ rfl with
    | list hentries => exact parametersFrom_wellFormed hentries h
  · cases h

theorem overrideOne_wellFormed {p : Parameter} (hp : p.WellFormed) {ps : List Parameter}
    (hps : ∀ q ∈ ps, q.WellFormed) : ∀ q ∈ overrideOne p ps, q.WellFormed := by
  induction ps with
  | nil => simpa [overrideOne] using hp
  | cons q rest ih =>
    rw [List.forall_mem_cons] at hps
    rw [overrideOne]
    split
    · exact List.forall_mem_cons.mpr ⟨hp, hps.2⟩
    · exact List.forall_mem_cons.mpr ⟨hps.1, ih hps.2⟩

theorem override_wellFormed {shared own : List Parameter} (hshared : ∀ p ∈ shared, p.WellFormed)
    (hown : ∀ p ∈ own, p.WellFormed) : ∀ p ∈ override shared own, p.WellFormed := by
  unfold override
  induction own generalizing shared with
  | nil => exact hshared
  | cons p rest ih =>
    rw [List.forall_mem_cons] at hown
    exact ih (overrideOne_wellFormed hown.1 hshared) hown.2

theorem contentOf_wellFormed {location : String} {content : Option Tree}
    (hcontent : ∀ t ∈ content, t.WellFormed) {found : Option (List Media)}
    (h : contentOf location content = .ok found) : ∀ m ∈ found.getD [], m.WellFormed := by
  unfold contentOf at h
  split at h
  · cases h; simp
  · cases h; simp
  · cases h
    cases hcontent _ rfl with
    | object hmembers _ =>
      intro m hm
      obtain ⟨entry, hentry, rfl⟩ := List.mem_map.mp hm
      exact (hmembers entry hentry).member?
  · cases h

theorem requestBodyOf_wellFormed {location : String} {body : Option Tree}
    (hbody : ∀ t ∈ body, t.WellFormed) {found : Option RequestBody}
    (h : requestBodyOf location body = .ok found) :
    ∀ b ∈ found, ∀ m ∈ b.content, m.WellFormed := by
  unfold requestBodyOf at h
  split at h
  · cases h; simp
  · cases h; simp
  · split at h
    · cases h; simp
    · split at h
      · simp only [bind_eq_ok_iff, pure_eq_ok, Except.ok.injEq] at h
        obtain ⟨content, hcontent, rfl⟩ := h
        rintro b ⟨⟩
        exact contentOf_wellFormed (hbody _ rfl).findMember? hcontent
      · cases h

theorem responseOf_wellFormed {location status : String} {response : Tree}
    (hresponse : response.WellFormed) {r : Response}
    (h : responseOf location status response = .ok r) : r.WellFormed := by
  unfold responseOf at h
  split at h
  · cases h
  · split at h
    · simp only [bind_eq_ok_iff, pure_eq_ok, Except.ok.injEq] at h
      obtain ⟨content, hcontent, rfl⟩ := h
      exact contentOf_wellFormed hresponse.findMember? hcontent
    · cases h

theorem responsesFrom_wellFormed {location : String} {members : List (String × Tree)}
    (hmembers : ∀ entry ∈ members, entry.2.WellFormed) {rs : List Response}
    (h : responsesFrom location members = .ok rs) : ∀ r ∈ rs, r.WellFormed := by
  induction members generalizing rs with
  | nil =>
    cases h
    simp
  | cons entry rest ih =>
    simp only [responsesFrom, bind_eq_ok_iff, pure_eq_ok, Except.ok.injEq] at h
    obtain ⟨first, hfirst, others, hothers, rfl⟩ := h
    rw [List.forall_mem_cons] at hmembers
    exact List.forall_mem_cons.mpr
      ⟨responseOf_wellFormed hmembers.1 hfirst, ih hmembers.2 hothers⟩

theorem responsesOf_wellFormed {location : String} {responses : Option Tree}
    (hresponses : ∀ t ∈ responses, t.WellFormed) {rs : List Response}
    (h : responsesOf location responses = .ok rs) : ∀ r ∈ rs, r.WellFormed := by
  unfold responsesOf at h
  split at h
  · cases h; simp
  · cases h; simp
  · cases hresponses _ rfl with
    | object hmembers _ => exact responsesFrom_wellFormed hmembers h
  · cases h

theorem wellFormed_of_makes {shared : List Parameter} (hshared : ∀ p ∈ shared, p.WellFormed)
    {d : Declaration} (hd : d.operation.WellFormed) {e : Endpoint} (h : d.Makes shared e) :
    e.WellFormed := by
  obtain ⟨method, _, he⟩ := h
  have hparts := operationOf_parts he
  obtain ⟨_, own, hown, hparameters⟩ := hparts.parameters
  obtain ⟨_, hbody⟩ := hparts.requestBody
  obtain ⟨_, hresponses⟩ := hparts.responses
  exact {
    parameters := hparameters ▸ override_wellFormed hshared (parametersOf_wellFormed hd.member? hown)
    requestBody := requestBodyOf_wellFormed hd.member? hbody
    responses := responsesOf_wellFormed hd.member? hresponses }

/-- An API carries nothing that its document does not hold. -/
theorem wellFormed_ofTree {document : Tree} (hdocument : document.WellFormed) {api : Api}
    (h : Api.ofTree document = .ok api) : api.WellFormed := by
  obtain ⟨blocks, hendpoints, hblocks⟩ := ofTree_makes h
  intro e he
  rw [hendpoints] at he
  obtain ⟨es, hes, he⟩ := List.mem_flatten.mp he
  obtain ⟨item, hitem, shared, hshared, hmakes⟩ := exists_of_forall₂ hblocks es hes
  obtain ⟨d, hd, hmade⟩ := exists_of_forall₂ hmakes e he
  have hitem := wellFormed_of_mem_pathItems hdocument hitem
  exact wellFormed_of_makes (parametersOf_wellFormed hitem.member? hshared)
    (wellFormed_of_mem_declarationsIn hitem hd) hmade

end Model

end ApiSkeleton
