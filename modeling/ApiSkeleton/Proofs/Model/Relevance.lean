import ApiSkeleton.Proofs.Members
import ApiSkeleton.Proofs.Model.Acceptance
import ApiSkeleton.Proofs.Tree.WellFormed

namespace ApiSkeleton

/-- The members that are kept, each with what becomes of its value. -/
def selectMembers (keep : String → Tree → Option Tree) (members : List (String × Tree)) :
    List (String × Tree) :=
  members.filterMap fun entry => (keep entry.1 entry.2).map (entry.1, ·)

/-- Without a member that is left out, the values change in place. -/
theorem selectMembers_some (f : Tree → Tree) (members : List (String × Tree)) :
    selectMembers (fun _ t => some (f t)) members =
      members.map fun entry => (entry.1, f entry.2) := by
  simp [selectMembers]

theorem bind_change (f : Tree → Tree) (t : Option Tree) :
    (t.bind fun found => some (f found)) = t.map f := Option.map_eq_bind.symm

variable {keep : String → Tree → Option Tree} {members : List (String × Tree)} {key : String}

/-- A key that is always kept has what becomes of its value. -/
theorem findMember?_selectMembers {f : Tree → Tree} (hkeep : ∀ t, keep key t = some (f t)) :
    findMember? (selectMembers keep members) key = (findMember? members key).map f := by
  induction members with
  | nil => rfl
  | cons entry rest ih =>
    obtain ⟨k, t⟩ := entry
    rw [selectMembers] at ih ⊢
    by_cases hkey : k = key
    · subst k
      simp [findMember?, hkeep]
    · cases hkept : keep k t <;> simp [findMember?, hkey, hkept, ih]

/-- A key may be left out because of its value, if it stands only once. -/
theorem findMember?_selectMembers_of_nodup (hkeys : (members.map (·.1)).Nodup) :
    findMember? (selectMembers keep members) key = (findMember? members key).bind (keep key) := by
  induction members with
  | nil => rfl
  | cons entry rest ih =>
    obtain ⟨k, t⟩ := entry
    rw [List.map_cons, List.nodup_cons] at hkeys
    have hrest := ih hkeys.2
    rw [selectMembers] at hrest ⊢
    by_cases hkey : k = key
    · subst k
      have hnone : findMember? rest key = none := findMember?_eq_none_iff.mpr hkeys.1
      cases hkept : keep key t <;> simp [findMember?, hkept, hrest, hnone]
    · cases hkept : keep k t <;> simp [findMember?, hkey, hkept, hrest]

namespace Tree

/-- An object with the members that are kept; nothing else has members. -/
def select (keep : String → Tree → Option Tree) : Tree → Tree
  | .object members => .object (selectMembers keep members)
  | t => t

/-- A list with each of its items changed; nothing else has items. -/
def mapItems (change : Tree → Tree) : Tree → Tree
  | .list items => .list (items.map change)
  | t => t

/-- An object with some of its members only. -/
def only (keys : List String) : Tree → Tree :=
  select fun key t => if keys.contains key then some t else none

/-- An object with each of its values changed. -/
def mapValues (change : Tree → Tree) : Tree → Tree := select fun _ t => some (change t)

theorem member?_select {f : Tree → Tree} {t : Tree}
    (hkeep : ∀ found, keep key found = some (f found)) :
    (t.select keep).member? key = (t.member? key).map f := by
  cases t <;> simp [select, member?, findMember?_selectMembers hkeep]

theorem member?_only {keys : List String} {t : Tree} (hkey : keys.contains key) :
    (t.only keys).member? key = t.member? key := by
  rw [only, member?_select (f := id) (by simpa using hkey), Option.map_id, id]

end Tree

namespace Model

/-- A form of a body has a schema. -/
def relevantMedia : Tree → Tree := Tree.only ["schema"]

def relevantContent : Tree → Tree := Tree.mapValues relevantMedia

/-- Bodies and responses alike. -/
def relevantBody : Tree → Tree :=
  Tree.select fun key t =>
    if key = "content" then some (relevantContent t)
    else if ["$ref", "required", "description"].contains key then some t
    else none

def relevantParameter : Tree → Tree := Tree.only ["$ref", "name", "in", "required", "schema"]

def relevantParameters : Tree → Tree := Tree.mapItems relevantParameter

/-- A request body that is a reference is left out altogether. -/
def relevantOperation : Tree → Tree :=
  Tree.select fun key t =>
    if key = "operationId" ∨ key = "tags" then some t
    else if key = "parameters" then some (relevantParameters t)
    else if key = "requestBody" then
      if (t.member? "$ref").isSome then none else some (relevantBody t)
    else if key = "responses" then some (t.mapValues relevantBody)
    else none

def relevantPathItem : Tree → Tree :=
  Tree.select fun key t =>
    if key = "parameters" then some (relevantParameters t)
    else if declaresOperation key then some (relevantOperation t)
    else none

/-- A reusable schema counts only if it is an object with properties. -/
def relevantSchema? (t : Tree) : Option Tree :=
  if (t.member? "properties").isSome then some (t.only ["properties", "required"]) else none

def relevantComponents : Tree → Tree :=
  Tree.select fun key t =>
    if key = "schemas" then some (t.select fun _ => relevantSchema?) else none

def relevantInfo : Tree → Tree := Tree.only ["title", "version", "description"]

/-- A document without everything that is passed over. -/
def relevant : Tree → Tree :=
  Tree.select fun key t =>
    if key = "info" then some (relevantInfo t)
    else if key = "paths" then some (t.mapValues relevantPathItem)
    else if key = "components" then some (relevantComponents t)
    else none

theorem parameterOf_relevant (location : String) (t : Tree) :
    parameterOf location (relevantParameter t) = parameterOf location t := by
  cases t with
  | object members =>
    have hmember {key : String} (hkey : ["$ref", "name", "in", "required", "schema"].contains key) :
        findMember? (selectMembers _ members) key = findMember? members key :=
      Tree.member?_only (t := .object members) hkey
    simp only [relevantParameter, Tree.only, Tree.select, parameterOf, referenceOf?, Tree.member?]
    rw [hmember (by decide), hmember (by decide), hmember (by decide), hmember (by decide),
      hmember (by decide)]
  | _ => rfl

theorem parametersFrom_relevant (location : String) (index : Nat) (entries : List Tree) :
    parametersFrom location index (entries.map relevantParameter) =
      parametersFrom location index entries := by
  induction entries generalizing index with
  | nil => rfl
  | cons entry rest ih => simp only [List.map_cons, parametersFrom, parameterOf_relevant, ih]

theorem parametersOf_relevant (location : String) (t : Option Tree) :
    parametersOf location (t.map relevantParameters) = parametersOf location t := by
  rcases t with _ | t
  · rfl
  · cases t with
    | list entries => exact parametersFrom_relevant location 0 entries
    | _ => rfl

theorem contentOf_relevant (location : String) (t : Option Tree) :
    contentOf location (t.map relevantContent) = contentOf location t := by
  rcases t with _ | t
  · rfl
  · cases t with
    | object members =>
      have hschema (media : Tree) : (relevantMedia media).member? "schema" =
          media.member? "schema" := Tree.member?_only (by decide)
      simp [relevantContent, Tree.mapValues, Tree.select, selectMembers_some, contentOf, hschema]
    | _ => rfl

theorem relevantBody_object (members : List (String × Tree)) :
    ∃ kept, relevantBody (.object members) = .object kept ∧
      (∀ key ∈ ["$ref", "required", "description"],
        findMember? kept key = findMember? members key) ∧
      findMember? kept "content" = (findMember? members "content").map relevantContent := by
  refine ⟨_, rfl, fun key hkey => ?_, findMember?_selectMembers fun _ => if_pos rfl⟩
  have hne : key ≠ "content" := by
    rintro rfl
    exact absurd hkey (by decide)
  rw [findMember?_selectMembers (f := id), Option.map_id, id]
  intro t
  rw [if_neg hne, if_pos (List.contains_iff_mem.mpr hkey), id]

theorem responseOf_relevant (location status : String) (t : Tree) :
    responseOf location status (relevantBody t) = responseOf location status t := by
  cases t with
  | object members =>
    obtain ⟨kept, hkept, hsame, hcontent⟩ := relevantBody_object members
    have hreference := hsame "$ref" (by decide)
    have hdescription := hsame "description" (by decide)
    simp only [hkept, responseOf, referenceOf?, Tree.member?, hreference, hdescription, hcontent,
      contentOf_relevant]
  | _ => rfl

theorem responsesFrom_relevant (location : String) (members : List (String × Tree)) :
    responsesFrom location (members.map fun entry => (entry.1, relevantBody entry.2)) =
      responsesFrom location members := by
  induction members with
  | nil => rfl
  | cons entry rest ih => simp only [List.map_cons, responsesFrom, responseOf_relevant, ih]

theorem responsesOf_relevant (location : String) (t : Option Tree) :
    responsesOf location (t.map (Tree.mapValues relevantBody)) = responsesOf location t := by
  rcases t with _ | t
  · rfl
  · cases t with
    | object members =>
      simp only [Option.map_some, Tree.mapValues, Tree.select, selectMembers_some, responsesOf,
        responsesFrom_relevant]
    | _ => rfl

/-- A referenced body is taken as none, so it may as well be left out. -/
theorem requestBodyOf_relevant (location : String) (t : Option Tree) :
    requestBodyOf location (t.bind fun body =>
      if (body.member? "$ref").isSome then none else some (relevantBody body)) =
      requestBodyOf location t := by
  rcases t with _ | t
  · rfl
  · cases t with
    | object members =>
      obtain ⟨kept, hkept, hsame, hcontent⟩ := relevantBody_object members
      have hreference := hsame "$ref" (by decide)
      have hrequired := hsame "required" (by decide)
      cases href : findMember? members "$ref" with
      | some reference => simp [requestBodyOf, referenceOf?, Tree.member?, href]
      | none =>
        simp [hkept, requestBodyOf, referenceOf?, Tree.member?, href, hreference, hrequired,
          hcontent, contentOf_relevant]
    | _ => simp [Tree.member?, relevantBody, Tree.select]

theorem operationOf_relevant (path : String) (method : Method) (shared : List Parameter) {t : Tree}
    (ht : t.WellFormed) :
    operationOf path method shared (relevantOperation t) = operationOf path method shared t := by
  cases ht with
  | object _ hkeys =>
    simp only [relevantOperation, Tree.select, operationOf,
      findMember?_selectMembers_of_nodup hkeys]
    simp [bind_change, parametersOf_relevant, requestBodyOf_relevant, responsesOf_relevant]
  | _ => rfl

theorem operationsFrom_relevant (path : String) (shared : List Parameter)
    {members : List (String × Tree)} (hmembers : ∀ entry ∈ members, entry.2.WellFormed) :
    operationsFrom path shared (selectMembers (fun key t =>
      if key = "parameters" then some (relevantParameters t)
      else if declaresOperation key then some (relevantOperation t)
      else none) members) = operationsFrom path shared members := by
  induction members with
  | nil => rfl
  | cons entry rest ih =>
    obtain ⟨key, t⟩ := entry
    rw [List.forall_mem_cons] at hmembers
    have hrest := ih hmembers.2
    rw [selectMembers] at hrest ⊢
    by_cases hparameters : key = "parameters"
    · have hother : Method.ofKey? "parameters" = none := by decide
      simp [hparameters, operationsFrom, hother, hrest]
    · cases hkey : Method.ofKey? key with
      | none =>
        have hother : declaresOperation key = false := by rw [declaresOperation_iff, hkey]; rfl
        simp [hparameters, hother, operationsFrom, hkey, hrest]
      | some method =>
        have hdeclares : declaresOperation key = true := by rw [declaresOperation_iff, hkey]; rfl
        simp [hparameters, hdeclares, operationsFrom, hkey, hrest,
          operationOf_relevant path method shared hmembers.1]

theorem pathItemOf_relevant (path : String) {t : Tree} (ht : t.WellFormed) :
    pathItemOf path (relevantPathItem t) = pathItemOf path t := by
  cases ht with
  | object hmembers _ =>
    simp only [relevantPathItem, Tree.select, pathItemOf]
    rw [findMember?_selectMembers fun _ => if_pos rfl, parametersOf_relevant]
    simp only [operationsFrom_relevant _ _ hmembers]
  | _ => rfl

theorem pathItemsFrom_relevant {members : List (String × Tree)}
    (hmembers : ∀ entry ∈ members, entry.2.WellFormed) :
    pathItemsFrom (members.map fun entry => (entry.1, relevantPathItem entry.2)) =
      pathItemsFrom members := by
  induction members with
  | nil => rfl
  | cons entry rest ih =>
    rw [List.forall_mem_cons] at hmembers
    simp only [List.map_cons, pathItemsFrom, pathItemOf_relevant _ hmembers.1, ih hmembers.2]

theorem endpointsOf_relevant {t : Option Tree} (ht : ∀ found ∈ t, found.WellFormed) :
    endpointsOf (t.map (Tree.mapValues relevantPathItem)) = endpointsOf t := by
  rcases t with _ | t
  · rfl
  · cases ht t rfl with
    | object hmembers _ =>
      simp only [Option.map_some, Tree.mapValues, Tree.select, selectMembers_some, endpointsOf,
        pathItemsFrom_relevant hmembers]
    | _ => rfl

theorem metadataOf_relevant (t : Option Tree) :
    metadataOf (t.map relevantInfo) = metadataOf t := by
  rcases t with _ | t
  · rfl
  · cases t with
    | object members =>
      have hmember {key : String} (hkey : ["title", "version", "description"].contains key) :
          findMember? (selectMembers _ members) key = findMember? members key :=
        Tree.member?_only (t := .object members) hkey
      simp only [Option.map_some, relevantInfo, Tree.only, Tree.select, metadataOf]
      rw [hmember (by decide), hmember (by decide), hmember (by decide)]
    | _ => rfl

/-- A schema that does not count is left out, and one that counts stays the same. -/
theorem schemaOf?_relevant (name : String) (t : Tree) :
    (relevantSchema? t).bind (schemaOf? name) = schemaOf? name t := by
  cases t with
  | object members =>
    have hmember {key : String} (hkey : ["properties", "required"].contains key) :
        findMember? (selectMembers _ members) key = findMember? members key :=
      Tree.member?_only (t := .object members) hkey
    cases hproperties : findMember? members "properties" with
    | none => simp [relevantSchema?, Tree.member?, schemaOf?, hproperties]
    | some properties =>
      simp only [relevantSchema?, Tree.member?, hproperties, Option.isSome_some, if_true,
        Option.bind_some, Tree.only, Tree.select, schemaOf?]
      rw [hmember (by decide), hmember (by decide), hproperties]
  | _ => simp [relevantSchema?, Tree.member?, schemaOf?]

theorem schemasOf_relevant (t : Option Tree) :
    schemasOf (t.map relevantComponents) = schemasOf t := by
  have hschemas (found : Tree) : (relevantComponents found).member? "schemas" =
      (found.member? "schemas").map (Tree.select fun _ => relevantSchema?) :=
    Tree.member?_select fun _ => if_pos rfl
  rcases t with _ | t
  · rfl
  · simp only [schemasOf, Option.map_some, Option.bind_some, hschemas]
    rcases t.member? "schemas" with _ | schemas
    · rfl
    · cases schemas with
      | object members =>
        simp only [Option.map_some, Option.bind_some, Tree.select, Tree.asObject?,
          Option.getD_some, selectMembers, List.filterMap_filterMap]
        refine List.filterMap_congr fun entry _ => ?_
        rw [← schemaOf?_relevant]
        cases relevantSchema? entry.2 <;> rfl
      | _ => rfl

/-- What is left of a document describes the same API, or is refused with the same failure. -/
theorem ofTree_relevant {document : Tree} (hdocument : document.WellFormed) :
    Api.ofTree (relevant document) = Api.ofTree document := by
  cases hdocument with
  | @object members hmembers hkeys =>
    have hpaths : ∀ found ∈ findMember? members "paths", found.WellFormed :=
      fun found hfound => hmembers _ (mem_of_findMember? hfound)
    simp only [relevant, Tree.select, Api.ofTree, findMember?_selectMembers_of_nodup hkeys]
    simp [bind_change, metadataOf_relevant, endpointsOf_relevant hpaths, schemasOf_relevant]
  | _ => rfl

/-- Only what is documented matters. Two documents that are the same once everything else is left
out describe the same API, or are refused with the same failure. -/
theorem ofTree_eq_of_relevant_eq {first second : Tree} (hfirst : first.WellFormed)
    (hsecond : second.WellFormed) (hsame : relevant first = relevant second) :
    Api.ofTree first = Api.ofTree second := by
  rw [← ofTree_relevant hfirst, hsame, ofTree_relevant hsecond]

/-- A document with references in places that are passed over, and with a referenced body. -/
def noisyDocument : Tree :=
  .object
    [("servers", .object [("$ref", .text "#/servers")]),
     ("info", .object [("contact", .object [("$ref", .null)]), ("title", .text "Pets")]),
     ("paths", .object
       [("/pets", .object
          [("$ref", .text "#/shared"),
           ("Parameters", .list [.object [("$ref", .text "#/limit")]]),
           ("POST", .object
             [("callbacks", .object [("$ref", .text "#/paid")]),
              ("requestBody", .object [("$ref", .text "#/pet"), ("content", .text "none")])])])]),
     ("components", .object
       [("responses", .object [("404", .object [("$ref", .text "#/missing")])]),
        ("schemas", .object [("Id", .object [("$ref", .text "#/id")])])])]

/-- What is left of it. -/
def plainDocument : Tree :=
  .object
    [("info", .object [("title", .text "Pets")]),
     ("paths", .object [("/pets", .object [("POST", .object [])])]),
     ("components", .object [("schemas", .object [])])]

theorem noisyDocument_eq_plainDocument : noisyDocument.WellFormed ∧ plainDocument.WellFormed ∧
    relevant noisyDocument = relevant plainDocument ∧
    Api.ofTree noisyDocument = Api.ofTree plainDocument := by
  have hnoisy : noisyDocument.WellFormed := by
    simp [noisyDocument, Tree.wellFormed_object_iff, Tree.wellFormed_list_iff, Tree.WellFormed.text,
      Tree.WellFormed.null]
  have hplain : plainDocument.WellFormed := by
    simp [plainDocument, Tree.wellFormed_object_iff, Tree.WellFormed.text]
  have hsame : relevant noisyDocument = relevant plainDocument := rfl
  exact ⟨hnoisy, hplain, hsame, ofTree_eq_of_relevant_eq hnoisy hplain hsame⟩

end Model

end ApiSkeleton
