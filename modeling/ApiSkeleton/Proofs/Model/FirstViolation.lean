import ApiSkeleton.Proofs.Model.Acceptance

namespace ApiSkeleton

/-- The failure of a computation that has no result. -/
def failure? {ε α : Type} : Except ε α → Option ε
  | .error e => some e
  | .ok _ => none

@[simp] theorem failure?_ok {ε α : Type} (a : α) : failure? (.ok a : Except ε α) = none := rfl

@[simp] theorem failure?_error {ε α : Type} (e : ε) :
    failure? (.error e : Except ε α) = some e := rfl

theorem failure?_eq_some_iff {ε α : Type} {x : Except ε α} {e : ε} :
    failure? x = some e ↔ x = .error e := by
  cases x <;> simp

theorem failure?_eq_none_iff {ε α : Type} {x : Except ε α} : failure? x = none ↔ Succeeds x := by
  cases x <;> simp

/-- Of two steps in a row the first that fails counts, where the failure of the second one does not
hang on the result of the first. -/
theorem failure?_bind {ε α β : Type} {x : Except ε α} {f : α → Except ε β} {next : Option ε}
    (hnext : ∀ a, failure? (f a) = next) : failure? (x >>= f) = (failure? x).or next := by
  cases x with
  | error e => rfl
  | ok a => simpa using hnext a

theorem failure?_return {ε α β : Type} {x : Except ε α} {f : α → β} :
    failure? (do return f (← x)) = failure? x := by
  cases x <;> rfl

namespace Model

@[simp] theorem failure?_invalid {α : Type} (location : String) (fault : DocumentFault) :
    failure? (invalid location fault : Checked α) = some (.invalidDocument location fault) := rfl

/-- What lists parameters: a path item, or the operation under one of its keys. -/
inductive Owner where
  | item (path : String)
  | operation (path key : String)

/-- The method of an operation counts in lower case, however its key is written. -/
def Owner.location : Owner → String
  | .item path => "paths." ++ path
  | .operation path key => "paths." ++ path ++ "." ++ Text.asciiLowercase key

/-- A place of a document with what stands there, which may be nothing. -/
inductive Site where
  | root (document : Tree)
  | info (t : Option Tree)
  | paths (t : Option Tree)
  | pathItem (path : String) (t : Tree)
  | parameters (owner : Owner) (t : Option Tree)
  | parameter (owner : Owner) (index : Nat) (t : Tree)
  | operation (path key : String) (t : Tree)
  | tags (path key : String) (t : Option Tree)
  | tag (path key : String) (index : Nat) (t : Tree)
  | body (path key : String) (t : Option Tree)
  | responses (path key : String) (t : Option Tree)
  | response (path key status : String) (t : Tree)

/-- How a place is named in failures. -/
def Site.location : Site → String
  | .root _ => "$"
  | .info _ => "info"
  | .paths _ => "paths"
  | .pathItem path _ => "paths." ++ path
  | .parameters owner _ => owner.location ++ ".parameters"
  | .parameter owner index _ => owner.location ++ ".parameters" ++ "[" ++ toString index ++ "]"
  | .operation path key _ => (Owner.operation path key).location
  | .tags path key _ => (Owner.operation path key).location ++ ".tags"
  | .tag path key index _ =>
    (Owner.operation path key).location ++ ".tags" ++ "[" ++ toString index ++ "]"
  | .body path key _ => (Owner.operation path key).location ++ ".requestBody"
  | .responses path key _ => (Owner.operation path key).location ++ ".responses"
  | .response path key status _ =>
    (Owner.operation path key).location ++ ".responses" ++ "." ++ status

/-- A list of parameters before its entries. -/
def parameterSites (owner : Owner) (t : Option Tree) : List Site :=
  .parameters owner t :: (itemsOf t).mapIdx (.parameter owner)

/-- An operation, its tags, its parameters, its body and its responses. -/
def operationSites (path key : String) (t : Tree) : List Site :=
  .operation path key t ::
    ((.tags path key (t.member? "tags") ::
      (itemsOf (t.member? "tags")).mapIdx (.tag path key)) ++
    (parameterSites (.operation path key) (t.member? "parameters") ++
    (.body path key (t.member? "requestBody") ::
    .responses path key (t.member? "responses") ::
      (membersOf (t.member? "responses")).map fun entry => .response path key entry.1 entry.2)))

/-- A path item, the parameters that its operations share, and its operations. -/
def pathItemSites (path : String) (t : Tree) : List Site :=
  .pathItem path t :: (parameterSites (.item path) (t.member? "parameters") ++
    ((membersOf (some t)).filter fun entry => declaresOperation entry.1).flatMap
      fun entry => operationSites path entry.1 entry.2)

/-- All places of a document in the order of the walk. -/
def sites (document : Tree) : List Site :=
  .root document :: .info (document.member? "info") :: .paths (document.member? "paths") ::
    (membersOf (document.member? "paths")).flatMap fun entry => pathItemSites entry.1 entry.2

/-- A check that was made, and how it is told if it is not passed. -/
structure Check where
  passed : Bool
  failure : Failure

/-- What may be missing or null is checked only if it is there. -/
def ifPresent (check : Tree → Bool) : Option Tree → Bool
  | none | some .null => true
  | some t => check t

def isObject (t : Tree) : Bool := t.asObject?.isSome

def isList (t : Tree) : Bool := t.asList?.isSome

/-- A member that is a text. -/
def textMember? (t : Tree) (key : String) : Option String := (t.member? key).bind Tree.asText?

def isReference (t : Tree) : Bool := (t.member? "$ref").isSome

/-- A reference is refused with its target as it is printed. -/
def referenceCheck (location : String) (t : Tree) : Check :=
  ⟨!isReference t, .unsupportedReference (((t.member? "$ref").map Tree.asPrinted).getD "") location⟩

def contentCheck (location : String) (t : Tree) : Check :=
  ⟨ifPresent isObject (t.member? "content"),
    .invalidDocument (location ++ ".content") .mediaTypesNotMapping⟩

/-- The checks of a place in their order. -/
def Site.checks (site : Site) : List Check :=
  let check (passed : Bool) (fault : DocumentFault) : Check :=
    ⟨passed, .invalidDocument site.location fault⟩
  match site with
  | .root t => [check (isObject t) .rootNotMapping]
  | .info t => [check ((t.map isObject).getD false) .missingInfo]
  | .paths t => [check (ifPresent isObject t) .notMapping]
  | .pathItem _ t => [check (isObject t) .pathItemNotMapping]
  | .parameters _ t => [check (ifPresent isList t) .parametersNotList]
  | .parameter _ _ t =>
    [referenceCheck site.location t,
     check (isObject t) .parameterNotMapping,
     check (textMember? t "name").isSome .parameterWithoutName,
     check (textMember? t "in").isSome .parameterWithoutLocation,
     check (["path", "query", "header", "cookie"].contains ((textMember? t "in").getD ""))
      (.unknownLocation ((textMember? t "in").getD ""))]
  | .operation _ _ t => [check (isObject t) .operationNotMapping]
  | .tags _ _ t => [check (ifPresent isList t) .tagsNotList]
  | .tag _ _ _ t => [check t.asText?.isSome .tagNotText]
  | .body _ _ none => []
  | .body _ _ (some t) =>
    if isReference t then []
    else [check (ifPresent isObject (some t)) .bodyNotMapping, contentCheck site.location t]
  | .responses _ _ t => [check (ifPresent isObject t) .responsesNotMapping]
  | .response _ _ _ t =>
    [referenceCheck site.location t, check (isObject t) .responseNotMapping,
     contentCheck site.location t]

/-- The failure of the first check that is not passed. -/
def firstFailure? (checks : List Check) : Option Failure :=
  (checks.find? fun c => !c.passed).map (·.failure)

/-- What is wrong with a place. -/
def Site.violation? (site : Site) : Option Failure := firstFailure? site.checks

/-- What is right with a place, as a condition on what stands there. -/
def Site.WellFormed : Site → Prop
  | .root t | .pathItem _ t | .operation _ _ t => IsObject t
  | .info t => ∃ found, t = some found ∧ IsObject found
  | .paths t | .responses _ _ t => Optionally IsObject t
  | .parameters _ t | .tags _ _ t => Optionally (fun found => ∃ items, found = .list items) t
  | .parameter _ _ t => IsParameter t
  | .tag _ _ _ t => ∃ s, t = .text s
  | .body _ _ t => Optionally IsRequestBody t
  | .response _ _ _ t => IsResponse t

/-- The target of a reference where a reference is refused. -/
def Site.reference? : Site → Option String
  | .parameter _ _ t | .response _ _ _ t => (t.member? "$ref").map Tree.asPrinted
  | _ => none

/-- The first violation on the way through a list of places. -/
def firstViolation? (ss : List Site) : Option Failure := ss.findSome? Site.violation?

@[simp] theorem firstFailure?_nil : firstFailure? [] = none := rfl

@[simp] theorem firstFailure?_cons (c : Check) (cs : List Check) :
    firstFailure? (c :: cs) = if c.passed then firstFailure? cs else some c.failure := by
  cases hpassed : c.passed <;> simp [firstFailure?, hpassed]

@[simp] theorem firstViolation?_nil : firstViolation? [] = none := rfl

@[simp] theorem firstViolation?_cons (s : Site) (ss : List Site) :
    firstViolation? (s :: ss) = s.violation?.or (firstViolation? ss) := by
  cases hfound : s.violation? <;> simp [firstViolation?, hfound]

theorem firstViolation?_append (ss others : List Site) :
    firstViolation? (ss ++ others) = (firstViolation? ss).or (firstViolation? others) :=
  List.findSome?_append

private theorem passed_iff_optionally {check : Tree → Bool} {condition : Tree → Prop}
    (h : ∀ t, check t = true ↔ condition t) (t : Option Tree) :
    ifPresent check t = true ↔ Optionally condition t := by
  rcases t with _ | t
  · simp [ifPresent, Optionally]
  · cases t <;> simp [ifPresent, Optionally, h]

private theorem isObject_iff (t : Tree) : isObject t = true ↔ IsObject t := by
  cases t <;> simp [isObject, IsObject, Tree.asObject?]

private theorem isList_iff (t : Tree) : isList t = true ↔ ∃ items, t = .list items := by
  cases t <;> simp [isList, Tree.asList?]

private theorem contains_place (place : String) :
    ["path", "query", "header", "cookie"].contains place =
    ((Location.ofName? place).isSome || place == "cookie") := by
  rw [Bool.eq_iff_iff, List.contains_iff_mem, ← place_accepted_iff, Bool.or_eq_true, beq_iff_eq]

theorem failure?_parameterOf (owner : Owner) (index : Nat) (entry : Tree) :
    failure? (parameterOf (itemLocation (owner.location ++ ".parameters") index) entry) =
      (Site.parameter owner index entry).violation? := by
  cases entry with
  | object members =>
    simp only [parameterOf, referenceOf?, Site.violation?, Site.checks, Site.location, itemLocation,
      referenceCheck, isReference, textMember?, isObject, Tree.asObject?, Tree.member?]
    cases href : findMember? members "$ref" with
    | some reference => simp
    | none =>
      cases hname : findMember? members "name" with
      | none => simp
      | some name =>
        cases name with
        | text name =>
          cases hplace : findMember? members "in" with
          | none => simp [Tree.asText?]
          | some place =>
            cases place with
            | text place =>
              simp only [Option.map_none, Option.bind_some, Tree.asText?, Option.isSome_none,
                Option.isSome_some, Option.getD_some, contains_place, Bool.not_false,
                firstFailure?_cons, firstFailure?_nil, if_true]
              cases Location.ofName? place with
              | some carried => simp
              | none => by_cases hcookie : place = "cookie" <;> simp [hcookie]
            | _ => simp [Tree.asText?]
        | _ => simp [Tree.asText?]
  | _ =>
    simp [parameterOf, referenceOf?, Tree.member?, Site.violation?, Site.checks, Site.location,
      itemLocation, referenceCheck, isReference, isObject, Tree.asObject?]

/-- The entries of a list are numbered from the index that the walk has come to. -/
theorem mapIdx_from_cons (site : Nat → Tree → Site) (index : Nat) (t : Tree) (rest : List Tree) :
    (t :: rest).mapIdx (fun i t => site (index + i) t) =
      site index t :: rest.mapIdx fun i t => site (index + 1 + i) t := by
  have hshift : (fun i t => site (index + (i + 1)) t) = fun i t => site (index + 1 + i) t := by
    funext i t
    rw [Nat.add_assoc, Nat.add_comm 1 i]
  rw [List.mapIdx_cons, Nat.add_zero, hshift]

theorem failure?_parametersFrom (owner : Owner) (index : Nat) (entries : List Tree) :
    failure? (parametersFrom (owner.location ++ ".parameters") index entries) =
      firstViolation? (entries.mapIdx fun i t => .parameter owner (index + i) t) := by
  induction entries generalizing index with
  | nil => rfl
  | cons entry rest ih =>
    rw [mapIdx_from_cons, firstViolation?_cons, parametersFrom,
      failure?_bind fun _ => failure?_return, failure?_parameterOf, ih]

theorem failure?_parametersOf (owner : Owner) (t : Option Tree) :
    failure? (parametersOf (owner.location ++ ".parameters") t) =
      firstViolation? (parameterSites owner t) := by
  rcases t with _ | t
  · simp [parametersOf, parameterSites, itemsOf, Site.violation?, Site.checks, ifPresent]
  · cases t with
    | list entries =>
      have hentries := failure?_parametersFrom owner 0 entries
      simp only [Nat.zero_add] at hentries
      simp [parametersOf, parameterSites, itemsOf, Site.violation?, Site.checks, ifPresent, isList,
        Tree.asList?, hentries]
    | _ =>
      simp [parametersOf, parameterSites, itemsOf, Site.violation?, Site.checks, Site.location,
        ifPresent, isList, Tree.asList?]

theorem failure?_tagsFrom (path key : String) (index : Nat) (seen : List String)
    (items : List Tree) :
    failure? (tagsFrom ((Owner.operation path key).location ++ ".tags") index seen items) =
      firstViolation? (items.mapIdx fun i t => .tag path key (index + i) t) := by
  induction items generalizing index seen with
  | nil => rfl
  | cons item rest ih =>
    rw [mapIdx_from_cons, firstViolation?_cons]
    cases item with
    | text tag => simp [tagsFrom, ih, Site.violation?, Site.checks, Tree.asText?]
    | _ => simp [tagsFrom, Site.violation?, Site.checks, Site.location, itemLocation, Tree.asText?]

theorem failure?_tagsOf (path key : String) (t : Option Tree) :
    failure? (tagsOf ((Owner.operation path key).location ++ ".tags") t) =
      firstViolation? (.tags path key t :: (itemsOf t).mapIdx (.tag path key)) := by
  rcases t with _ | t
  · simp [tagsOf, itemsOf, Site.violation?, Site.checks, ifPresent]
  · cases t with
    | list items =>
      have hitems := failure?_tagsFrom path key 0 [] items
      simp only [Nat.zero_add] at hitems
      simp only [tagsOf, failure?_return, hitems]
      simp [itemsOf, Site.violation?, Site.checks, ifPresent, isList, Tree.asList?]
    | _ =>
      simp [tagsOf, itemsOf, Site.violation?, Site.checks, Site.location, ifPresent, isList,
        Tree.asList?]

/-- The forms that a body or a response lists. -/
theorem failure?_contentOf (location : String) (t : Tree) :
    failure? (contentOf (location ++ ".content") (t.member? "content")) =
      firstFailure? [contentCheck location t] := by
  simp only [contentCheck, firstFailure?_cons, firstFailure?_nil]
  rcases t.member? "content" with _ | content
  · simp [contentOf, ifPresent]
  · cases content <;> simp [contentOf, ifPresent, isObject, Tree.asObject?]

theorem failure?_requestBodyOf (path key : String) (t : Option Tree) :
    failure? (requestBodyOf ((Owner.operation path key).location ++ ".requestBody") t) =
      (Site.body path key t).violation? := by
  rcases t with _ | t
  · simp [requestBodyOf, Site.violation?, Site.checks]
  · cases t with
    | object members =>
      have hcontent := failure?_contentOf ((Owner.operation path key).location ++ ".requestBody")
        (.object members)
      simp only [requestBodyOf, referenceOf?, Option.isSome_map, Site.violation?, Site.checks,
        isReference]
      by_cases href : ((Tree.object members).member? "$ref").isSome
      · simp [href]
      · simp only [href, Bool.false_eq_true, if_false, failure?_return]
        simpa [Site.location, ifPresent, isObject, Tree.asObject?, Tree.member?] using hcontent
    | _ =>
      simp [requestBodyOf, referenceOf?, Tree.member?, Site.violation?, Site.checks, Site.location,
        isReference, ifPresent, isObject, Tree.asObject?, contentCheck]

theorem failure?_responseOf (path key status : String) (t : Tree) :
    failure? (responseOf ((Owner.operation path key).location ++ ".responses" ++ "." ++ status)
      status t) = (Site.response path key status t).violation? := by
  cases t with
  | object members =>
    have hcontent := failure?_contentOf
      ((Owner.operation path key).location ++ ".responses" ++ "." ++ status) (.object members)
    simp only [responseOf, referenceOf?, Site.violation?, Site.checks, Site.location,
      referenceCheck, isReference]
    cases href : (Tree.object members).member? "$ref" with
    | some reference => simp
    | none =>
      simp only [Option.map_none, failure?_return]
      simpa [isObject, Tree.asObject?, Tree.member?] using hcontent
  | _ =>
    simp [responseOf, referenceOf?, Tree.member?, Site.violation?, Site.checks, Site.location,
      referenceCheck, isReference, isObject, Tree.asObject?]

theorem failure?_responsesFrom (path key : String) (members : List (String × Tree)) :
    failure? (responsesFrom ((Owner.operation path key).location ++ ".responses") members) =
      firstViolation? (members.map fun entry => .response path key entry.1 entry.2) := by
  induction members with
  | nil => rfl
  | cons entry rest ih =>
    rw [responsesFrom, failure?_bind fun _ => failure?_return, failure?_responseOf, ih,
      List.map_cons, firstViolation?_cons]

theorem failure?_responsesOf (path key : String) (t : Option Tree) :
    failure? (responsesOf ((Owner.operation path key).location ++ ".responses") t) =
      firstViolation? (.responses path key t ::
        (membersOf t).map fun entry => .response path key entry.1 entry.2) := by
  rcases t with _ | t
  · simp [responsesOf, membersOf, Site.violation?, Site.checks, ifPresent]
  · cases t with
    | object members =>
      have hmembers := failure?_responsesFrom path key members
      simp [responsesOf, membersOf, Site.violation?, Site.checks, ifPresent, isObject,
        Tree.asObject?, hmembers]
    | _ =>
      simp [responsesOf, membersOf, Site.violation?, Site.checks, Site.location, ifPresent,
        isObject, Tree.asObject?]

/-- The key of a method is the key it was found under, in lower case. -/
private theorem key_of_ofKey? {key : String} {method : Method}
    (h : Method.ofKey? key = some method) :
    method.key = Text.asciiLowercase key := by
  unfold Method.ofKey? at h
  split at h
  case h_9 => cases h
  all_goals
    cases h
    simp_all only [Method.key]

theorem failure?_operationOf {path key : String} {method : Method} (shared : List Parameter)
    (hkey : Method.ofKey? key = some method) (t : Tree) :
    failure? (operationOf path method shared t) = firstViolation? (operationSites path key t) := by
  have hlocation : "paths." ++ path ++ "." ++ method.key =
      (Owner.operation path key).location := by
    rw [Owner.location, key_of_ofKey? hkey]
  cases t with
  | object members =>
    have hshape : (Site.operation path key (.object members)).violation? = none := by
      simp [Site.violation?, Site.checks, isObject, Tree.asObject?]
    simp only [operationSites, Tree.member?, firstViolation?_cons (.operation _ _ _), hshape,
      Option.none_or, firstViolation?_append]
    simp only [operationOf, hlocation]
    rw [failure?_bind, failure?_tagsOf]
    intro tags
    rw [failure?_bind, failure?_parametersOf]
    intro own
    rw [failure?_bind, failure?_requestBodyOf, firstViolation?_cons]
    intro body
    rw [failure?_return, failure?_responsesOf]
  | _ =>
    simp [operationOf, operationSites, hlocation, Site.violation?, Site.checks, Site.location,
      isObject, Tree.asObject?]

theorem failure?_operationsFrom (path : String) (shared : List Parameter)
    (members : List (String × Tree)) :
    failure? (operationsFrom path shared members) =
      firstViolation? ((members.filter fun entry => declaresOperation entry.1).flatMap
        fun entry => operationSites path entry.1 entry.2) := by
  induction members with
  | nil => rfl
  | cons entry rest ih =>
    obtain ⟨key, operation⟩ := entry
    rw [operationsFrom]
    cases hkey : Method.ofKey? key with
    | none =>
      have hother : declaresOperation key = false := by rw [declaresOperation_iff, hkey]; rfl
      simp only [List.filter_cons, hother, Bool.false_eq_true, if_false, ih]
    | some method =>
      have hdeclares : declaresOperation key = true := by rw [declaresOperation_iff, hkey]; rfl
      simp only [List.filter_cons, hdeclares, if_true, List.flatMap_cons, firstViolation?_append]
      rw [failure?_bind fun _ => failure?_return, failure?_operationOf shared hkey, ih]

theorem failure?_pathItemOf (path : String) (t : Tree) :
    failure? (pathItemOf path t) = firstViolation? (pathItemSites path t) := by
  cases t with
  | object members =>
    have hshape : (Site.pathItem path (.object members)).violation? = none := by
      simp [Site.violation?, Site.checks, isObject, Tree.asObject?]
    have hoperations (shared : List Parameter) := failure?_operationsFrom path shared members
    have hshared := failure?_parametersOf (.item path) (findMember? members "parameters")
    simp only [pathItemOf, pathItemSites, firstViolation?_cons, firstViolation?_append, hshape,
      Option.none_or, Tree.member?, membersOf, Option.bind_some, Tree.asObject?, Option.getD_some]
    rw [failure?_bind hoperations, ← hshared, Owner.location]
  | _ =>
    simp [pathItemOf, pathItemSites, Site.violation?, Site.checks, Site.location, isObject,
      Tree.asObject?]

theorem failure?_pathItemsFrom (members : List (String × Tree)) :
    failure? (pathItemsFrom members) =
      firstViolation? (members.flatMap fun entry => pathItemSites entry.1 entry.2) := by
  induction members with
  | nil => rfl
  | cons entry rest ih =>
    rw [pathItemsFrom, failure?_bind fun _ => failure?_return, failure?_pathItemOf, ih,
      List.flatMap_cons, firstViolation?_append]

theorem failure?_endpointsOf (t : Option Tree) :
    failure? (endpointsOf t) = firstViolation? (.paths t ::
      (membersOf t).flatMap fun entry => pathItemSites entry.1 entry.2) := by
  rcases t with _ | t
  · simp [endpointsOf, membersOf, Site.violation?, Site.checks, ifPresent]
  · cases t with
    | object members =>
      simp [endpointsOf, membersOf, Site.violation?, Site.checks, ifPresent, isObject,
        Tree.asObject?, failure?_pathItemsFrom]
    | _ =>
      simp [endpointsOf, membersOf, Site.violation?, Site.checks, Site.location, ifPresent,
        isObject, Tree.asObject?]

theorem failure?_metadataOf (t : Option Tree) :
    failure? (metadataOf t) = (Site.info t).violation? := by
  rcases t with _ | t
  · simp [metadataOf, Site.violation?, Site.checks, Site.location]
  · cases t <;>
      simp [metadataOf, Site.violation?, Site.checks, Site.location, isObject, Tree.asObject?]

/-- A document is refused for its first violation, and for nothing else. -/
theorem failure?_ofTree (document : Tree) :
    failure? (Api.ofTree document) = firstViolation? (sites document) := by
  cases document with
  | object members =>
    have hshape : (Site.root (.object members)).violation? = none := by
      simp [Site.violation?, Site.checks, isObject, Tree.asObject?]
    rw [sites, firstViolation?_cons, firstViolation?_cons, hshape, Option.none_or,
      ← failure?_endpointsOf, ← failure?_metadataOf, Api.ofTree]
    exact failure?_bind fun metadata => failure?_return
  | _ => simp [Api.ofTree, sites, Site.violation?, Site.checks, Site.location, isObject,
      Tree.asObject?]

private theorem firstFailure?_single (passed : Bool) (f : Failure) :
    firstFailure? [⟨passed, f⟩] = none ↔ passed = true := by
  cases passed <;> simp

/-- Nothing is wrong with a place exactly if what stands there fulfils its condition. -/
theorem violation?_eq_none_iff (site : Site) : site.violation? = none ↔ site.WellFormed := by
  cases site with
  | root t | pathItem _ t | operation _ _ t =>
    exact (firstFailure?_single _ _).trans (isObject_iff t)
  | info t =>
    refine (firstFailure?_single _ _).trans ?_
    cases t <;> simp [Site.WellFormed, isObject_iff]
  | paths t | responses _ _ t =>
    exact (firstFailure?_single _ _).trans (passed_iff_optionally isObject_iff t)
  | parameters _ t | tags _ _ t =>
    exact (firstFailure?_single _ _).trans (passed_iff_optionally isList_iff t)
  | parameter owner index t =>
    rw [← failure?_parameterOf, failure?_eq_none_iff]
    exact parameterOf_succeeds_iff _ t
  | tag _ _ _ t =>
    refine (firstFailure?_single _ _).trans ?_
    cases t <;> simp [Site.WellFormed, Tree.asText?]
  | body path key t =>
    rw [← failure?_requestBodyOf, failure?_eq_none_iff]
    exact requestBodyOf_succeeds_iff _ t
  | response path key status t =>
    rw [← failure?_responseOf, failure?_eq_none_iff]
    exact responseOf_succeeds_iff _ status t

/-- What is wrong with a place is a reference exactly where one is refused: it comes before all else
that may be wrong there. -/
private theorem violation?_cases {site : Site} {f : Failure} (h : site.violation? = some f) :
    (∃ reference, site.reference? = some reference ∧
      f = .unsupportedReference reference site.location) ∨
    (site.reference? = none ∧ ∃ location fault, f = .invalidDocument location fault) := by
  have htold {checks : List Check}
      (hchecks : ∀ c ∈ checks, ∃ location fault, c.failure = .invalidDocument location fault)
      (hfirst : firstFailure? checks = some f) :
      ∃ location fault, f = .invalidDocument location fault := by
    obtain ⟨c, hc, rfl⟩ := Option.map_eq_some_iff.mp hfirst
    exact hchecks c (List.mem_of_find?_eq_some hc)
  have hreferred {location : String} {t : Tree} {checks : List Check}
      (hchecks : ∀ c ∈ checks, ∃ location fault, c.failure = .invalidDocument location fault)
      (hfirst : firstFailure? (referenceCheck location t :: checks) = some f) :
      (∃ reference, (t.member? "$ref").map Tree.asPrinted = some reference ∧
        f = .unsupportedReference reference location) ∨
      ((t.member? "$ref").map Tree.asPrinted = none ∧
        ∃ location fault, f = .invalidDocument location fault) := by
    cases href : t.member? "$ref" with
    | some reference =>
      left
      simpa [referenceCheck, isReference, href, eq_comm] using hfirst
    | none =>
      right
      exact ⟨rfl, htold hchecks (by simpa [referenceCheck, isReference, href] using hfirst)⟩
  cases site with
  | parameter owner index t => exact hreferred (by simp) h
  | response path key status t => exact hreferred (by simp [contentCheck]) h
  | body path key t =>
    refine .inr ⟨rfl, htold ?_ h⟩
    cases t with
    | none => simp [Site.checks]
    | some t => by_cases href : isReference t <;> simp [Site.checks, href, contentCheck]
  | _ => exact .inr ⟨rfl, htold (by simp [Site.checks]) h⟩

/-- A refused document is told of its first violation. There is a place that is not well-formed,
whereas all places before it in the order of the walk are, and the failure is what is wrong there. It
is an unsupported reference, told with the printed target and the place itself, exactly if the place
is a parameter or a response that is a reference; and an invalid document in all other cases. -/
theorem ofTree_first_violation {document : Tree} {f : Failure}
    (hfail : Api.ofTree document = .error f) :
    ∃ before site after, sites document = before ++ site :: after ∧
      (∀ earlier ∈ before, earlier.WellFormed) ∧ ¬ site.WellFormed ∧
      site.violation? = some f ∧
      ((∃ reference, site.reference? = some reference ∧
          f = .unsupportedReference reference site.location) ∨
        (site.reference? = none ∧ ∃ location fault, f = .invalidDocument location fault)) := by
  have hfirst : firstViolation? (sites document) = some f := by
    rw [← failure?_ofTree, failure?_eq_some_iff, hfail]
  obtain ⟨before, site, after, hsites, hsite, hbefore⟩ := List.findSome?_eq_some_iff.mp hfirst
  refine ⟨before, site, after, hsites, ?_, ?_, hsite, violation?_cases hsite⟩
  · intro earlier hearlier
    exact (violation?_eq_none_iff earlier).mp (hbefore earlier hearlier)
  · rw [← violation?_eq_none_iff, hsite]
    simp

/-- A document in which the responses stand before the parameters and the operation before the
parameters that it shares. -/
def tangledDocument : Tree :=
  .object
    [("info", .object []),
     ("paths", .object
       [("/pets", .object
          [("GET", .object
             [("responses", .object [("404", .object [("$ref", .text "#/missing")])]),
              ("parameters", .list
                [.object [("name", .text "id"), ("in", .text "path")],
                 .object [("$ref", .text "#/limit"), ("in", .null)]]),
              ("tags", .list [.text "Pets"])]),
           ("parameters", .list [.object [("name", .text "trace"), ("in", .text "header")]])]),
        ("/orders", .null)])]

/-- The parameters of the operation are looked at after the shared ones and before the responses. -/
theorem tangledDocument_refused :
    Api.ofTree tangledDocument =
        .error (.unsupportedReference "#/limit" "paths./pets.get.parameters[1]") ∧
      ∃ before site after, sites tangledDocument = before ++ site :: after ∧
        (∀ earlier ∈ before, earlier.WellFormed) ∧ ¬ site.WellFormed ∧
        site.violation? =
          some (.unsupportedReference "#/limit" "paths./pets.get.parameters[1]") := by
  have hfail : Api.ofTree tangledDocument =
      .error (.unsupportedReference "#/limit" "paths./pets.get.parameters[1]") := rfl
  obtain ⟨before, site, after, hsites, hbefore, hsite, hviolation, _⟩ :=
    ofTree_first_violation hfail
  exact ⟨hfail, before, site, after, hsites, hbefore, hsite, hviolation⟩

end Model

end ApiSkeleton
