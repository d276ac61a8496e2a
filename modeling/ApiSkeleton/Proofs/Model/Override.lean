import ApiSkeleton.Proofs.Members
import ApiSkeleton.Proofs.Model.Acceptance

namespace ApiSkeleton.Model

/-- What parameters are told apart by. -/
def Parameter.key (p : Parameter) : String × Location := (p.name, p.location)

/-- The last parameter with a key. -/
def lastWith (ps : List Parameter) (key : String × Location) : Option Parameter :=
  ps.reverse.find? (·.key = key)

theorem lastWith_concat (ps : List Parameter) (p : Parameter) (key : String × Location) :
    lastWith (ps ++ [p]) key = if p.key = key then some p else lastWith ps key := by
  by_cases hkey : p.key = key <;> simp [lastWith, hkey]

private theorem key_of_lastWith {ps : List Parameter} {key : String × Location} {p : Parameter}
    (h : lastWith ps key = some p) : p.key = key := by
  simpa using List.find?_some h

theorem lastWith_eq_none_iff {ps : List Parameter} {key : String × Location} :
    lastWith ps key = none ↔ key ∉ ps.map (·.key) := by
  simp [lastWith]

variable {p q : Parameter} {ps shared own : List Parameter} {i : Nat}

theorem overrideOne_cons (p q : Parameter) (rest : List Parameter) :
    overrideOne p (q :: rest) = if q.key = p.key then p :: rest else q :: overrideOne p rest := by
  simp [overrideOne, Parameter.key]

private theorem keys_overrideOne (p : Parameter) (ps : List Parameter) :
    (overrideOne p ps).map (·.key) =
      if p.key ∈ ps.map (·.key) then ps.map (·.key) else ps.map (·.key) ++ [p.key] := by
  induction ps with
  | nil => rfl
  | cons q rest ih =>
    rw [overrideOne_cons]
    by_cases hkey : q.key = p.key
    · simp [hkey]
    · by_cases hrest : p.key ∈ rest.map (·.key)
      · simp [hkey, ih, hrest]
      · simp [hkey, ih, hrest, Ne.symm hkey]

/-- The first parameter with the key gives way, and no other changes. -/
private theorem getElem?_overrideOne (h : ps[i]? = some q) :
    (overrideOne p ps)[i]? =
      some (if q.key = p.key ∧ p.key ∉ (ps.take i).map (·.key) then p else q) := by
  induction ps generalizing i with
  | nil => cases h
  | cons first rest ih =>
    rw [overrideOne_cons]
    cases i with
    | zero =>
      cases h
      by_cases hkey : q.key = p.key <;> simp [hkey]
    | succ i =>
      have hrest : rest[i]? = some q := h
      by_cases hkey : first.key = p.key
      · simp [hkey, hrest]
      · simp [hkey, ih hrest, Ne.symm hkey]

private theorem find?_overrideOne (p : Parameter) (ps : List Parameter) (key : String × Location) :
    (overrideOne p ps).find? (·.key = key) =
      if p.key = key then some p else ps.find? (·.key = key) := by
  induction ps with
  | nil => by_cases hp : p.key = key <;> simp [overrideOne, hp]
  | cons q rest ih =>
    rw [overrideOne_cons]
    by_cases hkey : q.key = p.key
    · by_cases hp : p.key = key <;> simp [hkey, hp]
    · rw [if_neg hkey, List.find?_cons, List.find?_cons, ih]
      by_cases hq : q.key = key
      · have hp : p.key ≠ key := fun h => hkey (hq.trans h.symm)
        simp [hq, hp]
      · simp [hq]

theorem override_concat (shared own : List Parameter) (p : Parameter) :
    override shared (own ++ [p]) = overrideOne p (override shared own) := by
  simp [override]

/-- The keys that are declared among the own parameters only, in the order of first occurrence. -/
def newKeys (shared own : List Parameter) : List (String × Location) :=
  (own.map (·.key)).eraseDups.filter (· ∉ shared.map (·.key))

theorem mem_newKeys_iff {key : String × Location} :
    key ∈ newKeys shared own ↔ key ∈ own.map (·.key) ∧ key ∉ shared.map (·.key) := by
  simp [newKeys, List.mem_eraseDups]

theorem nodup_newKeys (shared own : List Parameter) : (newKeys shared own).Nodup :=
  (nodup_eraseDups _).filter _

theorem newKeys_concat (shared own : List Parameter) (p : Parameter) :
    newKeys shared (own ++ [p]) =
      if p.key ∈ shared.map (·.key) ++ newKeys shared own then newKeys shared own
      else newKeys shared own ++ [p.key] := by
  have hlast : [p.key].filter (· ∉ shared.map (·.key)) =
      if p.key ∈ shared.map (·.key) then [] else [p.key] := by
    rw [List.filter_cons, List.filter_nil]
    by_cases hshared : p.key ∈ shared.map (·.key)
    · rw [if_pos hshared, if_neg (by simpa using hshared)]
    · rw [if_neg hshared, if_pos (by simpa using hshared)]
  have hknown : p.key ∈ shared.map (·.key) ++ newKeys shared own ↔
      p.key ∈ shared.map (·.key) ∨ p.key ∈ own.map (·.key) := by
    rw [List.mem_append, mem_newKeys_iff]
    tauto
  have hconcat : newKeys shared (own ++ [p]) =
      if p.key ∈ own.map (·.key) then newKeys shared own
      else newKeys shared own ++ [p.key].filter (· ∉ shared.map (·.key)) := by
    rw [newKeys, List.map_append, List.map_singleton, eraseDups_concat, newKeys]
    by_cases hown : p.key ∈ own.map (·.key)
    · rw [if_pos hown, if_pos hown]
    · rw [if_neg hown, if_neg hown, List.filter_append]
  rw [hconcat, hlast]
  by_cases hown : p.key ∈ own.map (·.key)
  · rw [if_pos hown, if_pos (hknown.mpr (.inr hown))]
  · by_cases hshared : p.key ∈ shared.map (·.key)
    · rw [if_neg hown, if_pos hshared, if_pos (hknown.mpr (.inl hshared)), List.append_nil]
    · rw [if_neg hown, if_neg hshared, if_neg (by tauto)]

theorem keys_override (shared own : List Parameter) :
    (override shared own).map (·.key) = shared.map (·.key) ++ newKeys shared own := by
  induction own using List.reverseRecOn with
  | nil => simp [override, newKeys]
  | append_singleton own p ih =>
    rw [override_concat, keys_overrideOne, ih, newKeys_concat]
    by_cases hknown : p.key ∈ shared.map (·.key) ++ newKeys shared own
    · rw [if_pos hknown, if_pos hknown]
    · rw [if_neg hknown, if_neg hknown, List.append_assoc]

/-- The own parameters count before the shared ones, and of them the last. -/
theorem find?_override (shared own : List Parameter) (key : String × Location) :
    (override shared own).find? (·.key = key) =
      (lastWith own key).or (shared.find? (·.key = key)) := by
  induction own using List.reverseRecOn with
  | nil => rfl
  | append_singleton own p ih =>
    rw [override_concat, find?_overrideOne, ih, lastWith_concat]
    by_cases hkey : p.key = key <;> simp [hkey]

/-- The first shared parameter with a key is replaced by the last own one. -/
private theorem getElem?_override (h : shared[i]? = some p) :
    (override shared own)[i]? =
      some (if p.key ∈ (shared.take i).map (·.key) then p else (lastWith own p.key).getD p) := by
  have hi : i < shared.length := (List.getElem?_eq_some_iff.mp h).1
  induction own using List.reverseRecOn with
  | nil => simpa [override, lastWith] using h
  | append_singleton own last ih =>
    have hbefore : ((override shared own).take i).map (·.key) = (shared.take i).map (·.key) := by
      rw [List.map_take, keys_override, List.take_append_of_le_length (by simp; omega),
        List.map_take]
    rw [override_concat, getElem?_overrideOne ih, hbefore, lastWith_concat]
    by_cases hseen : p.key ∈ (shared.take i).map (·.key)
    · have hother : ¬ (p.key = last.key ∧ last.key ∉ (shared.take i).map (·.key)) := by
        rintro ⟨hkey, hfree⟩
        exact hfree (hkey ▸ hseen)
      simp only [hseen, if_true, if_neg hother]
    · have hkey : ((lastWith own p.key).getD p).key = p.key := by
        cases hlast : lastWith own p.key with
        | none => rfl
        | some found => exact key_of_lastWith hlast
      simp only [hseen, if_false, hkey]
      by_cases hlast : last.key = p.key
      · rw [if_pos ⟨hlast.symm, hlast ▸ hseen⟩, if_pos hlast, Option.getD_some]
      · rw [if_neg fun h => hlast h.1.symm, if_neg hlast]

/-- After the shared parameters there is one for each new key. -/
private theorem drop_override (shared own : List Parameter) :
    (override shared own).drop shared.length = (newKeys shared own).filterMap (lastWith own) := by
  have hkeys := keys_override shared own
  have hfirst : ((override shared own).take shared.length).map (·.key) = shared.map (·.key) := by
    rw [List.map_take, hkeys, List.take_left' (by simp)]
  have hothers : ((override shared own).drop shared.length).map (·.key) = newKeys shared own := by
    rw [List.map_drop, hkeys, List.drop_left' (by simp)]
  -- Each of them is the first with its key, and so the last own one.
  have hlast : ∀ q ∈ (override shared own).drop shared.length, lastWith own q.key = some q := by
    intro q hq
    obtain ⟨before, after, hsplit⟩ := List.append_of_mem hq
    have hnew : q.key ∈ newKeys shared own := hothers ▸ List.mem_map_of_mem hq
    have hfree := (mem_newKeys_iff.mp hnew).2
    have hnodup := nodup_newKeys shared own
    rw [← hothers, hsplit, List.map_append, List.map_cons, List.nodup_append] at hnodup
    have hfound : (override shared own).find? (·.key = q.key) = some q := by
      rw [List.find?_eq_some_iff_append]
      refine ⟨by simp, (override shared own).take shared.length ++ before, after, ?_, ?_⟩
      · rw [List.append_assoc, ← hsplit, List.take_append_drop]
      · intro other hother
        rcases List.mem_append.mp hother with hother | hother
        · have hkey : other.key ∈ shared.map (·.key) := hfirst ▸ List.mem_map_of_mem hother
          have hne : other.key ≠ q.key := fun h => hfree (h ▸ hkey)
          simpa using hne
        · have hne := hnodup.2.2 other.key (List.mem_map_of_mem hother) q.key
            (List.mem_cons_self ..)
          simpa using hne
    have hnone : shared.find? (·.key = q.key) = none := by simpa using hfree
    rwa [find?_override, hnone, Option.or_none] at hfound
  have hsame : ((override shared own).drop shared.length).filterMap (lastWith own ∘ (·.key)) =
      ((override shared own).drop shared.length).filterMap some := List.filterMap_congr hlast
  rw [← hothers, List.filterMap_map, hsame, List.filterMap_some]

/-- How the shared and the own parameters make those of an endpoint. -/
structure Overrides (shared own merged : List Parameter) : Prop where
  /-- In the place of a shared parameter stands the last own one with its key, unless the key has
  occurred before or is not declared again. -/
  inPlace : ∀ (i : Nat) (p : Parameter), shared[i]? = some p → merged[i]? =
    some (if p.key ∈ (shared.take i).map (·.key) then p else (lastWith own p.key).getD p)
  /-- After them there is one for each key that occurs among the own ones only. -/
  added : merged.drop shared.length =
    ((own.map (·.key)).eraseDups.filter (· ∉ shared.map (·.key))).filterMap (lastWith own)
  /-- Who looks for an own parameter finds it, the last one where there are several. -/
  effective : ∀ p ∈ own, ∃ last, lastWith own p.key = some last ∧
    merged.find? (·.key = p.key) = some last
  /-- What is shared and not declared again stays where it is. -/
  kept : ∀ (i : Nat) (p : Parameter), shared[i]? = some p → p.key ∉ own.map (·.key) → merged[i]? = some p
  distinct : (shared.map (·.key)).Nodup → (merged.map (·.key)).Nodup

theorem overrides_override (shared own : List Parameter) :
    Overrides shared own (override shared own) := by
  constructor
  case inPlace => exact fun i p h => getElem?_override h
  case added => exact drop_override shared own
  case effective =>
    intro p hp
    have hsome : lastWith own p.key ≠ none := by
      rw [ne_eq, lastWith_eq_none_iff, not_not]
      exact List.mem_map_of_mem hp
    obtain ⟨last, hlast⟩ := Option.ne_none_iff_exists'.mp hsome
    exact ⟨last, hlast, by rw [find?_override, hlast, Option.some_or]⟩
  case kept =>
    intro i p h hnew
    rw [getElem?_override h, lastWith_eq_none_iff.mpr hnew, Option.getD_none, ite_self]
  case distinct =>
    intro hshared
    rw [keys_override, List.nodup_append]
    refine ⟨hshared, nodup_newKeys shared own, ?_⟩
    rintro key hkey other hother rfl
    exact (mem_newKeys_iff.mp hother).2 hkey

/-- The entries of a list of parameters, less those that a cookie carries. -/
def keptEntries (list : Option Tree) : List Tree :=
  (itemsOf list).filter fun entry => entry.member? "in" ≠ some (.text "cookie")

/-- A parameter as its entry declares it. Without a truth value that says so, only what the path
carries is required. -/
structure DeclaresParameter (entry : Tree) (p : Parameter) : Prop where
  name : entry.member? "name" = some (.text p.name)
  location : entry.member? "in" = some (.text p.location.name)
  schema : entry.member? "schema" = p.schema
  required : ∀ b, entry.member? "required" = some (.bool b) → p.required = b
  default : (∀ b, entry.member? "required" ≠ some (.bool b)) →
    (p.required = true ↔ p.location = .path)

private theorem name_of_ofName? {place : String} {location : Location}
    (h : Location.ofName? place = some location) : place = location.name := by
  unfold Location.ofName? at h
  split at h <;> cases h <;> rfl

/-- An entry is passed over if a cookie carries it, and is otherwise read as it says. -/
theorem parameterOf_outcome {location : String} {entry : Tree} {found : Option Parameter}
    (h : parameterOf location entry = .ok found) :
    (entry.member? "in" = some (.text "cookie") ∧ found = none) ∨
      entry.member? "in" ≠ some (.text "cookie") ∧ ∃ p, found = some p ∧ DeclaresParameter entry p := by
  unfold parameterOf at h
  split at h
  · cases h
  · split at h
    case h_2 => cases h
    case h_1 members _ =>
      split at h
      case h_2 => cases h
      case h_1 name hname =>
        split at h
        case h_2 => cases h
        case h_1 place hplace =>
          split at h
          case h_1 carried hcarried =>
            cases h
            have hin : findMember? members "in" = some (.text carried.name) := by
              rw [← name_of_ofName? hcarried, hplace]
            have hkept : carried.name ≠ "cookie" := by cases carried <;> simp [Location.name]
            refine .inr ⟨by simpa [Tree.member?, hin] using hkept, _, rfl, ?_⟩
            constructor
            case name => exact hname
            case location => exact hin
            case schema => rfl
            case required =>
              intro b hb
              have hb : findMember? members "required" = some (.bool b) := hb
              simp [hb, Tree.asBool?]
            case default =>
              intro hnone
              have hflag : (findMember? members "required").bind Tree.asBool? = none :=
                bind_asBool?_eq_none hnone
              simp [hflag]
          case h_2 =>
            split at h
            case isTrue hcookie =>
              cases h
              exact .inl ⟨by simpa [Tree.member?, hplace] using hcookie, rfl⟩
            case isFalse => cases h

theorem parametersFrom_declared {location : String} {index : Nat} {entries : List Tree}
    {ps : List Parameter} (h : parametersFrom location index entries = .ok ps) :
    List.Forall₂ DeclaresParameter
      (entries.filter fun entry => entry.member? "in" ≠ some (.text "cookie")) ps := by
  induction entries generalizing index ps with
  | nil =>
    cases h
    exact .nil
  | cons entry rest ih =>
    simp only [parametersFrom, bind_eq_ok_iff, pure_eq_ok, Except.ok.injEq] at h
    obtain ⟨first, hfirst, others, hothers, rfl⟩ := h
    rcases parameterOf_outcome hfirst with ⟨hcookie, rfl⟩ | ⟨hkept, p, rfl, hp⟩
    · rw [List.filter_cons_of_neg (by simpa using hcookie)]
      exact ih hothers
    · rw [List.filter_cons_of_pos (by simpa using hkept)]
      exact .cons hp (ih hothers)

theorem parametersOf_declared {location : String} {list : Option Tree} {ps : List Parameter}
    (h : parametersOf location list = .ok ps) :
    List.Forall₂ DeclaresParameter (keptEntries list) ps := by
  unfold parametersOf at h
  split at h
  · cases h
    exact .nil
  · cases h
    exact .nil
  · exact parametersFrom_declared h
  · cases h

/-- The endpoints of a path item: the same parameters are shared by all its operations, and each
operation's own ones take effect. -/
def ItemOverrides (item : String × Tree) (es : List Endpoint) : Prop :=
  ∃ shared, List.Forall₂ DeclaresParameter (keptEntries (item.2.member? "parameters")) shared ∧
    List.Forall₂ (fun d e => d.Names e ∧ ∃ own,
        List.Forall₂ DeclaresParameter (keptEntries (d.operation.member? "parameters")) own ∧
        Overrides shared own e.parameters)
      (declarationsIn item.1 item.2) es

theorem itemOverrides {item : String × Tree} {es : List Endpoint} (h : ItemMakes item es) :
    ItemOverrides item es := by
  obtain ⟨shared, hshared, hes⟩ := h
  refine ⟨shared, parametersOf_declared hshared, hes.imp ?_⟩
  rintro d e ⟨method, hkey, he⟩
  obtain ⟨_, own, hown, hmerged⟩ := (operationOf_parts he).parameters
  exact ⟨operationOf_names hkey he, own, parametersOf_declared hown,
    hmerged ▸ overrides_override shared own⟩

/-- The parameters of all endpoints of an accepted document, path item by path item: the shared ones
in their places, where the last own one with the name and location of the first of them has taken its
place, and after them the last own one for each other name and location. -/
theorem parameters_overridden {document : Tree} {api : Api} (h : Api.ofTree document = .ok api) :
    ∃ blocks : List (List Endpoint), api.endpoints = blocks.flatten ∧
      List.Forall₂ ItemOverrides (pathItems document) blocks := by
  obtain ⟨blocks, hendpoints, hblocks⟩ := ofTree_makes h
  exact ⟨blocks, hendpoints, hblocks.imp fun _ _ => itemOverrides⟩

/-- A path item that shares one parameter twice and one that a cookie carries. Its first operation
declares the former twice more, and another parameter twice. -/
def crowdedDocument : Tree :=
  let parameter (name place : String) (more : List (String × Tree)) : Tree :=
    .object ([("name", .text name), ("in", .text place)] ++ more)
  .object
    [("info", .object []),
     ("paths", .object
       [("/pets/{id}", .object
          [("parameters", .list
             [parameter "trace" "header" [], parameter "id" "path" [],
              parameter "session" "cookie" [], parameter "id" "path" [("required", .text "no")]]),
           ("get", .object
             [("parameters", .list
                [parameter "limit" "query" [],
                 parameter "id" "path" [("required", .bool true)],
                 parameter "id" "path" [("required", .bool false)],
                 parameter "id" "query" [("required", .null)],
                 parameter "limit" "query" [("required", .bool true)]])]),
           ("delete", .object [])])])]

theorem crowdedDocument_overridden : ∃ api, Api.ofTree crowdedDocument = .ok api ∧
    (∃ blocks : List (List Endpoint), api.endpoints = blocks.flatten ∧
      List.Forall₂ ItemOverrides (pathItems crowdedDocument) blocks) ∧
    api.endpoints.map (fun e => e.parameters.map fun p => (p.name, p.location, p.required)) =
      [[("trace", .header, false), ("id", .path, false), ("id", .path, true),
        ("limit", .query, true), ("id", .query, false)],
       [("trace", .header, false), ("id", .path, true), ("id", .path, true)]] :=
  ⟨_, rfl, parameters_overridden rfl, by decide⟩

end ApiSkeleton.Model
