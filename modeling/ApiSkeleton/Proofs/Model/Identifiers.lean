import ApiSkeleton.Proofs.Members
import ApiSkeleton.Proofs.Model.Acceptance
import ApiSkeleton.Proofs.Text.Name

namespace ApiSkeleton

section

variable {α : Type} {word : α → String}

/-- No word is the beginning of another one. -/
def PrefixFree (word : α → String) : Prop := ∀ a b, (word a).toList <+: (word b).toList → a = b

/-- Words of which none begins another one can be told from what follows them. -/
theorem PrefixFree.append_eq_iff (h : PrefixFree word) {a b : α} {s t : String} :
    word a ++ s = word b ++ t ↔ a = b ∧ s = t := by
  constructor
  · intro hsame
    have hchars : (word b).toList ++ t.toList = (word a).toList ++ s.toList := by
      rw [← String.toList_append, ← String.toList_append, hsame]
    have hword : a = b := by
      have ha : (word a).toList <+: (word a).toList ++ s.toList := List.prefix_append ..
      have hb : (word b).toList <+: (word a).toList ++ s.toList := ⟨_, hchars⟩
      rcases List.prefix_or_prefix_of_prefix ha hb with hfirst | hfirst
      · exact h a b hfirst
      · exact (h b a hfirst).symm
    rw [hword, String.append_right_inj] at hsame
    exact ⟨hword, hsame⟩
  · rintro ⟨rfl, rfl⟩
    rfl

end

namespace Text

theorem camelCase_append {s : String} (hs : s ≠ "") (t : String) :
    camelCase (s ++ t) = camelCase s ++ t := by
  obtain ⟨c, rest, hchars⟩ := List.exists_cons_of_ne_nil (mt String.toList_eq_nil_iff.mp hs)
  rw [← String.toList_inj]
  simp [camelCase, hchars, camelChars]

theorem pascalCase_append {s : String} (hs : s ≠ "") (t : String) :
    pascalCase (s ++ t) = pascalCase s ++ t := by
  obtain ⟨c, rest, hchars⟩ := List.exists_cons_of_ne_nil (mt String.toList_eq_nil_iff.mp hs)
  rw [← String.toList_inj]
  simp [pascalCase, hchars, pascalChars]

end Text

namespace Model

open Text (IsDeclarable camelCase pascalCase)

private theorem Method.name_ne_empty (m : Method) : m.name ≠ "" := by
  cases m <;> decide

private theorem Method.prefixFree_name : PrefixFree Method.name := by
  intro a b
  cases a <;> cases b <;> decide

private theorem Method.prefixFree_camelCase : PrefixFree fun m : Method => camelCase m.name := by
  intro a b
  cases a <;> cases b <;> decide

private theorem Method.pascalCase_name (m : Method) : pascalCase m.name = m.name := by
  cases m <;> rfl

/-- The ASCII letters and digits of a text, in order. -/
def lettersAndDigits (s : String) : String := String.ofList (s.toList.filter Char.isAlphanum)

theorem synthesizedId_eq (m : Method) (path : String) :
    synthesizedId m.name path = m.name ++ lettersAndDigits path := by
  have hmethod : (Text.uppercase m.name).toList.filter Char.isAlphanum = m.name.toList := by
    cases m <;> rfl
  rw [← String.toList_inj]
  simp [synthesizedId, lettersAndDigits, List.filter_append, hmethod]

/-- An operation that declares no text as its identifier. -/
def Declaration.IsUnnamed (d : Declaration) : Prop :=
  ∀ id, d.operation.member? "operationId" ≠ some (.text id)

/-- The identifier of an endpoint consists of its method and the letters and digits of its path. -/
def Endpoint.IsNamedByPath (e : Endpoint) : Prop :=
  e.operationId = e.method.name ++ lettersAndDigits e.path

instance : DecidablePred Endpoint.IsNamedByPath := fun _ => inferInstanceAs (Decidable (_ = _))

theorem isNamedByPath_of_makes {shared : List Parameter} {d : Declaration} {e : Endpoint}
    (h : d.Makes shared e) (hd : d.IsUnnamed) : e.IsNamedByPath := by
  obtain ⟨method, _, he⟩ := h
  have hparts := operationOf_parts he
  rw [Endpoint.IsNamedByPath, hparts.id, bind_asText?_eq_none hd, Option.getD_none, hparts.method,
    hparts.path, synthesizedId_eq]

/-- When two endpoints have the same identifier, and that the names made of it differ as it does. -/
structure Endpoint.ToldApart (e other : Endpoint) : Prop where
  ids : e.operationId = other.operationId ↔
    e.method = other.method ∧ lettersAndDigits e.path = lettersAndDigits other.path
  constants : camelCase e.operationId = camelCase other.operationId ↔
    e.operationId = other.operationId
  types : pascalCase e.operationId = pascalCase other.operationId ↔
    e.operationId = other.operationId

theorem toldApart {e other : Endpoint} (he : e.IsNamedByPath) (hother : other.IsNamedByPath) :
    e.ToldApart other := by
  have hids : e.operationId = other.operationId ↔
      e.method = other.method ∧ lettersAndDigits e.path = lettersAndDigits other.path := by
    rw [he, hother, Method.prefixFree_name.append_eq_iff]
  constructor
  case ids => exact hids
  case constants =>
    rw [hids, he, hother, Text.camelCase_append e.method.name_ne_empty,
      Text.camelCase_append other.method.name_ne_empty]
    exact Method.prefixFree_camelCase.append_eq_iff
  case types =>
    have hsame {f : Endpoint} (hf : f.IsNamedByPath) :
        pascalCase f.operationId = f.operationId := by
      rw [hf, Text.pascalCase_append f.method.name_ne_empty, f.method.pascalCase_name]
    rw [hsame he, hsame hother]

private theorem isDeclarable_of_isNamedByPath {e : Endpoint} (he : e.IsNamedByPath) :
    IsDeclarable (camelCase e.operationId) := by
  rw [he, ← synthesizedId_eq]
  exact (isDeclarable_synthesizedId e.method e.path).1

/-- Every operation of a document has an endpoint under its method and its path, whose identifier,
if the operation declares no text for it, is the method in capitals with the letters and digits of
the path behind it. Such an identifier can be declared in camel case. Of any two of them, whatever their
methods and paths are, each tells the method and those letters and digits, and so do the names that
are made of them in camel case and in Pascal case. -/
theorem synthesized_ids_told_apart {document : Tree} {api : Api}
    (h : Api.ofTree document = .ok api) :
    List.Forall₂ (fun d e => d.Names e ∧ (d.IsUnnamed → e.IsNamedByPath))
      (declarations document) api.endpoints ∧
    (∀ e : Endpoint, e.IsNamedByPath → IsDeclarable (camelCase e.operationId)) ∧
    ∀ e other : Endpoint, e.IsNamedByPath → other.IsNamedByPath → e.ToldApart other := by
  refine ⟨ofTree_forall₂ (fun shared d e hmakes => ⟨?_, isNamedByPath_of_makes hmakes⟩) h,
    fun e => isDeclarable_of_isNamedByPath, fun e other => toldApart⟩
  obtain ⟨method, hkey, he⟩ := hmakes
  exact operationOf_names hkey he

/-- Two paths that differ in their punctuation only, below which operations are declared without a
text for an identifier, and a path that reads like a method. -/
def unnamedDocument : Tree :=
  .object
    [("info", .object []),
     ("paths", .object
       [("/pets/\x7bid\x7d", .object
          [("get", .object [("operationId", .int 7)]), ("Trace", .object [])]),
        ("/p.e.t.s/-id-", .object [("get", .object [("operationId", .null)])]),
        ("/T/é/RACE", .object
          [("head", .object []), ("put", .object [("operationId", .text "x")])])])]

/-- The endpoint of an operation that declares nothing but an identifier. -/
def bareEndpoint (path : String) (method : Method) (operationId : String) : Endpoint :=
  ⟨path, method, operationId, [defaultTag], [], none, []⟩

theorem unnamedDocument_told_apart : ∃ api, Api.ofTree unnamedDocument = .ok api ∧
    List.Forall₂ (fun d e => d.Names e ∧ (d.IsUnnamed → e.IsNamedByPath))
      (declarations unnamedDocument) api.endpoints ∧
    ∃ one dotted, api.endpoints = [one, bareEndpoint "/pets/\x7bid\x7d" .trace "TRACEpetsid",
        dotted, bareEndpoint "/T/é/RACE" .head "HEADTRACE", bareEndpoint "/T/é/RACE" .put "x"] ∧
      one.path ≠ dotted.path ∧ one.IsNamedByPath ∧ dotted.IsNamedByPath ∧ one.ToldApart dotted ∧
      camelCase one.operationId = "gETpetsid" ∧ IsDeclarable (camelCase one.operationId) := by
  let one := bareEndpoint "/pets/\x7bid\x7d" .get "GETpetsid"
  let dotted := bareEndpoint "/p.e.t.s/-id-" .get "GETpetsid"
  let api : Api := ⟨[one, bareEndpoint "/pets/\x7bid\x7d" .trace "TRACEpetsid", dotted,
    bareEndpoint "/T/é/RACE" .head "HEADTRACE", bareEndpoint "/T/é/RACE" .put "x"], [],
    ⟨"", "", none⟩⟩
  have hapi : Api.ofTree unnamedDocument = .ok api := toOption_eq_some_iff.mp (by decide +kernel)
  have hone : one.IsNamedByPath := by decide
  have hdotted : dotted.IsNamedByPath := by decide
  obtain ⟨hendpoints, hdeclarable, happart⟩ := synthesized_ids_told_apart hapi
  exact ⟨api, hapi, hendpoints, one, dotted, rfl, by decide, hone, hdotted,
    happart one dotted hone hdotted, by decide, hdeclarable one hone⟩

end Model

end ApiSkeleton
