import ApiSkeleton.Proofs.Emit.Text

namespace ApiSkeleton.Emit

open Template (Value applyFunction)

/-- The types of a schema as far as a validator looks at them. -/
inductive Skeleton where
  | string
  | number
  | integer
  | boolean
  | array (items : Skeleton)
  | unknown
deriving DecidableEq, Inhabited

theorem sizeOf_lt_of_member? {t s : Tree} {key : String} (h : t.member? key = some s) :
    sizeOf s < sizeOf t := by
  cases t with
  | object members =>
    have hmember := List.sizeOf_lt_of_mem (mem_of_findMember? h)
    simp only [Prod.mk.sizeOf_spec] at hmember
    simp only [Tree.object.sizeOf_spec]
    omega
  | _ => cases h

/-- The skeleton of a schema, by the text under `type`. For a list it goes on under `items`. -/
def skeleton (t : Tree) : Skeleton :=
  match (t.member? "type").bind Tree.asText? with
  | some "string" => .string
  | some "number" => .number
  | some "integer" => .integer
  | some "boolean" => .boolean
  | some "array" =>
    match hitems : t.member? "items" with
    | some items =>
      have := sizeOf_lt_of_member? hitems
      .array (skeleton items)
    | none => .array .unknown
  | _ => .unknown
termination_by sizeOf t

namespace Skeleton

/-- How many lists lie inside each other. -/
def depth : Skeleton → Nat
  | .array items => items.depth + 1
  | _ => 0

/-- The validator of the values with a skeleton. -/
def text : Skeleton → String
  | .string => "z.string()"
  | .number => "z.number()"
  | .integer => "z.number().int()"
  | .boolean => "z.boolean()"
  | .array items => "z.array(" ++ items.text ++ ")"
  | .unknown => "z.unknown()"

end Skeleton

private theorem itemValidator_eq (members : List (String × Tree)) :
    itemValidator members = validatorText (findMember? members "items") := by
  induction members with
  | nil => rfl
  | cons entry rest ih =>
    obtain ⟨key, t⟩ := entry
    rw [itemValidator, findMember?, ih]
    split <;> rfl

/-- A validator is chosen by the text under `type`. -/
theorem validator_eq (t : Tree) : validator t =
    match (t.member? "type").bind Tree.asText? with
    | some "string" => "z.string()"
    | some "number" => "z.number()"
    | some "integer" => "z.number().int()"
    | some "boolean" => "z.boolean()"
    | some "array" => "z.array(" ++ validatorText (t.member? "items") ++ ")"
    | _ => unknownValidator := by
  cases t with
  | object members =>
    rw [validator, itemValidator_eq]
    simp only [Tree.member?]
    cases findMember? members "type" with
    | none => rfl
    | some type =>
      cases type with
      | text word =>
        simp only [Option.bind_some, Tree.asText?]
        split <;> simp_all
      | _ => rfl
  | _ => rfl

/-- A validator shows the skeleton of its schema. -/
private theorem validator_eq_text (t : Tree) : validator t = (skeleton t).text := by
  fun_induction skeleton t with
  | case1 t htype | case2 t htype | case3 t htype | case4 t htype =>
    rw [validator_eq, htype]
    rfl
  | case5 t htype items hitems _ ih =>
    rw [validator_eq, htype, hitems, Skeleton.text, ← ih]
    rfl
  | case6 t htype hitems =>
    rw [validator_eq, htype, hitems]
    rfl
  | case7 t =>
    rw [validator_eq]
    split
    case h_6 => rfl
    all_goals contradiction

/-- The call that makes a validator of whole numbers out of one of numbers. -/
def wholeNumbers : List Char := ".int()".toList

/-- A skeleton can be read off a text that begins with it: the letter behind the first point tells
which it is, but for numbers and whole numbers, where this is told by what follows. -/
theorem Skeleton.text_append_inj {s t : Skeleton} {after rest : List Char}
    (hafter : ¬ wholeNumbers <+: after) (hrest : ¬ wholeNumbers <+: rest)
    (hsame : s.text.toList ++ after = t.text.toList ++ rest) : s = t ∧ after = rest := by
  induction s generalizing t after rest with
  | array items ih =>
    have hclosing (cs : List Char) : ¬ wholeNumbers <+: ')' :: cs := by simp [wholeNumbers]
    cases t with
    | array other =>
      have hitems : items.text.toList ++ ')' :: after = other.text.toList ++ ')' :: rest := by
        simpa [text] using hsame
      obtain ⟨rfl, hbehind⟩ := ih (hclosing after) (hclosing rest) hitems
      exact ⟨rfl, (List.cons.inj hbehind).2⟩
    | _ => simp [text] at hsame
  | number =>
    cases t with
    | number => exact ⟨rfl, List.append_cancel_left hsame⟩
    | integer =>
      have hwhole : after = wholeNumbers ++ rest := by simpa [text, wholeNumbers] using hsame
      exact absurd ⟨rest, hwhole.symm⟩ hafter
    | _ => simp [text] at hsame
  | integer =>
    cases t with
    | integer => exact ⟨rfl, List.append_cancel_left hsame⟩
    | number =>
      have hwhole : wholeNumbers ++ after = rest := by simpa [text, wholeNumbers] using hsame
      exact absurd ⟨after, hwhole⟩ hrest
    | _ => simp [text] at hsame
  | _ => cases t <;> simp_all [text]

/-- How many parentheses are open after some characters, if a number of them were before; none if
one is closed that was not open. -/
def openAfter? (count : Nat) : List Char → Option Nat
  | [] => some count
  | c :: rest =>
    if c = '(' then openAfter? (count + 1) rest
    else if c = ')' then
      match count with
      | 0 => none
      | more + 1 => openAfter? more rest
    else openAfter? count rest

/-- Every parenthesis that is opened is closed, and none besides. -/
def Balanced (s : String) : Prop := openAfter? 0 s.toList = some 0

theorem openAfter?_append (count : Nat) (cs ds : List Char) :
    openAfter? count (cs ++ ds) = (openAfter? count cs).bind fun n => openAfter? n ds := by
  induction cs generalizing count with
  | nil => rfl
  | cons c rest ih =>
    simp only [List.cons_append, openAfter?]
    split
    · exact ih (count + 1)
    · split
      · cases count with
        | zero => rfl
        | succ more => exact ih more
      · exact ih count

/-- Whatever is open before a skeleton is open behind it. -/
private theorem Skeleton.openAfter?_text (s : Skeleton) (count : Nat) :
    openAfter? count s.text.toList = some count := by
  induction s generalizing count with
  | array items ih =>
    have hopening : openAfter? count "z.array(".toList = some (count + 1) := rfl
    rw [text, String.toList_append, String.toList_append, openAfter?_append, openAfter?_append,
      hopening, Option.bind_some, ih, Option.bind_some]
    rfl
  | _ => rfl

/-- How often a word stands in some characters. -/
def occurrences (word : List Char) : List Char → Nat
  | [] => 0
  | c :: rest => occurrences word rest + if word.isPrefixOf (c :: rest) then 1 else 0

/-- What the validator of a list begins with. -/
def listOpening : List Char := ['z', '.', 'a', 'r', 'r', 'a', 'y', '(']

/-- A skeleton opens one list for each level. -/
private theorem Skeleton.occurrences_text (s : Skeleton) (after : List Char) :
    occurrences listOpening (s.text.toList ++ after) =
      occurrences listOpening after + s.depth := by
  induction s generalizing after with
  | array items ih =>
    have hopening (more : List Char) :
        occurrences listOpening (listOpening ++ more) = occurrences listOpening more + 1 := rfl
    have hclosing : occurrences listOpening (')' :: after) = occurrences listOpening after := rfl
    have htext : (Skeleton.array items).text.toList ++ after =
        listOpening ++ (items.text.toList ++ ')' :: after) := by
      simp [text, listOpening]
    rw [htext, hopening, ih, hclosing, depth, Nat.add_assoc]
  | _ => rfl

/-- The validator of a member, which says so if the member may be missing. -/
def memberValidator (schema : Tree) (required : Bool) : String :=
  validator schema ++ if required then "" else ".optional()"

private theorem parameterText_of_schema {p : Model.Parameter} {schema : Tree}
    (h : p.schema = some schema) (key : String → String) :
    parameterText key p =
      "      " ++ key p.name ++ ": " ++ memberValidator schema p.required ++ ",\n" := by
  rw [parameterText, h, memberValidator]
  simp only [validatorText, Option.map_some, Option.getD_some, String.append_assoc]

/-- What stands behind the validator of a member. -/
def optionalMark (required : Bool) : List Char := if required then [] else ".optional()".toList

theorem toList_memberValidator (schema : Tree) (required : Bool) :
    (memberValidator schema required).toList =
      (skeleton schema).text.toList ++ optionalMark required := by
  rw [memberValidator, validator_eq_text, String.toList_append]
  cases required <;> rfl

theorem memberValidator_eq_iff {s t : Tree} {a b : Bool} :
    memberValidator s a = memberValidator t b ↔ skeleton s = skeleton t ∧ a = b := by
  have hmark (required : Bool) : ¬ wholeNumbers <+: optionalMark required := by
    cases required <;> decide
  have hmarks : optionalMark a = optionalMark b → a = b := by
    cases a <;> cases b <;> simp [optionalMark]
  rw [← String.toList_inj, toList_memberValidator, toList_memberValidator]
  constructor
  · intro hsame
    obtain ⟨hskeleton, hbehind⟩ := Skeleton.text_append_inj (hmark a) (hmark b) hsame
    exact ⟨hskeleton, hmarks hbehind⟩
  · rintro ⟨hskeleton, rfl⟩
    rw [hskeleton]

private theorem balanced_memberValidator (schema : Tree) (required : Bool) :
    Balanced (memberValidator schema required) := by
  rw [Balanced, toList_memberValidator, openAfter?_append, Skeleton.openAfter?_text]
  cases required <;> rfl

private theorem occurrences_memberValidator (schema : Tree) (required : Bool) :
    occurrences listOpening (memberValidator schema required).toList = (skeleton schema).depth := by
  rw [toList_memberValidator, Skeleton.occurrences_text]
  cases required <;> simp [optionalMark, occurrences, listOpening]

/-- In a template a schema has the validator that it has by itself. -/
private theorem applyFunction_validator {t : Tree} (h : t.WellFormed) :
    applyFunction "validator" ⟨[Value.ofTree t], []⟩ = .ok (.text (validator t)) :=
  @validatorOf_optionalTree (some t) fun _ hs => Option.some.inj hs ▸ h

/-- Two validators are one exactly if the skeletons of their schemas are, and both members are
required or neither is. Parentheses are balanced, and a list is opened for each level of the
skeleton. Routes show this validator of a parameter with a schema. A template gets the validator
that the schema has by itself, and that of anything at all where there is no schema. -/
theorem validators_show_skeletons :
    (∀ s t a b, memberValidator s a = memberValidator t b ↔ skeleton s = skeleton t ∧ a = b) ∧
    (∀ t required, Balanced (memberValidator t required) ∧
      occurrences "z.array(".toList (memberValidator t required).toList = (skeleton t).depth) ∧
    (∀ (key : String → String) (p : Model.Parameter) schema, p.schema = some schema →
      parameterText key p =
        "      " ++ key p.name ++ ": " ++ memberValidator schema p.required ++ ",\n") ∧
    (∀ t : Tree, t.WellFormed →
      applyFunction "validator" ⟨[Value.ofTree t], []⟩ = .ok (.text (validator t))) ∧
    applyFunction "validator" ⟨[.undefined], []⟩ = .ok (.text "z.unknown()") :=
  ⟨fun _ _ _ _ => memberValidator_eq_iff,
    fun t required => ⟨balanced_memberValidator t required, occurrences_memberValidator t required⟩,
    fun key _ _ hschema => parameterText_of_schema hschema key,
    fun _ => applyFunction_validator, rfl⟩

/-- The schema of lists of lists, whose members come in an unusual order. -/
def matrix (entry : Tree) : Tree :=
  .object
    [("items", .object [("items", .object [("format", .null), ("type", entry)]),
       ("type", .text "array")]),
     ("type", .text "array")]

/-- Whole numbers are told from numbers at any depth. -/
theorem matrix_validated :
    (matrix (.text "integer")).WellFormed ∧
    skeleton (matrix (.text "integer")) = .array (.array .integer) ∧
    memberValidator (matrix (.text "integer")) true ≠ memberValidator (matrix (.text "number")) true ∧
    Balanced "z.array(z.array(z.number().int())).optional()" ∧
    applyFunction "validator" ⟨[Value.ofTree (matrix (.text "integer"))], []⟩ =
      .ok (.text "z.array(z.array(z.number().int()))") := by
  obtain ⟨hsame, hshape, -, htemplate, -⟩ := validators_show_skeletons
  have hmatrix : (matrix (.text "integer")).WellFormed := by
    simp [matrix, Tree.wellFormed_object_iff, Tree.WellFormed.text, Tree.WellFormed.null]
  have hwhole : skeleton (matrix (.text "integer")) = .array (.array .integer) := by
    simp [skeleton, matrix, Tree.member?, findMember?, Tree.asText?]
  have hnumber : skeleton (matrix (.text "number")) = .array (.array .number) := by
    simp [skeleton, matrix, Tree.member?, findMember?, Tree.asText?]
  refine ⟨hmatrix, hwhole, fun hone => ?_, (hshape (matrix (.text "integer")) false).1,
    htemplate _ hmatrix⟩
  have hskeleton := ((hsame _ _ _ _).mp hone).1
  rw [hwhole, hnumber] at hskeleton
  cases hskeleton

end ApiSkeleton.Emit
