import ApiSkeleton.Model.Basic
import ApiSkeleton.Proofs.Text.Lowercase
import ApiSkeleton.Text.Identifier

namespace ApiSkeleton.Text

/-- A text that can be declared: it has the form of a name, and it is no reserved word. -/
def IsDeclarable (s : String) : Prop := isName s.toList ∧ s ∉ reservedWords

instance : DecidablePred IsDeclarable := fun _ => inferInstanceAs (Decidable (_ ∧ _))

theorem isName_append {cs : List Char} (hcs : cs ≠ []) (rest : List Char) :
    isName (cs ++ rest) ↔ isName cs ∧ rest.all isNamePart := by
  obtain ⟨c, more, rfl⟩ := List.exists_cons_of_ne_nil hcs
  simp [isName, and_assoc]

theorem mapped_ne_nil {runs : List CaseRun} {expansions : List (Nat × List Nat)}
    (h : ∀ entry ∈ expansions, entry.2 ≠ []) (c : Char) : mapped runs expansions c ≠ [] := by
  unfold mapped
  split
  · rename_i n codes hfound
    simpa using h _ (List.mem_of_find?_eq_some hfound)
  · split <;> simp

theorem lowerChar_ne_nil (c : Char) : lowerChar c ≠ [] := by
  unfold lowerChar
  split
  · simp
  · exact mapped_ne_nil (by decide) c

theorem upperChar_ne_nil (c : Char) : upperChar c ≠ [] := by
  unfold upperChar
  split
  · simp
  · exact mapped_ne_nil (by decide +kernel) c

theorem toNat_lt_of_isAlpha {c : Char} (h : c.isAlpha) : c.toNat < 128 := by
  have hlower : c.isLower ↔ 97 ≤ c.toNat ∧ c.toNat ≤ 122 := by
    simp [Char.isLower, UInt32.le_iff_toNat_le, ← Char.toNat_val]
  rw [Char.isAlpha, Bool.or_eq_true, isUpper_iff, hlower] at h
  omega

/-- The other form of a character that a name can begin with is one as well. -/
theorem isName_otherForm {c : Char} (h : isNameStart c) :
    isName (lowerChar c) ∧ isName (upperChar c) := by
  simp only [isNameStart, Bool.or_eq_true, beq_iff_eq] at h
  rcases h with (halpha | rfl) | rfl
  · have hascii := toNat_lt_of_isAlpha halpha
    simp [lowerChar, upperChar, hascii, isName, isNameStart, halpha]
  · decide
  · decide

private theorem isName_camelCase_iff {s : String} : isName (camelCase s).toList ↔
    ∃ c rest, s.toList = c :: rest ∧ isName (lowerChar c) ∧ rest.all isNamePart := by
  rw [camelCase, String.toList_ofList]
  cases s.toList with
  | nil => simp [camelChars, isName]
  | cons c rest => simp [camelChars, isName_append (lowerChar_ne_nil c)]

/-- What camel case makes of a text can be declared if the text is a name from its second character
on, its first character has a name as its lower-case form, and no reserved word comes of it. -/
theorem isDeclarable_camelCase_iff {s : String} : IsDeclarable (camelCase s) ↔
    (∃ c rest, s.toList = c :: rest ∧ isName (lowerChar c) ∧ rest.all isNamePart) ∧
      camelCase s ∉ reservedWords := by
  rw [IsDeclarable, isName_camelCase_iff]

private theorem reservedWords_avoidCapitals :
    (reservedWords.flatMap String.toList).all (fun c => !c.isUpper) = true := by
  decide +kernel

theorem notMem_reservedWords_of_isUpper {s : String} {c : Char} (hc : c ∈ s.toList)
    (hupper : c.isUpper) : s ∉ reservedWords := by
  intro hword
  have hlower := List.all_eq_true.mp reservedWords_avoidCapitals c
    (List.mem_flatMap.mpr ⟨s, hword, hc⟩)
  simp [hupper] at hlower

/-- The name of a type ends in a word with a capital, so that it is never reserved. -/
theorem isDeclarable_routeType_iff {s : String} : IsDeclarable (pascalCase s ++ "Route") ↔
    s = "" ∨ ∃ c rest, s.toList = c :: rest ∧ isName (upperChar c) ∧ rest.all isNamePart := by
  have hfree : pascalCase s ++ "Route" ∉ reservedWords :=
    notMem_reservedWords_of_isUpper (c := 'R') (by simp) (by decide)
  have hroute : ("Route".toList.all isNamePart) = true := by decide
  have hempty : s = "" ↔ s.toList = [] := by simp
  rw [IsDeclarable, and_iff_left hfree, hempty, String.toList_append, pascalCase,
    String.toList_ofList]
  cases s.toList with
  | nil => simp [pascalChars]; decide
  | cons c rest =>
    rw [pascalChars, List.append_assoc, isName_append (upperChar_ne_nil c), List.all_append, hroute]
    simp

/-- A name stays one, unless it is reserved then. -/
private theorem isDeclarable_of_isName {s : String} (h : isName s.toList) :
    (IsDeclarable (camelCase s) ↔ camelCase s ∉ reservedWords) ∧
      IsDeclarable (pascalCase s ++ "Route") := by
  obtain ⟨c, rest, hs⟩ : ∃ c rest, s.toList = c :: rest := by
    cases hs : s.toList with
    | nil => simp [hs, isName] at h
    | cons c rest => exact ⟨c, rest, rfl⟩
  have hboth : isNameStart c ∧ rest.all isNamePart := by simpa [hs, isName] using h
  obtain ⟨hlower, hupper⟩ := isName_otherForm hboth.1
  rw [isDeclarable_camelCase_iff, isDeclarable_routeType_iff]
  exact ⟨and_iff_right ⟨c, rest, hs, hlower, hboth.2⟩, .inr ⟨c, rest, hs, hupper, hboth.2⟩⟩

end ApiSkeleton.Text

namespace ApiSkeleton.Model

open Text (isName IsDeclarable camelCase pascalCase)

/-- The identifier of an operation that declares none begins with capitals and is a name. -/
private theorem synthesizedId_shape (m : Method) (path : String) :
    ∃ c d rest, (synthesizedId m.name path).toList = c :: d :: rest ∧ d.isUpper ∧
      isName (synthesizedId m.name path).toList := by
  have hparts : ((path.toList.filter Char.isAlphanum).all Text.isNamePart) = true := by
    rw [List.all_eq_true]
    intro c hc
    simp [Text.isNamePart, (List.mem_filter.mp hc).2]
  have hmethod : ∃ c d rest,
      (Text.uppercase m.name).toList.filter Char.isAlphanum = c :: d :: rest ∧
      d.isUpper ∧ isName (c :: d :: rest) := by
    cases m <;> exact ⟨_, _, _, rfl, rfl, rfl⟩
  obtain ⟨c, d, rest, hchars, hupper, hname⟩ := hmethod
  refine ⟨c, d, rest ++ path.toList.filter Char.isAlphanum, ?_, hupper, ?_⟩
  · rw [synthesizedId, String.toList_ofList, List.filter_append, hchars, List.cons_append,
      List.cons_append]
  · rw [synthesizedId, String.toList_ofList, List.filter_append, hchars,
      Text.isName_append (by simp)]
    exact ⟨hname, hparts⟩

theorem isDeclarable_synthesizedId (m : Method) (path : String) :
    IsDeclarable (camelCase (synthesizedId m.name path)) ∧
      IsDeclarable (pascalCase (synthesizedId m.name path) ++ "Route") := by
  obtain ⟨c, d, rest, hchars, hupper, hname⟩ := synthesizedId_shape m path
  have hmem : d ∈ (camelCase (synthesizedId m.name path)).toList := by
    rw [camelCase, String.toList_ofList, hchars, Text.camelChars]
    simp
  obtain ⟨hcamel, hpascal⟩ := Text.isDeclarable_of_isName hname
  exact ⟨hcamel.mpr (Text.notMem_reservedWords_of_isUpper hmem hupper), hpascal⟩

end ApiSkeleton.Model
