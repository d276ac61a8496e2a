import ApiSkeleton.Proofs.Text.Identifier

namespace ApiSkeleton.Text

variable {cs : List Char}

private theorem isNamePart_replaced (c : Char) : isNamePart (if isNamePart c then c else '_') := by
  by_cases hpart : isNamePart c
  · rwa [if_pos hpart]
  · rw [if_neg hpart]
    decide

/-- Whatever the characters are, a name is made of them. -/
private theorem isName_nameChars (cs : List Char) : isName (nameChars cs) := by
  have hparts : ∀ c ∈ cs.map fun c => if isNamePart c then c else '_', isNamePart c := by
    intro c hc
    obtain ⟨d, -, rfl⟩ := List.mem_map.mp hc
    exact isNamePart_replaced d
  have hform := nameForm cs
  generalize nameChars cs = name at hform
  generalize (cs.map fun c => if isNamePart c then c else '_') = body at hparts hform
  cases hform with
  | empty => decide
  | digit =>
    rw [isName, Bool.and_eq_true]
    exact ⟨by decide, List.all_eq_true.mpr hparts⟩
  | kept hbody hdigit =>
    rw [hbody] at hparts ⊢
    obtain ⟨hfirst, hrest⟩ := List.forall_mem_cons.mp hparts
    rw [isName, Bool.and_eq_true]
    exact ⟨isNameStart_iff.mpr ⟨hfirst, hdigit⟩, List.all_eq_true.mpr hrest⟩

/-- In a name there is nothing to replace. -/
private theorem nameChars_of_isName (h : isName cs) : nameChars cs = cs := by
  cases cs with
  | nil => cases h
  | cons c rest =>
    rw [isName, Bool.and_eq_true] at h
    obtain ⟨hpart, hnodigit⟩ := isNameStart_iff.mp h.1
    have hparts : ∀ d ∈ c :: rest, isNamePart d :=
      List.forall_mem_cons.mpr ⟨hpart, List.all_eq_true.mp h.2⟩
    have hform := nameForm (c :: rest)
    rw [map_replaced_eq_self hparts] at hform
    generalize nameChars (c :: rest) = name at hform
    cases hform with
    | empty hbody => cases hbody
    | digit hbody hdigit =>
      obtain ⟨rfl, -⟩ := List.cons.inj hbody
      rw [hnodigit] at hdigit
      cases hdigit
    | kept => rfl

private theorem length_nameChars (cs : List Char) :
    cs.length ≤ (nameChars cs).length ∧ (nameChars cs).length ≤ cs.length + 1 := by
  have hlength : (cs.map fun c => if isNamePart c then c else '_').length = cs.length :=
    List.length_map _
  have hform := nameForm cs
  generalize nameChars cs = name at hform
  generalize (cs.map fun c => if isNamePart c then c else '_') = body at hlength hform
  rw [← hlength]
  cases hform with
  | empty hbody =>
    rw [hbody]
    decide
  | digit =>
    rw [List.length_cons]
    omega
  | kept => omega

theorem isDeclarable_identifier (s : String) : IsDeclarable (identifier s) := by
  have hform := identifierForm s
  generalize identifier s = name at hform
  cases hform with
  | free hfree =>
    refine ⟨?_, hfree⟩
    rw [String.toList_ofList]
    exact isName_nameChars s.toList
  | reserved hname =>
    have hline : '_' ∈ (s.push '_').toList := by simp
    refine ⟨?_, fun hword => reservedWords_avoidUnderscores _ hword hline⟩
    have hnonempty : s.toList ≠ [] := by
      intro hempty
      rw [hempty] at hname
      cases hname
    rw [String.toList_push, isName_append hnonempty]
    exact ⟨hname, by decide⟩

/-- What can be declared is its own name, and nothing else is. -/
theorem identifier_eq_self_iff {s : String} : identifier s = s ↔ IsDeclarable s := by
  constructor
  · intro hsame
    rw [← hsame]
    exact isDeclarable_identifier s
  · rintro ⟨hname, hfree⟩
    have hchars : String.ofList (nameChars s.toList) = s := by
      rw [nameChars_of_isName hname, String.ofList_toList]
    have hform := identifierForm s
    generalize identifier s = name at hform
    cases hform with
    | free => exact hchars
    | reserved _ hword => exact absurd hword hfree

/-- A name is at most one character longer than its text. Where a reserved word has taken an
underscore, none was put in front of it. -/
private theorem length_identifier (s : String) :
    s.length ≤ (identifier s).length ∧ (identifier s).length ≤ s.length + 1 := by
  have hform := identifierForm s
  generalize identifier s = name at hform
  cases hform with
  | free =>
    rw [String.length_ofList, ← String.length_toList]
    exact length_nameChars s.toList
  | reserved =>
    rw [String.length_push]
    omega

/-- Every text has a name that can be declared: itself, if it can be declared, and otherwise another
one, which stays the same from then on. -/
theorem identifiers_declarable (s : String) :
    IsDeclarable (identifier s) ∧ (identifier s = s ↔ IsDeclarable s) ∧
      identifier (identifier s) = identifier s ∧
      s.length ≤ (identifier s).length ∧ (identifier s).length ≤ s.length + 1 :=
  ⟨isDeclarable_identifier s, identifier_eq_self_iff,
    identifier_eq_self_iff.mpr (isDeclarable_identifier s), length_identifier s⟩

example : identifier "" = "_" ∧ identifier "2fa" = "_2fa" ∧ identifier "default" = "default_" := by
  decide

end ApiSkeleton.Text
