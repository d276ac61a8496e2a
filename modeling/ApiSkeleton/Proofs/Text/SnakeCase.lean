import ApiSkeleton.Proofs.Text.Lowercase

namespace ApiSkeleton.Text

private theorem snakeChars_eq_iff {cs ws : List Char} (hws : '_' ∉ ws) :
    snakeChars cs = ws ↔ cs = ws ∧ ∀ c ∈ ws, isUppercase c = false := by
  induction cs generalizing ws with
  | nil =>
    constructor
    · rintro rfl
      simp [snakeChars]
    · rintro ⟨rfl, -⟩
      rfl
  | cons c rest ih =>
    rw [snakeChars]
    cases hupper : isUppercase c with
    | true =>
      constructor
      · rintro rfl
        simp at hws
      · rintro ⟨rfl, hkept⟩
        rw [hkept c (List.mem_cons_self ..)] at hupper
        cases hupper
    | false =>
      cases ws with
      | nil => simp
      | cons w more =>
        have hmore : '_' ∉ more := fun h => hws (List.mem_cons_of_mem _ h)
        simp only [Bool.false_eq_true, if_false, List.singleton_append, List.cons.injEq, ih hmore,
          List.forall_mem_cons]
        constructor
        · rintro ⟨rfl, rfl, hkept⟩
          exact ⟨⟨rfl, rfl⟩, hupper, hkept⟩
        · rintro ⟨⟨rfl, rfl⟩, -, hkept⟩
          exact ⟨rfl, rfl, hkept⟩

/-- A text without underscores and capitals comes from itself alone. -/
theorem snakeCase_eq_iff {s w : String} (hw : '_' ∉ w.toList) :
    snakeCase s = w ↔ s = w ∧ ∀ c ∈ w.toList, isUppercase c = false := by
  rw [snakeCase, ← String.toList_inj, String.toList_ofList, snakeChars_eq_iff hw, String.toList_inj]

theorem snakeChars_append (cs ds : List Char) :
    snakeChars (cs ++ ds) = snakeChars cs ++ snakeChars ds := by
  induction cs with
  | nil => rfl
  | cons c rest ih => rw [List.cons_append, snakeChars, snakeChars, ih, List.append_assoc]

theorem snakeCase_append (s t : String) : snakeCase (s ++ t) = snakeCase s ++ snakeCase t := by
  rw [snakeCase, String.toList_append, snakeChars_append, String.ofList_append, snakeCase, snakeCase]

/-- Nothing is changed where there are no capitals. -/
theorem snakeChars_eq_self {cs : List Char} (h : ∀ c ∈ cs, isUppercase c = false) :
    snakeChars cs = cs := by
  induction cs with
  | nil => rfl
  | cons c rest ih =>
    obtain ⟨hc, hrest⟩ := List.forall_mem_cons.mp h
    rw [snakeChars, hc, ih hrest]
    rfl

/-- A text of ASCII characters. -/
def IsAscii (s : String) : Prop := ∀ c ∈ s.toList, c.toNat < 128

instance : DecidablePred IsAscii := fun s =>
  List.decidableBAll (fun c : Char => c.toNat < 128) s.toList

/-- A text of ASCII characters without underscores. -/
def IsSolid (s : String) : Prop := IsAscii s ∧ '_' ∉ s.toList

instance : DecidablePred IsSolid := fun _ => inferInstanceAs (Decidable (_ ∧ _))

theorem isUppercase_of_ascii {c : Char} (h : c.toNat < 128) : isUppercase c = c.isUpper := by
  rw [isUppercase, if_pos h]

private theorem toNat_toLower {c : Char} (h : c.isUpper) : c.toLower.toNat = c.toNat + 32 := by
  have hbounds := isUpper_iff.mp h
  have hvalid : (c.toNat + 32).isValidChar := by
    unfold Nat.isValidChar
    omega
  rw [Char.toLower_eq_of_isUpper h, Char.toNat_ofNat, if_pos hvalid]

/-- A capital becomes an underscore and the small letter; all else stays. -/
theorem snakeChars_cons_of_ascii {c : Char} (h : c.toNat < 128) (rest : List Char) :
    snakeChars (c :: rest) = (if c.isUpper then ['_', c.toLower] else [c]) ++ snakeChars rest := by
  rw [snakeChars, isUppercase_of_ascii h, lowerChar, if_pos h]

/-- No capital is left. -/
private theorem isUppercase_of_mem_snakeChars {cs : List Char} (h : ∀ c ∈ cs, c.toNat < 128)
    {d : Char} (hd : d ∈ snakeChars cs) : isUppercase d = false := by
  induction cs with
  | nil => cases hd
  | cons c rest ih =>
    obtain ⟨hc, hrest⟩ := List.forall_mem_cons.mp h
    rw [snakeChars_cons_of_ascii hc, List.mem_append] at hd
    refine hd.elim (fun hd => ?_) (ih hrest)
    by_cases hupper : c.isUpper
    · rw [if_pos hupper, List.mem_cons, List.mem_singleton] at hd
      obtain rfl | rfl := hd
      · decide
      · have hbounds := isUpper_iff.mp hupper
        have hlower := toNat_toLower hupper
        rw [isUppercase_of_ascii (by omega), Char.isUpper_toLower_eq_false]
    · rw [if_neg hupper] at hd
      rw [List.mem_singleton.mp hd, isUppercase_of_ascii hc]
      exact Bool.eq_false_iff.mpr hupper

private theorem length_snakeChars {cs : List Char} (h : ∀ c ∈ cs, c.toNat < 128) :
    (snakeChars cs).length = cs.length + cs.countP isUppercase := by
  induction cs with
  | nil => rfl
  | cons c rest ih =>
    obtain ⟨hc, hrest⟩ := List.forall_mem_cons.mp h
    rw [snakeChars_cons_of_ascii hc, List.length_append, ih hrest, List.length_cons,
      List.countP_cons, isUppercase_of_ascii hc]
    by_cases hupper : c.isUpper
    · simp only [hupper, if_true, List.length_cons, List.length_nil]
      omega
    · simp only [hupper, Bool.false_eq_true, if_false, List.length_cons, List.length_nil]
      omega

/-- What snake case makes of a text: there are no capitals left, so that nothing happens to it again,
and each of them has made it one character longer. -/
structure SnakeCased (s : String) : Prop where
  small : ∀ c ∈ (snakeCase s).toList, isUppercase c = false
  stable : snakeCase (snakeCase s) = snakeCase s
  length : (snakeCase s).length = s.length + s.toList.countP isUppercase

theorem snakeCased {s : String} (hs : IsAscii s) : SnakeCased s := by
  have hsmall : ∀ c ∈ (snakeCase s).toList, isUppercase c = false := by
    intro c hc
    rw [snakeCase, String.toList_ofList] at hc
    exact isUppercase_of_mem_snakeChars hs hc
  constructor
  case small => exact hsmall
  case stable =>
    have hsame := snakeChars_eq_self hsmall
    rw [snakeCase, hsame, String.ofList_toList]
  case length =>
    rw [snakeCase, String.length_ofList, length_snakeChars hs, String.length_toList]

/-- Reads an underscore and what follows it as a capital. -/
def unsnake : List Char → List Char
  | [] => []
  | [c] => [c]
  | c :: d :: rest => if c = '_' then d.toUpper :: unsnake rest else c :: unsnake (d :: rest)

private theorem unsnake_underscore (d : Char) (rest : List Char) :
    unsnake ('_' :: d :: rest) = d.toUpper :: unsnake rest := by
  rw [unsnake, if_pos rfl]

theorem unsnake_cons {c : Char} (h : c ≠ '_') (rest : List Char) :
    unsnake (c :: rest) = c :: unsnake rest := by
  cases rest with
  | nil => rfl
  | cons d rest => rw [unsnake, if_neg h]

/-- A text without underscores is read back. -/
private theorem unsnake_snakeChars {cs : List Char} (h : ∀ c ∈ cs, c.toNat < 128)
    (hline : '_' ∉ cs) :
    unsnake (snakeChars cs) = cs := by
  induction cs with
  | nil => rfl
  | cons c rest ih =>
    obtain ⟨hc, hrest⟩ := List.forall_mem_cons.mp h
    rw [List.mem_cons, not_or] at hline
    obtain ⟨hfirst, hmore⟩ := hline
    rw [snakeChars_cons_of_ascii hc]
    by_cases hupper : c.isUpper
    · have hback : c.toLower.toUpper = c := by
        rw [Char.toUpper_toLower_eq_toUpper,
          Char.toUpper_eq_of_not_isLower (Char.not_isLower_of_isUpper hupper)]
      rw [if_pos hupper, List.cons_append, List.singleton_append, unsnake_underscore, hback,
        ih hrest hmore]
    · rw [if_neg hupper, List.singleton_append, unsnake_cons (Ne.symm hfirst), ih hrest hmore]

/-- Texts of ASCII characters without underscores stay apart. -/
theorem snakeCase_eq_snakeCase_iff {s t : String} (hs : IsSolid s) (ht : IsSolid t) :
    snakeCase s = snakeCase t ↔ s = t := by
  constructor
  · intro hsame
    rw [snakeCase, snakeCase, String.ofList_inj] at hsame
    rw [← String.toList_inj, ← unsnake_snakeChars hs.1 hs.2, hsame, unsnake_snakeChars ht.1 ht.2]
  · exact congrArg snakeCase

end ApiSkeleton.Text
