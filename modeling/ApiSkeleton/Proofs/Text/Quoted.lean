import ApiSkeleton.Proofs.Text.Lowercase
import ApiSkeleton.Text.Identifier
import ApiSkeleton.Tree.Token

namespace ApiSkeleton.Text

open ApiSkeleton.Tree (readText)

variable {s : String} {c : Char} {cs : List Char}

/-- A character that a literal shows without an escape. -/
def StandsForItself (c : Char) : Prop := c ≠ '"' ∧ c ≠ '\\' ∧ 32 ≤ c.toNat

instance : DecidablePred StandsForItself := fun _ => inferInstanceAs (Decidable (_ ∧ _ ∧ _))

/-- A text that needs no escapes. -/
def IsPlain (s : String) : Prop := ∀ c ∈ s.toList, StandsForItself c

/-- A text between quotes as it is. -/
def betweenQuotes (s : String) : String := "\"" ++ s ++ "\""

theorem quoteChar_eq_singleton (h : StandsForItself c) : quoteChar c = [c] := by
  obtain ⟨hquote, hbackslash, hprintable⟩ := h
  have hcontrol (d : Char) (hd : d.toNat < 32) : c ≠ d := by
    rintro rfl
    omega
  simp only [quoteChar, hquote, hbackslash, if_false, hcontrol '\x08' (by decide),
    hcontrol '\x0c' (by decide), hcontrol '\n' (by decide), hcontrol '\r' (by decide),
    hcontrol '\t' (by decide), Nat.not_lt.mpr hprintable]

theorem quoteChar_of_not (h : ¬ StandsForItself c) :
    ∃ rest, rest ≠ [] ∧ quoteChar c = '\\' :: rest := by
  unfold quoteChar
  split_ifs
  case neg hquote hbackslash _ _ _ _ _ hcontrol =>
    exact absurd ⟨hquote, hbackslash, Nat.not_lt.mp hcontrol⟩ h
  all_goals exact ⟨_, List.cons_ne_nil _ _, rfl⟩

theorem length_le_length_quoted (cs : List Char) : cs.length ≤ (cs.flatMap quoteChar).length := by
  induction cs with
  | nil => exact Nat.le_refl _
  | cons c rest ih =>
    have hone : 1 ≤ (quoteChar c).length := by
      by_cases h : StandsForItself c
      · simp [quoteChar_eq_singleton h]
      · obtain ⟨more, -, hmore⟩ := quoteChar_of_not h
        rw [hmore, List.length_cons]
        omega
    rw [List.flatMap_cons, List.length_append, List.length_cons]
    omega

/-- A text is its own escaped form exactly if it needs no escapes. -/
theorem flatMap_quoteChar_eq_iff :
    cs.flatMap quoteChar = cs ↔ ∀ c ∈ cs, StandsForItself c := by
  induction cs with
  | nil => simp
  | cons c rest ih =>
    rw [List.flatMap_cons, List.forall_mem_cons]
    by_cases h : StandsForItself c
    · rw [quoteChar_eq_singleton h, List.singleton_append, List.cons.injEq, ih]
      simp only [h, true_and]
    · obtain ⟨more, hmore, hquoted⟩ := quoteChar_of_not h
      refine iff_of_false (fun hsame => ?_) (fun hall => h hall.1)
      have hlength := congrArg List.length hsame
      have hrest := length_le_length_quoted rest
      have hpositive := List.length_pos_of_ne_nil hmore
      simp only [hquoted, List.cons_append, List.length_cons, List.length_append] at hlength
      omega

theorem toList_betweenQuotes (s : String) :
    (betweenQuotes s).toList = '"' :: (s.toList ++ ['"']) := by
  simp [betweenQuotes]

theorem toList_quoted (s : String) :
    (quoted s).toList = '"' :: (s.toList.flatMap quoteChar ++ ['"']) := by
  rw [quoted, String.toList_ofList, quotedChars]

theorem betweenQuotes_eq_quoted_iff : betweenQuotes s = quoted s ↔ IsPlain s := by
  rw [← String.toList_inj, toList_betweenQuotes, toList_quoted, List.cons.injEq,
    List.append_cancel_right_eq, eq_comm (a := s.toList), flatMap_quoteChar_eq_iff]
  exact and_iff_right rfl

private theorem hexValue?_hexDigit {n : Nat} (h : n < 16) : hexValue? (hexDigit n) = some n := by
  have hall : ∀ n < 16, hexValue? (hexDigit n) = some n := by decide
  exact hall n h

private theorem unit16?_escape (c : Char) (h : c.toNat < 32) :
    Tree.unit16? ['0', '0', hexDigit (c.toNat / 16), hexDigit (c.toNat % 16)] = some c.toNat := by
  have hzero : hexValue? '0' = some 0 := by decide
  simp only [Tree.unit16?, hzero, hexValue?_hexDigit (show c.toNat / 16 < 16 by omega),
    hexValue?_hexDigit (Nat.mod_lt c.toNat (by decide : 0 < 16)), Option.bind_eq_bind,
    Option.bind_some, Option.pure_def]
  congr 1
  omega

/-- The value of a literal, one character longer. -/
def prepend (c : Char) : List Char × List Char → List Char × List Char
  | (cs, rest) => (c :: cs, rest)

theorem readText_cons (h : StandsForItself c) (rest : List Char) :
    readText (c :: rest) = (readText rest).map (prepend c) := by
  obtain ⟨hquote, hbackslash, hprintable⟩ := h
  have hshown : ¬ (c.toNat < 32 ∨ c = '\\') := by
    rintro (hcontrol | rfl)
    · omega
    · exact hbackslash rfl
  rw [readText, if_neg hshown]
  · rfl
  all_goals simp_all

private theorem readText_letter {e : Char} (h : Tree.escaped? e = some c) (rest : List Char) :
    readText ('\\' :: e :: rest) = (readText rest).map (prepend c) := by
  have hunicode : e ≠ 'u' := by
    rintro rfl
    cases h
  rw [readText]
  · rw [h]
    rfl
  · simp_all

private theorem readText_control (h : c.toNat < 32) (rest : List Char) :
    readText ('\\' :: 'u' :: '0' :: '0' :: hexDigit (c.toNat / 16) :: hexDigit (c.toNat % 16) ::
      rest) = (readText rest).map (prepend c) := by
  have hhigh : ¬ (0xD800 ≤ c.toNat ∧ c.toNat < 0xDC00) := by omega
  have hlow : ¬ (0xDC00 ≤ c.toNat ∧ c.toNat < 0xE000) := by omega
  simp only [readText, unit16?_escape c h, if_neg hhigh, if_neg hlow, Char.ofNat_toNat]
  rfl

/-- Each character is read back from what stands for it. -/
private theorem readText_quoteChar (c : Char) (rest : List Char) :
    readText (quoteChar c ++ rest) = (readText rest).map (prepend c) := by
  by_cases hplain : StandsForItself c
  · rw [quoteChar_eq_singleton hplain, List.singleton_append, readText_cons hplain]
  · unfold quoteChar
    split_ifs with hquote hbackslash hbackspace hfeed hline hreturn htab hcontrol
    case neg => exact absurd ⟨hquote, hbackslash, Nat.not_lt.mp hcontrol⟩ hplain
    all_goals first
      | exact readText_control ‹_› rest
      | (subst c; exact readText_letter rfl rest)

theorem readText_quoted (cs rest : List Char) :
    readText (cs.flatMap quoteChar ++ '"' :: rest) = some (cs, rest) := by
  induction cs with
  | nil => rfl
  | cons c more ih =>
    rw [List.flatMap_cons, List.append_assoc, readText_quoteChar, ih]
    rfl

/-- The first step of reading a text, by what it starts with. -/
inductive ReadStep (text value rest : List Char) : Prop where
  | closing (htext : text = '"' :: rest) (hvalue : value = [])
  | shown (c : Char) (after tail : List Char) (htext : text = c :: after) (hc : StandsForItself c)
      (hvalue : value = c :: tail) (hread : readText after = some (tail, rest))
  | escape (c : Char) (after tail : List Char) (hlength : after.length + 2 ≤ text.length)
      (hvalue : value = c :: tail) (hread : readText after = some (tail, rest))

private theorem map_prepend_eq_some {x : Option (List Char × List Char)} {value rest : List Char}
    (h : x.map (prepend c) = some (value, rest)) :
    ∃ tail, value = c :: tail ∧ x = some (tail, rest) := by
  obtain ⟨⟨tail, after⟩, rfl, hvalue⟩ := Option.map_eq_some_iff.mp h
  cases hvalue
  exact ⟨tail, rfl, rfl⟩

theorem readStep {text value rest : List Char} (h : readText text = some (value, rest)) :
    ReadStep text value rest := by
  revert h
  fun_cases Tree.readText text <;> intro h
  case case2 more =>
    cases h
    exact .closing rfl rfl
  case case5 a b c d high _ _ e f g _ after low _ _ =>
    obtain ⟨tail, hvalue, hread⟩ := map_prepend_eq_some h
    exact .escape _ after tail (by simp only [List.length_cons]; omega) hvalue hread
  case case9 more high _ _ _ =>
    obtain ⟨tail, hvalue, hread⟩ := map_prepend_eq_some h
    exact .escape _ more tail (by simp only [List.length_cons]; omega) hvalue hread
  case case10 e more _ d _ =>
    obtain ⟨tail, hvalue, hread⟩ := map_prepend_eq_some h
    exact .escape d more tail (by simp only [List.length_cons]; omega) hvalue hread
  case case13 d more hquote _ _ hshown =>
    obtain ⟨tail, hvalue, hread⟩ := map_prepend_eq_some h
    exact .shown d more tail rfl ⟨hquote, fun h => hshown (.inr h), by omega⟩ hvalue hread
  all_goals cases h

/-- Each character that is read takes one at least, and the closing quote is one more. -/
private theorem length_of_readText {text value rest : List Char}
    (h : readText text = some (value, rest)) :
    value.length + rest.length + 1 ≤ text.length := by
  induction value generalizing text with
  | nil =>
    cases readStep h with
    | closing htext => simp [htext]
    | shown _ _ _ _ _ hvalue => cases hvalue
    | escape _ _ _ _ hvalue => cases hvalue
  | cons d value ih =>
    cases readStep h with
    | closing _ hvalue => cases hvalue
    | shown c after tail htext _ hvalue hread =>
      cases hvalue
      have hrest := ih hread
      rw [htext, List.length_cons, List.length_cons]
      omega
    | escape c after tail hlength hvalue hread =>
      cases hvalue
      have hrest := ih hread
      rw [List.length_cons]
      omega

/-- What needs an escape is not read back without it. -/
private theorem readText_append_eq_iff {rest : List Char} :
    readText (cs ++ '"' :: rest) = some (cs, rest) ↔ ∀ c ∈ cs, StandsForItself c := by
  constructor
  · intro h
    induction cs with
    | nil => simp
    | cons c more ih =>
      rw [List.forall_mem_cons]
      cases readStep h with
      | closing _ hvalue => cases hvalue
      | shown d after tail htext hd hvalue hread =>
        cases hvalue
        cases htext
        exact ⟨hd, ih hread⟩
      | escape d after tail hlength hvalue hread =>
        -- An escape takes two characters and leaves too few for the rest of the text.
        cases hvalue
        have hrest := length_of_readText hread
        simp only [List.cons_append, List.length_cons, List.length_append] at hlength
        omega
  · intro hplain
    have hread := readText_quoted cs rest
    rwa [flatMap_quoteChar_eq_iff.mpr hplain] at hread

/-- A literal denotes a text if reading it ends with its last quote and gives the text, whatever
stands behind it. -/
def Denotes (literal s : String) : Prop :=
  ∃ body, literal.toList = '"' :: body ∧ ∀ rest, readText (body ++ rest) = some (s.toList, rest)

/-- A literal denotes one text only. -/
private theorem Denotes.eq {literal s t : String} (hs : Denotes literal s)
    (ht : Denotes literal t) :
    s = t := by
  obtain ⟨body, hbody, hread⟩ := hs
  obtain ⟨other, hother, hreadOther⟩ := ht
  have hsame : body = other := (List.cons.inj (hbody.symm.trans hother)).2
  have hresult := hread []
  rw [hsame, hreadOther []] at hresult
  exact String.toList_inj.mp (Prod.mk.inj (Option.some.inj hresult)).1.symm

private theorem denotes_quoted (s : String) : Denotes (quoted s) s := by
  refine ⟨_, toList_quoted s, fun rest => ?_⟩
  rw [List.append_assoc]
  exact readText_quoted s.toList rest

theorem denotes_betweenQuotes_iff : Denotes (betweenQuotes s) s ↔ IsPlain s := by
  unfold Denotes
  simp only [toList_betweenQuotes, List.cons.injEq, true_and, exists_eq_left', List.append_assoc,
    List.singleton_append, readText_append_eq_iff]
  exact forall_const _

theorem quoted_injective : Function.Injective quoted := fun s t hsame =>
  (denotes_quoted s).eq (hsame ▸ denotes_quoted t)

/-- No name begins like a quoted key. -/
theorem isName_quoted (s : String) : isName (quoted s).toList = false := by
  have hstart : isNameStart '"' = false := by decide
  rw [toList_quoted, isName, hstart, Bool.false_and]

/-- A key tells its name, quoted or not. -/
theorem propertyKey_injective : Function.Injective propertyKey := by
  intro s t hsame
  unfold propertyKey at hsame
  by_cases hs : isName s.toList <;> by_cases ht : isName t.toList
  · rwa [if_pos hs, if_pos ht] at hsame
  · rw [if_pos hs, if_neg ht] at hsame
    rw [hsame, isName_quoted] at hs
    cases hs
  · rw [if_neg hs, if_pos ht] at hsame
    rw [← hsame, isName_quoted] at ht
    cases ht
  · rw [if_neg hs, if_neg ht] at hsame
    exact quoted_injective hsame

/-- A run maps characters beyond the backslash to characters. -/
def CaseRun.StaysPlain (r : CaseRun) : Prop :=
  92 < (r.first : Int) + r.shift ∧
    ((r.last : Int) + r.shift < 0xD800 ∨
      0xE000 ≤ (r.first : Int) + r.shift ∧ (r.last : Int) + r.shift < 0x110000)

instance (r : CaseRun) : Decidable r.StaysPlain := inferInstanceAs (Decidable (_ ∧ _))

private theorem lowerRuns_stayPlain : ∀ r ∈ lowerRuns, r.StaysPlain := by
  decide +kernel

private theorem lowerExpansions_plain :
    ∀ entry ∈ lowerExpansions, ∀ code ∈ entry.2, StandsForItself (Char.ofNat code) := by
  decide

theorem standsForItself_of_lt (h : 92 < c.toNat) : StandsForItself c := by
  refine ⟨?_, ?_, by omega⟩ <;>
    · rintro rfl
      revert h
      decide

private theorem standsForItself_ofNat {n : Nat} (h : 92 < n) (hvalid : n.isValidChar) :
    StandsForItself (Char.ofNat n) :=
  standsForItself_of_lt (by rwa [Char.toNat_ofNat, if_pos hvalid])

private theorem standsForItself_of_isUppercase (h : isUppercase c) : StandsForItself c := by
  by_cases hascii : c.toNat < 128
  · rw [isUppercase, if_pos hascii, isUpper_iff] at h
    refine ⟨?_, ?_, by omega⟩ <;>
      · rintro rfl
        revert h
        decide
  · exact standsForItself_of_lt (by omega)

private theorem standsForItself_of_mem_lowerChar (hc : StandsForItself c) {d : Char}
    (hd : d ∈ lowerChar c) : StandsForItself d := by
  have hform := lowerForm c
  generalize lowerChar c = form at hform hd
  cases hform with
  | ascii hascii =>
    rw [List.mem_singleton.mp hd]
    have hall : ∀ n < 128, StandsForItself (Char.ofNat n) →
        StandsForItself (Char.ofNat n).toLower := by decide
    simpa only [Char.ofNat_toNat, hc, forall_const] using hall c.toNat hascii
  | expansion hfar hentry =>
    obtain ⟨code, hcode, rfl⟩ := List.mem_map.mp hd
    exact lowerExpansions_plain _ hentry code hcode
  | run hfar hrun hfirst hlast =>
    have hplain := lowerRuns_stayPlain _ hrun
    unfold CaseRun.StaysPlain at hplain
    rw [List.mem_singleton.mp hd]
    refine standsForItself_ofNat (by omega) ?_
    unfold Nat.isValidChar
    omega
  | same hfar => exact standsForItself_of_lt (by rw [List.mem_singleton.mp hd]; omega)

/-- Writing a text in snake case neither adds nor takes away what needs an escape. -/
theorem isPlain_snakeCase_iff : IsPlain (snakeCase s) ↔ IsPlain s := by
  unfold IsPlain snakeCase
  rw [String.toList_ofList]
  induction s.toList with
  | nil => rfl
  | cons c rest ih =>
    rw [snakeChars, List.forall_mem_append, List.forall_mem_cons, ih]
    refine and_congr_left fun _ => ?_
    by_cases hupper : isUppercase c
    · have hc := standsForItself_of_isUppercase hupper
      rw [if_pos hupper]
      refine iff_of_true ?_ hc
      rw [List.forall_mem_cons]
      exact ⟨by decide, fun d hd => standsForItself_of_mem_lowerChar hc hd⟩
    · rw [if_neg hupper]
      exact List.forall_mem_singleton

end ApiSkeleton.Text
