import ApiSkeleton.Proofs.Text.Name

namespace ApiSkeleton.Text

theorem map_replaced_eq_self {p : Char → Bool} {cs : List Char} (h : ∀ c ∈ cs, p c) :
    (cs.map fun c => if p c then c else '_') = cs := by
  rw [List.map_congr_left fun c hc => if_pos (h c hc), List.map_id']

/-- Where underscores stand for what is not wanted, a text without them holds what was there. -/
theorem map_replaced_eq_iff {p : Char → Bool} {cs ws : List Char} (hws : '_' ∉ ws) :
    (cs.map fun c => if p c then c else '_') = ws ↔ cs = ws ∧ ∀ c ∈ ws, p c := by
  constructor
  · rintro rfl
    have hkept : ∀ c ∈ cs, p c := by
      intro c hc
      by_contra hreplaced
      exact hws (List.mem_map.mpr ⟨c, hc, by simp [hreplaced]⟩)
    rw [map_replaced_eq_self hkept]
    exact ⟨rfl, hkept⟩
  · rintro ⟨rfl, hkept⟩
    exact map_replaced_eq_self hkept

theorem isDigit_eq_false_of_isAlpha {c : Char} (h : c.isAlpha) : c.isDigit = false := by
  rw [← Bool.not_eq_true]
  intro hdigit
  simp only [Char.isAlpha, Char.isUpper, Char.isLower, Char.isDigit, Bool.or_eq_true,
    Bool.and_eq_true, decide_eq_true_eq, ge_iff_le, UInt32.le_iff_toNat_le] at h hdigit
  have h9 : '9'.val.toNat = 57 := rfl
  have hA : 'A'.val.toNat = 65 := rfl
  have ha : 'a'.val.toNat = 97 := rfl
  omega

/-- A name can begin with whatever may stand in it, digits apart. -/
theorem isNameStart_iff {c : Char} : isNameStart c ↔ isNamePart c ∧ c.isDigit = false := by
  simp only [isNameStart, isNamePart, Char.isAlphanum, Bool.or_eq_true, beq_iff_eq]
  constructor
  · rintro ((halpha | rfl) | rfl)
    · exact ⟨.inl (.inl (.inl halpha)), isDigit_eq_false_of_isAlpha halpha⟩
    · decide
    · decide
  · rintro ⟨((halpha | hdigit) | hline) | hdollar, hnot⟩
    · exact .inl (.inl halpha)
    · rw [hnot] at hdigit
      cases hdigit
    · exact .inl (.inr hline)
    · exact .inr hdollar

/-- What becomes of the characters of a name, after those have been replaced that it cannot hold. -/
inductive NameForm (body : List Char) : List Char → Prop where
  | empty (hbody : body = []) : NameForm body ['_']
  | digit {c : Char} {rest : List Char} (hbody : body = c :: rest) (hdigit : c.isDigit) :
      NameForm body ('_' :: body)
  | kept {c : Char} {rest : List Char} (hbody : body = c :: rest) (hdigit : c.isDigit = false) :
      NameForm body body

theorem nameForm (cs : List Char) :
    NameForm (cs.map fun c => if isNamePart c then c else '_') (nameChars cs) := by
  unfold nameChars
  generalize (cs.map fun c => if isNamePart c then c else '_') = body
  cases body with
  | nil => exact .empty rfl
  | cons c rest =>
    cases hdigit : c.isDigit with
    | true => simpa only [hdigit, if_true] using .digit rfl hdigit
    | false => simpa only [hdigit, Bool.false_eq_true, if_false] using .kept rfl hdigit

theorem nameChars_eq_iff {cs ws : List Char} (hws : '_' ∉ ws) :
    nameChars cs = ws ↔ cs = ws ∧ isName ws := by
  have hreplaced := @map_replaced_eq_iff isNamePart cs ws hws
  have hname : isName ws ↔ ∃ c rest, ws = c :: rest ∧ c.isDigit = false ∧ ∀ d ∈ ws, isNamePart d := by
    cases ws with
    | nil => simp [isName]
    | cons c rest => simp [isName, isNameStart_iff]; tauto
  rw [hname]
  have hform := nameForm cs
  generalize nameChars cs = name at hform
  generalize (cs.map fun c => if isNamePart c then c else '_') = body at hreplaced hform
  -- The other two shapes of a name begin with an underscore.
  have hline (rest : List Char) : '_' :: rest ≠ ws := by
    rintro rfl
    exact hws (List.mem_cons_self ..)
  constructor
  · intro hsame
    cases hform with
    | empty => exact absurd hsame (hline [])
    | digit => exact absurd hsame (hline body)
    | @kept c rest hbody hdigit =>
      obtain ⟨hcs, hparts⟩ := hreplaced.mp hsame
      exact ⟨hcs, c, rest, hsame.symm.trans hbody, hdigit, hparts⟩
  · rintro ⟨hcs, c, rest, hsame, hnodigit, hparts⟩
    have hkept : body = ws := hreplaced.mpr ⟨hcs, hparts⟩
    cases hform with
    | empty hbody => cases hbody.symm.trans (hkept.trans hsame)
    | digit hbody hdigit =>
      obtain ⟨rfl, -⟩ := List.cons.inj (hbody.symm.trans (hkept.trans hsame))
      rw [hnodigit] at hdigit
      cases hdigit
    | kept => exact hkept

theorem reservedWords_avoidUnderscores : ∀ word ∈ reservedWords, '_' ∉ word.toList := by
  decide

/-- How a name comes about: it is free after the characters have been replaced, or it was a reserved
word, in which nothing has been replaced. -/
inductive IdentifierForm (s : String) : String → Prop where
  | free (hfree : String.ofList (nameChars s.toList) ∉ reservedWords) :
      IdentifierForm s (String.ofList (nameChars s.toList))
  | reserved (hname : isName s.toList) (hword : s ∈ reservedWords) :
      IdentifierForm s (s.push '_')

theorem identifierForm (s : String) : IdentifierForm s (identifier s) := by
  unfold identifier
  by_cases hword : String.ofList (nameChars s.toList) ∈ reservedWords
  · have hline : '_' ∉ nameChars s.toList := by
      simpa using reservedWords_avoidUnderscores _ hword
    obtain ⟨hsame, hname⟩ := (nameChars_eq_iff hline).mp rfl
    rw [← hsame, String.ofList_toList] at hword
    rw [← hsame] at hname ⊢
    rw [String.ofList_toList]
    simp only [List.contains_iff_mem, hword, if_true]
    exact .reserved hname hword
  · simp only [List.contains_iff_mem, hword, if_false]
    exact .free hword

/-- A name without underscores comes from itself alone, and only if it can be declared. -/
theorem identifier_eq_iff {s w : String} (hw : '_' ∉ w.toList) :
    identifier s = w ↔ s = w ∧ IsDeclarable w := by
  have hchars : String.ofList (nameChars s.toList) = w ↔ s = w ∧ isName w.toList := by
    rw [← String.toList_inj, String.toList_ofList, nameChars_eq_iff hw, String.toList_inj]
  have hform := identifierForm s
  generalize identifier s = name at hform
  cases hform with
  | free hfree =>
    constructor
    · intro hsame
      obtain ⟨hs, hname⟩ := hchars.mp hsame
      exact ⟨hs, hname, hsame ▸ hfree⟩
    · rintro ⟨hs, hname, -⟩
      exact hchars.mpr ⟨hs, hname⟩
  | reserved _ hword =>
    refine iff_of_false ?_ fun ⟨hs, _, hfree⟩ => hfree (hs ▸ hword)
    rintro rfl
    exact hw (by simp)

/-- A name holds what the text holds, and underscores. -/
theorem mem_identifier {s : String} {c : Char} (hc : c ∈ (identifier s).toList) :
    c ∈ s.toList ∨ c = '_' := by
  have hbody {d : Char} (hd : d ∈ s.toList.map fun c => if isNamePart c then c else '_') :
      d ∈ s.toList ∨ d = '_' := by
    obtain ⟨other, hother, rfl⟩ := List.mem_map.mp hd
    split
    · exact .inl hother
    · exact .inr rfl
  have hname {d : Char} (hd : d ∈ nameChars s.toList) : d ∈ s.toList ∨ d = '_' := by
    have hform := nameForm s.toList
    generalize nameChars s.toList = name at hform hd
    cases hform with
    | empty => exact .inr (List.mem_singleton.mp hd)
    | digit => exact (List.mem_cons.mp hd).elim .inr hbody
    | kept => exact hbody hd
  have hform := identifierForm s
  generalize identifier s = name at hform hc
  cases hform with
  | free => exact hname (by rwa [String.toList_ofList] at hc)
  | reserved => simpa using hc

/-- Nothing but the Kelvin sign comes from beyond ASCII and becomes a single ASCII letter. -/
private theorem lowerRuns_avoidLetters : ∀ r ∈ lowerRuns,
    128 ≤ (r.first : Int) + r.shift ∨ (r.first = r.last ∧ (r.first : Int) + r.shift = 'k'.toNat) := by
  decide +kernel

private theorem lowerExpansions_avoidLetters :
    ∀ entry ∈ lowerExpansions, ∃ code ∈ entry.2, (Char.ofNat code).isAlpha = false := by
  decide

private theorem isAlpha_ofNat_of_le {n : Nat} (h : 128 ≤ n) : (Char.ofNat n).isAlpha = false := by
  rw [← Bool.not_eq_true]
  intro halpha
  have hsmall := toNat_lt_of_isAlpha halpha
  rw [Char.toNat_ofNat] at hsmall
  split at hsmall
  · omega
  · rename_i hinvalid
    rw [Char.ofNat, dif_neg hinvalid] at halpha
    revert halpha
    decide

/-- The lower-case form of a character beyond ASCII is no text of ASCII letters, unless it is `k`. -/
private theorem exists_notLetter_lowerChar {c : Char} (hc : 128 ≤ c.toNat) :
    ∃ d ∈ lowerChar c, d.isAlpha = false ∨ d = 'k' := by
  have hform := lowerForm c
  generalize lowerChar c = form at hform
  cases hform with
  | ascii hascii => omega
  | expansion hfar hentry =>
    obtain ⟨code, hcode, halpha⟩ := lowerExpansions_avoidLetters _ hentry
    exact ⟨Char.ofNat code, List.mem_map_of_mem hcode, .inl halpha⟩
  | @run r hfar hrun hfirst hlast =>
    refine ⟨_, List.mem_singleton_self _, ?_⟩
    rcases lowerRuns_avoidLetters r hrun with hletter | ⟨hone, hkelvin⟩
    · exact .inl (isAlpha_ofNat_of_le (by omega))
    · have hk : ((c.toNat : Int) + r.shift).toNat = 'k'.toNat := by omega
      right
      rw [hk, Char.ofNat_toNat]
  | same hfar =>
    refine ⟨c, List.mem_singleton_self c, .inl ?_⟩
    rw [← Bool.not_eq_true]
    intro halpha
    have hascii := toNat_lt_of_isAlpha halpha
    omega

/-- A word of ASCII letters, none of which is `k`. -/
def IsPlainWord (cs : List Char) : Prop := ∀ c ∈ cs, c.isAlpha ∧ c ≠ 'k'

instance (cs : List Char) : Decidable (IsPlainWord cs) :=
  List.decidableBAll (fun c : Char => c.isAlpha = true ∧ c ≠ 'k') cs

theorem IsPlainWord.underscore_notMem {cs : List Char} (h : IsPlainWord cs) : '_' ∉ cs :=
  fun hmem => absurd (h '_' hmem).1 (by decide)

private theorem lowerAfter_eq_iff {before cs ws : List Char} (hws : IsPlainWord ws) :
    lowerAfter before cs = ws ↔ cs.map Char.toLower = ws := by
  induction cs generalizing before ws with
  | nil => rfl
  | cons c rest ih =>
    by_cases hascii : c.toNat < 128
    · have hsigma : c ≠ 'Σ' := by
        rintro rfl
        exact absurd hascii (by decide)
      rw [lowerAfter, if_neg hsigma, lowerChar, if_pos hascii, List.map_cons, List.singleton_append]
      cases ws with
      | nil => simp
      | cons d more =>
        rw [List.cons.injEq, List.cons.injEq, ih fun e he => hws e (List.mem_cons_of_mem d he)]
    · -- Neither side is the word: on the left stands something that it does not hold, and on the
      -- right the character itself, which is no letter of ASCII.
      have hfar : ∃ d ∈ lowerAfter before (c :: rest), d.isAlpha = false ∨ d = 'k' := by
        rw [lowerAfter]
        by_cases hsigma : c = 'Σ'
        · rw [if_pos hsigma]
          split
          · exact ⟨'ς', by simp, by decide⟩
          · exact ⟨'σ', by simp, by decide⟩
        · rw [if_neg hsigma]
          obtain ⟨d, hd, hfar⟩ := @exists_notLetter_lowerChar c (by omega)
          exact ⟨d, List.mem_append_left _ hd, hfar⟩
      have hkept : c.toLower = c := by
        refine Char.toLower_eq_of_not_isUpper fun hupper => hascii ?_
        exact toNat_lt_of_isAlpha (by simp [Char.isAlpha, hupper])
      constructor
      · rintro rfl
        obtain ⟨d, hd, hother | hother⟩ := hfar
        · exact absurd (hws d hd).1 (by simp [hother])
        · exact absurd hother (hws d hd).2
      · rintro rfl
        have halpha := (hws c (by simp [hkept])).1
        exact absurd (toNat_lt_of_isAlpha halpha) hascii

/-- A text becomes such a word only by the case of its ASCII letters. -/
theorem lowercase_eq_iff {s w : String} (hw : IsPlainWord w.toList) :
    lowercase s = w ↔ asciiLowercase s = w := by
  rw [lowercase, asciiLowercase, ← String.toList_inj, ← String.toList_inj, String.toList_ofList,
    String.toList_ofList, lowerAfter_eq_iff hw]

/-- A name of ASCII letters and digits. -/
def IsOrdinary (s : String) : Prop := isName s.toList ∧ s.toList.all Char.isAlphanum

instance : DecidablePred IsOrdinary := fun _ => inferInstanceAs (Decidable (_ ∧ _))

private theorem toNat_lt_of_isAlphanum {c : Char} (h : c.isAlphanum) : c.toNat < 128 := by
  rw [Char.isAlphanum, Bool.or_eq_true] at h
  rcases h with halpha | hdigit
  · exact toNat_lt_of_isAlpha halpha
  · simp only [Char.isDigit, Bool.and_eq_true, decide_eq_true_eq, UInt32.le_iff_toNat_le] at hdigit
    have h9 : '9'.val.toNat = 57 := rfl
    have hc : c.toNat = c.val.toNat := rfl
    omega

theorem IsOrdinary.isAlphanum_of_mem {s : String} (h : IsOrdinary s) {c : Char}
    (hc : c ∈ s.toList) : c.isAlphanum := List.all_eq_true.mp h.2 c hc

theorem IsOrdinary.toNat_lt_of_mem {s : String} (h : IsOrdinary s) {c : Char} (hc : c ∈ s.toList) :
    c.toNat < 128 := toNat_lt_of_isAlphanum (h.isAlphanum_of_mem hc)

theorem IsOrdinary.underscore_notMem {s : String} (h : IsOrdinary s) : '_' ∉ s.toList :=
  fun hmem => absurd (h.isAlphanum_of_mem hmem) (by decide)

/-- Nothing is replaced in an ordinary name; at most an underscore is put behind it. -/
private theorem IsOrdinary.identifier_cases {s : String} (h : IsOrdinary s) :
    identifier s = s ∨ identifier s = s.push '_' := by
  have hname : String.ofList (nameChars s.toList) = s := by
    rw [(nameChars_eq_iff h.underscore_notMem).mpr ⟨rfl, h.1⟩, String.ofList_toList]
  have hform := identifierForm s
  generalize identifier s = name at hform
  cases hform with
  | free => exact .inl hname
  | reserved => exact .inr rfl

/-- Different ordinary names stay different. -/
theorem IsOrdinary.eq_of_identifier_eq {s t : String} (hs : IsOrdinary s) (ht : IsOrdinary t)
    (hsame : identifier s = identifier t) : s = t := by
  have hpush {u v : String} (hu : IsOrdinary u) : u ≠ v.push '_' := by
    rintro rfl
    exact hu.underscore_notMem (by simp)
  rcases hs.identifier_cases with hone | hone <;> rcases ht.identifier_cases with hother | hother <;>
    rw [hone, hother] at hsame
  · exact hsame
  · exact absurd hsame (hpush hs)
  · exact absurd hsame.symm (hpush ht)
  · simpa [← String.toList_inj] using hsame

private theorem isAlphanum_toLower {c : Char} (h : c.isAlphanum) : c.toLower.isAlphanum := by
  by_cases hupper : c.isUpper
  · simp [Char.isAlphanum, Char.isAlpha, hupper]
  · rwa [Char.toLower_eq_of_not_isUpper hupper]

theorem IsOrdinary.asciiLowercase {s : String} (h : IsOrdinary s) :
    IsOrdinary (asciiLowercase s) := by
  have hparts : ((s.toList.map Char.toLower).all Char.isAlphanum) = true := by
    rw [List.all_eq_true]
    intro c hc
    obtain ⟨d, hd, rfl⟩ := List.mem_map.mp hc
    exact isAlphanum_toLower (h.isAlphanum_of_mem hd)
  rw [IsOrdinary, Text.asciiLowercase, String.toList_ofList, and_iff_left hparts]
  cases hs : s.toList with
  | nil => simpa [hs, isName] using h.1
  | cons c rest =>
    have hstart : isNameStart c := by
      have hname := h.1
      rw [hs, isName, Bool.and_eq_true] at hname
      exact hname.1
    have hlower := (isName_otherForm hstart).1
    rw [lowerChar, if_pos (h.toNat_lt_of_mem (hs ▸ List.mem_cons_self ..))] at hlower
    rw [List.map_cons, ← List.singleton_append, isName_append (by simp)]
    refine ⟨hlower, List.all_eq_true.mpr fun d hd => ?_⟩
    rw [hs, List.map_cons, List.all_cons, Bool.and_eq_true] at hparts
    simp [isNamePart, List.all_eq_true.mp hparts.2 d hd]

/-- Pascal case changes nothing but the case of a letter. -/
theorem IsOrdinary.asciiLowercase_eq_of_pascalCase_eq {s t : String} (hs : IsOrdinary s)
    (ht : IsOrdinary t) (hsame : pascalCase s = pascalCase t) :
    Text.asciiLowercase s = Text.asciiLowercase t := by
  have hlower {u : String} (hu : IsOrdinary u) :
      Text.asciiLowercase (pascalCase u) = Text.asciiLowercase u := by
    rw [Text.asciiLowercase, pascalCase, String.toList_ofList, Text.asciiLowercase]
    cases hchars : u.toList with
    | nil => rfl
    | cons c rest =>
      rw [pascalChars, upperChar, if_pos (hu.toNat_lt_of_mem (hchars ▸ List.mem_cons_self ..))]
      simp
  rw [← hlower hs, ← hlower ht, hsame]

end ApiSkeleton.Text
