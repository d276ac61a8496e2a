import ApiSkeleton.Tree.Printer
import Mathlib.Tactic.SplitIfs

namespace ApiSkeleton

theorem isDigit_of_mem_repr {n : Nat} {c : Char} (hc : c ∈ n.repr.toList) : c.isDigit := by
  rw [Nat.repr_eq_ofList_toDigits, String.toList_ofList] at hc
  exact Nat.isDigit_of_mem_toDigits (by decide) (by decide) hc

/-- Whole numbers are written with digits and a sign. -/
theorem isDigit_of_mem_toString {n : Int} {c : Char} (hc : c ∈ (toString n).toList) :
    c.isDigit ∨ c = '-' := by
  rw [Int.toString_eq_repr] at hc
  unfold Int.repr at hc
  split at hc
  · exact .inl (isDigit_of_mem_repr hc)
  · rw [String.toList_append, List.mem_append] at hc
    rcases hc with hc | hc
    · exact .inr (by simpa using hc)
    · exact .inl (isDigit_of_mem_repr hc)

/-- Nothing is below the space. -/
def Printable (cs : List Char) : Prop := ∀ c ∈ cs, 32 ≤ c.toNat

instance : DecidablePred Printable := fun cs =>
  List.decidableBAll (fun c : Char => 32 ≤ c.toNat) cs

theorem printable_append_iff {cs ds : List Char} :
    Printable (cs ++ ds) ↔ Printable cs ∧ Printable ds := List.forall_mem_append

theorem printable_cons_iff {c : Char} {cs : List Char} :
    Printable (c :: cs) ↔ 32 ≤ c.toNat ∧ Printable cs := List.forall_mem_cons

private theorem Printable.subset {cs ds : List Char} (h : Printable ds) (hsubset : cs ⊆ ds) :
    Printable cs := fun c hc => h c (hsubset hc)

theorem le_toNat_of_isDigit {c : Char} (h : c.isDigit) : 32 ≤ c.toNat := by
  simp only [Char.isDigit, Bool.and_eq_true, decide_eq_true_eq, ge_iff_le,
    UInt32.le_iff_toNat_le] at h
  have h0 : '0'.val.toNat = 48 := rfl
  have hc : c.toNat = c.val.toNat := rfl
  omega

theorem printable_repr (n : Nat) : Printable n.repr.toList := fun _ hc =>
  le_toNat_of_isDigit (isDigit_of_mem_repr hc)

theorem printable_replicate (n : Nat) : Printable (List.replicate n '0') := fun c hc => by
  rw [List.eq_of_mem_replicate hc]
  decide

namespace Decimal

variable {digits : List Char}

theorem printable_positionalChars (h : Printable digits) (exponent : Int) :
    Printable (positionalChars digits exponent) := by
  unfold positionalChars
  dsimp only
  split
  · exact printable_append_iff.mpr
      ⟨printable_append_iff.mpr ⟨h, printable_replicate _⟩, by decide⟩
  · split
    · refine printable_append_iff.mpr ⟨h.subset (List.take_subset ..), printable_cons_iff.mpr ?_⟩
      exact ⟨by decide, h.subset (List.drop_subset ..)⟩
    · exact printable_append_iff.mpr
        ⟨printable_append_iff.mpr ⟨by decide, printable_replicate _⟩, h⟩

theorem printable_exponentChars (plusSign : Bool) (h : Printable digits) (exponent : Int) :
    Printable (exponentChars plusSign digits exponent) := by
  have hsign {p : Prop} [Decidable p] :
      Printable (if p then ['-'] else if plusSign then ['+'] else []) := by
    split_ifs <;> decide
  unfold exponentChars
  refine printable_append_iff.mpr
    ⟨printable_append_iff.mpr ⟨?_, printable_cons_iff.mpr ⟨by decide, hsign⟩⟩, printable_repr _⟩
  split
  · exact h
  · exact h
  · obtain ⟨hfirst, hrest⟩ := printable_cons_iff.mp h
    exact printable_cons_iff.mpr ⟨hfirst, printable_cons_iff.mpr ⟨by decide, hrest⟩⟩

theorem printable_render_jsonStyle (x : Binary64) : Printable (jsonStyle.render x).toList := by
  have hsign : Printable (if x.isNegative then ['-'] else []) := by split <;> decide
  have hdigits := printable_repr (shortest tieEven x).digits
  unfold Style.render
  dsimp only [jsonStyle]
  split
  · decide
  · split
    · split <;> decide
    · split
      · rw [String.toList_ofList]
        exact printable_append_iff.mpr ⟨hsign, by decide⟩
      · rw [String.toList_ofList]
        refine printable_append_iff.mpr ⟨hsign, ?_⟩
        split
        · exact printable_positionalChars hdigits _
        · exact printable_exponentChars _ hdigits _

end Decimal

namespace Text

theorem printable_quoteChar (c : Char) : Printable (quoteChar c) := by
  have hdigit : ∀ n < 16, 32 ≤ (hexDigit n).toNat := by decide
  fun_cases quoteChar c with
  | case8 _ _ _ _ _ _ _ hcontrol =>
    have hhigh := hdigit (c.toNat / 16) (by omega)
    have hlow := hdigit (c.toNat % 16) (by omega)
    have hletters : Printable ['\\', 'u', '0', '0'] := by decide
    exact printable_append_iff.mpr ⟨hletters,
      printable_cons_iff.mpr ⟨hhigh, List.forall_mem_singleton.mpr hlow⟩⟩
  | case9 _ _ _ _ _ _ _ hcontrol => exact List.forall_mem_singleton.mpr (Nat.not_lt.mp hcontrol)
  | _ => decide

theorem printable_quoted (s : String) : Printable (quoted s).toList := by
  have hquote : Printable ['"'] := by decide
  rw [quoted, String.toList_ofList, quotedChars, printable_cons_iff, printable_append_iff]
  refine ⟨by decide, fun c hc => ?_, hquote⟩
  obtain ⟨d, -, hc⟩ := List.mem_flatMap.mp hc
  exact printable_quoteChar d c hc

end Text

theorem printable_intercalate {separator : String} (hseparator : Printable separator.toList)
    {texts : List String} (h : ∀ s ∈ texts, Printable s.toList) :
    Printable (separator.intercalate texts).toList := by
  induction texts with
  | nil => simp [Printable]
  | cons first rest ih =>
    rw [List.forall_mem_cons] at h
    cases rest with
    | nil => simpa using h.1
    | cons second more =>
      rw [String.intercalate_cons_cons, String.toList_append, String.toList_append,
        printable_append_iff, printable_append_iff]
      exact ⟨⟨h.1, hseparator⟩, ih h.2⟩

namespace Tree

mutual
/-- What is printed has no character below the space, whatever the texts in it hold. -/
theorem printable_render (t : Tree) : Printable t.render.toList := by
  cases t with
  | null => decide
  | bool b => cases b <;> decide
  | int n =>
    intro c hc
    rcases isDigit_of_mem_toString hc with hdigit | rfl
    · exact le_toNat_of_isDigit hdigit
    · decide
  | float x => exact Decimal.printable_render_jsonStyle x
  | text s => exact Text.printable_quoted s
  | list items =>
    have hitems := printable_intercalate (show Printable ",".toList by decide)
      (printable_itemTexts items)
    simp only [render, String.toList_append, printable_append_iff]
    exact ⟨⟨by decide, hitems⟩, by decide⟩
  | object members =>
    have hmembers := printable_intercalate (show Printable ",".toList by decide)
      (printable_memberTexts members)
    simp only [render, String.toList_append, printable_append_iff]
    exact ⟨⟨by decide, hmembers⟩, by decide⟩

theorem printable_itemTexts (items : List Tree) : ∀ s ∈ itemTexts items, Printable s.toList := by
  cases items with
  | nil => simp [itemTexts]
  | cons t rest =>
    rw [itemTexts, List.forall_mem_cons]
    exact ⟨printable_render t, printable_itemTexts rest⟩

theorem printable_memberTexts (members : List (String × Tree)) :
    ∀ s ∈ memberTexts members, Printable s.toList := by
  rcases members with - | ⟨⟨key, t⟩, rest⟩
  · simp [memberTexts]
  · rw [memberTexts, List.forall_mem_cons, String.toList_append, String.toList_append,
      printable_append_iff, printable_append_iff]
    exact ⟨⟨⟨Text.printable_quoted key, by decide⟩, printable_render t⟩, printable_memberTexts rest⟩
end

/-- A text that is taken for a member either is the member or is printable. -/
theorem eq_text_or_printable_asPrinted (t : Tree) :
    t = .text t.asPrinted ∨ Printable t.asPrinted.toList := by
  cases t with
  | text s => exact .inl rfl
  | _ => exact .inr (printable_render _)

end Tree

end ApiSkeleton
