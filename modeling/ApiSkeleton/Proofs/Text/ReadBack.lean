import ApiSkeleton.Decode
import ApiSkeleton.Proofs.Text.Quoted
import ApiSkeleton.Proofs.Tree.Printer

namespace ApiSkeleton

namespace Tree

private theorem readToken?_quoted (s : String) :
    readToken? (Text.quoted s).toList = some (.scalar (.text s), []) := by
  have hread : readText (s.toList.flatMap Text.quoteChar ++ ['"']) = some (s.toList, []) :=
    Text.readText_quoted s.toList []
  rw [Text.toList_quoted, readToken?, hread]
  simp only [Option.map_some, String.ofList_toList]

theorem readTokens?_nil (count : Nat) : readTokens? count [] = some [] := by
  cases count <;> rfl

/-- A literal is one token. -/
private theorem tokens?_quoted (s : String) :
    tokens? (Text.quoted s).toList = some [.scalar (.text s)] := by
  have htoken := readToken?_quoted s
  rw [Text.toList_quoted] at htoken ⊢
  have hblank : isJsonBlank '"' = false := by decide
  rw [tokens?, List.length_cons, readTokens?, List.dropWhile_cons_of_neg (by simp [hblank])]
  simp only [htoken, readTokens?_nil, Option.map_some]

private theorem ofJson?_quoted (s : String) : ofJson? (Text.quoted s) = some (.text s) := by
  rw [ofJson?, tokens?_quoted]
  rfl

end Tree

theorem decodeText_quoted (s : String) : decodeText .json (Text.quoted s) = .ok (.text s) := by
  rw [decodeText, Tree.ofJson?_quoted]

private theorem decodeDocument_quoted (path : Path) (s : String) :
    decodeDocument path .json (Text.quoted s) = .ok (.text s) := by
  rw [decodeDocument, decodeText_quoted]

namespace Text

/-- The name that a key stands for: a bare word is itself, and all else is read as a document. -/
def keyName? (key : String) : Option String :=
  if isName key.toList then some key
  else
    match decodeText .json key with
    | .ok (.text name) => some name
    | _ => none

private theorem keyName?_quoted (s : String) : keyName? (quoted s) = some s := by
  have hquote : ¬ isName (quoted s).toList := by
    rw [isName_quoted]
    exact Bool.false_ne_true
  rw [keyName?, if_neg hquote, decodeText_quoted]

private theorem keyName?_propertyKey (s : String) : keyName? (propertyKey s) = some s := by
  unfold propertyKey
  by_cases hname : isName s.toList
  · rw [if_pos hname, keyName?, if_pos hname]
  · rw [if_neg hname, keyName?_quoted]

/-- The quotes make a literal longer than its text. -/
theorem quoted_ne_self (s : String) : quoted s ≠ s := by
  intro hsame
  have hlength := congrArg List.length (congrArg String.toList hsame)
  have hbody := length_le_length_quoted s.toList
  rw [toList_quoted, List.length_cons, List.length_append, List.length_singleton] at hlength
  omega

theorem propertyKey_eq_self_iff {s : String} : propertyKey s = s ↔ isName s.toList := by
  unfold propertyKey
  constructor
  · intro hsame
    by_contra hname
    rw [if_neg hname] at hsame
    exact quoted_ne_self s hsame
  · exact fun hname => if_pos hname

theorem propertyKey_eq_quoted_iff {s : String} : propertyKey s = quoted s ↔ ¬ isName s.toList := by
  unfold propertyKey
  constructor
  · intro hsame hname
    rw [if_pos hname] at hsame
    exact quoted_ne_self s hsame.symm
  · exact fun hname => if_neg hname

/-- Every text is what its literal is as a document, and the literal stays on its line. A key is the
name itself where that has the form of a name, and its literal otherwise; either way the name can be
read back, so that no two names have one key. -/
theorem literals_and_keys_read_back (s : String) :
    (∀ path, decodeDocument path .json (quoted s) = .ok (.text s)) ∧
      Printable (quoted s).toList ∧ '\n' ∉ (quoted s).toList ∧ '\r' ∉ (quoted s).toList ∧
      (propertyKey s = s ↔ isName s.toList) ∧ (propertyKey s = quoted s ↔ ¬ isName s.toList) ∧
      keyName? (propertyKey s) = some s ∧ ∀ t, propertyKey s = propertyKey t ↔ s = t := by
  have hprintable := printable_quoted s
  have hcontrol {c : Char} (hc : c.toNat < 32) : c ∉ (quoted s).toList := by
    intro hmem
    have hbound := hprintable c hmem
    omega
  exact ⟨fun path => decodeDocument_quoted path s, hprintable, hcontrol (by decide),
    hcontrol (by decide), propertyKey_eq_self_iff, propertyKey_eq_quoted_iff,
    keyName?_propertyKey s, fun t => propertyKey_injective.eq_iff⟩

end Text

end ApiSkeleton
