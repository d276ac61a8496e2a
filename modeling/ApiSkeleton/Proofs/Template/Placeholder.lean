import ApiSkeleton.Proofs.Template.Run
import ApiSkeleton.Proofs.Text.Identifier
import ApiSkeleton.Template.Named

namespace ApiSkeleton.Template

/-- The words that stand for something else than a name in the context. -/
def reservedNames : List String :=
  ["true", "True", "false", "False", "none", "None", "not", "and", "or", "in", "is", "if", "else",
    "loop", "self"]

/-- A name as it can be asked for in a template. -/
def IsPlainName (s : String) : Prop :=
  s.toList.head?.any (fun c => c.isAlpha || c == '_') ∧
    s.toList.all (fun c => c.isAlphanum || c == '_') ∧ s ∉ reservedNames

instance (s : String) : Decidable (IsPlainName s) :=
  inferInstanceAs (Decidable (_ ∧ _ ∧ _))

/-- A part of the context that a template asks for, and the text behind it. -/
structure Hole where
  name : String
  members : List String
  after : String

/-- What asks for it. -/
def Hole.source (h : Hole) : String :=
  "\x7b\x7b " ++ h.name ++ String.join (h.members.map ("." ++ ·)) ++ " \x7d\x7d" ++ h.after

structure Hole.Plain (h : Hole) : Prop where
  name : IsPlainName h.name
  members : ∀ member ∈ h.members, IsPlainName member
  after : '\x7b' ∉ h.after.toList

/-- A template that only asks for parts of the context, with texts around them. -/
structure Pattern where
  before : String
  holes : List Hole

namespace Pattern

def source (t : Pattern) : String := t.before ++ String.join (t.holes.map Hole.source)

/-- The text with something put into the holes. -/
def filled (t : Pattern) (value : Hole → String) : String :=
  t.before ++ String.join (t.holes.map fun h => value h ++ h.after)

/-- A template whose texts cannot be taken for anything else. -/
structure Plain (t : Pattern) : Prop where
  before : '\x7b' ∉ t.before.toList
  holes : ∀ h ∈ t.holes, h.Plain

end Pattern

/-- The text of a template in a context where everything that it asks for is a text. -/
def Pattern.FilledBy (t : Pattern) (context : Value) (text : String) : Prop :=
  t.Plain ∧ ∃ value : Hole → String, text = t.filled value ∧
    ∀ h ∈ t.holes, (h.name :: h.members).foldlM Value.member context = .ok (.text (value h))

/-- What is asked of an engine: texts stand as they are, and between double braces the names of
texts in the context stand for them. -/
def Engine.FillsIn [Engine] : Prop :=
  ∀ (name : String) (t : Pattern) (context : Value) (text : String), t.FilledBy context text →
    Engine.render name t.source context = .ok text

theorem IsPlainName.exists_chars {s : String} (hs : IsPlainName s) : ∃ c rest,
    s.toList = c :: rest ∧ (c.isAlpha ∨ c = '_') ∧ ∀ d ∈ rest, d.isAlphanum ∨ d = '_' := by
  obtain ⟨hfirst, hall, -⟩ := hs
  cases hchars : s.toList with
  | nil => simp [hchars] at hfirst
  | cons c rest =>
    simp only [hchars, List.head?_cons, Option.any_some, Bool.or_eq_true, beq_iff_eq] at hfirst
    simp only [hchars, List.all_cons, List.all_eq_true, Bool.and_eq_true, Bool.or_eq_true,
      beq_iff_eq] at hall
    exact ⟨c, rest, rfl, hfirst, hall.2⟩

private theorem splitAtMarker_of_plain {cs : List Char} (hcs : '\x7b' ∉ cs) :
    splitAtMarker cs = (cs, none) := by
  induction cs with
  | nil => rfl
  | cons c rest ih =>
    rw [List.mem_cons, not_or] at hcs
    rw [splitAtMarker.eq_4 c rest (fun _ h => absurd h.symm hcs.1) (fun _ h => absurd h.symm hcs.1)
      (fun _ h => absurd h.symm hcs.1), ih hcs.2]

theorem splitAtMarker_append {cs rest : List Char} (hcs : '\x7b' ∉ cs) :
    splitAtMarker (cs ++ '\x7b' :: '\x7b' :: rest) = (cs, some (.print, rest)) := by
  induction cs with
  | nil => rfl
  | cons c more ih =>
    rw [List.mem_cons, not_or] at hcs
    rw [List.cons_append, splitAtMarker.eq_4 c _ (fun _ h => absurd h.symm hcs.1)
      (fun _ h => absurd h.symm hcs.1) (fun _ h => absurd h.symm hcs.1), ih hcs.2]

/-- The first letter of a name begins neither the end of a print nor an operator. -/
private theorem readClose?_of_letter {c : Char} (hc : c.isAlpha ∨ c = '_') (rest : List Char) :
    readClose? false (c :: rest) = none := by
  have hend : c ≠ '\x7d' := by
    rintro rfl
    exact absurd hc (by decide)
  have hedge : c ≠ '-' ∧ c ≠ '+' := by
    constructor <;> (rintro rfl; exact absurd hc (by decide))
  cases rest with
  | nil => rfl
  | cons d more => cases more <;> simp [readClose?, hend, hedge]

theorem isAsciiBlank_of_letter {c : Char} (hc : c.isAlpha ∨ c = '_') :
    Text.isAsciiBlank c = false := by
  rw [← Bool.not_eq_true]
  intro hblank
  simp only [Text.isAsciiBlank, Bool.or_eq_true, beq_iff_eq] at hblank
  rcases hblank with (((rfl | rfl) | rfl) | rfl) | rfl <;> exact absurd hc (by decide)

private theorem readToken?_word {c : Char} {word rest : List Char} (hc : c.isAlpha ∨ c = '_')
    (hword : ∀ d ∈ word, d.isAlphanum ∨ d = '_')
    (hrest : ∀ d ∈ rest.head?, d.isAlphanum = false ∧ d ≠ '_') :
    readToken? (c :: (word ++ rest)) = some (.word (String.ofList (c :: word)), rest) := by
  have hother {d : Char} (hd : ¬ (d.isAlpha ∨ d = '_')) : c ≠ d := by
    rintro rfl
    exact hd hc
  have hparts : ∀ d ∈ word, (d.isAlphanum || d == '_') = true := by
    simpa using hword
  have hstop : rest.takeWhile (fun d => d.isAlphanum || d == '_') = [] ∧
      rest.dropWhile (fun d => d.isAlphanum || d == '_') = rest := by
    cases rest with
    | nil => exact ⟨rfl, rfl⟩
    | cons d more =>
      have hd := hrest d rfl
      simp [hd]
  have hsymbol : isSymbol c = false := by
    rw [isSymbol, ← Bool.not_eq_true, List.contains_iff_mem]
    intro hmem
    fin_cases hmem <;> exact absurd hc (by decide)
  have hdigit : c.isDigit = false := by
    rw [← Bool.not_eq_true]
    intro hdigit
    rcases hc with halpha | rfl
    · rw [Text.isDigit_eq_false_of_isAlpha halpha] at hdigit
      cases hdigit
    · exact absurd hdigit (by decide)
  rw [readToken?.eq_8 c _ (fun _ h => absurd h (hother (by decide)))
    (fun _ h => absurd h (hother (by decide))) (fun _ h => absurd h (hother (by decide)))
    (fun _ h => absurd h (hother (by decide))) (fun _ h => absurd h (hother (by decide)))
    (fun _ h => absurd h (hother (by decide)))]
  have hquote : ¬ (c = '"' ∨ c = '\'') :=
    not_or.mpr ⟨hother (by decide), hother (by decide)⟩
  simp only [hsymbol, hquote, hdigit, hc, Bool.false_eq_true, if_false, if_true,
    List.takeWhile_append_of_pos hparts, List.dropWhile_append_of_pos hparts, hstop,
    List.append_nil]

theorem scan_word {s : String} (hs : IsPlainName s) {cs rest : List Char}
    (hcs : cs.dropWhile Text.isAsciiBlank = s.toList ++ rest)
    (hrest : ∀ d ∈ rest.head?, d.isAlphanum = false ∧ d ≠ '_') (fuel : Nat) :
    scan (fuel + 1) (.inside false 0) cs =
      (scan fuel (.inside false 0) rest).map (.word s :: ·) := by
  obtain ⟨c, word, hchars, hc, hword⟩ := hs.exists_chars
  have hs : String.ofList (c :: word) = s := by rw [← hchars, String.ofList_toList]
  have hsome : cs ≠ [] := by
    rintro rfl
    simp [hchars] at hcs
  obtain ⟨first, more, rfl⟩ := List.exists_cons_of_ne_nil hsome
  rw [hchars] at hcs
  simp only [scan, hcs, List.cons_append, if_true, readClose?_of_letter hc,
    readToken?_word hc hword hrest, hs, Token.balance, Int.add_zero]

private theorem scan_plain {cs : List Char} (hcs : '\x7b' ∉ cs) (blank : Bool) (fuel : Nat) :
    scan (fuel + 1) (.text false blank) cs = some (textToken cs) := by
  cases cs with
  | nil => rfl
  | cons c rest => simp only [scan, splitAtMarker_of_plain hcs]

private theorem scan_open {cs : List Char} (hcs : '\x7b' ∉ cs) (rest : List Char) (blank : Bool)
    (fuel : Nat) :
    scan (fuel + 1) (.text false blank) (cs ++ '\x7b' :: '\x7b' :: ' ' :: rest) =
      (scan fuel (.inside false 0) (' ' :: rest)).map (textToken cs ++ .openPrint :: ·) := by
  have hsplit := @splitAtMarker_append cs (' ' :: rest) hcs
  have hedge : readEdge (' ' :: rest) = (.plain, ' ' :: rest) := rfl
  have hsome : cs ++ '\x7b' :: '\x7b' :: ' ' :: rest ≠ [] := by simp
  generalize cs ++ '\x7b' :: '\x7b' :: ' ' :: rest = source at hsplit hsome
  obtain ⟨first, more, rfl⟩ := List.exists_cons_of_ne_nil hsome
  simp only [scan, hsplit, hedge, keptLead, ne_eq, not_true_eq_false, false_and, if_false]

private theorem scan_point (rest : List Char) (fuel : Nat) :
    scan (fuel + 1) (.inside false 0) ('.' :: rest) =
      (scan fuel (.inside false 0) rest).map (.symbol "." :: ·) := by
  have hclose : readClose? false ('.' :: rest) = none := by
    rcases rest with _ | ⟨c, _ | ⟨d, more⟩⟩ <;> simp [readClose?]
  have hblank : ('.' :: rest).dropWhile Text.isAsciiBlank = '.' :: rest := rfl
  simp only [scan, hblank, if_true, hclose]
  rfl

private theorem scan_close (rest : List Char) (fuel : Nat) :
    scan (fuel + 1) (.inside false 0) (' ' :: '\x7d' :: '\x7d' :: rest) =
      (scan fuel (.text false false) rest).map (.closePrint :: ·) := rfl

/-- The characters of members behind a name, and their tokens. -/
def memberChars (members : List String) : List Char := members.flatMap fun m => '.' :: m.toList

def memberTokens (members : List String) : List Token :=
  members.flatMap fun m => [.symbol ".", .word m]

private theorem length_memberTokens (members : List String) :
    (memberTokens members).length = 2 * members.length := by
  induction members with
  | nil => rfl
  | cons m more ih =>
    rw [List.length_cons, Nat.mul_succ, ← ih]
    rfl

private theorem scan_members {members : List String} (hmembers : ∀ m ∈ members, IsPlainName m)
    (rest : List Char) (fuel : Nat) :
    scan (fuel + 2 * members.length) (.inside false 0) (memberChars members ++ ' ' :: rest) =
      (scan fuel (.inside false 0) (' ' :: rest)).map (memberTokens members ++ ·) := by
  induction members with
  | nil => simp [memberChars, memberTokens]
  | cons m more ih =>
    rw [List.forall_mem_cons] at hmembers
    have hchars : memberChars (m :: more) ++ ' ' :: rest =
        '.' :: (m.toList ++ (memberChars more ++ ' ' :: rest)) := by
      simp [memberChars]
    have hfuel : fuel + 2 * (m :: more).length = fuel + 2 * more.length + 1 + 1 := by
      rw [List.length_cons]
      omega
    have hnext : ∀ d ∈ (memberChars more ++ ' ' :: rest).head?, d.isAlphanum = false ∧ d ≠ '_' := by
      cases more <;> simp [memberChars]
    have hplain : (m.toList ++ (memberChars more ++ ' ' :: rest)).dropWhile Text.isAsciiBlank =
        m.toList ++ (memberChars more ++ ' ' :: rest) := by
      obtain ⟨c, word, hm, hc, -⟩ := hmembers.1.exists_chars
      rw [hm, List.cons_append, List.dropWhile_cons_of_neg (by simp [isAsciiBlank_of_letter hc])]
    rw [hchars, hfuel, scan_point, scan_word hmembers.1 hplain hnext, ih hmembers.2]
    simp [memberTokens, Option.map_map, Function.comp_def]

private theorem length_memberChars {members : List String}
    (hmembers : ∀ m ∈ members, IsPlainName m) :
    2 * members.length ≤ (memberChars members).length := by
  induction members with
  | nil => exact Nat.zero_le _
  | cons m more ih =>
    rw [List.forall_mem_cons] at hmembers
    obtain ⟨c, word, hm, -⟩ := hmembers.1.exists_chars
    have hmore := ih hmembers.2
    have hsplit : memberChars (m :: more) = '.' :: c :: (word ++ memberChars more) := by
      simp [memberChars, hm]
    rw [hsplit]
    simp only [List.length_cons, List.length_append]
    omega

/-- The tokens of a part that is asked for, and of the text behind it. -/
def Hole.tokens (h : Hole) : List Token :=
  .openPrint :: .word h.name :: (memberTokens h.members ++ .closePrint :: textToken h.after.toList)

theorem Hole.toList_source (h : Hole) : h.source.toList =
    '\x7b' :: '\x7b' :: ' ' :: (h.name.toList ++ (memberChars h.members ++
      ' ' :: '\x7d' :: '\x7d' :: h.after.toList)) := by
  have hmembers : (String.join (h.members.map ("." ++ ·))).toList = memberChars h.members := by
    rw [memberChars, String.toList_join, List.flatMap_map]
    simp
  simp [source, hmembers]

private theorem scan_hole {h : Hole} (hh : h.Plain) {cs : List Char} (hcs : '\x7b' ∉ cs)
    (rest : List Char) (blank : Bool) (fuel : Nat) :
    scan (fuel + 1 + 2 * h.members.length + 1 + 1) (.text false blank)
        (cs ++ h.source.toList ++ rest) =
      (scan fuel (.text false false) (h.after.toList ++ rest)).map fun ts =>
        textToken cs ++ .openPrint :: .word h.name :: (memberTokens h.members ++ .closePrint :: ts)
      := by
  have hchars : cs ++ h.source.toList ++ rest = cs ++ '\x7b' :: '\x7b' :: ' ' ::
      (h.name.toList ++ (memberChars h.members ++
        ' ' :: '\x7d' :: '\x7d' :: (h.after.toList ++ rest))) := by
    simp [Hole.toList_source]
  have hnext : ∀ d ∈ (memberChars h.members ++ ' ' :: '\x7d' :: '\x7d' ::
      (h.after.toList ++ rest)).head?, d.isAlphanum = false ∧ d ≠ '_' := by
    cases h.members <;> simp [memberChars]
  have hblank : (' ' :: (h.name.toList ++ (memberChars h.members ++
      ' ' :: '\x7d' :: '\x7d' :: (h.after.toList ++ rest)))).dropWhile Text.isAsciiBlank =
      h.name.toList ++ (memberChars h.members ++
        ' ' :: '\x7d' :: '\x7d' :: (h.after.toList ++ rest)) := by
    obtain ⟨c, word, hname, hc, -⟩ := hh.name.exists_chars
    rw [List.dropWhile_cons_of_pos rfl, hname, List.cons_append,
      List.dropWhile_cons_of_neg (by simp [isAsciiBlank_of_letter hc])]
  rw [hchars, scan_open hcs, scan_word hh.name hblank hnext, scan_members hh.members, scan_close]
  simp [Option.map_map, Function.comp_def]

private theorem scan_holes {holes : List Hole} (hholes : ∀ h ∈ holes, h.Plain) {cs : List Char}
    (hcs : '\x7b' ∉ cs) (blank : Bool) {fuel : Nat}
    (hfuel : (cs ++ holes.flatMap (·.source.toList)).length < fuel) :
    scan fuel (.text false blank) (cs ++ holes.flatMap (·.source.toList)) =
      some (textToken cs ++ holes.flatMap Hole.tokens) := by
  induction holes generalizing cs blank fuel with
  | nil =>
    obtain ⟨less, rfl⟩ := Nat.exists_eq_add_one.mpr (Nat.zero_lt_of_lt hfuel)
    simpa using scan_plain hcs blank less
  | cons h rest ih =>
    rw [List.forall_mem_cons] at hholes
    obtain ⟨hh, hrest⟩ := hholes
    have hmembers := length_memberChars hh.members
    have hname : 0 < h.name.toList.length := by
      obtain ⟨c, word, hname, -⟩ := hh.name.exists_chars
      simp [hname]
    rw [List.flatMap_cons, Hole.toList_source] at hfuel
    simp only [List.length_append, List.length_cons] at hfuel
    obtain ⟨less, rfl⟩ : ∃ less, fuel = less + 1 + 2 * h.members.length + 1 + 1 :=
      ⟨fuel - (2 * h.members.length + 3), by omega⟩
    rw [List.flatMap_cons, ← List.append_assoc, scan_hole hh hcs,
      ih hrest hh.after false (by rw [List.length_append]; omega)]
    simp [Hole.tokens]

/-- A text as a statement, if there is any. -/
def textStatement (cs : List Char) : List Statement :=
  if cs.isEmpty then [] else [.text (String.ofList cs)]

/-- A part of the context as an expression. -/
def Hole.expr (h : Hole) : Expr := h.members.foldl .member (.name h.name)

/-- The statements for a part that is asked for, and for the text behind it. -/
def Hole.statements (h : Hole) : List Statement := .print h.expr :: textStatement h.after.toList

private theorem readParts_members (room : Nat) (e : Expr) (members : List String)
    (rest : List Token) (fuel : Nat) :
    readParts (fuel + 1 + members.length) room e (memberTokens members ++ .closePrint :: rest) =
      some (members.foldl .member e, .closePrint :: rest) := by
  induction members generalizing e with
  | nil => simp [readParts, memberTokens]
  | cons m more ih =>
    have hfuel : fuel + 1 + (m :: more).length = fuel + 1 + more.length + 1 := rfl
    have htokens : memberTokens (m :: more) ++ .closePrint :: rest =
        .symbol "." :: .word m :: (memberTokens more ++ .closePrint :: rest) := rfl
    rw [hfuel, htokens, readParts, ih, List.foldl_cons]

section Close

-- The end of a print ends whatever is being read.

variable (room : Nat) (e : Expr) (rest : List Token) (fuel : Nat)

private theorem readBinaryTail_close (rank : Nat) :
    readBinaryTail (fuel + 1) room rank e (.closePrint :: rest) =
      some (e, .closePrint :: rest) := by
  simp [readBinaryTail]

private theorem readComparison_close :
    readComparison (fuel + 1) room e (.closePrint :: rest) = some (e, .closePrint :: rest) := by
  simp [readComparison, comparison?]

private theorem readAndTail_close :
    readAndTail (fuel + 1) room e (.closePrint :: rest) = some (e, .closePrint :: rest) := by
  simp [readAndTail]

private theorem readOrTail_close :
    readOrTail (fuel + 1) room e (.closePrint :: rest) = some (e, .closePrint :: rest) := by
  simp [readOrTail]

private theorem readChoice_close :
    readChoice (fuel + 1) room e (.closePrint :: rest) = some (e, .closePrint :: rest) := by
  simp [readChoice]

private theorem readFilters_close :
    readFilters (fuel + 1) room e (.closePrint :: rest) = some (e, .closePrint :: rest) := by
  simp [readFilters]

end Close

private theorem constant?_of_plain {name : String} (hname : name ∉ reservedNames) :
    constant? name = none := by
  unfold constant?
  split <;> first | rfl | exact absurd (by decide) hname

section Path

variable {name : String} (hname : name ∉ reservedNames) (members : List String)
  (rest : List Token) (room fuel : Nat)

include hname

private theorem readOperand_path :
    readOperand (fuel + members.length + 3) (room + 1)
        (.word name :: (memberTokens members ++ .closePrint :: rest)) =
      some (members.foldl .member (.name name), .closePrint :: rest) := by
  have hparts := readParts_members (room + 1) (.name name) members rest (fuel + 1)
  have hfuel : fuel + members.length + 2 = fuel + 1 + 1 + members.length := by omega
  rw [readOperand, readSigned, readPrimary]
  · simp only [constant?_of_plain hname, hfuel, hparts]
    rw [← hfuel, readFilters_close]
  · simp

/-- Operators of any rank are looked for behind it, and there is none. -/
private theorem readBinary_path (rank : Nat) :
    readBinary (fuel + members.length + rank + 4) (room + 1) rank
        (.word name :: (memberTokens members ++ .closePrint :: rest)) =
      some (members.foldl .member (.name name), .closePrint :: rest) := by
  induction rank with
  | zero =>
    rw [readBinary]
    simp only [readOperand_path hname, readBinaryTail_close]
  | succ rank ih =>
    have hfuel : fuel + members.length + (rank + 1) + 4 = fuel + members.length + rank + 4 + 1 := by
      omega
    rw [hfuel, readBinary]
    simp only [ih, readBinaryTail_close]

private theorem readExpr_path :
    readExpr (fuel + members.length + 11) (room + 2)
        (.word name :: (memberTokens members ++ .closePrint :: rest)) =
      some (members.foldl .member (.name name), .closePrint :: rest) := by
  have hnot : name ≠ "not" := by
    rintro rfl
    exact hname (by decide)
  have hbinary := readBinary_path hname members rest room fuel 3
  have hread : readNot (fuel + members.length + 8) (room + 1)
      (.word name :: (memberTokens members ++ .closePrint :: rest)) =
      some (members.foldl .member (.name name), .closePrint :: rest) := by
    rw [readNot]
    · simp only [hbinary, readComparison_close]
    · simp [hnot]
  rw [readExpr, readOr, readAnd]
  simp only [hread, readAndTail_close, readOrTail_close, readChoice_close]

end Path

theorem readBody_textToken (cs : List Char) (rest : List Token) (room fuel : Nat)
    (stops : List String) :
    readBody (fuel + (textToken cs).length) room stops (textToken cs ++ rest) =
      (readBody fuel room stops rest).map fun ((body, stop), r) =>
        ((textStatement cs ++ body, stop), r) := by
  cases cs with
  | nil => simp [textToken, textStatement]
  | cons c more => rfl

private theorem readBody_hole {h : Hole} (hname : h.name ∉ reservedNames) (rest : List Token)
    (room fuel : Nat) (stops : List String) :
    readBody (fuel + 1) (room + 2) stops
        (.openPrint :: .word h.name :: (memberTokens h.members ++ .closePrint :: rest)) =
      (readBody fuel (room + 2) stops rest).map fun ((body, stop), r) =>
        ((.print h.expr :: body, stop), r) := by
  obtain ⟨less, hless⟩ : ∃ less, 16 * (Token.word h.name ::
      (memberTokens h.members ++ .closePrint :: rest)).length + 16 =
        less + h.members.length + 11 := by
    rw [List.length_cons, List.length_append, length_memberTokens]
    exact ⟨16 * (2 * h.members.length + (Token.closePrint :: rest).length + 1) + 16 -
      (h.members.length + 11), by omega⟩
  rw [readBody, hless, readExpr_path hname, Hole.expr]

private theorem readBody_holes {holes : List Hole} (hholes : ∀ h ∈ holes, h.Plain) (cs : List Char)
    (room : Nat) {fuel : Nat} (hfuel : (textToken cs ++ holes.flatMap Hole.tokens).length < fuel) :
    readBody fuel (room + 2) [] (textToken cs ++ holes.flatMap Hole.tokens) =
      some ((textStatement cs ++ holes.flatMap Hole.statements, none), []) := by
  induction holes generalizing cs fuel with
  | nil =>
    rw [List.length_append] at hfuel
    obtain ⟨less, rfl⟩ : ∃ less, fuel = less + 1 + (textToken cs).length :=
      ⟨fuel - (textToken cs).length - 1, by omega⟩
    rw [readBody_textToken, List.flatMap_nil, readBody]
    rfl
  | cons h rest ih =>
    rw [List.forall_mem_cons] at hholes
    simp only [List.flatMap_cons, List.length_append, Hole.tokens, List.length_cons] at hfuel
    obtain ⟨less, rfl⟩ : ∃ less, fuel = less + 1 + (textToken cs).length :=
      ⟨fuel - (textToken cs).length - 1, by omega⟩
    have htokens : (h :: rest).flatMap Hole.tokens = .openPrint :: .word h.name ::
        (memberTokens h.members ++ .closePrint ::
          (textToken h.after.toList ++ rest.flatMap Hole.tokens)) := by
      simp [Hole.tokens]
    rw [readBody_textToken, htokens, readBody_hole hholes.1.name.2.2, ih hholes.2]
    · simp [Hole.statements]
    · rw [List.length_append]
      omega

private theorem ofText?_source {t : Pattern} (ht : t.Plain) :
    ofText? t.source = some (textStatement t.before.toList ++ t.holes.flatMap Hole.statements) := by
  have hchars : t.source.toList = t.before.toList ++ t.holes.flatMap (·.source.toList) := by
    simp [Pattern.source, List.flatMap_map]
  have htokens : tokens? t.source.toList =
      some (textToken t.before.toList ++ t.holes.flatMap Hole.tokens) := by
    rw [tokens?, hchars]
    exact scan_holes ht.holes ht.before true (by omega)
  simp only [ofText?, htokens, maxNesting]
  rw [readBody_holes ht.holes t.before.toList 148 (by omega)]

private theorem eval_members (members : List String) (e : Expr) (s : Scope) :
    (members.foldl .member e).eval s = (e.eval s >>= members.foldlM Value.member) := by
  induction members generalizing e with
  | nil => cases h : e.eval s <;> simp [h, bind, Except.bind]
  | cons m more ih =>
    rw [List.foldl_cons, ih, Expr.eval, bind_assoc]
    rfl

/-- Where nothing is assigned, a name stands for the part of the context. -/
private theorem eval_name_ofContext {context v : Value} {name : String}
    (h : context.member name = .ok v) :
    (Expr.name name).eval (Scope.ofContext context) = .ok v := by
  have hlocals : Scope.lookup? name (Scope.ofContext context).frames = none := by
    simp [Scope.ofContext, Scope.lookup?, findMember?]
  rw [Expr.eval, Scope.find?, hlocals]
  cases context with
  | map entries =>
    simp only [Value.member, Except.ok.injEq] at h
    subst h
    simp only [Scope.ofContext]
    cases Value.get? entries (.text name) with
    | none => rfl
    | some found => cases found <;> rfl
  | undefined => cases h
  | _ => simpa [Value.member, Scope.ofContext] using h

private theorem eval_expr {h : Hole} {context v : Value}
    (hv : (h.name :: h.members).foldlM Value.member context = .ok v) :
    h.expr.eval (Scope.ofContext context) = .ok v := by
  rw [List.foldlM_cons] at hv
  obtain ⟨first, hfirst, hrest⟩ := bind_eq_ok_iff.mp hv
  rw [Hole.expr, eval_members, eval_name_ofContext hfirst, ok_bind, hrest]

theorem runAll_textStatement (cs : List Char) (s : Scope) :
    runAll (textStatement cs) s = .ok (String.ofList cs, s) := by
  cases cs <;> simp [textStatement]

private theorem runAll_holes {holes : List Hole} {context : Value} {value : Hole → String}
    (hvalue : ∀ h ∈ holes,
      (h.name :: h.members).foldlM Value.member context = .ok (.text (value h))) :
    runAll (holes.flatMap Hole.statements) (Scope.ofContext context) =
      .ok (String.join (holes.map fun h => value h ++ h.after), Scope.ofContext context) := by
  induction holes with
  | nil => rfl
  | cons h rest ih =>
    rw [List.forall_mem_cons] at hvalue
    have hhole : runAll h.statements (Scope.ofContext context) =
        .ok (value h ++ h.after, Scope.ofContext context) := by
      simp [Hole.statements, eval_expr hvalue.1, runAll_textStatement]
    have hall := runAll_append _ _ hhole (ih hvalue.2)
    rwa [← String.join_cons] at hall

/-- The engine of this library does what is asked of engines. -/
theorem fillsIn : Engine.FillsIn := by
  rintro name t context _ ⟨ht, value, rfl, hvalue⟩
  have hbefore := runAll_textStatement t.before.toList (Scope.ofContext context)
  have hrun := runAll_append _ _ hbefore (runAll_holes hvalue)
  simp [Engine.render, ofText?_source ht, render, hrun, Pattern.filled]

end ApiSkeleton.Template
