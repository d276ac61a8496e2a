import ApiSkeleton.Text.Quoted
import Mathlib.Data.List.Infix

namespace ApiSkeleton.Text

/-- The characters that end a line. -/
def isLineBreak (c : Char) : Bool := c ∈ ['\n', '\r', '\u2028', '\u2029']

/-- Puts characters in front of the first line. -/
def joinFirst (front : List Char) : List (List Char) → List (List Char)
  | [] => [front]
  | line :: more => (front ++ line) :: more

/-- The lines of some characters. A carriage return and a line feed behind it end one line. -/
def lineChars : List Char → List (List Char)
  | [] => [[]]
  | '\r' :: '\n' :: rest => [] :: lineChars rest
  | c :: rest => if isLineBreak c then [] :: lineChars rest else joinFirst [c] (lineChars rest)

/-- The lines of a text. -/
def lines (s : String) : List (List Char) := lineChars s.toList

/-- Nothing ends a line. -/
def Unbroken (cs : List Char) : Prop := ∀ c ∈ cs, isLineBreak c = false

instance : DecidablePred Unbroken := fun cs =>
  List.decidableBAll (fun c : Char => isLineBreak c = false) cs

theorem unbroken_append_iff {cs ds : List Char} :
    Unbroken (cs ++ ds) ↔ Unbroken cs ∧ Unbroken ds := List.forall_mem_append

/-- A line that is all comment. -/
def IsComment (line : List Char) : Prop := "//".toList <+: line

instance : DecidablePred IsComment := fun _ => inferInstanceAs (Decidable (_ <+: _))

theorem joinFirst_nil {ls : List (List Char)} (h : ls ≠ []) : joinFirst [] ls = ls := by
  obtain ⟨line, more, rfl⟩ := List.exists_cons_of_ne_nil h
  rfl

private theorem joinFirst_joinFirst (front more : List Char) (ls : List (List Char)) :
    joinFirst front (joinFirst more ls) = joinFirst (front ++ more) ls := by
  cases ls <;> simp [joinFirst]

theorem joinFirst_append (front : List Char) {ls : List (List Char)} (h : ls ≠ [])
    (others : List (List Char)) :
    joinFirst front (ls ++ others) = joinFirst front ls ++ others := by
  obtain ⟨line, more, rfl⟩ := List.exists_cons_of_ne_nil h
  rfl

/-- A comment stays one, whatever is behind it in its line. -/
theorem forall_mem_joinFirst_iff {front : List Char} (hfront : IsComment front)
    {ls : List (List Char)} :
    (∀ line ∈ joinFirst front ls, IsComment line) ↔ ∀ line ∈ ls.tail, IsComment line := by
  cases ls with
  | nil => simpa [joinFirst] using hfront
  | cons line more =>
    rw [joinFirst, List.forall_mem_cons, List.tail_cons]
    exact and_iff_right (hfront.trans (List.prefix_append ..))

theorem lineChars_ne_nil (cs : List Char) : lineChars cs ≠ [] := by
  fun_cases lineChars cs with
  | case4 c rest => cases lineChars rest <;> simp [joinFirst]
  | _ => simp

private theorem lineChars_cons_of_not_break {c : Char} (hc : isLineBreak c = false)
    (rest : List Char) :
    lineChars (c :: rest) = joinFirst [c] (lineChars rest) := by
  have hreturn : c ≠ '\r' := by
    rintro rfl
    exact absurd hc (by decide)
  rw [lineChars.eq_3 _ _ (fun _ h => absurd h hreturn), if_neg (by simp [hc])]

/-- Where there is no line break, nothing but the first line changes. -/
theorem lineChars_append {front : List Char} (h : Unbroken front)
    (rest : List Char) : lineChars (front ++ rest) = joinFirst front (lineChars rest) := by
  induction front with
  | nil => rw [List.nil_append, joinFirst_nil (lineChars_ne_nil rest)]
  | cons c more ih =>
    obtain ⟨hfirst, hmore⟩ := List.forall_mem_cons.mp h
    rw [List.cons_append, lineChars_cons_of_not_break hfirst, ih hmore, joinFirst_joinFirst,
      List.singleton_append]

private theorem lineChars_of_unbroken {cs : List Char} (h : Unbroken cs) :
    lineChars cs = [cs] := by
  have hsame := lineChars_append h []
  rwa [List.append_nil, lineChars, joinFirst, List.append_nil] at hsame

/-- A line feed ends a line and does nothing else, unless it follows a carriage return. -/
private theorem lineChars_append_newline {front : List Char} (h : front.getLast? ≠ some '\r')
    (rest : List Char) : lineChars (front ++ '\n' :: rest) = lineChars front ++ lineChars rest := by
  -- What stands behind the first character begins with a line feed only if it did so before.
  have hbehind {c : Char} {more : List Char} (hlast : (c :: more).getLast? ≠ some '\r')
      (h : ∀ after, c = '\r' → more = '\n' :: after → False) (after : List Char) (hc : c = '\r') :
      more ++ '\n' :: rest = '\n' :: after → False := by
    cases more with
    | nil => exact absurd (congrArg some hc) hlast
    | cons d more => exact fun hmore => h more hc (by rw [(List.cons.inj hmore).1])
  have htail {c : Char} {more : List Char} (hlast : (c :: more).getLast? ≠ some '\r') :
      more.getLast? ≠ some '\r' := by
    cases more with
    | nil => simp
    | cons d more => rwa [List.getLast?_cons_cons] at hlast
  fun_induction lineChars front with
  | case1 =>
    rw [List.nil_append, lineChars.eq_3 _ _ (fun _ h => absurd h (by decide)), if_pos (by decide)]
    rfl
  | case2 more ih =>
    rw [List.cons_append, List.cons_append, lineChars, ih (htail (htail h))]
    rfl
  | case3 c more hfeed hbreak ih =>
    rw [List.cons_append, lineChars.eq_3 _ _ (hbehind h hfeed), if_pos hbreak, ih (htail h),
      List.cons_append]
  | case4 c more hfeed hbreak ih =>
    rw [List.cons_append, lineChars.eq_3 _ _ (hbehind h hfeed), if_neg hbreak, ih (htail h),
      joinFirst_append _ (lineChars_ne_nil _)]

theorem lines_append {front : String} (h : Unbroken front.toList) (rest : String) :
    lines (front ++ rest) = joinFirst front.toList (lines rest) := by
  rw [lines, String.toList_append, lineChars_append h, lines]

theorem lines_of_unbroken {s : String} (h : Unbroken s.toList) : lines s = [s.toList] :=
  lineChars_of_unbroken h

theorem lines_append_newline {front : String} (h : front.toList.getLast? ≠ some '\r')
    (rest : String) : lines (front ++ ("\n" ++ rest)) = lines front ++ lines rest := by
  have hchars : (front ++ ("\n" ++ rest)).toList = front.toList ++ '\n' :: rest.toList := by simp
  rw [lines, hchars, lineChars_append_newline h, lines, lines]

theorem Unbroken.getLast?_ne {cs : List Char} (h : Unbroken cs) : cs.getLast? ≠ some '\r' :=
  fun hlast => absurd (h _ (List.mem_of_getLast? hlast)) (by decide)

end ApiSkeleton.Text
