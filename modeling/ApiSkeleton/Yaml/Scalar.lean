import ApiSkeleton.Yaml.Cursor
import ApiSkeleton.Text.Quoted

namespace ApiSkeleton.Yaml

/-- Blanks and line ends that have been passed but not yet become part of a scalar. -/
inductive Gap where
  | none
  /-- Blanks within a line, last one first. -/
  | blanks (reversed : List Char)
  /-- The first line end, and the further ones in order. -/
  | breaks (first further : List Char)

/-- What a gap becomes inside a scalar: one line end becomes a space, of several the first is
    dropped. -/
def Gap.text : Gap → List Char
  | .none => []
  | .blanks reversed => reversed.reverse
  | .breaks first further =>
    if first = ['\n'] then if further.isEmpty then [' '] else further else first ++ further

def Gap.hasBreak : Gap → Bool
  | .breaks _ _ => true
  | _ => false

/-- Passes one blank or line end. -/
def Gap.pass (gap : Gap) (c : Cursor) : Gap × Cursor :=
  if (c.peek.map isSpaceOrTab).getD false then
    match gap with
    | .none => (.blanks c.rest.head?.toList, c.skip)
    | .blanks reversed => (.blanks (c.rest.head?.toList ++ reversed), c.skip)
    | .breaks first further => (.breaks first further, c.skip)
  else
    match gap with
    | .breaks first further => (.breaks first (further ++ c.breakText), c.skipBreak)
    | _ => (.breaks c.breakText [], c.skipBreak)

/-- The brackets and separators of flow collections. -/
def isFlowIndicator (c : Char) : Bool :=
  c == ',' || c == '[' || c == ']' || c == '\x7b' || c == '\x7d'

/-- Reads a plain scalar in a block of the given indentation: the characters so far, last one
    first, the gap passed since then, and whether the place follows a gap. -/
def readPlain (inFlow : Bool) (indent : Nat) : Nat → List Char → Gap → Cursor →
    Option (List Char × Gap × Cursor)
  | 0, _, _, _ => none
  | fuel + 1, reversed, gap, c =>
    let stop := some (reversed.reverse, gap, c)
    match c.peek with
    | none => stop
    | some d =>
      if isSpaceOrTab d || isBreak d then
        if gap.hasBreak && c.column < indent && d == '\t' then none
        else
          let (gap, c) := gap.pass c
          readPlain inFlow indent fuel reversed gap c
      else
        let afterGap := match gap with
          | .none => reversed.isEmpty
          | _ => true
        let outdented := match gap with
          | .none => false
          | _ => !inFlow && c.column < indent
        if afterGap && (outdented || c.atDocumentMark || d == '#') then stop
        else if inFlow && d == ':' && (c.peekAt 1).any fun e => isFlowIndicator e || e == '?' then
          none
        else if d == ':' && endsWord (c.peekAt 1) then stop
        else if inFlow && isFlowIndicator d then stop
        else readPlain inFlow indent fuel (d :: (gap.text.reverse ++ reversed)) .none c.skip

/-- The characters that stand for themselves or another one behind a backslash. -/
def simpleEscape? : Char → Option Char
  | '0' => some '\x00'
  | 'a' => some '\x07'
  | 'b' => some '\x08'
  | 't' | '\t' => some '\t'
  | 'n' => some '\n'
  | 'v' => some '\x0b'
  | 'f' => some '\x0c'
  | 'r' => some '\r'
  | 'e' => some '\x1b'
  | ' ' => some ' '
  | '"' => some '"'
  | '/' => some '/'
  | '\\' => some '\\'
  | 'N' => some '\u0085'
  | '_' => some '\u00a0'
  | 'L' => some '\u2028'
  | 'P' => some '\u2029'
  | _ => none

/-- How many hexadecimal digits follow an escape letter. -/
def escapeWidth? : Char → Option Nat
  | 'x' => some 2
  | 'u' => some 4
  | 'U' => some 8
  | _ => none

/-- The number that hexadecimal digits denote. -/
def hexNumber? (cs : List Char) : Option Nat :=
  cs.foldl (fun n c => do return (← n) * 16 + (← Text.hexValue? c)) (some 0)

/-- Reads one escape, after its backslash. -/
def readEscape? (c : Cursor) : Option (Char × Cursor) :=
  match c.peek with
  | none => none
  | some e =>
    match simpleEscape? e with
    | some d => some (d, c.skip)
    | none =>
      match escapeWidth? e with
      | none => none
      | some width =>
        let digits := (c.rest.drop 1).take width
        if digits.length ≠ width then none
        else
          match hexNumber? digits with
          | none => none
          | some n =>
            if h : n.isValidChar then some (Char.ofNatAux n h, c.skipMany (width + 1)) else none

/-- Reads a quoted scalar after its first quote: the characters so far, last one first, and the gap
    passed since then. -/
def readQuoted (single : Bool) : Nat → List Char → Gap → Cursor → Option (List Char × Cursor)
  | 0, _, _, _ => none
  | fuel + 1, reversed, gap, c =>
    match c.peek with
    | none => none
    | some d =>
      if isSpaceOrTab d || isBreak d then
        let (gap, c) := gap.pass c
        readQuoted single fuel reversed gap c
      else if c.atDocumentMark then none
      else
        let reversed := gap.text.reverse ++ reversed
        if single && d == '\'' then
          if c.peekAt 1 = some '\'' then
            readQuoted single fuel ('\'' :: reversed) .none (c.skipMany 2)
          else some (reversed.reverse, c.skip)
        else if !single && d == '"' then some (reversed.reverse, c.skip)
        else if !single && d == '\\' then
          if (c.peekAt 1).any isBreak then
            readQuoted single fuel reversed (.breaks [] []) c.skip.skipBreak
          else
            match readEscape? c.skip with
            | none => none
            | some (e, after) => readQuoted single fuel (e :: reversed) .none after
        else readQuoted single fuel (d :: reversed) .none c.skip

/-- What becomes of the line ends at the end of a block scalar. -/
inductive Chomping where
  | strip
  | clip
  | keep
deriving DecidableEq

/-- The header of a block scalar: chomping, and the indentation if it is given. -/
def readHeader? (c : Cursor) : Option (Chomping × Option Nat × Cursor) :=
  let chomping? (d : Option Char) : Option Chomping :=
    if d = some '+' then some .keep else if d = some '-' then some .strip else none
  let indent? (d : Option Char) : Option Nat :=
    match d with
    | some e => if e.isDigit then some (e.toNat - 48) else none
    | none => none
  let parts : Option (Chomping × Option Nat × Cursor) :=
    match chomping? c.peek with
    | some chomping =>
      match indent? c.skip.peek with
      | some 0 => none
      | some n => some (chomping, some n, c.skipMany 2)
      | none => some (chomping, none, c.skip)
    | none =>
      match indent? c.peek with
      | some 0 => none
      | some n =>
        match chomping? c.skip.peek with
        | some chomping => some (chomping, some n, c.skipMany 2)
        | none => some (.clip, some n, c.skip)
      | none => some (.clip, none, c)
  match parts with
  | none => none
  | some (chomping, indent, c) =>
    let c := c.skipWhile isSpaceOrTab
    let c := if c.peek = some '#' then c.skipWhile fun _ => true else c
    if endsLine c.peek then some (chomping, indent, c.skipBreak) else none

/-- Passes empty lines and indentation: the line ends passed, the place of the next line's text, and
    the largest indentation seen. Without a known indentation all spaces count as such. -/
def readEmptyLines (indent : Option Nat) : Nat → List Char → Nat → Cursor →
    Option (List Char × Nat × Cursor)
  | 0, _, _, _ => none
  | fuel + 1, breaks, widest, c =>
    let spaces := (c.takeWhile (· == ' ')).length
    let taken := match indent with
      | none => spaces
      | some n => min spaces (n - c.column)
    let c := c.skipMany taken
    let widest := max widest c.column
    let inIndent := match indent with
      | none => true
      | some n => c.column < n
    if inIndent && c.peek = some '\t' then none
    else if c.peek.any isBreak then
      readEmptyLines indent fuel (breaks ++ c.breakText) widest c.skipBreak
    else some (breaks, widest, c)

/-- Reads the lines of a block scalar: the text so far, the line end that has not become part of it
    yet, the further line ends passed, and whether the line before started with a blank. -/
def readLines (literal : Bool) (indent : Nat) : Nat → List Char → List Char → List Char → Bool →
    Cursor → Option (List Char × List Char × List Char × Cursor)
  | 0, _, _, _, _, _ => none
  | fuel + 1, text, first, further, blankBefore, c =>
    if c.column ≠ indent ∨ c.peek.isNone then some (text, first, further, c)
    else
      let blankHere := (c.peek.map isSpaceOrTab).getD false
      let joint :=
        if !literal && first == ['\n'] && !blankBefore && !blankHere then
          if further.isEmpty then [' '] else []
        else first
      let line := c.takeWhile fun _ => true
      let atEnd := c.skipWhile fun _ => true
      match readEmptyLines (some indent) (fuel + 1) [] 0 atEnd.skipBreak with
      | none => none
      | some (breaks, _, next) =>
        readLines literal indent fuel (text ++ joint ++ further ++ line) atEnd.breakText breaks
          blankHere next

/-- Reads a block scalar after its indicator, in a block of the given indentation, which is below
    zero outside all blocks. -/
def readBlockScalar? (literal : Bool) (around : Int) (c : Cursor) : Option (List Char × Cursor) :=
  match readHeader? c with
  | none => none
  | some (chomping, given, c) =>
    let fuel := c.rest.length + 2
    let known := given.map fun n => if 0 ≤ around then around.toNat + n else n
    match readEmptyLines known fuel [] 0 c with
    | none => none
    | some (breaks, widest, c) =>
      let indent := known.getD (max (max widest (around + 1).toNat) 1)
      match readLines literal indent fuel [] [] breaks false c with
      | none => none
      | some (text, first, further, c) =>
        let tail := match chomping with
          | .strip => []
          | .clip => first
          | .keep => first ++ further
        some (text ++ tail, c)

end ApiSkeleton.Yaml
