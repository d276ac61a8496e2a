import ApiSkeleton.Template.Statement
import ApiSkeleton.Decimal.Reader
import ApiSkeleton.Text.Blank

namespace ApiSkeleton.Template

open Text (isBlank isAsciiBlank isNewline dropEndWhile)

inductive Token where
  | text (s : String)
  | openPrint
  | closePrint
  | openBlock
  | closeBlock
  | word (s : String)
  | string (s : String)
  | int (n : Nat)
  | float (x : Binary64)
  | symbol (s : String)
deriving DecidableEq

/-- What a marker opens. -/
inductive Marker where
  | print
  | block
  | comment
deriving DecidableEq

/-- What a marker asks for the white space beside it. -/
inductive Edge where
  | plain
  | keep
  | trim
deriving DecidableEq

def Edge.ofChar? (c : Option Char) : Edge :=
  if c = some '-' then .trim else if c = some '+' then .keep else .plain

/-- The text up to the first marker, with the marker and what follows it. -/
def splitAtMarker : List Char → List Char × Option (Marker × List Char)
  | '\x7b' :: '\x7b' :: rest => ([], some (.print, rest))
  | '\x7b' :: '%' :: rest => ([], some (.block, rest))
  | '\x7b' :: '#' :: rest => ([], some (.comment, rest))
  | c :: rest =>
    let (lead, found) := splitAtMarker rest
    (c :: lead, found)
  | [] => ([], none)

/-- The edge written behind a marker, and what follows it. -/
def readEdge (cs : List Char) : Edge × List Char :=
  match Edge.ofChar? cs.head? with
  | .plain => (.plain, cs)
  | edge => (edge, cs.drop 1)

/-- Whether only white space has been seen since the last line end, given whether it was so before
    the characters. -/
def blankSince (before : Bool) (cs : List Char) : Bool :=
  cs.foldl (fun blank c => if isNewline c then true else blank && isBlank c) before

/-- The text before a marker as it is kept. -/
def keptLead (marker : Marker) (edge : Edge) (blank : Bool) (lead : List Char) : List Char :=
  match edge with
  | .trim => dropEndWhile isBlank lead
  | .keep => lead
  | .plain =>
    if marker ≠ .print ∧ blank then dropEndWhile (fun c => isBlank c && !isNewline c) lead else lead

/-- Drops one line end. -/
def dropNewline (cs : List Char) : List Char :=
  let cs := if cs.head? = some '\r' then cs.drop 1 else cs
  if cs.head? = some '\n' then cs.drop 1 else cs

/-- Whether a line end will be dropped. -/
def startsLine (cs : List Char) : Bool := (cs.head?.map isNewline).getD false

/-- The text before the first occurrence of a two-character marker, and what follows it. -/
def splitAtPair (a b : Char) : List Char → Option (List Char × List Char)
  | [] => none
  | [_] => none
  | c :: d :: rest =>
    if c = a ∧ d = b then some ([], rest)
    else (splitAtPair a b (d :: rest)).map fun (lead, r) => (c :: lead, r)

/-- Reads the rest of a block that holds one word only. -/
def readBareBlock? (word : List Char) (cs : List Char) : Option (Edge × List Char) :=
  let cs := cs.dropWhile isAsciiBlank
  if word.isPrefixOf cs then
    let (edge, cs) := readEdge ((cs.drop word.length).dropWhile isAsciiBlank)
    match cs with
    | '%' :: '\x7d' :: rest => some (edge, rest)
    | _ => none
  else none

/-- The body of a verbatim part, with the edges of the block that ends it and what follows. -/
def readVerbatim? : List Char → Option (List Char × Edge × Edge × List Char)
  | '\x7b' :: '%' :: rest =>
    let edge := Edge.ofChar? rest.head?
    let inner := if edge = .plain then rest else rest.drop 1
    match readBareBlock? ['e', 'n', 'd', 'r', 'a', 'w'] inner with
    | some (after, r) => some ([], edge, after, r)
    | none => (readVerbatim? rest).map fun (body, e, f, r) => ('\x7b' :: '%' :: body, e, f, r)
  | c :: rest => (readVerbatim? rest).map fun (body, e, f, r) => (c :: body, e, f, r)
  | [] => none

/-- The verbatim text that is kept. -/
def keptVerbatim (first last : Edge) (body : List Char) : List Char :=
  let body := match first with
    | .plain => dropNewline body
    | .trim => body.dropWhile isBlank
    | .keep => body
  match last with
  | .plain =>
    let cut := dropEndWhile (fun c => isBlank c && !isNewline c) body
    if cut.getLast?.all isNewline then cut else body
  | .trim => dropEndWhile isBlank body
  | .keep => body

/-- Reads a string up to its closing quote, with escapes as they are written. -/
def readStringBody (quote : Char) : List Char → Option (List Char × List Char)
  | [] => none
  | '\\' :: c :: rest => (readStringBody quote rest).map fun (cs, r) => ('\\' :: c :: cs, r)
  | c :: rest =>
    if c = quote then some ([], rest)
    else (readStringBody quote rest).map fun (cs, r) => (c :: cs, r)

private def unit16? (cs : List Char) : Option Nat :=
  if cs.length = 4 then Decimal.ofDigits? 16 cs else none

/-- Replaces the escapes in a string. Halves of a surrogate pair stand only together. -/
def unescape? : List Char → Option (List Char)
  | [] => some []
  | '\\' :: 'u' :: a :: b :: c :: d :: rest =>
    match unit16? [a, b, c, d] with
    | none => none
    | some high =>
      if 0xD800 ≤ high ∧ high < 0xDC00 then
        match rest with
        | '\\' :: 'u' :: e :: f :: g :: h :: after =>
          match unit16? [e, f, g, h] with
          | none => none
          | some low =>
            if 0xDC00 ≤ low ∧ low < 0xE000 then
              (unescape? after).map
                (Char.ofNat (0x10000 + (high - 0xD800) * 0x400 + (low - 0xDC00)) :: ·)
            else none
        | _ => none
      else if 0xDC00 ≤ high ∧ high < 0xE000 then none
      else (unescape? rest).map (Char.ofNat high :: ·)
  | '\\' :: c :: rest =>
    let plain? := match c with
      | '"' | '\\' | '/' | '\'' => some c
      | 'b' => some '\x08'
      | 'f' => some '\x0c'
      | 'n' => some '\n'
      | 'r' => some '\r'
      | 't' => some '\t'
      | _ => none
    match plain? with
    | some p => (unescape? rest).map (p :: ·)
    | none => none
  | '\\' :: [] => none
  | c :: rest => (unescape? rest).map (c :: ·)

/-- The parts of a number that have been read so far. -/
inductive NumberPart where
  | whole
  | radix (hex : Bool)
  | fraction
  | exponent
  | exponentDigits
deriving DecidableEq

/-- The part of a number that a character goes on with, if it goes on. -/
def NumberPart.next? (part : NumberPart) (c : Char) : Option NumberPart :=
  if c.isDigit then some (if part = .exponent then .exponentDigits else part)
  else if c = '_' then some part
  else
    match part with
    | .whole =>
      if c = '.' then some .fraction else if c = 'e' ∨ c = 'E' then some .exponent else none
    | .fraction => if c = 'e' ∨ c = 'E' then some .exponent else none
    | .exponent => if c = '+' ∨ c = '-' then some .exponentDigits else none
    | .radix true => if (c.toLower ≥ 'a' ∧ c.toLower ≤ 'f') then some part else none
    | _ => none

/-- The characters of a number, with the part reached at its end and what follows. -/
def readNumberBody (part : NumberPart) : List Char → List Char × NumberPart × List Char
  | [] => ([], part, [])
  | c :: rest =>
    match part.next? c with
    | none => ([], part, c :: rest)
    | some next =>
      let (cs, final, after) := readNumberBody next rest
      (c :: cs, final, after)

/-- Reads a number. Underscores may stand anywhere but at its end. -/
def readNumber? (cs : List Char) : Option (Token × List Char) :=
  let (radix, start, cs) : Nat × NumberPart × List Char := match cs with
    | '0' :: x :: rest =>
      if x = 'b' ∨ x = 'B' then (2, .radix false, rest)
      else if x = 'o' ∨ x = 'O' then (8, .radix false, rest)
      else if x = 'x' ∨ x = 'X' then (16, .radix true, rest)
      else (10, .whole, cs)
    | _ => (10, .whole, cs)
  let (body, final, rest) := readNumberBody start cs
  if body.getLast? = some '_' then none
  else
    let digits := body.filter (· != '_')
    match final with
    | .whole | .radix _ =>
      match Decimal.ofDigits? radix digits with
      | some n => if n < Nat.pow 2 128 then some (.int n, rest) else none
      | none => none
    | _ => (Decimal.unsigned? false digits).map fun x => (.float x, rest)

/-- The operators and brackets of one character. -/
def isSymbol (c : Char) : Bool :=
  ['+', '-', '*', '/', '%', '.', ',', ':', '~', '|', '=', '>', '<', '(', ')', '[', ']', '\x7b',
    '\x7d'].contains c

/-- Reads one token between markers. -/
def readToken? : List Char → Option (Token × List Char)
  | [] => none
  | '/' :: '/' :: rest => some (.symbol "//", rest)
  | '*' :: '*' :: rest => some (.symbol "**", rest)
  | '=' :: '=' :: rest => some (.symbol "==", rest)
  | '!' :: '=' :: rest => some (.symbol "!=", rest)
  | '>' :: '=' :: rest => some (.symbol ">=", rest)
  | '<' :: '=' :: rest => some (.symbol "<=", rest)
  | c :: rest =>
    if isSymbol c then some (.symbol (String.singleton c), rest)
    else if c = '"' ∨ c = '\'' then
      match readStringBody c rest with
      | some (body, after) => (unescape? body).map fun s => (.string (String.ofList s), after)
      | none => none
    else if c.isDigit then readNumber? (c :: rest)
    else if c.isAlpha ∨ c = '_' then
      let isPart (d : Char) : Bool := d.isAlphanum || d == '_'
      some (.word (String.ofList (c :: rest.takeWhile isPart)), rest.dropWhile isPart)
    else none

/-- How a token changes the number of open brackets. -/
def Token.balance : Token → Int
  | .symbol s =>
    if ["(", "[", "\x7b"].contains s then 1 else if [")", "]", "\x7d"].contains s then -1 else 0
  | _ => 0

/-- Where the reader is: in text, perhaps with white space to skip first, or between markers, with
    a number of brackets open. -/
inductive Place where
  | text (trim blank : Bool)
  | inside (block : Bool) (depth : Int)

/-- A text between markers, if there is any. -/
def textToken (cs : List Char) : List Token :=
  if cs.isEmpty then [] else [.text (String.ofList cs)]

/-- The place behind a block or a comment, and the text that is left there. -/
def afterBlock (edge : Edge) (cs : List Char) : Place × List Char :=
  match edge with
  | .plain => (.text false (startsLine cs), dropNewline cs)
  | .trim => (.text true false, cs)
  | .keep => (.text false false, cs)

/-- The marker that ends the part the reader is in, if it comes next. -/
def readClose? (block : Bool) : List Char → Option (Edge × List Char)
  | a :: b :: rest =>
    let first := if block then '%' else '\x7d'
    if a = first ∧ b = '\x7d' then some (.plain, rest)
    else
      match rest with
      | c :: after =>
        if (a = '-' ∨ a = '+') ∧ b = first ∧ c = '\x7d' then some (Edge.ofChar? (some a), after)
        else none
      | [] => none
  | _ => none

/-- The tokens of a template, from a place on; every step takes a character at least. -/
def scan : Nat → Place → List Char → Option (List Token)
  | 0, _, _ => none
  | _, _, [] => some []
  | fuel + 1, .text true blank, cs =>
    let rest := cs.dropWhile isBlank
    scan fuel (.text false (blankSince blank (cs.takeWhile isBlank))) rest
  | fuel + 1, .text false blank, cs =>
    match splitAtMarker cs with
    | (lead, none) => some (textToken lead)
    | (lead, some (marker, after)) =>
      let (edge, body) := readEdge after
      let kept := textToken (keptLead marker edge (blankSince blank lead) lead)
      match marker with
      | .print => (scan fuel (.inside false 0) body).map (kept ++ .openPrint :: ·)
      | .comment =>
        match splitAtPair '#' '\x7d' body with
        | none => none
        | some (comment, rest) =>
          let (place, rest) := afterBlock (Edge.ofChar? comment.getLast?) rest
          (scan fuel place rest).map (kept ++ ·)
      | .block =>
        match readBareBlock? ['r', 'a', 'w'] body with
        | none => (scan fuel (.inside true 0) body).map (kept ++ .openBlock :: ·)
        | some (first, inner) =>
          match readVerbatim? inner with
          | none => none
          | some (verbatim, last, behind, rest) =>
            let (place, rest) := afterBlock behind rest
            (scan fuel place rest).map
              (kept ++ textToken (keptVerbatim first last verbatim) ++ ·)
  | fuel + 1, .inside block balance, cs =>
    match cs.dropWhile isAsciiBlank with
    | [] => some []
    | c :: rest =>
      match if balance = 0 then readClose? block (c :: rest) else none with
      | some (edge, after) =>
        if block then
          let (place, after) := afterBlock edge after
          (scan fuel place after).map (.closeBlock :: ·)
        else (scan fuel (.text (edge == .trim) false) after).map (.closePrint :: ·)
      | none =>
        match readToken? (c :: rest) with
        | none => none
        | some (token, after) =>
          (scan fuel (.inside block (balance + token.balance)) after).map (token :: ·)

/-- The tokens of a template. What lies outside the markers is text, from which white space is taken
    off as the markers demand: a statement or a comment on a line of its own leaves no trace of the
    line, and a hyphen at a marker removes all white space on that side. -/
def tokens? (source : List Char) : Option (List Token) :=
  scan (2 * source.length + 1) (.text false true) source

end ApiSkeleton.Template
