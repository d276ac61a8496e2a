import ApiSkeleton.Tree.Basic
import ApiSkeleton.Text.Quoted

namespace ApiSkeleton.Tree

/-- A bracket, a separator, or a value that is complete by itself. -/
inductive Token where
  | openList
  | closeList
  | openObject
  | closeObject
  | comma
  | colon
  | scalar (t : Tree)

/-- The value of four hexadecimal digits. -/
def unit16? : List Char → Option Nat
  | [a, b, c, d] => do
    return (((← Text.hexValue? a) * 16 + (← Text.hexValue? b)) * 16 + (← Text.hexValue? c)) * 16
      + (← Text.hexValue? d)
  | _ => none

/-- The character that one escape letter stands for. -/
def escaped? : Char → Option Char
  | '"' => some '"'
  | '\\' => some '\\'
  | '/' => some '/'
  | 'b' => some '\x08'
  | 'f' => some '\x0c'
  | 'n' => some '\n'
  | 'r' => some '\r'
  | 't' => some '\t'
  | _ => none

/-- Reads a text up to its closing quote. Halves of a surrogate pair stand only together. -/
def readText : List Char → Option (List Char × List Char)
  | [] => none
  | '"' :: rest => some ([], rest)
  | '\\' :: 'u' :: a :: b :: c :: d :: rest =>
    match unit16? [a, b, c, d] with
    | none => none
    | some high =>
      if 0xD800 ≤ high ∧ high < 0xDC00 then
        match rest with
        | '\\' :: 'u' :: e :: f :: g :: h :: after =>
          match unit16? [e, f, g, h] with
          | none => none
          | some low =>
            if 0xDC00 ≤ low ∧ low < 0xE000 then
              (readText after).map fun (cs, r) =>
                (Char.ofNat (0x10000 + (high - 0xD800) * 0x400 + (low - 0xDC00)) :: cs, r)
            else none
        | _ => none
      else if 0xDC00 ≤ high ∧ high < 0xE000 then none
      else (readText rest).map fun (cs, r) => (Char.ofNat high :: cs, r)
  | '\\' :: e :: rest =>
    match escaped? e with
    | some c => (readText rest).map fun (cs, r) => (c :: cs, r)
    | none => none
  | c :: rest =>
    if c.toNat < 32 ∨ c = '\\' then none
    else (readText rest).map fun (cs, r) => (c :: cs, r)

/-- The parts of a number as written. -/
structure NumberText where
  negative : Bool
  whole : List Char
  fraction : List Char
  /-- The sign and the digits of the exponent. -/
  exponent : Option (Bool × List Char)

/-- Splits off the exponent after its letter. -/
def readExponent? (cs : List Char) : Option ((Bool × List Char) × List Char) :=
  let (negative, digits) := match cs with
    | '+' :: rest => (false, rest)
    | '-' :: rest => (true, rest)
    | _ => (false, cs)
  if (digits.takeWhile Char.isDigit).isEmpty then none
  else some ((negative, digits.takeWhile Char.isDigit), digits.dropWhile Char.isDigit)

/-- Splits off a number. Digits must stand on both sides of a point, and a zero in front stands
    alone. -/
def readNumber? (cs : List Char) : Option (NumberText × List Char) :=
  let (negative, cs) := match cs with
    | '-' :: rest => (true, rest)
    | _ => (false, cs)
  let whole := cs.takeWhile Char.isDigit
  let cs := cs.dropWhile Char.isDigit
  if whole.isEmpty || (whole.head? == some '0' && whole.length != 1) then none
  else
    let fractionEnd : Option (List Char × List Char) := match cs with
      | '.' :: rest =>
        if (rest.takeWhile Char.isDigit).isEmpty then none
        else some (rest.takeWhile Char.isDigit, rest.dropWhile Char.isDigit)
      | _ => some ([], cs)
    match fractionEnd with
    | none => none
    | some (fraction, cs) =>
      match cs with
      | e :: rest =>
        if e = 'e' ∨ e = 'E' then
          (readExponent? rest).map fun (x, r) => (⟨negative, whole, fraction, some x⟩, r)
        else some (⟨negative, whole, fraction, none⟩, cs)
      | [] => some (⟨negative, whole, fraction, none⟩, cs)

/-- The digits that fit into a 64-bit word when they are read from the left on top of `start`, and
    how many of them there are. -/
def leadingDigits (start : Nat) : List Char → Nat × Nat
  | [] => (start, 0)
  | c :: rest =>
    let next := start * 10 + (c.toNat - 48)
    if next < Nat.pow 2 64 then
      let (n, count) := leadingDigits next rest
      (n, count + 1)
    else (start, 0)

/-- The number that digits denote. -/
def digitsValue (cs : List Char) : Nat := cs.foldl (fun n c => n * 10 + (c.toNat - 48)) 0

private def powerOfTen (n : Nat) : Binary64 := Binary64.ofDecimal false 1 n

/-- Multiplies by a power of ten, in steps of at most 308 on the way down. -/
def scaleByTen? (x : Binary64) (exponent : Int) : Option Binary64 :=
  if x.isZero then some x
  else if 308 < exponent then none
  else if 0 ≤ exponent then
    let y := x.mul (powerOfTen exponent.toNat)
    if y.isFinite then some y else none
  else if -308 ≤ exponent then some (x.div (powerOfTen (-exponent).toNat))
  else scaleByTen? (x.div (powerOfTen 308)) (exponent + 308)
termination_by (-exponent).toNat
decreasing_by omega

/-- The value of a number, none if it is too large. Minus zero is no whole number. One with more
    digits than a 64-bit word holds, or with a fraction or an exponent, is the product of the
    leading digits and a power of ten, each rounded before they are multiplied or divided. -/
def NumberText.value? (t : NumberText) : Option Tree :=
  let (n, kept) := leadingDigits 0 t.whole
  let dropped := t.whole.length - kept
  let signed (x : Binary64) : Tree := .float (if t.negative then x.neg else x)
  if t.fraction.isEmpty && t.exponent.isNone && dropped == 0
      && (!t.negative || (n != 0 && n ≤ Nat.pow 2 63)) then
    some (.int (if t.negative then -(n : Int) else n))
  else
    let (m, places) := leadingDigits n t.fraction
    let shift : Int := match t.exponent with
      | none => 0
      | some (true, digits) => -(digitsValue digits : Int)
      | some (false, digits) => digitsValue digits
    (scaleByTen? (Binary64.ofInt m) ((dropped : Int) - places + shift)).map signed

/-- One token, with what follows it. -/
def readToken? : List Char → Option (Token × List Char)
  | [] => none
  | '[' :: rest => some (.openList, rest)
  | ']' :: rest => some (.closeList, rest)
  | '\x7b' :: rest => some (.openObject, rest)
  | '\x7d' :: rest => some (.closeObject, rest)
  | ',' :: rest => some (.comma, rest)
  | ':' :: rest => some (.colon, rest)
  | 'n' :: 'u' :: 'l' :: 'l' :: rest => some (.scalar .null, rest)
  | 't' :: 'r' :: 'u' :: 'e' :: rest => some (.scalar (.bool true), rest)
  | 'f' :: 'a' :: 'l' :: 's' :: 'e' :: rest => some (.scalar (.bool false), rest)
  | '"' :: rest => (readText rest).map fun (cs, r) => (.scalar (.text (String.ofList cs)), r)
  | cs =>
    match readNumber? cs with
    | none => none
    | some (number, rest) => number.value?.map fun t => (.scalar t, rest)

/-- The characters that may stand between tokens. -/
def isJsonBlank (c : Char) : Bool := c == ' ' || c == '\n' || c == '\t' || c == '\r'

/-- The tokens of a text, at most `count` of them. -/
def readTokens? : Nat → List Char → Option (List Token)
  | 0, cs => if (cs.dropWhile isJsonBlank).isEmpty then some [] else none
  | count + 1, cs =>
    match cs.dropWhile isJsonBlank with
    | [] => some []
    | c :: rest =>
      match readToken? (c :: rest) with
      | none => none
      | some (token, after) => (readTokens? count after).map (token :: ·)

/-- The tokens of a text; every token takes a character at least. -/
def tokens? (cs : List Char) : Option (List Token) := readTokens? cs.length cs

end ApiSkeleton.Tree
