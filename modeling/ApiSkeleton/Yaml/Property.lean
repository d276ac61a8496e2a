import ApiSkeleton.Yaml.Scalar
import ApiSkeleton.Yaml.Token

namespace ApiSkeleton.Yaml

/-- Reads the name of an anchor or an alias, after its indicator. -/
def readAnchor? (c : Cursor) : Option (String × Cursor) :=
  let name := c.takeWhile isWordChar
  let c := c.skipMany name.length
  let ended := endsWord c.peek ||
    (c.peek.map fun d => ['?', ':', ',', ']', '\x7d', '%', '@', '\u0060'].contains d) == some true
  if name.isEmpty || !ended then none else some (String.ofList name, c)

/-- The bytes of a text in which some are written as escapes with a percent sign. -/
def unescapeUri? : List Char → Option (List UInt8)
  | [] => some []
  | '%' :: a :: b :: rest =>
    match hexNumber? [a, b] with
    | none => none
    | some n => (unescapeUri? rest).map (UInt8.ofNat n :: ·)
  | c :: rest =>
    if c = '%' then none else (unescapeUri? rest).map ((String.singleton c).toUTF8.toList ++ ·)

/-- A character of a tag; in a verbatim tag some more are allowed. -/
def isUriChar (verbatim : Bool) (c : Char) : Bool :=
  isWordChar c ||
    [';', '/', '?', ':', '@', '&', '=', '+', '$', '.', '%', '!', '~', '*', '\'', '(',
      ')'].contains c ||
    (verbatim && [',', '[', ']'].contains c)

/-- Reads the rest of a tag behind some characters that are already known. -/
def readUri? (verbatim : Bool) (known : List Char) (c : Cursor) : Option (String × Cursor) :=
  let body := c.takeWhile (isUriChar verbatim)
  match unescapeUri? body with
  | none => none
  | some bytes =>
    match String.fromUTF8? ⟨bytes.toArray⟩ with
    | none => none
    | some s => some (String.ofList known ++ s, c.skipMany body.length)

/-- Reads a handle: an exclamation mark, a word, and a second mark if there is one. -/
def readHandle? (c : Cursor) : Option (List Char × Cursor) :=
  if c.peek ≠ some '!' then none
  else
    let word := c.skip.takeWhile isWordChar
    let after := c.skipMany (word.length + 1)
    if after.peek = some '!' then some ('!' :: word ++ ['!'], after.skip)
    else some ('!' :: word, after)

/-- Whether a handle has a mark at both ends. -/
def isClosedHandle (handle : List Char) : Bool := 1 < handle.length && handle.getLast? == some '!'

/-- Reads a tag as a handle and a suffix. -/
def readTag? (inFlow : Bool) (c : Cursor) : Option (Token × Cursor) :=
  let parts : Option (String × String × Cursor) :=
    if c.peekAt 1 = some '<' then
      match readUri? true [] (c.skipMany 2) with
      | some (uri, after) =>
        if uri = "" ∨ after.peek ≠ some '>' then none else some ("", uri, after.skip)
      | none => none
    else
      match readHandle? c with
      | none => none
      | some (handle, after) =>
        if isClosedHandle handle then
          match readUri? false [] after with
          | some (suffix, after) =>
            if suffix = "" then none else some (String.ofList handle, suffix, after)
          | none => none
        else
          match readUri? false (handle.drop 1) after with
          | some ("", after) => some ("", "!", after)
          | some (suffix, after) => some ("!", suffix, after)
          | none => none
  match parts with
  | none => none
  | some (handle, suffix, after) =>
    if endsWord after.peek || (inFlow && after.peek == some ',') then
      some (.tag handle suffix, after)
    else none

/-- Reads a number of a version: one to nine digits. -/
def readVersionNumber? (c : Cursor) : Option (Nat × Cursor) :=
  let digits := c.takeWhile Char.isDigit
  if digits.isEmpty || 9 < digits.length then none
  else some (digits.foldl (fun n d => n * 10 + (d.toNat - 48)) 0, c.skipMany digits.length)

/-- Reads what a version directive says. -/
def readVersion? (c : Cursor) : Option (Token × Cursor) :=
  match readVersionNumber? (c.skipWhile isSpaceOrTab) with
  | none => none
  | some (major, c) =>
    if c.peek ≠ some '.' then none
    else (readVersionNumber? c.skip).map fun (minor, c) => (.versionDirective major minor, c)

/-- Reads what a tag directive says. -/
def readTagDirective? (c : Cursor) : Option (Token × Cursor) :=
  match readHandle? (c.skipWhile isSpaceOrTab) with
  | none => none
  | some (handle, c) =>
    if (handle ≠ ['!'] ∧ !isClosedHandle handle) ∨ !(c.peek.map isSpaceOrTab).getD false then none
    else
      match readUri? true [] (c.skipWhile isSpaceOrTab) with
      | some (meaning, c) =>
        if meaning = "" ∨ !endsWord c.peek then none
        else some (.tagDirective (String.ofList handle) meaning, c)
      | none => none

/-- Reads a directive, after its percent sign, with its whole line. -/
def readDirective? (c : Cursor) : Option (Token × Cursor) :=
  let name := c.takeWhile isWordChar
  let after := c.skipMany name.length
  if !endsWord after.peek then none
  else
    let read := if name = ['Y', 'A', 'M', 'L'] then readVersion? after
      else if name = ['T', 'A', 'G'] then readTagDirective? after
      else none
    match read with
    | none => none
    | some (token, c) =>
      let c := c.skipWhile isSpaceOrTab
      let c := if c.peek = some '#' then c.skipWhile fun _ => true else c
      if endsLine c.peek then some (token, c.skipBreak) else none

end ApiSkeleton.Yaml
