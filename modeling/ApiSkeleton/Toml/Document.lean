import ApiSkeleton.Toml.Scalar

namespace ApiSkeleton.Toml

/-- Drops a comment up to the end of its line; none if it holds a control character. -/
def dropComment? (cs : List Char) : Option (List Char) :=
  match cs with
  | '#' :: rest =>
    let after := rest.dropWhile isPlain
    if after.isEmpty || (dropLineEnd? after).isSome then some after else none
  | _ => some cs

/-- Drops blanks, comments and line ends, as they may stand between brackets. -/
def dropFiller? : Nat → List Char → Option (List Char)
  | 0, _ => none
  | fuel + 1, cs =>
    match dropComment? (cs.dropWhile isSpace) with
    | none => none
    | some cs =>
      match dropLineEnd? cs with
      | some rest => dropFiller? fuel rest
      | none => some cs

def isBareKeyChar (c : Char) : Bool := c.isAlphanum || c == '_' || c == '-'

/-- Reads one part of a key. -/
def readKeyPart? (cs : List Char) : Read String :=
  match cs with
  | '"' :: rest | '\'' :: rest =>
    if cs.take 3 = ['"', '"', '"'] ∨ cs.take 3 = ['\'', '\'', '\''] then none
    else
      (readLine? (cs.headD '"') (cs.length + 1) rest).map fun (s, r) => (String.ofList s, r)
  | _ =>
    let part := cs.takeWhile isBareKeyChar
    if part.isEmpty then none else some (String.ofList part, cs.dropWhile isBareKeyChar)

/-- Reads a key, whose parts stand between dots. -/
def readKey? : Nat → List Char → Read (List String)
  | 0, _ => none
  | fuel + 1, cs =>
    match readKeyPart? (cs.dropWhile isSpace) with
    | none => none
    | some (part, rest) =>
      match rest.dropWhile isSpace with
      | '.' :: rest => (readKey? fuel rest).map fun (parts, r) => (part :: parts, r)
      | rest => some ([part], rest)

/-- How deeply brackets may be nested. -/
def maxDepth : Nat := 80

mutual
/-- Reads a value within so many brackets. -/
def readValue? : Nat → Nat → List Char → Read Item
  | 0, _, _ => none
  | fuel + 1, depth, cs =>
    match cs with
    | '"' :: _ => (readString? '"' cs).map fun (s, r) => (.text s, r)
    | '\'' :: _ => (readString? '\'' cs).map fun (s, r) => (.text s, r)
    | '[' :: rest =>
      if depth < maxDepth then
        (readItems? fuel (depth + 1) rest).map fun (items, r) => (.list items, r)
      else none
    | '\x7b' :: rest =>
      if depth < maxDepth then
        (readEntries? fuel (depth + 1) [] rest).map fun (es, r) => (.inlineTable es, r)
      else none
    | _ => readBareValue? cs

/-- Reads the items of a list up to its bracket. -/
def readItems? : Nat → Nat → List Char → Read (List Item)
  | 0, _, _ => none
  | fuel + 1, depth, cs =>
    match dropFiller? (cs.length + 1) cs with
    | none => none
    | some (']' :: rest) => some ([], rest)
    | some cs =>
      match readValue? fuel depth cs with
      | none => none
      | some (item, rest) =>
        match dropFiller? (rest.length + 1) rest with
        | some (',' :: rest) =>
          (readItems? fuel depth rest).map fun (items, r) => (item :: items, r)
        | some (']' :: rest) => some ([item], rest)
        | _ => none

/-- Reads the entries of a table within a line up to its bracket, behind those already read. -/
def readEntries? : Nat → Nat → Entries → List Char → Read Entries
  | 0, _, _, _ => none
  | fuel + 1, depth, done, cs =>
    match dropFiller? (cs.length + 1) cs with
    | none => none
    | some ('\x7d' :: rest) => some (done, rest)
    | some cs =>
      match readKey? (cs.length + 1) cs with
      | some (key, '=' :: rest) =>
        match dropFiller? (rest.length + 1) rest with
        | none => none
        | some rest =>
          match readValue? fuel depth rest with
          | none => none
          | some (item, rest) =>
            match done.putDotted item key with
            | none => none
            | some done =>
              match dropFiller? (rest.length + 1) rest with
              | some (',' :: rest) => readEntries? fuel depth done rest
              | some ('\x7d' :: rest) => some (done, rest)
              | _ => none
      | _ => none
end

/-- What has been read of a document: its entries, and the path of the header in force. -/
structure Progress where
  entries : Entries
  header : List String

/-- Reads a header, after its brackets. -/
def readHeader? (p : Progress) (listed : Bool) (cs : List Char) : Read Progress :=
  match readKey? (cs.length + 1) cs with
  | none => none
  | some (path, rest) =>
    let named := if listed then p.entries.nameListed path else p.entries.nameTable path
    match named, listed, rest with
    | some entries, true, ']' :: ']' :: rest => some (⟨entries, path⟩, rest)
    | some entries, false, ']' :: rest => some (⟨entries, path⟩, rest)
    | _, _, _ => none

/-- Reads a key with its value. -/
def readEntry? (p : Progress) (cs : List Char) : Read Progress :=
  match readKey? (cs.length + 1) cs with
  | some (key, '=' :: rest) =>
    match readValue? (2 * rest.length + 4) 0 (rest.dropWhile isSpace) with
    | none => none
    | some (item, rest) =>
      (p.entries.change (·.putDotted item key) p.header).map fun entries =>
        (⟨entries, p.header⟩, rest)
  | _ => none

/-- Reads the lines that are left. -/
def readDocument? : Nat → Progress → List Char → Option Entries
  | 0, _, _ => none
  | fuel + 1, p, cs =>
    let cs := cs.dropWhile isSpace
    let line : Read Progress := match cs with
      | [] | '#' :: _ | '\n' :: _ | '\r' :: _ => some (p, cs)
      | '[' :: '[' :: rest => readHeader? p true rest
      | '[' :: rest => readHeader? p false rest
      | _ => readEntry? p cs
    match line with
    | none => none
    | some (p, rest) =>
      match dropComment? (rest.dropWhile isSpace) with
      | none => none
      | some [] => some p.entries
      | some rest =>
        match dropLineEnd? rest with
        | some rest => readDocument? fuel p rest
        | none => none

/-- The entries of a TOML text. -/
def ofText? (text : String) : Option Entries :=
  let cs := match text.toList with
    | '\ufeff' :: rest => rest
    | cs => cs
  readDocument? (cs.length + 1) ⟨[], []⟩ cs

end ApiSkeleton.Toml
