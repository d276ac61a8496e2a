import ApiSkeleton.Text.CaseTable
import ApiSkeleton.Text.PropertyTable

namespace ApiSkeleton.Text

/-- The other form of a character beyond ASCII. -/
def mapped (runs : List CaseRun) (expansions : List (Nat × List Nat)) (c : Char) :
    List Char :=
  match expansions.find? (·.1 == c.toNat) with
  | some (_, codes) => codes.map Char.ofNat
  | none =>
    match runs.find? (·.covers c.toNat) with
    | some r => [Char.ofNat ((c.toNat : Int) + r.shift).toNat]
    | none => [c]

/-- The lower-case form of a character. -/
def lowerChar (c : Char) : List Char :=
  if c.toNat < 128 then [c.toLower] else mapped lowerRuns lowerExpansions c

/-- The upper-case form of a character. -/
def upperChar (c : Char) : List Char :=
  if c.toNat < 128 then [c.toUpper] else mapped upperRuns upperExpansions c

/-- Whether a character has the property `Uppercase`. Letters in title case do not have it, upper
    case numerals and circled letters do. -/
def isUppercase (c : Char) : Bool :=
  if c.toNat < 128 then c.isUpper else uppercaseRuns.any (·.covers c.toNat)

/-- Lower-cases the first character only. -/
def camelChars : List Char → List Char
  | [] => []
  | c :: rest => lowerChar c ++ rest

/-- Upper-cases the first character only. -/
def pascalChars : List Char → List Char
  | [] => []
  | c :: rest => upperChar c ++ rest

/-- Writes every upper-case letter as an underscore and its lower-case form. -/
def snakeChars : List Char → List Char
  | [] => []
  | c :: rest => (if isUppercase c then '_' :: lowerChar c else [c]) ++ snakeChars rest

/-- Upper-cases the first character and lower-cases all others. -/
def capitalChars : List Char → List Char
  | [] => []
  | c :: rest => upperChar c ++ rest.flatMap lowerChar

/-- Whether the first character that case rules do not look past is a cased letter. -/
def meetsCased (cs : List Char) : Bool :=
  match cs.dropWhile (inSpans caseIgnorableSpans) with
  | c :: _ => inSpans casedSpans c
  | [] => false

/-- Lower-cases a text whose earlier characters, last one first, are `before`. A capital sigma
    that ends a word becomes the final small sigma. -/
def lowerAfter (before : List Char) : List Char → List Char
  | [] => []
  | c :: rest =>
    (if c = 'Σ' then
      if meetsCased before && !meetsCased rest then ['ς'] else ['σ']
    else lowerChar c) ++ lowerAfter (c :: before) rest

/-- `ListPets` becomes `listPets`. -/
def camelCase (s : String) : String := String.ofList (camelChars s.toList)

/-- `listPets` becomes `ListPets`. -/
def pascalCase (s : String) : String := String.ofList (pascalChars s.toList)

/-- `petId` becomes `pet_id`; underscores and hyphens stay as they are. -/
def snakeCase (s : String) : String := String.ofList (snakeChars s.toList)

/-- `pETS` becomes `Pets`. -/
def capitalize (s : String) : String := String.ofList (capitalChars s.toList)

/-- The lower-case form of a whole text. -/
def lowercase (s : String) : String := String.ofList (lowerAfter [] s.toList)

/-- The upper-case form of a whole text. -/
def uppercase (s : String) : String := String.ofList (s.toList.flatMap upperChar)

/-- Lower-cases the ASCII letters and keeps all else. -/
def asciiLowercase (s : String) : String := String.ofList (s.toList.map Char.toLower)

end ApiSkeleton.Text
