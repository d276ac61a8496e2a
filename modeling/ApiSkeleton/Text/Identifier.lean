import ApiSkeleton.Text.Quoted

namespace ApiSkeleton.Text

/-- An ASCII letter, an underscore or a dollar sign. -/
def isNameStart (c : Char) : Bool := c.isAlpha || c == '_' || c == '$'

/-- A character that may follow the first one of a name. -/
def isNamePart (c : Char) : Bool := c.isAlphanum || c == '_' || c == '$'

/-- Whether the characters form a name, reserved or not. -/
def isName : List Char → Bool
  | [] => false
  | c :: rest => isNameStart c && rest.all isNamePart

/-- Words of the language that cannot be declared. -/
def reservedWords : List String :=
  ["await", "break", "case", "catch", "class", "const", "continue", "debugger", "default",
   "delete", "do", "else", "enum", "export", "extends", "false", "finally", "for", "function",
   "if", "implements", "import", "in", "instanceof", "interface", "let", "new", "null",
   "package", "private", "protected", "public", "return", "static", "super", "switch", "this",
   "throw", "true", "try", "typeof", "var", "void", "while", "with", "yield"]

/-- Replaces what a name cannot hold by underscores, and puts one in front of a leading digit and
    of nothing at all. -/
def nameChars (cs : List Char) : List Char :=
  let body := cs.map fun c => if isNamePart c then c else '_'
  match body with
  | [] => ['_']
  | c :: _ => if c.isDigit then '_' :: body else body

/-- A name that can be declared: a reserved word takes an underscore at its end. -/
def identifier (s : String) : String :=
  let name := String.ofList (nameChars s.toList)
  if reservedWords.contains name then name.push '_' else name

/-- A key of an object literal: bare where it is a name, a quoted literal otherwise. -/
def propertyKey (s : String) : String :=
  if isName s.toList then s else quoted s

end ApiSkeleton.Text
