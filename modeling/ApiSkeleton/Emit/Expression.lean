import ApiSkeleton.Tree.Basic

namespace ApiSkeleton.Emit

/-- What a column stores. -/
inductive StorageType where
  | text
  | integer
  | real
  | boolean
deriving DecidableEq, Inhabited

/-- The storage of a declared type; types without one of their own are stored as text. -/
def StorageType.ofDeclared : Option String → StorageType
  | some "integer" => .integer
  | some "number" => .real
  | some "boolean" => .boolean
  | _ => .text

/-- The call that builds a column. The name is put between quotes as it is. -/
def StorageType.column : StorageType → String → String
  | .text, name => "text(\"" ++ name ++ "\")"
  | .integer, name => "integer(\"" ++ name ++ "\")"
  | .real, name => "real(\"" ++ name ++ "\")"
  | .boolean, name => "integer(\"" ++ name ++ "\", \x7b mode: \"boolean\" \x7d)"

/-- The column for a property of a declared type. -/
def storageColumn (declared : Option String) (name : String) : String :=
  (StorageType.ofDeclared declared).column name

/-- The validator of what has no type that is known. -/
def unknownValidator : String := "z.unknown()"

mutual
/-- The validator of the values that a schema describes. A list is validated item by item. -/
def validator : Tree → String
  | .object members =>
    match findMember? members "type" with
    | some (.text "string") => "z.string()"
    | some (.text "number") => "z.number()"
    | some (.text "integer") => "z.number().int()"
    | some (.text "boolean") => "z.boolean()"
    | some (.text "array") => "z.array(" ++ itemValidator members ++ ")"
    | _ => unknownValidator
  | _ => unknownValidator

/-- The validator of the items of a list, whose schema is the first member under `items`. -/
def itemValidator : List (String × Tree) → String
  | [] => unknownValidator
  | (key, schema) :: rest => if key = "items" then validator schema else itemValidator rest
end

/-- The constant for a status code, if there is one. -/
def statusConstant? : String → Option String
  | "200" => some "OK"
  | "201" => some "CREATED"
  | "204" => some "NO_CONTENT"
  | "400" => some "BAD_REQUEST"
  | "401" => some "UNAUTHORIZED"
  | "404" => some "NOT_FOUND"
  | "422" => some "UNPROCESSABLE_ENTITY"
  | "500" => some "INTERNAL_SERVER_ERROR"
  | _ => none

/-- The key of a response: a constant, a bare number, or any other text between quotes as it is. -/
def statusKey (code : String) : String :=
  match statusConstant? code with
  | some name => "HttpStatusCodes." ++ name
  | none =>
    if code ≠ "" ∧ code.toList.all Char.isDigit then code else "\"" ++ code ++ "\""

end ApiSkeleton.Emit
