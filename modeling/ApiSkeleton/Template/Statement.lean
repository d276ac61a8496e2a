import ApiSkeleton.Template.Value

namespace ApiSkeleton.Template

/-- The operators with two operands that are always both evaluated. -/
inductive Operator where
  | add
  | sub
  | mul
  | div
  | floorDiv
  | rem
  | pow
  | concat
  | eq
  | ne
  | lt
  | le
  | gt
  | ge
  | isIn
deriving DecidableEq, Inhabited

inductive Expr where
  | literal (v : Value)
  | name (s : String)
  | member (e : Expr) (name : String)
  | item (e index : Expr)
  | list (items : List Expr)
  | map (entries : List (Expr × Expr))
  | not (e : Expr)
  | neg (e : Expr)
  | and (a b : Expr)
  | or (a b : Expr)
  | binary (op : Operator) (a b : Expr)
  /-- The first branch if the condition holds, the second otherwise. -/
  | choice (condition yes no : Expr)
  | filter (name : String) (e : Expr) (arguments : List Expr) (keywords : List (String × Expr))
  | call (callee : Expr) (arguments : List Expr) (keywords : List (String × Expr))
deriving Inhabited

/-- What a value is assigned to: a name, or names for the items of a list. -/
inductive Target where
  | name (s : String)
  | tuple (targets : List Target)
deriving Inhabited

/-- A part of a template. White space around it has been taken care of when it has this form. -/
inductive Statement where
  | text (s : String)
  | print (e : Expr)
  | set (target : Target) (e : Expr)
  | branch (condition : Expr) (yes no : List Statement)
  /-- The body is repeated for the items that fulfil the condition; without any, the last part is
      taken instead. -/
  | loop (target : Target) (items condition : Expr) (body otherwise : List Statement)
deriving Inhabited

/-- A member of a named value. -/
abbrev Expr.of (name member : String) : Expr := .member (.name name) member

/-- A value passed through a filter that takes no arguments. -/
abbrev Expr.via (e : Expr) (filter : String) : Expr := .filter filter e [] []

/-- Repeats the body for all items. -/
abbrev Statement.each (target : Target) (items : Expr) (body : List Statement) : Statement :=
  .loop target items (.literal (.bool true)) body []

/-- Keeps the body if the condition holds. -/
abbrev Statement.when (condition : Expr) (body : List Statement) : Statement :=
  .branch condition body []

/-- Why a template cannot be rendered. -/
inductive Fault where
  | malformed
  | unknownFilter (name : String)
  | unknownFunction (name : String)
  | notCallable
  | wrongArguments
  /-- A part of an undefined value was asked for. -/
  | undefinedPart
  | notIterable
  | cannotUnpack
  | invalidOperation
  | notRepresentable
  /-- A fault of another engine, in its own words. -/
  | other (message : String)
deriving DecidableEq, Inhabited

end ApiSkeleton.Template
