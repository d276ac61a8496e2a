import ApiSkeleton.Template.Operator
import ApiSkeleton.Text.Case
import ApiSkeleton.Text.Identifier
import ApiSkeleton.Emit.Expression

namespace ApiSkeleton.Template

/-- The arguments of a filter or a function. Those given by name arrive together, as one map behind
    the others. -/
structure Arguments where
  positional : List Value
  keywords : List (String × Value)

namespace Arguments

/-- An argument as a value. -/
inductive Argument where
  | given (v : Value)
  | named (fields : List (String × Value))

def toList (a : Arguments) : List Argument :=
  a.positional.map .given ++ if a.keywords.isEmpty then [] else [.named a.keywords]

def Argument.value : Argument → Value
  | .given v => v
  | .named fields => .ofFields fields

/-- An argument as a text, which arguments given by name cannot be. -/
def Argument.text : Argument → Except Fault String
  | .given v => .ok v.printed
  | .named _ => .error .wrongArguments

/-- An argument as a text that may be missing. -/
def Argument.text? : Argument → Except Fault (Option String)
  | .given .undefined | .given .none => .ok none
  | .given v => .ok (some v.printed)
  | .named _ => .error .wrongArguments

end Arguments

/-- The filters that turn one text into another. -/
def textFilter? : String → Option (String → String)
  | "camel_case" => some Text.camelCase
  | "pascal_case" => some Text.pascalCase
  | "snake_case" => some Text.snakeCase
  | "lowercase" => some Text.lowercase
  | "capitalize" => some Text.capitalize
  | "identifier" => some Text.identifier
  | "ts_string" => some Text.quoted
  | "ts_key" => some Text.propertyKey
  | _ => none

/-- The entries of a map as pairs. -/
def pairs : Value → Except Fault Value
  | .map entries => .ok (.list (entries.map fun (k, v) => .list [k, v]))
  | _ => .error .invalidOperation

/-- Applies a filter to a value. Where it asks for a text, any value is taken by the text that it
    prints as. -/
def applyFilter (name : String) (v : Value) (arguments : Arguments) : Except Fault Value :=
  match textFilter? name with
  | some f => if arguments.toList.isEmpty then .ok (.text (f v.printed)) else .error .wrongArguments
  | none =>
    if name = "items" then
      if arguments.toList.isEmpty then pairs v else .error .wrongArguments
    else .error (.unknownFilter name)

/-- The validator of the values that a schema describes; the schema may be undefined. -/
def validatorOf (schema : Value) : Except Fault Value :=
  match schema.toTree? with
  | some t => .ok (.text (Emit.validator t))
  | none => .error .notRepresentable

/-- Calls a function. -/
def applyFunction (name : String) (arguments : Arguments) : Except Fault Value :=
  match name, arguments.toList with
  | "storage_type", [type, column] => do
    let type ← type.text?
    return .text (Emit.storageColumn type (← column.text))
  | "validator", [schema] => validatorOf schema.value
  | "status_code", [code] => do return .text (Emit.statusKey (← code.text))
  | "eq", [a, b] => .ok (.bool (a.value.same b.value))
  | name, _ =>
    if ["storage_type", "validator", "status_code", "eq"].contains name then .error .wrongArguments
    else .error (.unknownFunction name)

end ApiSkeleton.Template
