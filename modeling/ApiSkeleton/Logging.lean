import ApiSkeleton.Text.AlphanumericTable
import ApiSkeleton.Text.Blank
import ApiSkeleton.Text.Case

namespace ApiSkeleton

inductive LogLevel where
  | trace
  | debug
  | info
  | warn
  | error
deriving DecidableEq, Inhabited

inductive LogFormat where
  | compact
  | pretty
  | json
deriving DecidableEq, Inhabited

/-- The settings of the log. -/
structure LogSettings where
  /-- The level, as it was given. -/
  level : String
  format : LogFormat
  /-- Directives with commas between them, if there is more than white space. -/
  filter : Option String
  /-- Whether events say where in the program they arise. -/
  showsLocation : Bool
deriving DecidableEq, Inhabited

/-- The level that a text names. -/
def LogLevel.ofText (s : String) : LogLevel :=
  match Text.lowercase s with
  | "trace" => .trace
  | "debug" => .debug
  | "info" => .info
  | "error" => .error
  | _ => .warn

/-- The format that a text names. -/
def LogFormat.ofText (s : String) : LogFormat :=
  match Text.lowercase s with
  | "pretty" => .pretty
  | "json" => .json
  | _ => .compact

namespace LogSettings

/-- The settings that variables of the environment give. -/
def ofEnvironment (lookup : String → Option String) : LogSettings :=
  { level := (lookup "SCAFFOLD_LOG_LEVEL").getD "warn"
    format := ((lookup "SCAFFOLD_LOG_FORMAT").map LogFormat.ofText).getD .compact
    filter := (lookup "SCAFFOLD_LOG_TARGET_FILTER").filter fun s =>
      !(Text.trimBlank s.toList).isEmpty
    showsLocation := lookup "SCAFFOLD_LOG_INCLUDE_LOCATION" == some "true" }

/-- The settings with at least the details of debugging. -/
def verbose (l : LogSettings) : LogSettings :=
  match LogLevel.ofText l.level with
  | .trace | .debug => l
  | .info | .warn | .error => { l with level := "debug" }

end LogSettings

namespace LogDirective

/-- Whether a text names a level, or is one of the numbers for levels. -/
def isLevel (cs : List Char) : Bool :=
  let digits := match cs with
    | '+' :: rest => rest
    | _ => cs
  let significant := digits.dropWhile (· == '0')
  if !digits.isEmpty && digits.all Char.isDigit then
    significant.length ≤ 1 && significant.all (· ≤ '5')
  else
    ["", "trace", "debug", "info", "warn", "error", "off"].contains
      (Text.asciiLowercase (String.ofList cs))

/-- Whether nothing or a level follows the place that a directive is for. -/
def isAfterPlace : List Char → Bool
  | [] => true
  | '=' :: level => isLevel level
  | _ => false

/-- Whether the characters can follow an opening brace: a field, perhaps with a value. -/
def isAfterBrace (cs : List Char) : Bool :=
  match cs.dropWhile (· != '\x7d') with
  | '\x7d' :: ']' :: rest => cs.head? != some '\x7d' && isAfterPlace rest
  | _ => false

/-- Whether the characters can follow an opening bracket: the name of a span, perhaps with a
    field. -/
def isAfterBracket : List Char → Bool
  | [] => false
  | ']' :: rest => isAfterPlace rest
  | '\x7b' :: rest => isAfterBrace rest
  | _ :: rest => isAfterBracket rest

/-- Whether the characters can follow the first one of the name of a target. -/
def isAfterTarget : List Char → Bool
  | [] => true
  | '=' :: level => isLevel level
  | '[' :: rest => isAfterBracket rest
  | _ :: rest => isAfterTarget rest

/-- Whether the characters are a directive: a level, or a target, a span or both, perhaps with a
    level. -/
def isDirective : List Char → Bool
  | [] => false
  | '[' :: rest => isAfterBracket rest
  | c :: rest => (Text.isAlphanumeric c || ['-', ':', '_'].contains c) && isAfterTarget rest

end LogDirective

namespace LogSettings

/-- The directives of the filter. -/
def directives (l : LogSettings) : List String :=
  match l.filter with
  | none => []
  | some s =>
    ((s.splitOn ",").map fun d => String.ofList (Text.trimBlank d.toList)).filter (· != "")

/-- The first directive that cannot be understood. -/
def badDirective? (l : LogSettings) : Option String :=
  l.directives.find? fun d => !LogDirective.isDirective d.toList

end LogSettings

end ApiSkeleton
