import ApiSkeleton.CommandLine.Argument

namespace ApiSkeleton.CommandLine

/-- What has been read of the arguments of a command. -/
structure Progress where
  given : List (Setting × String) := []
  /-- The last option, with its value if that has come. -/
  pending : Option (Setting × Option String) := none
  /-- The name of the application. -/
  name : Option String := none
deriving DecidableEq, Inhabited

namespace Progress

variable (p : Progress)

def value? (setting : Setting) : Option String :=
  (p.given.find? fun (s, _) => s == setting).map (·.2)

def has (setting : Setting) : Bool := (p.value? setting).isSome

/-- Sets something that can be set once. -/
def give (setting : Setting) (value : String) : Except Stop Progress :=
  if p.has setting then .error (.fault .givenTwice)
  else if value = "" then .error (.fault .missingValue)
  else .ok { p with given := p.given ++ [(setting, value)] }

/-- Settles the last option. This waits until the next argument is known to be one, so that an
    unknown argument is reported before a fault of the option in front of it. -/
def settle : Except Stop Progress :=
  match p.pending with
  | none => .ok p
  | some (_, none) => .error (.fault .missingValue)
  | some (setting, some value) => { p with pending := none }.give setting value

/-- Takes a flag. -/
def flag (setting : Setting) (c : Command) : Except Stop Progress := do
  let p ← p.settle
  match setting with
  | .help => .error (.help (.command c))
  | .version => .error .version
  | _ => p.give setting "true"

/-- Takes an option, whose value may be attached to it. -/
def option (setting : Setting) (attached : Option String) : Except Stop Progress := do
  let p ← p.settle
  match attached with
  | some value => p.give setting value
  | none => .ok { p with pending := some (setting, none) }

/-- Takes an argument that starts with two hyphens, less those. -/
def long (c : Command) (cs : List Char) : Except Stop Progress :=
  let name := String.ofList (cs.takeWhile (· != '='))
  let attached := match cs.dropWhile (· != '=') with
    | [] => none
    | _ :: value => some (String.ofList value)
  match c.arguments.find? (·.long == name) with
  | none => .error (.fault .unknownArgument)
  | some a =>
    if a.takesValue then p.option a.setting attached
    else if attached.isSome then .error (.fault .unexpectedValue)
    else p.flag a.setting c

/-- Takes letters that follow one hyphen. The first option among them takes what is left as its
    value. -/
def short (c : Command) (p : Progress) : List Char → Except Stop Progress
  | [] => .ok p
  | letter :: rest =>
    match c.arguments.find? (·.short == some letter) with
    | none => .error (.fault .unknownArgument)
    | some a =>
      if a.takesValue then
        match rest with
        | [] => p.option a.setting none
        | '=' :: value => p.option a.setting (some (String.ofList value))
        | value => p.option a.setting (some (String.ofList value))
      else do short c (← p.flag a.setting c) rest

/-- Takes an argument that stands for itself. `escaped` tells that it follows two lone hyphens. -/
def plain (c : Command) (escaped : Bool) (arg : String) : Except Stop Progress :=
  match c, p.name with
  | .program, _ =>
    .error (.fault (if escaped ∧ ((Command.ofName? arg).isSome ∨ arg = "help") then .unknownArgument
      else .unknownCommand))
  | .create, none => do return { (← p.settle) with name := some arg }
  | _, _ => .error (.fault .unknownArgument)

/-- Takes one argument. -/
def take (c : Command) (escaped : Bool) (arg : String) : Except Stop Progress :=
  if escaped then p.plain c escaped arg
  else
    match arg.toList with
    | '-' :: '-' :: cs => p.long c cs
    | '-' :: d :: cs => p.short c (d :: cs)
    | _ =>
      match p.pending with
      | some (setting, none) => .ok { p with pending := some (setting, some arg) }
      | _ => p.plain c escaped arg

/-- Takes all arguments of a command that has no commands of its own. -/
def takeAll (c : Command) (escaped : Bool) : Progress → List String → Except Stop Progress
  | p, [] => p.settle
  | p, arg :: rest =>
    if !escaped ∧ arg = "--" then takeAll c true p rest
    else do takeAll c escaped (← p.take c escaped arg) rest

end Progress

/-- The page that is asked for by what follows the word `help`. -/
def helpTopic : List String → Stop
  | [] => .help (.command .program)
  | ["help"] => .help .help
  | [name] =>
    match Command.ofName? name with
    | some c => .help (.command c)
    | none => .fault .unknownCommand
  | _ => .fault .unknownCommand

/-- What the arguments of a command ask for. -/
def Progress.action (p : Progress) (c : Command) : Except Stop Action :=
  match c, p.name, p.value? .spec with
  | .create, some name, some spec =>
    .ok (.create ⟨name, ⟨spec⟩, ⟨(p.value? .parent).getD "."⟩, (p.value? .config).map Path.mk,
      (p.value? .templates).map Path.mk⟩ (p.has .dryRun))
  | .inspect, _, some spec => .ok (.inspect ⟨spec⟩)
  | _, _, _ => .error (.fault .missingArgument)

/-- Reads the arguments of a command. `verbose` tells whether the program was asked for details
    before the command was named. -/
def readCommand (verbose : Bool) (c : Command) (args : List String) : Except Stop Invocation := do
  let p ← Progress.takeAll c false {} args
  return ⟨verbose || p.has .verbose, ← p.action c⟩

/-- Reads the arguments of the program behind those in `p`. -/
def readProgram (escaped : Bool) : Progress → List String → Except Stop Invocation
  | p, [] =>
    .error (.fault (if p.given.isEmpty then .nothingGiven else .missingCommand))
  | p, arg :: rest =>
    if escaped then do readProgram escaped (← p.take .program escaped arg) rest
    else if arg = "--" then readProgram true p rest
    else if arg = "help" then .error (helpTopic rest)
    else
      match Command.ofName? arg with
      | some c => readCommand (p.has .verbose) c rest
      | none => do readProgram escaped (← p.take .program escaped arg) rest

/-- What the arguments of the program ask for. -/
def Invocation.ofArguments (args : List String) : Except Stop Invocation :=
  readProgram false {} args

end ApiSkeleton.CommandLine
