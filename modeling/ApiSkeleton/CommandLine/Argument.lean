import ApiSkeleton.App.Plan

namespace ApiSkeleton.CommandLine

/-- What an argument sets or asks for. -/
inductive Setting where
  | verbose
  | spec
  | parent
  | config
  | templates
  | dryRun
  | help
  | version
deriving DecidableEq, Inhabited

/-- How a setting is written. -/
structure Argument where
  setting : Setting
  short : Option Char
  long : String
  takesValue : Bool
deriving DecidableEq, Inhabited

/-- The commands. Before one is named, the program itself reads arguments. -/
inductive Command where
  | program
  | create
  | inspect
deriving DecidableEq, Inhabited

namespace Command

def verboseFlag : Argument := ⟨.verbose, some 'v', "verbose", false⟩

def helpFlag : Argument := ⟨.help, some 'h', "help", false⟩

def specOption : Argument := ⟨.spec, some 's', "spec", true⟩

/-- The arguments that a command knows by name. -/
def arguments : Command → List Argument
  | .program => [verboseFlag, helpFlag, ⟨.version, some 'V', "version", false⟩]
  | .create =>
    [specOption, verboseFlag, ⟨.parent, some 'o', "output-dir", true⟩,
     ⟨.config, none, "config", true⟩, ⟨.templates, none, "template-dir", true⟩,
     ⟨.dryRun, none, "dry-run", false⟩, helpFlag]
  | .inspect => [specOption, verboseFlag, helpFlag]

/-- The command of a name. -/
def ofName? : String → Option Command
  | "new" => some .create
  | "inspect" => some .inspect
  | _ => none

end Command

/-- What a page of help is about. -/
inductive Topic where
  | command (c : Command)
  | help
deriving DecidableEq, Inhabited

/-- What is wrong with a command line. -/
inductive UsageFault where
  | nothingGiven
  | missingCommand
  | unknownCommand
  | unknownArgument
  | missingArgument
  | givenTwice
  /-- An option without a value, or with an empty path. -/
  | missingValue
  /-- A flag with a value. -/
  | unexpectedValue
deriving DecidableEq, Inhabited

/-- Why a command line leads to no action. -/
inductive Stop where
  | help (topic : Topic)
  | version
  | fault (fault : UsageFault)
deriving DecidableEq, Inhabited

/-- What there is to do. -/
inductive Action where
  | create (request : App.Request) (dryRun : Bool)
  | inspect (spec : Path)
deriving DecidableEq, Inhabited

/-- What a command line asks for. -/
structure Invocation where
  verbose : Bool
  action : Action
deriving DecidableEq, Inhabited

end ApiSkeleton.CommandLine
