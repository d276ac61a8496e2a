import ApiSkeleton.CommandLine.Argument

namespace ApiSkeleton.CommandLine

def versionLine : String := "oas-scaffold 0.1.0-alpha.1"

def verboseHelp : String := "Log at debug level (SCAFFOLD_LOG_LEVEL and RUST_LOG still apply)"

def specHelp : String := "Path to the OpenAPI specification file (YAML or JSON)"

def programHelp : List String :=
  ["Scaffold a backend application from an OpenAPI spec",
   "",
   "Usage: oas-scaffold [OPTIONS] <COMMAND>",
   "",
   "Commands:",
   "  new      Create a new application from an OpenAPI spec",
   "  inspect  Print the endpoints grouped by tag and the schema names of a spec",
   "  help     Print this message or the help of the given subcommand(s)",
   "",
   "Options:",
   "  -v, --verbose  " ++ verboseHelp,
   "  -h, --help     Print help",
   "  -V, --version  Print version"]

def createHelp : List String :=
  ["Create a new application from an OpenAPI spec",
   "",
   "Usage: oas-scaffold new [OPTIONS] --spec <SPEC> <APP_NAME>",
   "",
   "Arguments:",
   "  <APP_NAME>  Name of the application directory (letters, digits, '-' and '_')",
   "",
   "Options:",
   "  -s, --spec <SPEC>                  " ++ specHelp,
   "  -v, --verbose                      " ++ verboseHelp,
   "  -o, --output-dir <OUTPUT_DIR>      Directory the application directory is created in "
     ++ "[default: .]",
   "      --config <CONFIG>              Layout configuration (default: scaffold.toml next to the "
     ++ "spec)",
   "      --template-dir <TEMPLATE_DIR>  Application tree to use instead of the built-in one",
   "      --dry-run                      Render everything and list the files without writing them",
   "  -h, --help                         Print help"]

def inspectHelp : List String :=
  ["Print the endpoints grouped by tag and the schema names of a spec",
   "",
   "Usage: oas-scaffold inspect [OPTIONS] --spec <SPEC>",
   "",
   "Options:",
   "  -s, --spec <SPEC>  " ++ specHelp,
   "  -v, --verbose      " ++ verboseHelp,
   "  -h, --help         Print help"]

def helpHelp : List String :=
  ["Print this message or the help of the given subcommand(s)",
   "",
   "Usage: oas-scaffold help [COMMAND]...",
   "",
   "Arguments:",
   "  [COMMAND]...  Print help for the subcommand(s)"]

/-- The page on a topic. -/
def Topic.page : Topic → List String
  | .command .program => programHelp
  | .command .create => createHelp
  | .command .inspect => inspectHelp
  | .help => helpHelp

/-- What is told about a wrong command line. -/
def UsageFault.message : UsageFault → String
  | .nothingGiven => "a command is needed; try '--help'"
  | .missingCommand => "a command is missing"
  | .unknownCommand => "the command is not known"
  | .unknownArgument => "an argument is not known"
  | .missingArgument => "a required argument is missing"
  | .givenTwice => "an argument is given twice"
  | .missingValue => "an option needs a value"
  | .unexpectedValue => "a flag takes no value"

end ApiSkeleton.CommandLine
