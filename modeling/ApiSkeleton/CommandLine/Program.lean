import ApiSkeleton.App.Creation
import ApiSkeleton.CommandLine.Help
import ApiSkeleton.CommandLine.Reader
import ApiSkeleton.Logging

namespace ApiSkeleton.CommandLine

open Model

/-- A line that is printed. A timed one ends in the time that it took to get there. -/
inductive Line where
  | plain (text : String)
  | timed (text : String)
deriving DecidableEq, Inhabited

/-- How the program ends. -/
structure Outcome where
  files : FileSystem
  lines : List Line
  /-- What is told at the end if the program fails. -/
  error : Option String
  exitCode : UInt8
deriving Inhabited

namespace Outcome

def success (files : FileSystem) (lines : List Line) : Outcome := ⟨files, lines, none, 0⟩

def failure (files : FileSystem) (lines : List Line) (message : String) : Outcome :=
  ⟨files, lines, some ("❌ " ++ message), 1⟩

end Outcome

/-- What an API holds, in numbers. -/
def countsText (api : Api) : String :=
  "(" ++ toString api.endpoints.length ++ " endpoints, " ++ toString api.schemas.length
    ++ " schemas)"

def loadedLine (api : Api) : Line :=
  .timed ("✅ Loaded " ++ api.metadata.title ++ " " ++ countsText api)

def reportLines (r : App.Report) : List Line :=
  let count := toString r.files.length
  if r.dryRun then
    .timed ("📝 Dry run: " ++ count ++ " files would be written to " ++ r.target.text)
      :: r.files.map fun path => .plain ("   " ++ path.text)
  else
    [.timed ("✅ Created " ++ count ++ " files in " ++ r.target.text), .plain "",
     .plain "Next steps:", .plain ("  cd " ++ r.target.withoutCurrent.text),
     .plain "  npm install", .plain "  npm run db:push", .plain "  npm run dev"]

/-- Creates an application. -/
def create [Template.Engine] (w : Wording) (r : App.Request) (dryRun : Bool) (fs : FileSystem) :
    Outcome :=
  let blame (f : Failure) : String := "failed to scaffold '" ++ r.name ++ "': " ++ f.report w
  match r.plan fs with
  | .error f => .failure fs [] (blame f)
  | .ok p =>
    match p.apply fs dryRun with
    | (final, .error f) => .failure final [loadedLine p.api] (blame f)
    | (final, .ok report) => .success final (loadedLine p.api :: reportLines report)

/-- A text with blanks behind it up to a width. -/
def padded (width : Nat) (s : String) : String :=
  s ++ String.ofList (List.replicate (width - s.length) ' ')

def endpointLine (e : Endpoint) : Line :=
  .plain ("   " ++ padded 7 e.method.name ++ " " ++ e.path ++ " → " ++ e.operationId)

def groupLines (g : Group) : List Line :=
  [.plain "", .plain ("🏷️  " ++ g.tag ++ " (" ++ toString g.endpoints.length ++ ")")]
    ++ g.endpoints.map endpointLine

def schemaLines (schemas : List Schema) : List Line :=
  if schemas.isEmpty then []
  else
    [.plain "", .plain "📦 Schemas"] ++ schemas.map fun s =>
      .plain ("   " ++ s.name ++ " (" ++ toString s.properties.length ++ " properties)")

/-- An API at a glance. -/
def apiLines (api : Api) : List Line :=
  .plain ("📄 " ++ api.metadata.title ++ " " ++ api.metadata.version ++ " " ++ countsText api)
    :: (groups api.endpoints).flatMap groupLines ++ schemaLines api.schemas

/-- Shows an API. -/
def inspect (w : Wording) (spec : Path) (fs : FileSystem) : Outcome :=
  match fs.loadApi spec with
  | .ok api => .success fs (apiLines api)
  | .error f => .failure fs [] ("failed to inspect " ++ spec.text ++ ": " ++ f.report w)

/-- The settings of the log that an invocation asks for. -/
def Invocation.logSettings (i : Invocation) (lookup : String → Option String) : LogSettings :=
  let settings := LogSettings.ofEnvironment lookup
  if i.verbose then settings.verbose else settings

/-- Carries out what was asked for. -/
def Invocation.perform [Template.Engine] (i : Invocation) (w : Wording)
    (lookup : String → Option String) (fs : FileSystem) : Outcome :=
  match (i.logSettings lookup).badDirective? with
  | some directive =>
    .failure fs [] ("invalid log filter directive '" ++ directive ++ "': " ++ w.logDirective)
  | none =>
    match i.action with
    | .create request dryRun => create w request dryRun fs
    | .inspect spec => inspect w spec fs

/-- What happens instead of an action. -/
def Stop.outcome (s : Stop) (fs : FileSystem) : Outcome :=
  match s with
  | .help topic => .success fs (topic.page.map .plain)
  | .version => .success fs [.plain versionLine]
  | .fault f => ⟨fs, [], some ("error: " ++ f.message), 2⟩

/-- Runs the program. -/
def run [Template.Engine] (w : Wording) (lookup : String → Option String) (args : List String)
    (fs : FileSystem) : Outcome :=
  match Invocation.ofArguments args with
  | .ok i => i.perform w lookup fs
  | .error s => s.outcome fs

end ApiSkeleton.CommandLine
