import ApiSkeleton.CommandLine.Program
import ApiSkeleton.Template.Named

namespace ApiSkeleton.Main

open CommandLine

/-- A place on disk. -/
def onDisk (place : List String) : IO.FS.DirEntry := ⟨"/", "/".intercalate place⟩

/-- Looks up what is at a place. -/
def lookUp (fs : FileSystem) (place : List String) : IO FileSystem := do
  let path := (onDisk place).path
  if place.isEmpty then return fs
  else if ← path.isDir then return fs.put place .directory
  else if ← path.pathExists then return fs.put place (.file (← IO.FS.readBinFile path))
  else return fs

/-- Looks up everything that a path leads through, and gives the place at its end. -/
def lookUpAlong (fs : FileSystem) (place : List String) :
    List Path.Component → IO (FileSystem × List String)
  | [] => return (fs, place)
  | c :: rest => do
    let next := match c with
      | .root => []
      | .current => place
      | .parent => place.dropLast
      | .name s => place ++ [s]
    lookUpAlong (← lookUp fs next) next rest

/-- Looks up everything below a place. -/
partial def lookUpBelow (fs : FileSystem) (place : List String) : IO FileSystem := do
  let path := (onDisk place).path
  if !(← path.isDir) then return fs
  (← path.readDir).foldlM (fun fs member => do
    let next := place ++ [member.fileName]
    lookUpBelow (← lookUp fs next) next) fs

/-- Looks up what an action reads. -/
def lookUpAction (fs : FileSystem) (action : Action) : IO FileSystem := do
  let along (fs : FileSystem) (path : Path) := lookUpAlong fs fs.current path.components
  match action with
  | .inspect spec => return (← along fs spec).1
  | .create r _ =>
    let mut fs := (← along fs r.spec).1
    fs := (← along fs r.target).1
    for path in r.config.toList ++ (r.spec.parent?.map (·.join ⟨Config.fileName⟩)).toList do
      fs := (← along fs path).1
    match r.templates with
    | none => return fs
    | some path =>
      let (found, place) ← along fs path
      lookUpBelow found place

/-- Whether a file is on disk as it is to be. -/
def isWritten (before : FileSystem) (place : List String) (content : ByteArray) : Bool :=
  match before.at? place with
  | some (.file old) => old == content
  | _ => false

/-- Writes the directories that are new, and the files that are new or have another content. -/
def writeChanges (before after : FileSystem) : IO Unit := do
  for (place, entry) in after.entries do
    match entry with
    | .directory => if (before.at? place).isNone then IO.FS.createDir (onDisk place).path
    | .file content =>
      if !isWritten before place content then IO.FS.writeBinFile (onDisk place).path content

/-- Runs the program and gives its exit code. -/
def execute (args : List String) : IO UInt32 := do
  let start ← IO.monoMsNow
  let directory : Path := ⟨(← IO.currentDir).toString⟩
  let (found, current) ← lookUpAlong ⟨[], []⟩ [] directory.components
  let before : FileSystem := { found with current }
  let before ← match Invocation.ofArguments args with
    | .ok i => lookUpAction before i.action
    | .error _ => pure before
  let names := ["SCAFFOLD_LOG_LEVEL", "SCAFFOLD_LOG_FORMAT", "SCAFFOLD_LOG_TARGET_FILTER",
    "SCAFFOLD_LOG_INCLUDE_LOCATION"]
  let environment ← names.filterMapM fun name => return (← IO.getEnv name).map (name, ·)
  let outcome := run .plain (findMember? environment) args before
  writeChanges before outcome.files
  let elapsed := (← IO.monoMsNow) - start
  for line in outcome.lines do
    match line with
    | .plain s => IO.println s
    | .timed s => IO.println (s ++ " (" ++ toString elapsed ++ "ms)")
  if let some message := outcome.error then IO.eprintln message
  return outcome.exitCode.toUInt32

end ApiSkeleton.Main

def main (args : List String) : IO UInt32 := ApiSkeleton.Main.execute args
