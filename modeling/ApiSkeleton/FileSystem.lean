import ApiSkeleton.Output

namespace ApiSkeleton

inductive Entry where
  | directory
  | file (content : ByteArray)
deriving Inhabited

/-- A file system: every directory and file under its place, which is the list of the names that
    lead to it from the root. The root is a directory that is not listed. -/
structure FileSystem where
  entries : List (List String × Entry)
  /-- The place that relative paths start from. -/
  current : List String
deriving Inhabited

namespace FileSystem

/-- What is at a place. -/
def at? (fs : FileSystem) (place : List String) : Option Entry :=
  if place = [] then some .directory
  else (fs.entries.find? (·.1 == place)).map (·.2)

/-- Puts something at a place. -/
def put (fs : FileSystem) (place : List String) (entry : Entry) : FileSystem :=
  let rec go : List (List String × Entry) → List (List String × Entry)
    | [] => [(place, entry)]
    | (p, e) :: rest => if p = place then (p, entry) :: rest else (p, e) :: go rest
  { fs with entries := go fs.entries }

/-- The longest name of a file, in bytes. -/
def maxName : Nat := 255

/-- The longest path that can be followed, in bytes. -/
def maxPath : Nat := 4095

/-- The place that steps lead to. All but the last must be directories. This is why `..` needs a
    directory to leave. -/
def follow (fs : FileSystem) (place : List String) :
    List Path.Component → Except SystemFault (List String)
  | [] => .ok place
  | c :: rest =>
    match fs.at? place with
    | none => .error .notFound
    | some (.file _) => .error .notADirectory
    | some .directory =>
      match c with
      | .root => fs.follow [] rest
      | .current => fs.follow place rest
      | .parent => fs.follow place.dropLast rest
      | .name s =>
        if maxName < s.utf8ByteSize then .error .nameTooLong else fs.follow (place ++ [s]) rest

/-- The place that a path leads to. -/
def resolve (fs : FileSystem) (path : Path) : Except SystemFault (List String) :=
  if path.text = "" then .error .notFound
  else if path.text.toList.contains '\x00' then .error .nulInName
  else if maxPath < path.text.utf8ByteSize then .error .nameTooLong
  else fs.follow fs.current path.components

/-- What follows the last slash of a path. -/
def lastSegment (path : Path) : List Char := (Path.segments path.text.toList).getLast?.getD []

/-- Whether a path can lead to a directory only. -/
def asksDirectory (path : Path) : Bool :=
  [[], ['.'], ['.', '.']].contains (lastSegment path)

/-- What a path leads to. -/
def look (fs : FileSystem) (path : Path) : Except SystemFault Entry := do
  match fs.at? (← fs.resolve path) with
  | none => .error .notFound
  | some .directory => .ok .directory
  | some (.file content) =>
    if asksDirectory path then .error .notADirectory else .ok (.file content)

def pathExists (fs : FileSystem) (path : Path) : Bool :=
  match fs.look path with
  | .ok _ => true
  | .error _ => false

def isDirectory (fs : FileSystem) (path : Path) : Bool :=
  match fs.look path with
  | .ok .directory => true
  | _ => false

/-- The content of a file. -/
def read (fs : FileSystem) (path : Path) : Except SystemFault ByteArray := do
  match ← fs.look path with
  | .directory => .error .isADirectory
  | .file content => .ok content

/-- The content of a file that is a text. -/
def readText (fs : FileSystem) (path : Path) : Except IoFault String :=
  match fs.read path with
  | .error fault => .error (.system fault)
  | .ok content =>
    match String.fromUTF8? content with
    | some s => .ok s
    | none => .error .notText

/-- Makes one directory. A dot at the end stands for a directory that exists. -/
def makeDirectory (fs : FileSystem) (path : Path) : Except SystemFault FileSystem := do
  let place ← fs.resolve path
  match fs.at? place with
  | some _ => .error .exists
  | none => if lastSegment path = ['.'] then .error .notFound else .ok (fs.put place .directory)

/-- A path and those of the directories around it. -/
def ancestors : Nat → Path → List Path
  | 0, _ => []
  | fuel + 1, path =>
    match path.parent? with
    | some up => path :: ancestors fuel up
    | none => []

/-- Makes the first of the directories, each of which lies in the next one, with those around it. -/
def makeAll (fs : FileSystem) : List Path → FileSystem × Except SystemFault Unit
  | [] => (fs, .ok ())
  | path :: around =>
    match fs.makeDirectory path with
    | .ok made => (made, .ok ())
    | .error .notFound =>
      match fs.makeAll around with
      | (made, .error fault) => (made, .error fault)
      | (made, .ok ()) =>
        match made.makeDirectory path with
        | .ok final => (final, .ok ())
        | .error fault => (made, if made.isDirectory path then .ok () else .error fault)
    | .error fault => (fs, if fs.isDirectory path then .ok () else .error fault)

/-- Makes a directory with all those around it. -/
def makeDirectories (fs : FileSystem) (path : Path) : FileSystem × Except SystemFault Unit :=
  fs.makeAll (ancestors (path.text.length + 1) path)

/-- Writes a file into a directory that exists. -/
def writeFile (fs : FileSystem) (path : Path) (content : ByteArray) :
    Except SystemFault FileSystem := do
  let place ← fs.resolve path
  match fs.at? place with
  | some .directory => .error .isADirectory
  | some (.file _) =>
    if asksDirectory path then .error .notADirectory else .ok (fs.put place (.file content))
  | none =>
    if asksDirectory path then .error .isADirectory else .ok (fs.put place (.file content))

/-- Writes a file below a root, with the directories that it needs. -/
def writeBelow (root : Path) (fs : FileSystem) (file : OutputFile) :
    FileSystem × Except Failure Unit :=
  match checkInside file.path with
  | .error f => (fs, .error f)
  | .ok () =>
    let path := root.join file.path
    let parent := path.parent?.getD ⟨""⟩
    match fs.makeDirectories parent with
    | (made, .error fault) => (made, .error (.io parent (.system fault)))
    | (made, .ok ()) =>
      match made.writeFile path file.content with
      | .ok written => (written, .ok ())
      | .error fault => (made, .error (.io path (.system fault)))

/-- A sink that writes below a root. -/
def sinkBelow (root : Path) : Sink FileSystem := ⟨writeBelow root⟩

/-- Removes what is at a place, with everything below it. The directory that paths start from
    stays. -/
def remove (fs : FileSystem) (path : Path) : FileSystem :=
  match fs.resolve path with
  | .ok place =>
    { fs with entries := fs.entries.filter fun (p, _) =>
        !place.isPrefixOf p || p.isPrefixOf fs.current }
  | .error _ => fs

/-- The names in a directory, in the order of their characters. -/
def namesIn (fs : FileSystem) (place : List String) : List String :=
  let names := fs.entries.filterMap fun (p, _) =>
    if p.length = place.length + 1 ∧ place.isPrefixOf p then p.getLast? else none
  names.mergeSort fun a b => decide (a ≤ b)

/-- What is in a directory, in the order of the names. -/
def list (fs : FileSystem) (path : Path) : Except SystemFault (List (String × Entry)) := do
  let place ← fs.resolve path
  match fs.at? place with
  | none => .error .notFound
  | some (.file _) => .error .notADirectory
  | some .directory =>
    .ok ((fs.namesIn place).filterMap fun name => (fs.at? (place ++ [name])).map (name, ·))

end FileSystem

end ApiSkeleton
