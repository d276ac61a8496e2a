import ApiSkeleton.Failure

namespace ApiSkeleton

/-- A file to be written, under a path that is relative to the root of the application. -/
structure OutputFile where
  path : Path
  content : ByteArray
deriving Inhabited

/-- One step of a run. -/
abbrev Step := Except Failure OutputFile

/-- A step that writes a text. -/
def Step.ofText (path : Path) (text : Except Failure String) : Step :=
  text.map fun s => ⟨path, s.toUTF8⟩

/-- A place that files are written to. Writing gives the new state of the place, also where the file
    is refused. -/
structure Sink (σ : Type) where
  write : σ → OutputFile → σ × Except Failure Unit

namespace Sink

variable {σ : Type}

/-- Takes the steps in order, up to the first that fails, and gives the paths written. What was
    written is not taken back. -/
def run (sink : Sink σ) : σ → List Step → σ × Except Failure (List Path)
  | s, [] => (s, .ok [])
  | s, .error f :: _ => (s, .error f)
  | s, .ok file :: rest =>
    match sink.write s file with
    | (t, .error f) => (t, .error f)
    | (t, .ok ()) =>
      let (final, result) := sink.run t rest
      (final, result.map (file.path :: ·))

/-- Goes through a list, up to the first item that fails, and gives the paths written. -/
def each {α : Type} (act : α → σ → σ × Except Failure (List Path)) :
    List α → σ → σ × Except Failure (List Path)
  | [], s => (s, .ok [])
  | a :: rest, s =>
    match act a s with
    | (t, .error f) => (t, .error f)
    | (t, .ok paths) =>
      let (final, result) := each act rest t
      (final, result.map (paths ++ ·))

/-- Goes on with `next` unless what came before has failed. -/
def followedBy (first : σ × Except Failure (List Path))
    (next : σ → σ × Except Failure (List Path)) : σ × Except Failure (List Path) :=
  match first with
  | (s, .error f) => (s, .error f)
  | (s, .ok paths) =>
    let (final, result) := next s
    (final, result.map (paths ++ ·))

/-- A sink that takes a number of files and refuses all others. -/
def limited (sink : Sink σ) : Sink (Nat × σ) where
  write := fun (left, s) file =>
    match left with
    | 0 => ((0, s), .error (.io file.path .diskFull))
    | more + 1 =>
      let (t, result) := sink.write s file
      ((more, t), result)

/-- A sink that carries a state along. -/
def beside (τ : Type) (sink : Sink σ) : Sink (τ × σ) where
  write := fun (t, s) file =>
    let (written, result) := sink.write s file
    ((t, written), result)

end Sink

/-- Refuses paths that leave the application. -/
def checkInside (path : Path) : Except Failure Unit :=
  if path.staysInside then .ok () else .error (.io path .outsideRoot)

/-- Files kept in memory, in the order of their paths. Two paths with the same steps are the same
    file, which keeps the spelling that it was first written under. -/
abbrev Memory := List OutputFile

namespace Memory

/-- Puts a file in its place. -/
def insert (file : OutputFile) : Memory → Memory
  | [] => [file]
  | f :: rest =>
    match Path.compareComponents file.path.components f.path.components with
    | .lt => file :: f :: rest
    | .eq => ⟨f.path, file.content⟩ :: rest
    | .gt => f :: insert file rest

def write (m : Memory) (file : OutputFile) : Memory × Except Failure Unit :=
  match checkInside file.path with
  | .error f => (m, .error f)
  | .ok () => (insert file m, .ok ())

def sink : Sink Memory := ⟨write⟩

/-- The content of a file. -/
def content? (m : Memory) (path : Path) : Option ByteArray :=
  (m.find? fun f => f.path.components == path.components).map (·.content)

/-- The content of a file that is a text. -/
def text? (m : Memory) (path : Path) : Option String :=
  (m.content? path).bind String.fromUTF8?

end Memory

end ApiSkeleton
