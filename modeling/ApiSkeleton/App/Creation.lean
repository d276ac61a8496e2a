import ApiSkeleton.App.Files
import ApiSkeleton.App.Place
import ApiSkeleton.App.Plan
import ApiSkeleton.Template.Engine
import ApiSkeleton.Template.Render

namespace ApiSkeleton.App

open Template (Engine Value)

namespace Plan

variable (p : Plan)

/-- What the templates of an application see. -/
def context : Value :=
  .ofFields [("app_name", .text p.name), ("metadata", Emit.metadataValue p.api.metadata),
    ("layout", Emit.layoutValue p.layout)]

/-- A file that comes with this library. -/
def fileStep (name : String) (body : Body) : Step :=
  .ofText (p.layout.place name) <|
    match body with
    | .verbatim text => .ok text
    | .template statements =>
      match Template.render statements p.context with
      | .ok text => .ok text
      | .error fault => .error (.render name fault)

/-- A file of a directory, which lies at `source`. Backslashes in its name count as slashes. -/
def copyStep [Engine] (fs : FileSystem) (source : Path) (name : String) : Step :=
  let name := String.ofList (name.toList.map fun c => if c = '\\' then '/' else c)
  if isTemplate name then
    .ofText (p.layout.place name) <|
      match fs.readText source with
      | .error fault => .error (.io source fault)
      | .ok text => Template.renderText name text p.context
  else
    match fs.read source with
    | .error fault => .error (.io source (.system fault))
    | .ok content => .ok ⟨p.layout.place name, content⟩

/-- The copy of the document. -/
def specStep (fs : FileSystem) : Step :=
  match fs.read p.spec with
  | .error fault => .error (.io p.spec (.system fault))
  | .ok content =>
    .ok ⟨(Path.mk "doc").join ⟨"openapi." ++ (Format.ofPath p.spec).name⟩, content⟩

variable [Engine] {σ : Type} (sink : Sink σ) (view : σ → FileSystem)

/-- Copies what is in a directory, depth first and in the order of the names. `above` stands before
    the names of its files. Every directory makes the path longer, so their depth is bounded by the
    longest path. -/
def copyDirectory (root : Path) : Nat → Path → String → σ → σ × Except Failure (List Path)
  | 0, _, _, s => (s, .error (.io root (.system .nameTooLong)))
  | depth + 1, directory, above, s =>
    match (view s).list directory with
    | .error fault => (s, .error (.io root (.system fault)))
    | .ok members =>
      Sink.each (fun (name, entry) t =>
        let path := directory.join ⟨name⟩
        match entry with
        | .directory => copyDirectory root depth path (above ++ name ++ "/") t
        | .file _ => sink.run t [p.copyStep (view t) path (above ++ name)]) members s

/-- Writes the files that an application starts with. A directory is read while they are written, so
    that the sink comes with a view of the files as they are. -/
def writeStart (s : σ) : σ × Except Failure (List Path) :=
  match p.templates with
  | none => sink.run s (files.map fun (name, body) => p.fileStep name body)
  | some root =>
    if (view s).isDirectory root then
      p.copyDirectory sink view root (FileSystem.maxPath + 1) root "" s
    else (s, .error (.io root .noTemplateDirectory))

/-- Writes an application. -/
def write (s : σ) : σ × Except Failure (List Path) :=
  Sink.followedBy (p.writeStart sink view s) fun t =>
    sink.run t (p.specStep (view t) :: Emit.steps p.layout p.api)

end Plan

/-- What has been written, or would be. -/
structure Report where
  target : Path
  files : List Path
  dryRun : Bool
deriving DecidableEq, Inhabited

variable [Engine]

/-- Writes an application into its directory, or for a dry run into memory, with the file system
    beside it. -/
def Plan.apply (p : Plan) (fs : FileSystem) (dryRun : Bool) :
    FileSystem × Except Failure Report :=
  let (final, result) :=
    if dryRun then
      let ((now, _), result) := p.write (Memory.sink.beside FileSystem) Prod.fst (fs, [])
      (now, result)
    else p.write (FileSystem.sinkBelow p.target) id fs
  (final, result.map fun files => ⟨p.target, files, dryRun⟩)

/-- Plans an application and writes it. -/
def Request.create (r : Request) (fs : FileSystem) (dryRun : Bool) :
    FileSystem × Except Failure Report :=
  match r.plan fs with
  | .ok p => p.apply fs dryRun
  | .error f => (fs, .error f)

end ApiSkeleton.App
