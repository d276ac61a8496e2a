import ApiSkeleton.AppName
import ApiSkeleton.Config
import ApiSkeleton.Decode
import ApiSkeleton.Emit.Modules
import ApiSkeleton.Model.OfTree

namespace ApiSkeleton

open Model

/-- The tree of the document at a path. -/
def FileSystem.loadDocument (fs : FileSystem) (path : Path) : Except Failure Tree :=
  match fs.readText path with
  | .error (.system .notFound) => .error (.specNotFound path)
  | .error fault => .error (.io path fault)
  | .ok text => decodeDocument path (Format.ofPath path) text

/-- The API that the document at a path describes. -/
def FileSystem.loadApi (fs : FileSystem) (path : Path) : Except Failure Api := do
  Api.ofTree (← fs.loadDocument path)

namespace App

/-- What an application is to be made of. -/
structure Request where
  name : String
  spec : Path
  /-- The directory that the application's directory is made in. -/
  parent : Path
  config : Option Path
  /-- A directory of files to start with, instead of those that come with this library. -/
  templates : Option Path
deriving DecidableEq, Inhabited

/-- The directory of the application. -/
def Request.target (r : Request) : Path := r.parent.join ⟨r.name⟩

/-- An application that can be written. -/
structure Plan where
  name : String
  target : Path
  spec : Path
  layout : Layout
  api : Api
  templates : Option Path
deriving DecidableEq, Inhabited

/-- Plans an application. All checks that can fail before a file is written are made here, in this
    order. -/
def Request.plan (r : Request) (fs : FileSystem) : Except Failure Plan := do
  checkAppName r.name
  if !fs.pathExists r.spec then throw (.specNotFound r.spec)
  if fs.pathExists r.target then throw (.targetExists r.target)
  let layout ← Config.resolve fs r.config r.spec
  let api ← fs.loadApi r.spec
  Emit.checkApi api
  return ⟨r.name, r.target, r.spec, layout, api, r.templates⟩

end App

end ApiSkeleton
