import ApiSkeleton.Failure
import ApiSkeleton.Model.Basic
import ApiSkeleton.Text.Identifier

namespace ApiSkeleton

/-- The places of generated modules below the application's directory. -/
structure Layout where
  /-- The extension of the modules, without its dot. -/
  extension : String
  sourceDir : String
  /-- The directory of the groups, below that of the sources. -/
  routesDir : String
  /-- The directory of the storage schema, below that of the sources. -/
  dbDir : String
deriving DecidableEq, Inhabited

/-- The layout of an application that configures none. -/
def defaultLayout : Layout := ⟨"ts", "src", "routes", "db"⟩

/-- Replaces what the stem of a file name does not hold by an underscore. -/
def stemChar (c : Char) : Char := if c.isAlphanum || c == '-' || c == '_' then c else '_'

/-- A tag as the beginning of a file name. It has neither slashes nor dots, whatever the document
    calls its tags. -/
def tagStem (tag : String) : String :=
  let stem := (Text.lowercase tag).toList.map stemChar
  if stem.isEmpty then Model.defaultTag else String.ofList stem

/-- The name under which the modules of a tag are imported. -/
def tagBinding (tag : String) : String := Text.identifier (tagStem tag)

namespace Layout

def routesModule (tag : String) : String := tagStem tag ++ ".routes"

def handlersModule (tag : String) : String := tagStem tag ++ ".handlers"

def routerModule (tag : String) : String := tagStem tag ++ ".index"

variable (l : Layout)

def routesRoot : Path := (Path.mk l.sourceDir).join ⟨l.routesDir⟩

def schemaPath : Path :=
  ((Path.mk l.sourceDir).join ⟨l.dbDir⟩).join ⟨"schema." ++ l.extension⟩

/-- A module of a group. -/
def groupPath (module : String) : Path := l.routesRoot.join ⟨module ++ "." ++ l.extension⟩

def routesPath (tag : String) : Path := l.groupPath (routesModule tag)

def handlersPath (tag : String) : Path := l.groupPath (handlersModule tag)

def routerPath (tag : String) : Path := l.groupPath (routerModule tag)

def routeIndexPath : Path := l.groupPath "index"

/-- How far the directory of the groups lies below that of the sources. -/
def routesDepth : Nat :=
  ((Path.mk l.routesDir).components.filter fun c =>
    match c with
    | .name _ => true
    | _ => false).length

/-- What stands before an import of a source module in a module of a group. -/
def sourceRootImport : String :=
  if l.routesDepth = 0 then "./" else String.join (List.replicate l.routesDepth "../")

/-- The import of the database in a module of a group. -/
def dbModule : String := l.sourceRootImport ++ l.dbDir

/-- Whether a directory of the layout lies inside the application. -/
def isInside (dir : String) : Bool := dir != "" && (Path.mk dir).components.all (·.isPlain)

/-- The first thing that is wrong with a layout. -/
def fault? : Option ConfigFault :=
  if l.extension = "" ∨ l.extension.toList.any ['.', '/', '\\'].contains then
    some (.extension l.extension)
  else if !isInside l.sourceDir then some (.directory "source_dir" l.sourceDir)
  else if !isInside l.routesDir then some (.directory "routes_dir" l.routesDir)
  else if !isInside l.dbDir then some (.directory "db_dir" l.dbDir)
  else none

end Layout

end ApiSkeleton
