import ApiSkeleton.FileSystem
import ApiSkeleton.Layout
import ApiSkeleton.Toml.Document

namespace ApiSkeleton.Config

/-- The file that is looked for beside the document. -/
def fileName : String := "scaffold.toml"

/-- A text, if the item is one; the default if there is no item. -/
def textOr (default : String) : Option Toml.Item → Option String
  | none => some default
  | some (.text s) => some s
  | some _ => none

def layoutOfEntries? (es : Toml.Entries) : Option Layout := do
  return {
    extension := ← textOr defaultLayout.extension (findMember? es "extension")
    sourceDir := ← textOr defaultLayout.sourceDir (findMember? es "source_dir")
    routesDir := ← textOr defaultLayout.routesDir (findMember? es "routes_dir")
    dbDir := ← textOr defaultLayout.dbDir (findMember? es "db_dir") }

/-- The parts of a layout in order; what follows the fourth is passed over. -/
def layoutOfList? (items : List Toml.Item) : Option Layout := do
  return {
    extension := ← textOr defaultLayout.extension items[0]?
    sourceDir := ← textOr defaultLayout.sourceDir items[1]?
    routesDir := ← textOr defaultLayout.routesDir items[2]?
    dbDir := ← textOr defaultLayout.dbDir items[3]? }

/-- The layout that an `output` item describes. A date has none of the known members. -/
def layoutOfItem? : Toml.Item → Option Layout
  | .table _ es | .inlineTable es => layoutOfEntries? es
  | .list items => layoutOfList? items
  | .tables all => layoutOfList? (all.map fun es => .table .header es)
  | .dateTime => some defaultLayout
  | _ => none

/-- The layout that a configuration describes, before it is checked. What its `output` table does
    not name has its default, and names it does not know are passed over. -/
def ofText? (text : String) : Option Layout :=
  match Toml.ofText? text with
  | none => none
  | some es =>
    match findMember? es "output" with
    | none => some defaultLayout
    | some item => layoutOfItem? item

/-- The layout that the text of a file describes. -/
def ofText (path : Path) (text : String) : Except Failure Layout :=
  match ofText? text with
  | none => .error (.config path .malformed)
  | some l =>
    match l.fault? with
    | some fault => .error (.config path fault)
    | none => .ok l

/-- The layout that a file describes, none if there is no file. -/
def load (fs : FileSystem) (path : Path) : Except Failure (Option Layout) :=
  if !fs.pathExists path then .ok none
  else
    match fs.readText path with
    | .error fault => .error (.config path (.unreadable fault))
    | .ok text => (ofText path text).map some

/-- The layout in force for a document: that of the given file, which must exist, else that of the
    file beside the document, else the default. -/
def resolve (fs : FileSystem) (given : Option Path) (document : Path) : Except Failure Layout :=
  match given with
  | some path => do
    match ← load fs path with
    | some l => return l
    | none => throw (.config path .notFound)
  | none =>
    match document.parent? with
    | none => .ok defaultLayout
    | some dir => do return (← load fs (dir.join ⟨fileName⟩)).getD defaultLayout

end ApiSkeleton.Config
