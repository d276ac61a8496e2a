import ApiSkeleton.Layout

namespace ApiSkeleton

namespace App

/-- What a file name ends in if the file is a template. -/
def templateSuffix : String := ".jinja"

/-- Whether a file of the tree is rendered. -/
def isTemplate (name : String) : Bool := templateSuffix.toList.isSuffixOf name.toList

/-- A name without the mark of templates. -/
def baseName (name : String) : String :=
  match templateSuffix.toList.isSuffixOf? name.toList with
  | some cs => String.ofList cs
  | none => name

/-- What follows a directory in the name of a file that lies in it. -/
def below? (directory name : String) : Option Path :=
  (directory.toList.isPrefixOf? name.toList).map fun cs => ⟨String.ofList cs⟩

end App

/-- Where a file of the application tree goes. The tree is made for the default layout: what it has
    below `src` and `src/db` moves to the directories of the layout in force. A file `gitignore` at
    the top gets its dot back. -/
def Layout.place (l : Layout) (name : String) : Path :=
  let base := App.baseName name
  let base := if base = "gitignore" then ".gitignore" else base
  let source : Path := ⟨l.sourceDir⟩
  match App.below? "src/db/" base with
  | some rest => (source.join ⟨l.dbDir⟩).join rest
  | none =>
    match App.below? "src/" base with
    | some rest => source.join rest
    | none => ⟨base⟩

end ApiSkeleton
