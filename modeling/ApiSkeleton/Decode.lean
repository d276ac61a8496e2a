import ApiSkeleton.Tree.Reader
import ApiSkeleton.Yaml.Document
import ApiSkeleton.Yaml.ToTree

namespace ApiSkeleton

/-- The tree that a text in a format denotes. -/
def decodeText (format : Format) (text : String) : Except DecodeFault Tree :=
  match format with
  | .json =>
    match Tree.ofJson? text with
    | some t => .ok t
    | none => .error .malformed
  | .yaml =>
    match Yaml.ofText? text with
    | some node => node.toTree
    | none => .error .malformed

/-- The tree that the text of a file denotes. -/
def decodeDocument (path : Path) (format : Format) (text : String) : Except Failure Tree :=
  match decodeText format text with
  | .ok t => .ok t
  | .error fault => .error (.decode path format fault)

end ApiSkeleton
