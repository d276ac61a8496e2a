import ApiSkeleton.Tree.Basic
import ApiSkeleton.Decimal.Style
import ApiSkeleton.Text.Quoted

namespace ApiSkeleton.Tree

mutual
/-- The compact JSON text. -/
def render : Tree → String
  | .null => "null"
  | .bool b => if b then "true" else "false"
  | .int n => toString n
  | .float x => Decimal.jsonStyle.render x
  | .text s => Text.quoted s
  | .list items => "[" ++ ",".intercalate (itemTexts items) ++ "]"
  | .object members => "\x7b" ++ ",".intercalate (memberTexts members) ++ "\x7d"

def itemTexts : List Tree → List String
  | [] => []
  | t :: rest => t.render :: itemTexts rest

def memberTexts : List (String × Tree) → List String
  | [] => []
  | (k, t) :: rest => (Text.quoted k ++ ":" ++ t.render) :: memberTexts rest
end

/-- A member that is meant to be a text: texts are taken as they are, all else is printed. -/
def asPrinted : Tree → String
  | .text s => s
  | t => t.render

end ApiSkeleton.Tree
