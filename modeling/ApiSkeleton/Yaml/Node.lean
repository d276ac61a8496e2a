import ApiSkeleton.Tree.Basic
import ApiSkeleton.Decimal.Style
import ApiSkeleton.Text.Revealed

namespace ApiSkeleton.Yaml

/-- A YAML value. Keys may be of any kind, and values may carry a tag of their own. -/
inductive Node where
  | null
  | bool (b : Bool)
  | int (n : Int)
  | float (x : Binary64)
  | text (s : String)
  | list (items : List Node)
  | map (entries : List (Node × Node))
  | tagged (tag : String) (value : Node)
deriving Inhabited

namespace Node

mutual
/-- Whether two nodes denote the same value. -/
def same : Node → Node → Bool
  | .null, .null => true
  | .bool a, .bool b => a == b
  | .int a, .int b => a == b
  | .float a, .float b => a.sameValue b
  | .text a, .text b => a == b
  | .list a, .list b => sameItems a b
  | .map a, .map b => a.length == b.length && sameEntries a b
  | .tagged s a, .tagged t b => s == t && a.same b
  | _, _ => false

def sameItems : List Node → List Node → Bool
  | [], [] => true
  | a :: as, b :: bs => a.same b && sameItems as bs
  | _, _ => false

def sameEntries : List (Node × Node) → List (Node × Node) → Bool
  | [], _ => true
  | (k, v) :: rest, other =>
    (other.any fun (l, w) => k.same l && v.same w) && sameEntries rest other
end

def boolText (b : Bool) : String := if b then "true" else "false"

mutual
/-- A node shown with the kinds of its parts. -/
def shown : Node → String
  | .null => "Null"
  | .bool b => "Bool(" ++ boolText b ++ ")"
  | .int n => "Number(" ++ toString n ++ ")"
  | .float x => "Number(" ++ Decimal.yamlStyle.render x ++ ")"
  | .text s => "String(" ++ Text.revealed s ++ ")"
  | .list items => "Sequence [" ++ ", ".intercalate (shownItems items) ++ "]"
  | .map entries => "Mapping \x7b" ++ ", ".intercalate (shownEntries entries) ++ "\x7d"
  | .tagged tag value => "TaggedValue \x7b tag: !" ++ tag ++ ", value: " ++ value.shown ++ " \x7d"

def shownItems : List Node → List String
  | [] => []
  | n :: rest => n.shown :: shownItems rest

def shownEntries : List (Node × Node) → List String
  | [] => []
  | (k, v) :: rest => (shownKey k ++ ": " ++ v.shown) :: shownEntries rest

/-- A key, which shows its kind only where it is not a scalar. -/
def shownKey : Node → String
  | .bool b => boolText b
  | .int n => toString n
  | .float x => Decimal.yamlStyle.render x
  | .text s => Text.revealed s
  | .null => "Null"
  | .list items => "Sequence [" ++ ", ".intercalate (shownItems items) ++ "]"
  | .map entries => "Mapping \x7b" ++ ", ".intercalate (shownEntries entries) ++ "\x7d"
  | .tagged tag value => "TaggedValue \x7b tag: !" ++ tag ++ ", value: " ++ value.shown ++ " \x7d"
end

end Node

end ApiSkeleton.Yaml
