import ApiSkeleton.Yaml.Node
import ApiSkeleton.Failure

namespace ApiSkeleton.Yaml.Node

/-- The text of a key. -/
def keyText : Node → Except DecodeFault String
  | .text s => .ok s
  | .int n => .ok (toString n)
  | .float x => .ok (Decimal.yamlStyle.render x)
  | .bool b => .ok (boolText b)
  | key => .error (.mappingKey key.shown)

mutual
/-- The document tree of a value, or the first fault: depth first, a key before its value. -/
def toTree : Node → Except DecodeFault Tree
  | .null => .ok .null
  | .bool b => .ok (.bool b)
  | .int n => .ok (.int n)
  | .float x => if x.isFinite then .ok (.float x) else .error (.nonFinite x)
  | .text s => .ok (.text s)
  | .list items => do return .list (← toItems items)
  | .map entries => do return .object (← toMembers [] entries)
  | .tagged _ value => value.toTree

def toItems : List Node → Except DecodeFault (List Tree)
  | [] => .ok []
  | n :: rest => do
    let t ← n.toTree
    return t :: (← toItems rest)

def toMembers (done : List (String × Tree)) :
    List (Node × Node) → Except DecodeFault (List (String × Tree))
  | [] => .ok done
  | (k, v) :: rest => do
    let key ← k.keyText
    toMembers (putMember done key (← v.toTree)) rest
end

end ApiSkeleton.Yaml.Node
