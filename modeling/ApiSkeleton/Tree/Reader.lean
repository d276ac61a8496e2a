import ApiSkeleton.Tree.Token

namespace ApiSkeleton.Tree

/-- A list or an object that is still open, with what it holds so far. -/
inductive Frame where
  /-- The items, last one first. -/
  | list (items : List Tree)
  /-- The members, and the key of the value to come. -/
  | object (members : List (String × Tree)) (key : String)

/-- What may come next. -/
inductive Expected where
  | value
  | valueOrClose
  | key
  | keyOrClose
  | colon
  /-- The value just completed has to be followed by a separator, a bracket or the end. -/
  | afterValue (t : Tree)

/-- How many lists and objects may be open at once. -/
def maxDepth : Nat := 127

/-- Puts the tokens together. -/
def build? : List Token → List Frame → Expected → Option Tree
  | [], [], .afterValue t => some t
  | [], _, _ => none
  | .scalar t :: rest, stack, .value => build? rest stack (.afterValue t)
  | .scalar t :: rest, stack, .valueOrClose => build? rest stack (.afterValue t)
  | .openList :: rest, stack, .value =>
    if stack.length < maxDepth then build? rest (.list [] :: stack) .valueOrClose else none
  | .openList :: rest, stack, .valueOrClose =>
    if stack.length < maxDepth then build? rest (.list [] :: stack) .valueOrClose else none
  | .openObject :: rest, stack, .value =>
    if stack.length < maxDepth then build? rest (.object [] "" :: stack) .keyOrClose else none
  | .openObject :: rest, stack, .valueOrClose =>
    if stack.length < maxDepth then build? rest (.object [] "" :: stack) .keyOrClose else none
  | .closeList :: rest, .list _ :: stack, .valueOrClose =>
    build? rest stack (.afterValue (.list []))
  | .closeObject :: rest, .object _ _ :: stack, .keyOrClose =>
    build? rest stack (.afterValue (.object []))
  | .scalar (.text key) :: rest, .object members _ :: stack, .key =>
    build? rest (.object members key :: stack) .colon
  | .scalar (.text key) :: rest, .object members _ :: stack, .keyOrClose =>
    build? rest (.object members key :: stack) .colon
  | .colon :: rest, stack, .colon => build? rest stack .value
  | .comma :: rest, .list items :: stack, .afterValue t =>
    build? rest (.list (t :: items) :: stack) .value
  | .closeList :: rest, .list items :: stack, .afterValue t =>
    build? rest stack (.afterValue (.list (t :: items).reverse))
  | .comma :: rest, .object members key :: stack, .afterValue t =>
    build? rest (.object (putMember members key t) "" :: stack) .key
  | .closeObject :: rest, .object members key :: stack, .afterValue t =>
    build? rest stack (.afterValue (.object (putMember members key t)))
  | _, _, _ => none

/-- The tree that a JSON text denotes. -/
def ofJson? (s : String) : Option Tree :=
  match tokens? s.toList with
  | none => none
  | some tokens => build? tokens [] .value

end ApiSkeleton.Tree
