namespace ApiSkeleton

/-- A path as it is written. Two texts may name the same place: repeated and trailing slashes and
    inner dots do not count, so that paths are compared by their components. Nothing is resolved,
    and `..` stays where it is. -/
structure Path where
  text : String
deriving DecidableEq, Inhabited

namespace Path

/-- One step of a path. A single dot is a step only at the very beginning. -/
inductive Component where
  | root
  | current
  | parent
  | name (s : String)
deriving DecidableEq, Inhabited

/-- The texts between the slashes, at least one. -/
def segments : List Char → List (List Char)
  | [] => [[]]
  | c :: rest =>
    if c = '/' then [] :: segments rest
    else
      match segments rest with
      | [] => [[c]]
      | s :: more => (c :: s) :: more

/-- The text with the given segments. -/
def joinSegments : List (List Char) → List Char
  | [] => []
  | [s] => s
  | s :: t :: more => s ++ '/' :: joinSegments (t :: more)

/-- The steps that segments take, when they do not stand at the beginning. -/
def innerComponents : List (List Char) → List Component
  | [] => []
  | s :: more =>
    if s = [] ∨ s = ['.'] then innerComponents more
    else if s = ['.', '.'] then .parent :: innerComponents more
    else .name (String.ofList s) :: innerComponents more

/-- The steps of a path. -/
def components (p : Path) : List Component :=
  match segments p.text.toList with
  | [] => []
  | first :: more =>
    if first = [] then
      if more = [] then [] else .root :: innerComponents more
    else if first = ['.'] then .current :: innerComponents more
    else innerComponents (first :: more)

def isAbsolute (p : Path) : Bool := p.text.toList.head? == some '/'

/-- Puts one path behind another. Only a slash is added where it is missing, and an absolute path
    takes the place of what stands before it. -/
def join (p q : Path) : Path :=
  if q.isAbsolute then q
  else if p.text = "" ∨ p.text.toList.getLast? = some '/' then ⟨p.text ++ q.text⟩
  else ⟨p.text ++ "/" ++ q.text⟩

/-- Drops the segments at the end that are no steps. -/
def dropIdle (reversed : List (List Char)) : List (List Char) :=
  reversed.dropWhile fun s => s == [] || s == ['.']

/-- The segments without their last step, none if there is no step. -/
def dropLast? (body : List (List Char)) : Option (List (List Char)) :=
  match dropIdle body.reverse with
  | [] => none
  | _ :: before => some (dropIdle before).reverse

/-- The path without its last step, which neither the root nor nothing at all has. -/
def parent? (p : Path) : Option Path :=
  match segments p.text.toList with
  | [] => none
  | first :: more =>
    if first = [] then
      (dropLast? more).map fun body => ⟨String.ofList ('/' :: joinSegments body)⟩
    else if first = ['.'] then
      match dropLast? more with
      | some body => some ⟨String.ofList (joinSegments (first :: body))⟩
      | none => some ⟨""⟩
    else (dropLast? (first :: more)).map fun body => ⟨String.ofList (joinSegments body)⟩

/-- The path without a single dot in front. -/
def withoutCurrent (p : Path) : Path :=
  match segments p.text.toList with
  | ['.'] :: more =>
    let rest := more.dropWhile fun s => s == [] || s == ['.']
    ⟨String.ofList (joinSegments (dropIdle rest.reverse).reverse)⟩
  | _ => p

/-- The last step, if it is a name. -/
def fileName? (p : Path) : Option String :=
  match p.components.getLast? with
  | some (.name s) => some s
  | _ => none

/-- What follows the last dot of the file name. A dot in front does not count. -/
def extension? (p : Path) : Option String :=
  match p.fileName? with
  | none => none
  | some name =>
    let reversed := name.toList.reverse
    match reversed.dropWhile (· != '.') with
    | [] | [_] => none
    | _ => some (String.ofList (reversed.takeWhile (· != '.')).reverse)

/-- The rank of a kind of step in the order of paths. -/
def Component.rank : Component → Nat
  | .root => 0
  | .current => 1
  | .parent => 2
  | .name _ => 3

/-- The order of steps: by kind, then names by their characters. -/
def Component.compare (a b : Component) : Ordering :=
  match a, b with
  | .name s, .name t => Ord.compare s t
  | _, _ => Ord.compare a.rank b.rank

/-- The order of paths: step by step, so that what lies in a directory stays together. -/
def compareComponents : List Component → List Component → Ordering
  | [], [] => .eq
  | [], _ :: _ => .lt
  | _ :: _, [] => .gt
  | a :: as, b :: bs => (a.compare b).then (compareComponents as bs)

/-- Whether a step leads nowhere but further down. -/
def Component.isPlain : Component → Bool
  | .name _ | .current => true
  | .root | .parent => false

/-- Whether a path stays below the place it starts from, and goes anywhere at all. -/
def staysInside (p : Path) : Bool := p.components != [] && p.components.all (·.isPlain)

end Path

end ApiSkeleton
