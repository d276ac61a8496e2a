import ApiSkeleton.Tree.Printer
import ApiSkeleton.Text.Revealed

namespace ApiSkeleton.Template

/-- What an expression denotes. Maps may have keys of any kind, in order of insertion. `undefined`
    stands for what the context does not have. -/
inductive Value where
  | undefined
  | none
  | bool (b : Bool)
  | int (n : Int)
  | float (x : Binary64)
  | text (s : String)
  | list (items : List Value)
  | map (entries : List (Value × Value))
deriving Inhabited

namespace Value

mutual
/-- The value of a document tree. -/
def ofTree : Tree → Value
  | .null => .none
  | .bool b => .bool b
  | .int n => .int n
  | .float x => .float x
  | .text s => .text s
  | .list items => .list (ofItems items)
  | .object members => .map (ofMembers members)

def ofItems : List Tree → List Value
  | [] => []
  | t :: rest => ofTree t :: ofItems rest

def ofMembers : List (String × Tree) → List (Value × Value)
  | [] => []
  | (k, t) :: rest => (.text k, ofTree t) :: ofMembers rest
end

/-- A map with texts as keys. -/
def ofFields (fields : List (String × Value)) : Value :=
  .map (fields.map fun (k, v) => (.text k, v))

/-- The text of a truth value. -/
def boolText (b : Bool) : String := if b then "True" else "False"

/-- Numbers inside a list or a map, where very large and very small ones take an exponent. -/
def nestedStyle : Decimal.Style := ⟨some (-4, 15), false, fun _ => true, "inf", "-inf", "NaN"⟩

mutual
/-- The text of a value inside a list or a map. -/
def inspected : Value → String
  | .undefined => "undefined"
  | .none => "None"
  | .bool b => boolText b
  | .int n => toString n
  | .float x => nestedStyle.render x
  | .text s => Text.revealed s
  | .list items => "[" ++ ", ".intercalate (inspectedItems items) ++ "]"
  | .map entries => "\x7b" ++ ", ".intercalate (inspectedEntries entries) ++ "\x7d"

def inspectedItems : List Value → List String
  | [] => []
  | v :: rest => v.inspected :: inspectedItems rest

def inspectedEntries : List (Value × Value) → List String
  | [] => []
  | (k, v) :: rest => (k.inspected ++ ": " ++ v.inspected) :: inspectedEntries rest
end

/-- The text of a value by itself. -/
def printed : Value → String
  | .undefined => ""
  | .float x => Decimal.plainStyle.render x
  | .text s => s
  | v => v.inspected

/-- Whether a value counts as true in a condition. -/
def isTrue : Value → Bool
  | .undefined | .none => false
  | .bool b => b
  | .int n => n != 0
  | .float x => !x.isZero
  | .text s => s != ""
  | .list items => !items.isEmpty
  | .map entries => !entries.isEmpty

/-- Two scalars brought to one kind. -/
inductive Pair where
  | ints (a b : Int)
  | floats (a b : Binary64)
  | texts (a b : String)

/-- Whole numbers between `-2 ^ 127` and `2 ^ 127`. -/
def fitsWord (n : Int) : Bool := -(Nat.pow 2 127 : Nat) ≤ n && n < (Nat.pow 2 127 : Nat)

/-- A whole number; truth values count as 0 and 1. -/
def asInt? : Value → Option Int
  | .bool b => some (if b then 1 else 0)
  | .int n => if fitsWord n then some n else Option.none
  | _ => Option.none

/-- A number in double precision. Unless rounding is allowed, a whole number has to be exact. -/
def asFloat? (rounding : Bool) : Value → Option Binary64
  | .bool b => some (Binary64.ofInt (if b then 1 else 0))
  | .int n =>
    let x := Binary64.ofInt n
    if rounding || x.numerator == n.natAbs * x.denominator then some x else Option.none
  | .float x => some x
  | _ => Option.none

/-- Brings two scalars to one kind: texts stay texts, and one floating number makes two. -/
def pair? (rounding : Bool) : Value → Value → Option Pair
  | .text a, .text b => some (.texts a b)
  | .float a, b => (b.asFloat? rounding).map (.floats a)
  | a, .float b => (a.asFloat? rounding).map (.floats · b)
  | a, b =>
    match a.asInt?, b.asInt? with
    | some m, some n => some (.ints m n)
    | _, _ => Option.none

mutual
/-- Equality as templates see it: numbers of different kinds are equal if their values are, and the
    order of a map does not count. -/
def same : Value → Value → Bool
  | .undefined, .undefined => true
  | .none, .none => true
  | .list a, .list b => sameItems a b
  | .map a, .map b => a.length == b.length && sameEntries a b
  | a, b =>
    match pair? false a b with
    | some (.ints m n) => m == n
    | some (.floats x y) => !x.isNaN && x.sameValue y
    | some (.texts s t) => s == t
    | Option.none => false

def sameItems : List Value → List Value → Bool
  | [], [] => true
  | a :: as, b :: bs => a.same b && sameItems as bs
  | _, _ => false

def sameEntries : List (Value × Value) → List (Value × Value) → Bool
  | [], _ => true
  | (k, v) :: rest, other =>
    (other.any fun (l, w) => k.same l && v.same w) && sameEntries rest other
end

/-- The entry of a map under a key. -/
def get? (entries : List (Value × Value)) (key : Value) : Option Value :=
  (entries.find? fun (k, _) => k.same key).map (·.2)

/-- Puts a value under a key: in the place of an earlier one, or at the end. -/
def putEntry (entries : List (Value × Value)) (key value : Value) : List (Value × Value) :=
  match entries with
  | [] => [(key, value)]
  | (k, v) :: rest =>
    if k.same key then (k, value) :: rest else (k, v) :: putEntry rest key value

/-- The rank of a kind of value in the order of values. -/
def rank : Value → Nat
  | .undefined => 0
  | .none => 1
  | .bool _ => 2
  | .int _ | .float _ => 3
  | .text _ => 4
  | .list _ => 5
  | .map _ => 6

/-- A key in whose order double-precision numbers increase. -/
def floatKey (x : Binary64) : Int :=
  if x.isNegative then -1 - (x.magnitude : Int) else x.magnitude

mutual
/-- The order of values: by kind, then by value, and lists item by item. -/
def compare : Value → Value → Ordering
  | .list a, .list b => compareItems a b
  | .map a, .map b => compareEntries a b
  | a, b =>
    (Ord.compare a.rank b.rank).then <|
      match pair? false a b with
      | some (.ints m n) => Ord.compare m n
      | some (.floats x y) => Ord.compare (floatKey x) (floatKey y)
      | some (.texts s t) => Ord.compare s t
      | Option.none => .eq

def compareItems : List Value → List Value → Ordering
  | [], [] => .eq
  | [], _ :: _ => .lt
  | _ :: _, [] => .gt
  | a :: as, b :: bs => (a.compare b).then (compareItems as bs)

def compareEntries : List (Value × Value) → List (Value × Value) → Ordering
  | [], [] => .eq
  | [], _ :: _ => .lt
  | _ :: _, [] => .gt
  | (k, v) :: as, (l, w) :: bs => ((k.compare l).then (v.compare w)).then (compareEntries as bs)
end

/-- The text of a value as the key of a document member. -/
def keyText? : Value → Option String
  | .bool b => some (if b then "true" else "false")
  | .int n => some (toString n)
  | .float x => if x.isFinite then some (Decimal.jsonStyle.render x) else Option.none
  | .text s => some s
  | _ => Option.none

/-- The documents' range of whole numbers: those of a signed or an unsigned 64-bit word. -/
def fitsDocument (n : Int) : Bool := -(Nat.pow 2 63 : Nat) ≤ n && n < (Nat.pow 2 64 : Nat)

mutual
/-- The document tree of a value. What is undefined becomes null. -/
def toTree? : Value → Option Tree
  | .undefined | .none => some .null
  | .bool b => some (.bool b)
  | .int n => if fitsDocument n then some (.int n) else Option.none
  | .float x => some (if x.isFinite then .float x else .null)
  | .text s => some (.text s)
  | .list items => (toItems? items).map .list
  | .map entries => (toMembers? [] entries).map .object

def toItems? : List Value → Option (List Tree)
  | [] => some []
  | v :: rest => do return (← v.toTree?) :: (← toItems? rest)

def toMembers? (done : List (String × Tree)) : List (Value × Value) → Option (List (String × Tree))
  | [] => some done
  | (k, v) :: rest => do toMembers? (putMember done (← k.keyText?) (← v.toTree?)) rest
end

end Value

end ApiSkeleton.Template
