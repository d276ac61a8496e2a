import ApiSkeleton.Template.Statement

namespace ApiSkeleton

namespace Binary64

/-- A number from a signed numerator over a positive denominator. A zero takes the given sign. -/
private def ofSigned (zeroSign : Bool) (num : Int) (den : Nat) : Binary64 :=
  if num = 0 then ofMagnitude zeroSign 0 else ofRatio (num < 0) num.natAbs den

private def signedNumerator (x : Binary64) : Int :=
  if x.isNegative then -(x.numerator : Int) else x.numerator

/-- The sum of two numbers. -/
def add (x y : Binary64) : Binary64 :=
  if x.isNaN || y.isNaN then nan
  else if !x.isFinite then
    if !y.isFinite && x.isNegative != y.isNegative then nan else x
  else if !y.isFinite then y
  else
    ofSigned (x.isNegative && y.isNegative)
      (x.signedNumerator * y.denominator + y.signedNumerator * x.denominator)
      (x.denominator * y.denominator)

def sub (x y : Binary64) : Binary64 := x.add y.neg

/-- The product of two numbers, finite or not. -/
def times (x y : Binary64) : Binary64 :=
  if x.isNaN || y.isNaN then nan
  else if x.isFinite && y.isFinite then x.mul y
  else if x.isZero || y.isZero then nan
  else infinity (x.isNegative != y.isNegative)

/-- The quotient of two numbers, finite or not. -/
def divide (x y : Binary64) : Binary64 :=
  let negative := x.isNegative != y.isNegative
  if x.isNaN || y.isNaN then nan
  else if !x.isFinite then if y.isFinite then infinity negative else nan
  else if !y.isFinite then ofMagnitude negative 0
  else if y.isZero then if x.isZero then nan else infinity negative
  else x.div y

/-- The remainder of the division towards zero, which has the sign of the first number. -/
def rem (x y : Binary64) : Binary64 :=
  if x.isNaN || y.isNaN || !x.isFinite || y.isZero then nan
  else if !y.isFinite then x
  else
    ofRatio x.isNegative ((x.numerator * y.denominator) % (y.numerator * x.denominator))
      (x.denominator * y.denominator)

/-- The number without its fraction. -/
def truncate (x : Binary64) : Binary64 :=
  if x.isFinite then ofRatio x.isNegative (x.numerator / x.denominator) 1 else x

/-- The quotient without its fraction, one further from zero where the remainder is negative. -/
def floorDiv (x y : Binary64) : Binary64 :=
  let q := (x.divide y).truncate
  let r := x.rem y
  if r.isNaN || r.isZero || !r.isNegative then q
  else if y.isNegative then q.add (ofInt 1)
  else q.sub (ofInt 1)

end Binary64

namespace Template

namespace Value

private def whole (n : Int) : Except Fault Value :=
  if fitsWord n then .ok (.int n) else .error .invalidOperation

/-- An operation on two numbers. -/
private def arithmetic (ints : Int → Int → Except Fault Value)
    (floats : Binary64 → Binary64 → Binary64) (a b : Value) : Except Fault Value :=
  match pair? true a b with
  | some (.ints m n) => ints m n
  | some (.floats x y) => .ok (.float (floats x y))
  | _ => .error .invalidOperation

/-- Sums of numbers; texts and lists are put one behind the other. -/
def add : Value → Value → Except Fault Value
  | .list a, .list b => .ok (.list (a ++ b))
  | .text a, .text b => .ok (.text (a ++ b))
  | a, b => arithmetic (fun m n => whole (m + n)) Binary64.add a b

/-- A whole number as a position or a count. -/
def asPosition? : Value → Option Int
  | .bool b => some (if b then 1 else 0)
  | .int n =>
    if -(Nat.pow 2 63 : Nat) ≤ n ∧ n < (Nat.pow 2 63 : Nat) then some n else Option.none
  | .float x =>
    if x.isFinite ∧ x.numerator % x.denominator = 0 ∧
        x.numerator / x.denominator < Nat.pow 2 63 then
      some (if x.isNegative then -(x.numerator / x.denominator : Nat)
        else (x.numerator / x.denominator : Nat))
    else Option.none
  | _ => Option.none

/-- How often something is repeated. -/
def asCount (n : Value) : Except Fault Nat :=
  match n.asPosition? with
  | some k => if k < 0 then .error .invalidOperation else .ok k.toNat
  | Option.none => .error .invalidOperation

/-- Products of numbers; a text or a list is repeated a number of times. -/
def mul : Value → Value → Except Fault Value
  | .text s, n | n, .text s => do
    return .text (String.join (List.replicate (← n.asCount) s))
  | .list items, n | n, .list items => do
    return .list (List.replicate (← n.asCount) items).flatten
  | a, b => arithmetic (fun m n => whole (m * n)) Binary64.times a b

/-- Quotients are always floating numbers. -/
def div (a b : Value) : Except Fault Value :=
  match a.asFloat? true, b.asFloat? true with
  | some x, some y => .ok (.float (x.divide y))
  | _, _ => .error .invalidOperation

def floorDiv : Value → Value → Except Fault Value :=
  arithmetic (fun m n => if n = 0 then .error .invalidOperation else whole (m / n))
    Binary64.floorDiv

def rem : Value → Value → Except Fault Value :=
  arithmetic (fun m n => if n = 0 then .error .invalidOperation else whole (m % n)) Binary64.rem

/-- Powers with a whole exponent below 2 ^ 32. -/
def pow : Value → Value → Except Fault Value :=
  arithmetic
    (fun m n =>
      if n < 0 ∨ (Nat.pow 2 32 : Nat) ≤ n then .error .invalidOperation
      else if m.natAbs ≤ 1 then whole (Int.pow m (n.toNat % 2 + if n = 0 then 0 else 2))
      else if 127 < n then .error .invalidOperation
      else whole (Int.pow m n.toNat))
    (fun x y => ⟨(Float.pow (Float.ofBits x.bits) (Float.ofBits y.bits)).toBits⟩)

def neg : Value → Except Fault Value
  | .int n => if fitsWord n then whole (-n) else .error .invalidOperation
  | .float x => .ok (.float x.neg)
  | _ => .error .invalidOperation

/-- Whether one list of characters occurs within another. -/
def occursIn (part : List Char) : List Char → Bool
  | [] => part.isEmpty
  | c :: rest => part.isPrefixOf (c :: rest) || occursIn part rest

/-- Whether a container holds a value: a part of a text, an item of a list, a key of a map. -/
def holds (container v : Value) : Except Fault Value :=
  match container with
  | .undefined => .ok (.bool false)
  | .text s => .ok (.bool (occursIn v.printed.toList s.toList))
  | .list items => .ok (.bool (items.any (·.same v)))
  | .map entries => .ok (.bool (get? entries v).isSome)
  | _ => .error .invalidOperation

def apply (op : Operator) (a b : Value) : Except Fault Value :=
  match op with
  | .add => add a b
  | .sub => arithmetic (fun m n => whole (m - n)) Binary64.sub a b
  | .mul => mul a b
  | .div => div a b
  | .floorDiv => floorDiv a b
  | .rem => rem a b
  | .pow => pow a b
  | .concat => .ok (.text (a.printed ++ b.printed))
  | .eq => .ok (.bool (a.same b))
  | .ne => .ok (.bool !(a.same b))
  | .lt => .ok (.bool (a.compare b == .lt))
  | .le => .ok (.bool (a.compare b != .gt))
  | .gt => .ok (.bool (a.compare b == .gt))
  | .ge => .ok (.bool (a.compare b != .lt))
  | .isIn => holds b a

/-- The member of a value: only maps have any, and what is undefined cannot be asked. -/
def member (v : Value) (name : String) : Except Fault Value :=
  match v with
  | .undefined => .error .undefinedPart
  | .map entries => .ok ((get? entries (.text name)).getD .undefined)
  | _ => .ok .undefined

/-- The element at a position; negative positions count from the end. -/
def elementAt? {α : Type} (xs : List α) (position : Int) : Option α :=
  if 0 ≤ position then xs[position.toNat]?
  else if position.natAbs ≤ xs.length then xs[xs.length - position.natAbs]?
  else Option.none

/-- The part of a value under an index: a key of a map, or a position in a list or a text. -/
def item (v index : Value) : Except Fault Value :=
  match v with
  | .undefined => .error .undefinedPart
  | .map entries => .ok ((get? entries index).getD .undefined)
  | .list items =>
    .ok ((index.asPosition?.bind (elementAt? items)).getD .undefined)
  | .text s =>
    .ok (((index.asPosition?.bind (elementAt? s.toList)).map
      fun c => Value.text (String.singleton c)).getD .undefined)
  | _ => .ok .undefined

/-- The items that a loop goes through: of a map its keys, of a text its characters. -/
def items : Value → Except Fault (List Value)
  | .undefined | .none => .ok []
  | .list xs => .ok xs
  | .map entries => .ok (entries.map (·.1))
  | .text s => .ok (s.toList.map fun c => .text (String.singleton c))
  | _ => .error .notIterable

end Value

end Template

end ApiSkeleton
