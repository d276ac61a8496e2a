import ApiSkeleton.Decimal.Binary64

namespace ApiSkeleton.Decimal

/-- The number that digits denote in a base; none if one of them is no digit of it. -/
def ofDigits? (base : Nat) (cs : List Char) : Option Nat :=
  if cs.isEmpty then none
  else cs.foldl (fun n c => do
    let n ← n
    let d ← if '0' ≤ c ∧ c ≤ '9' then some (c.toNat - 48)
      else if 'a' ≤ c ∧ c ≤ 'z' then some (c.toNat - 87)
      else if 'A' ≤ c ∧ c ≤ 'Z' then some (c.toNat - 55)
      else none
    if d < base then some (n * base + d) else none) (some 0)

/-- The exponent after its letter, with its sign. -/
def exponent? : List Char → Option Int
  | '-' :: digits => (ofDigits? 10 digits).map fun n => -(n : Int)
  | '+' :: digits => (ofDigits? 10 digits).map fun n => (n : Int)
  | digits => (ofDigits? 10 digits).map fun n => (n : Int)

/-- The value of a number without a sign. A point may stand in front of the digits or behind
    them. -/
def unsigned? (negative : Bool) (cs : List Char) : Option Binary64 :=
  let whole := cs.takeWhile Char.isDigit
  let cs := cs.dropWhile Char.isDigit
  let (fraction, cs) := match cs with
    | '.' :: rest => (rest.takeWhile Char.isDigit, rest.dropWhile Char.isDigit)
    | _ => ([], cs)
  let shift? := match cs with
    | [] => some 0
    | e :: rest => if e = 'e' ∨ e = 'E' then exponent? rest else none
  match ofDigits? 10 (whole ++ fraction), shift? with
  | some digits, some shift => some (Binary64.ofDecimal negative digits (shift - fraction.length))
  | _, _ => none

/-- The value of a number that may have a sign. -/
def number? : List Char → Option Binary64
  | '-' :: rest => unsigned? true rest
  | '+' :: rest => unsigned? false rest
  | cs => unsigned? false cs

end ApiSkeleton.Decimal
