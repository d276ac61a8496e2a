import ApiSkeleton.Decimal.Binary64

namespace ApiSkeleton.Decimal

/-- Digits and the power of ten that they count. -/
structure Digits where
  digits : Nat
  exponent : Int
deriving DecidableEq

/-- A positive number with the ends of the interval of reals that round to it, all over one
    denominator. -/
structure Interval where
  low : Nat
  value : Nat
  high : Nat
  denominator : Nat
  /-- Whether the ends themselves round to the number. -/
  closed : Bool

/-- The interval of a positive finite number. Below a power of two the neighbours are closer. -/
def Interval.ofBinary64 (x : Binary64) : Interval :=
  let m := x.significand
  let q := x.scale - 2
  let up := Nat.pow 2 q.toNat
  let gap := if m = Nat.pow 2 52 ∧ -1074 < x.scale then 1 else 2
  ⟨(4 * m - gap) * up, 4 * m * up, (4 * m + 2) * up, Nat.pow 2 (-q).toNat, m % 2 == 0⟩

/-- How many decimal digits a number has; one for zero. -/
def digitCount (n : Nat) : Nat := (Nat.toDigits 10 n).length

/-- The exponent of the first significant digit of a positive quotient. -/
def leadingExponent (num den : Nat) : Int :=
  if den ≤ num then (digitCount (num / den) : Int) - 1
  else -(digitCount ((den - 1) / num) : Int)

/-- Whether `count · 10 ^ k` lies in the interval, where `up` and `down` are the powers of ten that
    bring the two to one denominator. -/
def Interval.holds (i : Interval) (up down count : Nat) : Bool :=
  let point := count * i.denominator * up
  if i.closed then decide (i.low * down ≤ point) && decide (point ≤ i.high * down)
  else decide (i.low * down < point) && decide (point < i.high * down)

/-- The neighbour of the number on the grid of `10 ^ k` that reads back, the nearer one of two;
    `tieUp` says which of two that are equally near. -/
def Interval.onGrid? (i : Interval) (tieUp : Nat → Bool) (k : Int) : Option Nat :=
  let up := Nat.pow 10 k.toNat
  let down := Nat.pow 10 (-k).toNat
  let unit := i.denominator * up
  let below := i.value * down / unit
  let rest := i.value * down % unit
  match i.holds up down below, i.holds up down (below + 1) with
  | true, true =>
    if 2 * rest < unit then some below
    else if unit < 2 * rest then some (below + 1)
    else some (if tieUp below then below + 1 else below)
  | true, false => some below
  | false, true => some (below + 1)
  | false, false => none

/-- The first grid with a hit, starting from that of `10 ^ k` and going on to finer ones. -/
def Interval.search (i : Interval) (tieUp : Nat → Bool) (k : Int) : Nat → Digits
  | 0 => ⟨0, k⟩
  | more + 1 =>
    match i.onGrid? tieUp k with
    | some n => ⟨n, k⟩
    | none => i.search tieUp (k - 1) more

/-- Drops trailing zeros. -/
def Digits.trim (d : Digits) : Digits :=
  if _ : d.digits = 0 then d
  else if d.digits % 10 = 0 then Digits.trim ⟨d.digits / 10, d.exponent + 1⟩
  else d
termination_by d.digits
decreasing_by omega

/-- The shortest digits of a positive finite number: the fewest that read back as the number, and of
    those the nearest to it. Seventeen always suffice. -/
def shortest (tieUp : Nat → Bool) (x : Binary64) : Digits :=
  let i := Interval.ofBinary64 x
  (i.search tieUp (leadingExponent i.value i.denominator) 17).trim

end ApiSkeleton.Decimal
