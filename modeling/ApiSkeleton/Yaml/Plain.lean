import ApiSkeleton.Yaml.Node
import ApiSkeleton.Decimal.Reader

namespace ApiSkeleton.Yaml

def isNullWord (s : String) : Bool := ["null", "Null", "NULL", "~"].contains s

def boolWord? (s : String) : Option Bool :=
  if ["true", "True", "TRUE"].contains s then some true
  else if ["false", "False", "FALSE"].contains s then some false
  else none

/-- Digits with a zero in front and perhaps a sign, which make no number. -/
def isPaddedNumber (cs : List Char) : Bool :=
  let cs := match cs with
    | '+' :: rest | '-' :: rest => rest
    | _ => cs
  1 < cs.length && cs.head? == some '0' && cs.all Char.isDigit

/-- The digits behind a mark for their base. -/
def basedDigits? (cs : List Char) : Option Nat :=
  match cs with
  | '0' :: 'x' :: rest => Decimal.ofDigits? 16 rest
  | '0' :: 'o' :: rest => Decimal.ofDigits? 8 rest
  | '0' :: 'b' :: rest => Decimal.ofDigits? 2 rest
  | _ => none

/-- The whole number that a scalar looks like, of any size. -/
def wholeNumber? (cs : List Char) : Option Int :=
  let decimal (digits : List Char) : Option Nat :=
    if isPaddedNumber cs then none else Decimal.ofDigits? 10 digits
  match cs with
  | '-' :: rest =>
    ((basedDigits? rest).or (decimal rest)).map fun n => -(n : Int)
  | '+' :: rest => ((basedDigits? rest).or (decimal rest)).map fun n => (n : Int)
  | _ => ((basedDigits? cs).or (decimal cs)).map fun n => (n : Int)

/-- The finite floating number that a scalar looks like, or one of the words for what is not. -/
def floatNumber? (s : String) : Option Binary64 :=
  if [".inf", ".Inf", ".INF", "+.inf", "+.Inf", "+.INF"].contains s then
    some (Binary64.infinity false)
  else if ["-.inf", "-.Inf", "-.INF"].contains s then some (Binary64.infinity true)
  else if [".nan", ".NaN", ".NAN"].contains s then some Binary64.nan
  else (Decimal.number? s.toList).filter Binary64.isFinite

/-- A whole number as a value: 64-bit words are numbers, and what needs more, up to 128 bits, is
    refused. Beyond that it is not read as a whole number at all. -/
inductive WholeNumber where
  | value (n : Int)
  | refused
  | unread

def WholeNumber.ofChars (cs : List Char) : WholeNumber :=
  match wholeNumber? cs with
  | none => .unread
  | some n =>
    if -(Nat.pow 2 63 : Nat) ≤ n ∧ n < (Nat.pow 2 64 : Nat) then .value n
    else if -(Nat.pow 2 127 : Nat) ≤ n ∧ n < (Nat.pow 2 128 : Nat) then .refused
    else .unread

/-- What a plain scalar denotes. -/
def plainValue? (s : String) : Option Node :=
  if s = "" ∨ isNullWord s then some .null
  else
    match boolWord? s with
    | some b => some (.bool b)
    | none =>
      match WholeNumber.ofChars s.toList with
      | .value n => some (.int n)
      | .refused => none
      | .unread =>
        if isPaddedNumber s.toList then some (.text s)
        else
          match floatNumber? s with
          | some x => some (.float x)
          | none => some (.text s)

/-- What a scalar denotes under one of the standard tags, and without a tag of its own otherwise. -/
def scalarValue? (tag : Option String) (s : String) (plain : Bool) : Option Node :=
  match tag with
  | none => if plain then plainValue? s else some (.text s)
  | some "tag:yaml.org,2002:bool" => (boolWord? s).map .bool
  | some "tag:yaml.org,2002:int" =>
    match WholeNumber.ofChars s.toList with
    | .value n => some (.int n)
    | _ => none
  | some "tag:yaml.org,2002:float" => (floatNumber? s).map .float
  | some "tag:yaml.org,2002:null" => if isNullWord s then some .null else none
  | some _ => some (.text s)

end ApiSkeleton.Yaml
