import ApiSkeleton.Decimal.Shortest

namespace ApiSkeleton.Decimal

/-- The choices that differ between the places where numbers are written. -/
structure Style where
  /-- The exponents of the first digit for which all digits are written out; none for all. -/
  positional : Option (Int × Int)
  /-- Whether a positive exponent carries a plus sign. -/
  plusSign : Bool
  /-- Whether, of two shortest texts that are equally near, the larger one is written; the argument
      is the smaller one. -/
  tieUp : Nat → Bool
  infinity : String
  negativeInfinity : String
  nan : String

/-- The digits with a point in them, or zeros up to the point. -/
def positionalChars (digits : List Char) (exponent : Int) : List Char :=
  let point : Int := digits.length + exponent
  if 0 ≤ exponent then digits ++ List.replicate exponent.toNat '0' ++ ['.', '0']
  else if 0 < point then digits.take point.toNat ++ '.' :: digits.drop point.toNat
  else ['0', '.'] ++ List.replicate (-point).toNat '0' ++ digits

/-- The first digit, the others behind a point, and the exponent of the first. -/
def exponentChars (plusSign : Bool) (digits : List Char) (exponent : Int) : List Char :=
  let leading : Int := digits.length + exponent - 1
  let mantissa := match digits with
    | [] => []
    | [d] => [d]
    | d :: rest => d :: '.' :: rest
  let sign := if leading < 0 then ['-'] else if plusSign then ['+'] else []
  mantissa ++ 'e' :: sign ++ (toString leading.natAbs).toList

/-- The text of a number. A fraction always shows as one, by a point or an exponent. -/
def Style.render (style : Style) (x : Binary64) : String :=
  if x.isNaN then style.nan
  else if !x.isFinite then if x.isNegative then style.negativeInfinity else style.infinity
  else
    let sign := if x.isNegative then ['-'] else []
    if x.isZero then String.ofList (sign ++ ['0', '.', '0'])
    else
      let d := shortest style.tieUp x
      let digits := (toString d.digits).toList
      let leading : Int := digits.length + d.exponent - 1
      let body := match style.positional with
        | none => positionalChars digits d.exponent
        | some (low, high) =>
          if low ≤ leading ∧ leading ≤ high then positionalChars digits d.exponent
          else exponentChars style.plusSign digits d.exponent
      String.ofList (sign ++ body)

/-- Ties go to the even digit. -/
def tieEven (below : Nat) : Bool := below % 2 == 1

/-- Numbers in JSON. What is not finite has no JSON text of its own. -/
def jsonStyle : Style := ⟨some (-5, 15), true, tieEven, "null", "null", "null"⟩

/-- Numbers as YAML scalars. -/
def yamlStyle : Style := ⟨some (-5, 15), false, tieEven, ".inf", "-.inf", ".nan"⟩

/-- Numbers that a template prints or a message names are always written out. -/
def plainStyle : Style := ⟨none, false, fun _ => true, "inf", "-inf", "NaN"⟩

end ApiSkeleton.Decimal
