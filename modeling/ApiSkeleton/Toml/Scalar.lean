import ApiSkeleton.Decimal.Reader
import ApiSkeleton.Text.Quoted
import ApiSkeleton.Toml.Item

namespace ApiSkeleton.Toml

/-- What is read from the front of a text, with what follows. -/
abbrev Read (α : Type) := Option (α × List Char)

def isSpace (c : Char) : Bool := c == ' ' || c == '\t'

/-- A character that may stand in comments and between quotes: no control but the tab. -/
def isPlain (c : Char) : Bool := c == '\t' || (0x20 ≤ c.toNat && c.toNat ≠ 0x7F)

/-- Drops a line end, if one comes next. -/
def dropLineEnd? : List Char → Option (List Char)
  | '\n' :: rest => some rest
  | '\r' :: '\n' :: rest => some rest
  | _ => none

/-- The character that a number of hexadecimal digits denotes. -/
def codePoint? (digits : List Char) : Option Char :=
  match Decimal.ofDigits? 16 digits with
  | some n => if h : n.isValidChar then some (Char.ofNatAux n h) else none
  | none => none

/-- Reads an escape after its backslash. -/
def readEscape? : List Char → Read Char
  | 'b' :: rest => some ('\x08', rest)
  | 't' :: rest => some ('\t', rest)
  | 'n' :: rest => some ('\n', rest)
  | 'f' :: rest => some ('\x0c', rest)
  | 'r' :: rest => some ('\r', rest)
  | 'e' :: rest => some ('\x1b', rest)
  | '"' :: rest => some ('"', rest)
  | '\\' :: rest => some ('\\', rest)
  | 'x' :: rest => digits 2 rest
  | 'u' :: rest => digits 4 rest
  | 'U' :: rest => digits 8 rest
  | _ => none
where
  digits (width : Nat) (rest : List Char) : Read Char :=
    if rest.length < width then none
    else (codePoint? (rest.take width)).map fun c => (c, rest.drop width)

/-- Reads a string on one line, after its first quote. -/
def readLine? (quote : Char) : Nat → List Char → Read (List Char)
  | 0, _ => none
  | _, [] => none
  | fuel + 1, c :: rest =>
    if c = quote then some ([], rest)
    else if c = '\\' ∧ quote = '"' then
      match readEscape? rest with
      | none => none
      | some (d, rest) => (readLine? quote fuel rest).map fun (cs, r) => (d :: cs, r)
    else if isPlain c then (readLine? quote fuel rest).map fun (cs, r) => (c :: cs, r)
    else none

/-- Drops blanks and line ends. -/
def dropBlankLines : Nat → List Char → List Char
  | 0, cs => cs
  | fuel + 1, cs =>
    let cs := cs.dropWhile isSpace
    match dropLineEnd? cs with
    | some rest => dropBlankLines fuel rest
    | none => cs

/-- Reads a string of several lines, after its first three quotes. Up to two quotes may stand before
    the three that end it, and a backslash at the end of a line drops all blanks that follow. -/
def readLines? (quote : Char) : Nat → List Char → Read (List Char)
  | 0, _ => none
  | _, [] => none
  | fuel + 1, c :: rest =>
    let keep (d : Char) (rest : List Char) : Read (List Char) :=
      (readLines? quote fuel rest).map fun (cs, r) => (d :: cs, r)
    if c = quote then
      let quotes := ((c :: rest).takeWhile (· == quote)).length
      if 5 < quotes then none
      else if 3 ≤ quotes then some (List.replicate (quotes - 3) quote, (c :: rest).drop quotes)
      else keep c rest
    else if c = '\\' ∧ quote = '"' then
      match dropLineEnd? (rest.dropWhile isSpace) with
      | some after => readLines? quote fuel (dropBlankLines after.length after)
      | none =>
        match readEscape? rest with
        | none => none
        | some (d, rest) => keep d rest
    else
      match dropLineEnd? (c :: rest) with
      | some after => keep '\n' after
      | none => if isPlain c then keep c rest else none

/-- Reads a string that starts with the given quote. -/
def readString? (quote : Char) (cs : List Char) : Read String :=
  let fuel := cs.length + 1
  let body :=
    if cs.take 3 = [quote, quote, quote] then
      let inner := cs.drop 3
      readLines? quote fuel ((dropLineEnd? inner).getD inner)
    else readLine? quote fuel (cs.drop 1)
  body.map fun (s, rest) => (String.ofList s, rest)

/-- Digits with underscores between them, without the underscores. -/
def digitsBetween? (isDigit : Char → Bool) : List Char → Option (List Char)
  | [] => none
  | [c] => if isDigit c then some [c] else none
  | c :: '_' :: rest =>
    if isDigit c then (digitsBetween? isDigit rest).map (c :: ·) else none
  | c :: rest => if isDigit c then (digitsBetween? isDigit rest).map (c :: ·) else none

/-- Whether a whole number fits into 128 bits, with or without a sign. -/
def fits (n : Int) : Bool := -(Nat.pow 2 127 : Nat) ≤ n && n < (Nat.pow 2 128 : Nat)

/-- Digits of a whole number, which a zero may begin only by itself. -/
def wholePart? (cs : List Char) : Option (List Char) :=
  match digitsBetween? Char.isDigit cs with
  | some digits => if digits.head? = some '0' ∧ digits.length ≠ 1 then none else some digits
  | none => none

/-- Whether the characters are a whole number. -/
def isWholeNumber (cs : List Char) : Bool :=
  let based (base : Nat) (isDigit : Char → Bool) (cs : List Char) : Bool :=
    ((digitsBetween? isDigit cs).bind (Decimal.ofDigits? base)).any fun n => fits n
  let decimal (negative : Bool) (cs : List Char) : Bool :=
    ((wholePart? cs).bind (Decimal.ofDigits? 10)).any fun n =>
      fits (if negative then -(n : Int) else n)
  match cs with
  | '0' :: 'x' :: rest => based 16 (fun c => (Text.hexValue? c).isSome) rest
  | '0' :: 'o' :: rest => based 8 (fun c => '0' ≤ c && c ≤ '7') rest
  | '0' :: 'b' :: rest => based 2 (fun c => c == '0' || c == '1') rest
  | '+' :: rest => decimal false rest
  | '-' :: rest => decimal true rest
  | _ => decimal false cs

/-- Whether the characters are a floating number. -/
def isFloatNumber (cs : List Char) : Bool :=
  let cs := match cs with
    | '+' :: rest | '-' :: rest => rest
    | _ => cs
  if cs = ['i', 'n', 'f'] ∨ cs = ['n', 'a', 'n'] then true
  else
    let isPart (c : Char) : Bool := c.isDigit || c == '_'
    let whole := cs.takeWhile isPart
    let rest := cs.dropWhile isPart
    let (fraction, rest) : Option (List Char) × List Char := match rest with
      | '.' :: r => (some (r.takeWhile isPart), r.dropWhile isPart)
      | _ => (none, rest)
    let exponent : Option (List Char) := match rest with
      | e :: r =>
        if e = 'e' ∨ e = 'E' then
          match r with
          | '+' :: digits | '-' :: digits => some digits
          | digits => some digits
        else some []
      | [] => none
    let isDigits (part : Option (List Char)) : Bool :=
      part.all fun digits => (digitsBetween? Char.isDigit digits).isSome
    (fraction.isSome || exponent.isSome) && (wholePart? whole).isSome && isDigits fraction
      && isDigits exponent
      && (Decimal.unsigned? false (cs.filter (· != '_'))).any Binary64.isFinite

/-- A number of so many digits. -/
def fixedNumber? (width : Nat) (cs : List Char) : Read Nat :=
  let digits := cs.take width
  if digits.length = width ∧ digits.all Char.isDigit then
    (Decimal.ofDigits? 10 digits).map fun n => (n, cs.drop width)
  else none

/-- The number of days of a month. -/
def daysIn (year month : Nat) : Nat :=
  if month = 2 then
    if year % 4 = 0 ∧ (year % 100 ≠ 0 ∨ year % 400 = 0) then 29 else 28
  else if [4, 6, 9, 11].contains month then 30
  else 31

/-- Reads a date. -/
def readDate? (cs : List Char) : Read Unit :=
  match fixedNumber? 4 cs with
  | some (year, '-' :: rest) =>
    match fixedNumber? 2 rest with
    | some (month, '-' :: rest) =>
      match fixedNumber? 2 rest with
      | some (day, rest) =>
        if 1 ≤ month ∧ month ≤ 12 ∧ 1 ≤ day ∧ day ≤ daysIn year month then some ((), rest) else none
      | none => none
    | _ => none
  | _ => none

/-- Reads a time of day. The seconds may be missing, and may have a fraction. -/
def readTime? (cs : List Char) : Read Unit :=
  match fixedNumber? 2 cs with
  | some (hour, ':' :: rest) =>
    match fixedNumber? 2 rest with
    | some (minute, rest) =>
      if 23 < hour ∨ 59 < minute then none
      else
        match rest with
        | ':' :: rest =>
          match fixedNumber? 2 rest with
          | some (second, rest) =>
            if 60 < second then none
            else
              match rest with
              | '.' :: digits =>
                if (digits.takeWhile Char.isDigit).isEmpty then none
                else some ((), digits.dropWhile Char.isDigit)
              | _ => some ((), rest)
          | none => none
        | _ => some ((), rest)
    | none => none
  | _ => none

/-- Whether the characters are an offset from universal time, or nothing. -/
def isOffset (cs : List Char) : Bool :=
  match cs with
  | [] | ['Z'] | ['z'] => true
  | sign :: rest =>
    (sign == '+' || sign == '-') &&
      match fixedNumber? 2 rest with
      | some (hour, ':' :: rest) =>
        match fixedNumber? 2 rest with
        | some (minute, []) => hour ≤ 23 && minute ≤ 59
        | _ => false
      | _ => false

/-- Whether the characters are a date, a time, or both. -/
def isDateTime (cs : List Char) : Bool :=
  match readTime? cs with
  | some ((), []) => true
  | _ =>
    match readDate? cs with
    | some ((), []) => true
    | some ((), sep :: rest) =>
      (sep == 'T' || sep == 't' || sep == ' ') &&
        match readTime? rest with
        | some ((), offset) => isOffset offset
        | none => false
    | none => false

/-- What a value without quotes and brackets denotes. -/
def bareValue? (cs : List Char) : Option Item :=
  if cs = ['t', 'r', 'u', 'e'] ∨ cs = ['f', 'a', 'l', 's', 'e'] then some .scalar
  else if isDateTime cs then some .dateTime
  else if isWholeNumber cs || isFloatNumber cs then some .scalar
  else none

/-- A character of a value without quotes and brackets. -/
def isBareValueChar (c : Char) : Bool :=
  c.isAlphanum || c == '+' || c == '-' || c == '_' || c == '.' || c == ':'

/-- Reads a value without quotes and brackets. A blank belongs to it between a date and a time. -/
def readBareValue? (cs : List Char) : Read Item :=
  let first := cs.takeWhile isBareValueChar
  let rest := cs.dropWhile isBareValueChar
  let whole : Option (List Char × List Char) := match rest with
    | ' ' :: d :: more =>
      match readDate? first with
      | some ((), []) =>
        if d.isDigit then
          some (first ++ ' ' :: (d :: more).takeWhile isBareValueChar,
            (d :: more).dropWhile isBareValueChar)
        else none
      | _ => none
    | _ => none
  let (body, after) := whole.getD (first, rest)
  (bareValue? body).map fun item => (item, after)

end ApiSkeleton.Toml
