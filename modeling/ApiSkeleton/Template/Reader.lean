import ApiSkeleton.Template.Token

namespace ApiSkeleton.Template

/-- What is read from the front of the tokens, with those that follow. -/
abbrev Read (α : Type) := Option (α × List Token)

/-- How many expressions, values and blocks may lie within each other. -/
def maxNesting : Nat := 150

/-- The operators by how tightly they bind: powers, products, concatenation, sums. -/
def operatorAt? : Nat → String → Option Operator
  | 0, "**" => some .pow
  | 1, "*" => some .mul
  | 1, "/" => some .div
  | 1, "//" => some .floorDiv
  | 1, "%" => some .rem
  | 2, "~" => some .concat
  | 3, "+" => some .add
  | 3, "-" => some .sub
  | _, _ => none

/-- The operators that compare. -/
def comparison? : Token → Option Operator
  | .symbol "==" => some .eq
  | .symbol "!=" => some .ne
  | .symbol "<" => some .lt
  | .symbol "<=" => some .le
  | .symbol ">" => some .gt
  | .symbol ">=" => some .ge
  | .word "in" => some .isIn
  | _ => none

/-- The words that stand for values. -/
def constant? : String → Option Value
  | "true" | "True" => some (.bool true)
  | "false" | "False" => some (.bool false)
  | "none" | "None" => some .none
  | _ => none

mutual
/-- An expression: `a if c else b`, where the last part may be missing. The readers of its parts
    call each other from the loosest operators to the tightest, and each call takes one unit of
    fuel. -/
def readExpr : Nat → Nat → List Token → Read Expr
  | 0, _, _ | _, 0, _ => none
  | fuel + 1, room + 1, ts =>
    match readOr fuel room ts with
    | none => none
    | some (e, rest) => readChoice fuel room e rest

def readChoice : Nat → Nat → Expr → List Token → Read Expr
  | 0, _, _, _ => none
  | fuel + 1, room, e, ts =>
    match ts with
    | .word "if" :: rest =>
      match readOr fuel room rest with
      | none => none
      | some (condition, .word "else" :: rest) =>
        match readExpr fuel room rest with
        | none => none
        | some (no, rest) => readChoice fuel room (.choice condition e no) rest
      | some (condition, rest) =>
        readChoice fuel room (.choice condition e (.literal .undefined)) rest
    | _ => some (e, ts)

/-- An expression without a condition behind it. -/
def readOr : Nat → Nat → List Token → Read Expr
  | 0, _, _ => none
  | fuel + 1, room, ts =>
    match readAnd fuel room ts with
    | none => none
    | some (e, rest) => readOrTail fuel room e rest

def readOrTail : Nat → Nat → Expr → List Token → Read Expr
  | 0, _, _, _ => none
  | fuel + 1, room, e, ts =>
    match ts with
    | .word "or" :: rest =>
      match readAnd fuel room rest with
      | none => none
      | some (f, rest) => readOrTail fuel room (.or e f) rest
    | _ => some (e, ts)

def readAnd : Nat → Nat → List Token → Read Expr
  | 0, _, _ => none
  | fuel + 1, room, ts =>
    match readNot fuel room ts with
    | none => none
    | some (e, rest) => readAndTail fuel room e rest

def readAndTail : Nat → Nat → Expr → List Token → Read Expr
  | 0, _, _, _ => none
  | fuel + 1, room, e, ts =>
    match ts with
    | .word "and" :: rest =>
      match readNot fuel room rest with
      | none => none
      | some (f, rest) => readAndTail fuel room (.and e f) rest
    | _ => some (e, ts)

def readNot : Nat → Nat → List Token → Read Expr
  | 0, _, _ => none
  | fuel + 1, room, ts =>
    match ts with
    | .word "not" :: rest => (readNot fuel room rest).map fun (e, r) => (.not e, r)
    | _ =>
      match readBinary fuel room 3 ts with
      | none => none
      | some (e, rest) => readComparison fuel room e rest

def readComparison : Nat → Nat → Expr → List Token → Read Expr
  | 0, _, _, _ => none
  | fuel + 1, room, e, ts =>
    match ts with
    | .word "not" :: .word "in" :: rest =>
      match readBinary fuel room 3 rest with
      | none => none
      | some (f, rest) => readComparison fuel room (.not (.binary .isIn e f)) rest
    | .word "not" :: _ => none
    | t :: rest =>
      match comparison? t with
      | none => some (e, ts)
      | some op =>
        match readBinary fuel room 3 rest with
        | none => none
        | some (f, rest) => readComparison fuel room (.binary op e f) rest
    | [] => some (e, [])

/-- Operands joined by the operators of one rank or a tighter one, from the left. -/
def readBinary : Nat → Nat → Nat → List Token → Read Expr
  | 0, _, _, _ => none
  | fuel + 1, room, rank, ts =>
    match rank with
    | 0 =>
      match readOperand fuel room ts with
      | none => none
      | some (e, rest) => readBinaryTail fuel room 0 e rest
    | tighter + 1 =>
      match readBinary fuel room tighter ts with
      | none => none
      | some (e, rest) => readBinaryTail fuel room (tighter + 1) e rest

def readBinaryTail : Nat → Nat → Nat → Expr → List Token → Read Expr
  | 0, _, _, _, _ => none
  | fuel + 1, room, rank, e, ts =>
    match ts with
    | .symbol s :: rest =>
      match operatorAt? rank s with
      | none => some (e, ts)
      | some op =>
        let operand := match rank with
          | 0 => readOperand fuel room rest
          | tighter + 1 => readBinary fuel room tighter rest
        match operand with
        | none => none
        | some (f, rest) => readBinaryTail fuel room rank (.binary op e f) rest
    | _ => some (e, ts)

/-- A value with what is asked of it, and the filters behind it. -/
def readOperand : Nat → Nat → List Token → Read Expr
  | 0, _, _ => none
  | fuel + 1, room, ts =>
    match readSigned fuel room ts with
    | none => none
    | some (e, rest) =>
      match readParts fuel room e rest with
      | none => none
      | some (e, rest) => readFilters fuel room e rest

def readSigned : Nat → Nat → List Token → Read Expr
  | 0, _, _ => none
  | fuel + 1, room, ts =>
    match ts with
    | .symbol "-" :: rest => (readSigned fuel room rest).map fun (e, r) => (.neg e, r)
    | _ => readPrimary fuel room ts

def readPrimary : Nat → Nat → List Token → Read Expr
  | 0, _, _ | _, 0, _ => none
  | fuel + 1, room + 1, ts =>
    match ts with
    | .word s :: rest =>
      match constant? s with
      | some v => some (.literal v, rest)
      | none => some (.name s, rest)
    | .string s :: rest => some (.literal (.text s), rest)
    | .int n :: rest => some (.literal (.int n), rest)
    | .float x :: rest => some (.literal (.float x), rest)
    | .symbol "(" :: .symbol ")" :: rest => some (.list [], rest)
    | .symbol "(" :: rest =>
      match readExpr fuel room rest with
      | none => none
      | some (e, .symbol ")" :: rest) => some (e, rest)
      | some (e, .symbol "," :: rest) =>
        (readItems fuel room ")" rest).map fun (es, r) => (.list (e :: es), r)
      | some _ => none
    | .symbol "[" :: rest => (readItems fuel room "]" rest).map fun (es, r) => (.list es, r)
    | .symbol "\x7b" :: rest => (readEntries fuel room rest).map fun (es, r) => (.map es, r)
    | _ => none

/-- Expressions between commas up to a closing bracket, where one more comma may stand. -/
def readItems : Nat → Nat → String → List Token → Read (List Expr)
  | 0, _, _, _ => none
  | fuel + 1, room, close, ts =>
    match ts with
    | [] => none
    | t :: after =>
      if t = .symbol close then some ([], after)
      else
        match readExpr fuel room ts with
        | none => none
        | some (e, .symbol "," :: rest) =>
          (readItems fuel room close rest).map fun (es, r) => (e :: es, r)
        | some (e, t :: rest) => if t = .symbol close then some ([e], rest) else none
        | some (_, []) => none

def readEntries : Nat → Nat → List Token → Read (List (Expr × Expr))
  | 0, _, _ => none
  | fuel + 1, room, ts =>
    match ts with
    | .symbol "\x7d" :: rest => some ([], rest)
    | _ =>
      match readExpr fuel room ts with
      | some (k, .symbol ":" :: rest) =>
        match readExpr fuel room rest with
        | some (v, .symbol "," :: rest) =>
          (readEntries fuel room rest).map fun (es, r) => ((k, v) :: es, r)
        | some (v, .symbol "\x7d" :: rest) => some ([(k, v)], rest)
        | _ => none
      | _ => none

/-- Members, indices and calls behind a value. -/
def readParts : Nat → Nat → Expr → List Token → Read Expr
  | 0, _, _, _ => none
  | fuel + 1, room, e, ts =>
    match ts with
    | .symbol "." :: .word name :: rest => readParts fuel room (.member e name) rest
    | .symbol "." :: _ => none
    | .symbol "[" :: rest =>
      match readExpr fuel room rest with
      | some (index, .symbol "]" :: rest) => readParts fuel room (.item e index) rest
      | _ => none
    | .symbol "(" :: rest =>
      match readArguments fuel room false rest with
      | some ((arguments, keywords), rest) => readParts fuel room (.call e arguments keywords) rest
      | none => none
    | _ => some (e, ts)

/-- Arguments up to the closing bracket. Those given by name come last. -/
def readArguments : Nat → Nat → Bool → List Token → Read (List Expr × List (String × Expr))
  | 0, _, _, _ => none
  | fuel + 1, room, named, ts =>
    match ts with
    | .symbol ")" :: rest => some (([], []), rest)
    | .word name :: .symbol "=" :: rest =>
      match readOr fuel room rest with
      | some (e, .symbol "," :: rest) =>
        (readArguments fuel room true rest).map fun ((es, ks), r) => ((es, (name, e) :: ks), r)
      | some (e, .symbol ")" :: rest) => some (([], [(name, e)]), rest)
      | _ => none
    | _ =>
      if named then none
      else
        match readExpr fuel room ts with
        | some (e, .symbol "," :: rest) =>
          (readArguments fuel room false rest).map fun ((es, ks), r) => ((e :: es, ks), r)
        | some (e, .symbol ")" :: rest) => some (([e], []), rest)
        | _ => none

def readFilters : Nat → Nat → Expr → List Token → Read Expr
  | 0, _, _, _ => none
  | fuel + 1, room, e, ts =>
    match ts with
    | .symbol "|" :: .word name :: .symbol "(" :: rest =>
      match readArguments fuel room false rest with
      | some ((arguments, keywords), rest) =>
        readFilters fuel room (.filter name e arguments keywords) rest
      | none => none
    | .symbol "|" :: .word name :: rest => readFilters fuel room (.filter name e [] []) rest
    | .symbol "|" :: _ => none
    | _ => some (e, ts)
end

/-- Names that cannot be assigned to. -/
def fixedNames : List String :=
  ["true", "True", "false", "False", "none", "None", "loop", "self"]

mutual
/-- What a loop assigns its items to. -/
def readTarget : Nat → List Token → Read Target
  | 0, _ => none
  | fuel + 1, ts =>
    match readTargets fuel ts with
    | some (([t], false), rest) => some (t, rest)
    | some ((targets, _), rest) => some (.tuple targets, rest)
    | none => none

/-- Targets between commas, and whether there was a comma. -/
def readTargets : Nat → List Token → Read (List Target × Bool)
  | 0, _ => none
  | fuel + 1, ts =>
    match ts with
    | .symbol ")" :: _ | .closePrint :: _ | .closeBlock :: _ | .word "in" :: _ =>
      some (([], false), ts)
    | _ =>
      let first := match ts with
        | .symbol "(" :: rest =>
          match readTarget fuel rest with
          | some (t, .symbol ")" :: rest) => some (t, rest)
          | _ => none
        | .word name :: rest =>
          if fixedNames.contains name then none else some (.name name, rest)
        | _ => none
      match first with
      | none => none
      | some (t, .symbol "," :: rest) =>
        (readTargets fuel rest).map fun ((more, _), r) => ((t :: more, true), r)
      | some (t, rest) => some (([t], false), rest)
end

/-- The statements up to a block that starts with one of the given words, with that word, or up to
    the end. -/
abbrev Body := List Statement × Option String

mutual
def readBody : Nat → Nat → List String → List Token → Read Body
  | 0, _, _, _ => none
  | fuel + 1, room, stops, ts =>
    let andMore (t : Statement) (rest : List Token) : Read Body :=
      (readBody fuel room stops rest).map fun ((body, stop), r) => ((t :: body, stop), r)
    match ts with
    | [] => some (([], none), [])
    | .text s :: rest => andMore (.text s) rest
    | .openPrint :: rest =>
      match readExpr (16 * rest.length + 16) room rest with
      | some (e, .closePrint :: rest) => andMore (.print e) rest
      | _ => none
    | .openBlock :: .word w :: rest =>
      if stops.contains w then some (([], some w), rest)
      else
        match room with
        | 0 => none
        | less + 1 =>
          match readStatement fuel less w rest with
          | some (t, .closeBlock :: rest) => andMore t rest
          | _ => none
    | _ => none

/-- The rest of a statement after its first word, up to the end of its last block. -/
def readStatement : Nat → Nat → String → List Token → Read Statement
  | 0, _, _, _ => none
  | fuel + 1, room, w, ts =>
    let expr (ts : List Token) : Read Expr := readExpr (16 * ts.length + 16) room ts
    match w with
    | "if" =>
      match expr ts with
      | some (condition, .closeBlock :: rest) =>
        match readBody fuel room ["endif", "else", "elif"] rest with
        | some ((yes, some "elif"), rest) =>
          (readStatement fuel room "if" rest).map fun (no, r) => (.branch condition yes [no], r)
        | some ((yes, some "else"), .closeBlock :: rest) =>
          match readBody fuel room ["endif"] rest with
          | some ((no, some _), rest) => some (.branch condition yes no, rest)
          | _ => none
        | some ((yes, some "endif"), rest) => some (.branch condition yes [], rest)
        | _ => none
      | _ => none
    | "for" =>
      match readTarget (2 * ts.length + 2) ts with
      | some (target, .word "in" :: rest) =>
        match readOr (16 * rest.length + 16) room rest with
        | none => none
        | some (items, rest) =>
          let filtered := match rest with
            | .word "if" :: rest => expr rest
            | _ => some (.literal (.bool true), rest)
          match filtered with
          | some (condition, .closeBlock :: rest) =>
            match readBody fuel room ["endfor", "else"] rest with
            | some ((body, some "else"), .closeBlock :: rest) =>
              match readBody fuel room ["endfor"] rest with
              | some ((otherwise, some _), rest) =>
                some (.loop target items condition body otherwise, rest)
              | _ => none
            | some ((body, some "endfor"), rest) =>
              some (.loop target items condition body [], rest)
            | _ => none
          | _ => none
      | _ => none
    | "set" =>
      let target := match ts with
        | .symbol "(" :: rest =>
          match readTarget (2 * rest.length + 2) rest with
          | some (t, .symbol ")" :: rest) => some (t, rest)
          | _ => none
        | .word name :: rest =>
          if fixedNames.contains name then none else some (.name name, rest)
        | _ => none
      match target with
      | some (t, .symbol "=" :: rest) => (expr rest).map fun (e, r) => (.set t e, r)
      | _ => none
    | _ => none
end

/-- The template that a text denotes. At every token there is fuel for a whole round of calls. -/
def ofText? (source : String) : Option (List Statement) :=
  match tokens? source.toList with
  | none => none
  | some ts =>
    match readBody (2 * ts.length + 2) maxNesting [] ts with
    | some ((body, none), []) => some body
    | _ => none

end ApiSkeleton.Template
