import ApiSkeleton.Yaml.Property

namespace ApiSkeleton.Yaml

/-- A token that may turn out to begin a key. It is kept in mind until its colon is met, one for
    every flow collection that is open, and its mark is put in front of it then. -/
structure PossibleKey where
  /-- How many tokens stand before it. -/
  position : Nat
  /-- Whether nothing but a key can stand there. -/
  required : Bool
  start : Cursor

/-- How far the tokens of a text have been read. -/
structure TokenStream where
  cursor : Cursor
  tokens : Array Token
  /-- The indentation of the innermost block, below zero outside all blocks. -/
  indent : Int
  /-- The indentations of the blocks around it. -/
  outer : List Int
  /-- The possible key of the innermost flow collection or of the block, then those around. -/
  keys : List (Option PossibleKey)
  /-- Whether a key may start here. -/
  keyAllowed : Bool

namespace TokenStream

def ofText (cs : List Char) : TokenStream := ⟨.ofChars cs, #[], -1, [], [none], true⟩

variable (s : TokenStream)

def inFlow : Bool := 1 < s.keys.length

def emit (t : Token) : TokenStream := { s with tokens := s.tokens.push t }

/-- Closes the blocks that are indented further than the given column. -/
def closeBlocks (column : Int) : List Int → Int → Array Token → List Int × Int × Array Token
  | [], indent, tokens => ([], indent, tokens)
  | up :: outer, indent, tokens =>
    if column < indent then closeBlocks column outer up (tokens.push .blockEnd)
    else (up :: outer, indent, tokens)

/-- Goes back to a column, which flow collections take no notice of. -/
def unindent (column : Int) : TokenStream :=
  if s.inFlow then s
  else
    let (outer, indent, tokens) := closeBlocks column s.outer s.indent s.tokens
    { s with outer, indent, tokens }

/-- Opens a block at a column, if that is further in; its token goes to the given position. -/
def openBlock (column position : Nat) (t : Token) : TokenStream :=
  if s.inFlow || (column : Int) ≤ s.indent then s
  else
    { s with
      indent := column
      outer := s.indent :: s.outer
      tokens := s.tokens.toList.take position ++ t :: s.tokens.toList.drop position |>.toArray }

/-- Gives up the possible key of the innermost collection, which fails if it had to be one. -/
def dropKey? : Option TokenStream :=
  match s.keys with
  | some key :: rest => if key.required then none else some { s with keys := none :: rest }
  | _ => some s

/-- Keeps in mind that a key may start here. -/
def saveKey? : Option TokenStream :=
  if !s.keyAllowed then some s
  else
    let required := !s.inFlow && s.indent == (s.cursor.column : Int)
    s.dropKey?.map fun s =>
      { s with keys := some ⟨s.tokens.size, required, s.cursor⟩ :: s.keys.drop 1 }

/-- Gives up the keys that cannot be met any more: a key stands on one line, and its colon follows
    within 1024 characters. -/
def dropStaleKeys? : Option TokenStream :=
  let stale (key : PossibleKey) : Bool :=
    key.start.line < s.cursor.line || key.start.index + 1024 < s.cursor.index
  let failed := s.keys.any fun key? =>
    match key? with
    | some key => stale key && key.required
    | none => false
  if failed then none
  else some { s with keys := s.keys.map fun key? => key?.filter fun key => !stale key }

/-- Passes blanks, comments and line ends. A line end in a block lets a key start. -/
def skipToToken : Nat → TokenStream → TokenStream
  | 0, s => s
  | fuel + 1, s =>
    let c := if s.cursor.column == 0 && s.cursor.peek == some '\ufeff' then s.cursor.skip
      else s.cursor
    let c := c.skipWhile fun d => d == ' ' || (d == '\t' && (s.inFlow || !s.keyAllowed))
    let c := if c.peek = some '#' then c.skipWhile fun _ => true else c
    if c.peek.any isBreak then
      skipToToken fuel { s with cursor := c.skipBreak, keyAllowed := s.keyAllowed || !s.inFlow }
    else { s with cursor := c }

/-- A token of some characters, after which a key may or may not start. -/
def take (count : Nat) (t : Token) (keyAllowed : Bool) : TokenStream :=
  { s.emit t with cursor := s.cursor.skipMany count, keyAllowed }

/-- The line between documents, or the end: it closes all blocks. -/
def endDocument? : Option TokenStream := (s.unindent (-1)).dropKey?

def openFlow? (t : Token) : Option TokenStream :=
  s.saveKey?.map fun s => { s.take 1 t true with keys := none :: s.keys }

def closeFlow? (t : Token) : Option TokenStream :=
  s.dropKey?.map fun s =>
    { s.take 1 t false with keys := if s.inFlow then s.keys.drop 1 else s.keys }

/-- An indicator that opens a block of its own where none is open at its column. -/
def blockIndicator? (block t : Token) (keyAfter : Bool) : Option TokenStream :=
  if !s.inFlow && !s.keyAllowed then none
  else
    (s.openBlock s.cursor.column s.tokens.size block).dropKey?.map fun s => s.take 1 t keyAfter

/-- The colon: behind a possible key, or in a place where a value may start. -/
def readValue? : Option TokenStream :=
  match s.keys with
  | some key :: rest =>
    let tokens := s.tokens.toList.take key.position ++ .key :: s.tokens.toList.drop key.position
    let s := { s with tokens := tokens.toArray }
    let s := s.openBlock key.start.column key.position .blockMappingStart
    some { s.take 1 .value false with keys := none :: rest }
  | _ =>
    if s.inFlow then some (s.take 1 .value false)
    else if !s.keyAllowed then none
    else some ((s.openBlock s.cursor.column s.tokens.size .blockMappingStart).take 1 .value true)

/-- A token that is read as a whole and may begin a key. -/
def readKeyStart? (read : Cursor → Option (Token × Cursor)) : Option TokenStream :=
  match s.saveKey? with
  | none => none
  | some s =>
    match read s.cursor with
    | none => none
    | some (t, c) => some { s.emit t with cursor := c, keyAllowed := false }

def readBlockScalar? (literal : Bool) : Option TokenStream :=
  match s.dropKey? with
  | none => none
  | some s =>
    match Yaml.readBlockScalar? literal s.indent s.cursor.skip with
    | none => none
    | some (text, c) =>
      some { s.emit (.scalar (String.ofList text) false) with cursor := c, keyAllowed := true }

def readPlain? : Option TokenStream :=
  match s.saveKey? with
  | none => none
  | some s =>
    let c := s.cursor
    match readPlain s.inFlow (s.indent + 1).toNat (c.rest.length + 1) [] .none c with
    | none => none
    | some (text, gap, c) =>
      some { s.emit (.scalar (String.ofList text) true) with
        cursor := c, keyAllowed := gap.hasBreak }

/-- Whether a plain scalar can start here. -/
def startsPlain (inFlow : Bool) (d : Char) (next : Option Char) : Bool :=
  let indicators := ['-', '?', ':', ',', '[', ']', '\x7b', '\x7d', '#', '&', '*', '!', '|', '>',
    '\'', '"', '%', '@', '\u0060']
  (!isSpaceOrTab d && !isBreak d && !indicators.contains d)
    || (d == '-' && !(next.map isSpaceOrTab).getD false)
    || (!inFlow && (d == '?' || d == ':') && !endsWord next)

/-- Reads the token that starts at the cursor. -/
def readToken? (d : Char) : Option TokenStream :=
  let c := s.cursor
  let next := c.peekAt 1
  if c.column == 0 && d == '%' then
    match s.endDocument? with
    | none => none
    | some s =>
      (readDirective? c.skip).map fun (t, c) => { s.emit t with cursor := c, keyAllowed := false }
  else if c.atDocumentMark then
    s.endDocument?.map fun s => s.take 3 (if d == '-' then .documentStart else .documentEnd) false
  else if d == '[' then s.openFlow? .flowSequenceStart
  else if d == '\x7b' then s.openFlow? .flowMappingStart
  else if d == ']' then s.closeFlow? .flowSequenceEnd
  else if d == '\x7d' then s.closeFlow? .flowMappingEnd
  else if d == ',' then s.dropKey?.map fun s => s.take 1 .flowEntry true
  else if d == '-' && endsWord next then s.blockIndicator? .blockSequenceStart .blockEntry true
  else if d == '?' && (s.inFlow || endsWord next) then
    s.blockIndicator? .blockMappingStart .key !s.inFlow
  else if d == ':' && (s.inFlow || endsWord next) then s.readValue?
  else if d == '*' then
    s.readKeyStart? fun c => (readAnchor? c.skip).map fun (name, c) => (.alias name, c)
  else if d == '&' then
    s.readKeyStart? fun c => (readAnchor? c.skip).map fun (name, c) => (.anchor name, c)
  else if d == '!' then s.readKeyStart? (readTag? s.inFlow)
  else if d == '|' && !s.inFlow then s.readBlockScalar? true
  else if d == '>' && !s.inFlow then s.readBlockScalar? false
  else if d == '\'' || d == '"' then
    s.readKeyStart? fun c =>
      (readQuoted (d == '\'') (c.rest.length + 1) [] .none c.skip).map
        fun (text, c) => (.scalar (String.ofList text) false, c)
  else if startsPlain s.inFlow d next then s.readPlain?
  else none

/-- Reads all tokens that are left. -/
def readAll : Nat → TokenStream → Option (Array Token)
  | 0, _ => none
  | fuel + 1, s =>
    match (skipToToken (s.cursor.rest.length + 1) s).dropStaleKeys? with
    | none => none
    | some s =>
      let s := s.unindent s.cursor.column
      match s.cursor.peek with
      | none => s.endDocument?.map (·.tokens)
      | some d =>
        match s.readToken? d with
        | none => none
        | some s => readAll fuel s

end TokenStream

/-- The tokens of a text. -/
def tokens? (text : String) : Option (List Token) :=
  let cs := text.toList
  if !cs.all isAllowed then none
  else (TokenStream.readAll (cs.length + 1) (TokenStream.ofText cs)).map (·.toList)

end ApiSkeleton.Yaml
