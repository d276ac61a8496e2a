import ApiSkeleton.Yaml.Token

namespace ApiSkeleton.Yaml

inductive Event where
  | alias (name : String)
  | scalar (anchor tag : Option String) (text : String) (plain : Bool)
  | sequenceStart (anchor tag : Option String)
  | sequenceEnd
  | mappingStart (anchor tag : Option String)
  | mappingEnd
deriving DecidableEq, Inhabited

/-- What the rest of a collection that is open may hold. -/
inductive Expected where
  | node (inBlock indentless : Bool)
  | blockItem
  /-- An item of a sequence that is not indented below its key. -/
  | indentlessItem
  | blockKey
  | blockValue
  | flowItem (first : Bool)
  /-- The key of a mapping that stands as an item by itself. -/
  | pairKey
  | pairValue
  | pairEnd
  | flowKey (first : Bool)
  | flowValue
  | flowMissingValue

/-- What the handles of tags stand for. -/
abbrev Handles := List (String × String)

def defaultHandles : Handles := [("!", "!"), ("!!", "tag:yaml.org,2002:")]

/-- A node that is not written. -/
def emptyScalar : Event := .scalar none none "" true

/-- The full text of a tag. -/
def resolveTag? (handles : Handles) (handle suffix : String) : Option String :=
  if handle = "" then some suffix
  else (handles.find? (·.1 == handle)).map fun (_, meaning) => meaning ++ suffix

/-- The anchor and the tag in front of a node, in either order. -/
def readProperties? (handles : Handles) (ts : List Token) :
    Option (Option String × Option String × List Token) :=
  let tagged (handle suffix : String) (anchor : Option String) (rest : List Token) :=
    (resolveTag? handles handle suffix).map fun tag => (anchor, some tag, rest)
  match ts with
  | .anchor a :: .tag handle suffix :: rest => tagged handle suffix (some a) rest
  | .anchor a :: rest => some (some a, none, rest)
  | .tag handle suffix :: .anchor a :: rest => tagged handle suffix (some a) rest
  | .tag handle suffix :: rest => tagged handle suffix none rest
  | _ => some (none, none, ts)

/-- One event, what is expected after it, and the tokens that follow. -/
abbrev Step := List Event × List Expected × List Token

/-- Reads a node, or the start of one. -/
def readNode? (handles : Handles) (inBlock indentless : Bool) (stack : List Expected)
    (ts : List Token) : Option Step :=
  match ts with
  | .alias name :: rest => some ([.alias name], stack, rest)
  | _ =>
    match readProperties? handles ts with
    | none => none
    | some (anchor, tag, rest) =>
      match rest with
      | .blockEntry :: _ =>
        if indentless then some ([.sequenceStart anchor tag], .indentlessItem :: stack, rest)
        else if anchor.isSome || tag.isSome then some ([.scalar anchor tag "" true], stack, rest)
        else none
      | .scalar text plain :: after =>
        some ([.scalar anchor tag text plain], stack, after)
      | .flowSequenceStart :: after =>
        some ([.sequenceStart anchor tag], .flowItem true :: stack, after)
      | .flowMappingStart :: after =>
        some ([.mappingStart anchor tag], .flowKey true :: stack, after)
      | .blockSequenceStart :: after =>
        if inBlock then some ([.sequenceStart anchor tag], .blockItem :: stack, after)
        else if anchor.isSome || tag.isSome then some ([.scalar anchor tag "" true], stack, rest)
        else none
      | .blockMappingStart :: after =>
        if inBlock then some ([.mappingStart anchor tag], .blockKey :: stack, after)
        else if anchor.isSome || tag.isSome then some ([.scalar anchor tag "" true], stack, rest)
        else none
      | _ =>
        if anchor.isSome || tag.isSome then some ([.scalar anchor tag "" true], stack, rest)
        else none

/-- Whether a value is missing before one of these tokens. -/
def endsBlockPart : List Token → Bool
  | .key :: _ | .value :: _ | .blockEnd :: _ => true
  | _ => false

/-- Whether an item of a flow sequence is missing before one of these tokens. -/
def endsFlowItem : List Token → Bool
  | .flowEntry :: _ | .flowSequenceEnd :: _ => true
  | _ => false

/-- Whether a part of a flow mapping is missing before one of these tokens. -/
def endsFlowPart : List Token → Bool
  | .flowEntry :: _ | .flowMappingEnd :: _ => true
  | _ => false

/-- Reads an item of a flow sequence that is not at its end. -/
def readFlowItem (stack : List Expected) : List Token → Option Step
  | .key :: rest => some ([.mappingStart none none], .pairKey :: .flowItem false :: stack, rest)
  | .flowSequenceEnd :: rest => some ([.sequenceEnd], stack, rest)
  | ts => some ([], .node false false :: .flowItem false :: stack, ts)

/-- Reads a key of a flow mapping that is not at its end. -/
def readFlowKey (stack : List Expected) : List Token → Option Step
  | .key :: rest =>
    match rest with
    | .value :: _ => some ([emptyScalar], .flowValue :: stack, rest)
    | _ =>
      if endsFlowPart rest then some ([emptyScalar], .flowValue :: stack, rest)
      else some ([], .node false false :: .flowValue :: stack, rest)
  | .flowMappingEnd :: rest => some ([.mappingEnd], stack, rest)
  | ts => some ([], .node false false :: .flowMissingValue :: stack, ts)

/-- Reads what is expected next. -/
def step? (handles : Handles) (expected : Expected) (stack : List Expected) (ts : List Token) :
    Option Step :=
  match expected with
  | .node inBlock indentless => readNode? handles inBlock indentless stack ts
  | .blockItem =>
    match ts with
    | .blockEntry :: rest =>
      match rest with
      | .blockEntry :: _ | .blockEnd :: _ => some ([emptyScalar], .blockItem :: stack, rest)
      | _ => some ([], .node true false :: .blockItem :: stack, rest)
    | .blockEnd :: rest => some ([.sequenceEnd], stack, rest)
    | _ => none
  | .indentlessItem =>
    match ts with
    | .blockEntry :: rest =>
      match rest with
      | .blockEntry :: _ => some ([emptyScalar], .indentlessItem :: stack, rest)
      | _ =>
        if endsBlockPart rest then some ([emptyScalar], .indentlessItem :: stack, rest)
        else some ([], .node true false :: .indentlessItem :: stack, rest)
    | _ => some ([.sequenceEnd], stack, ts)
  | .blockKey =>
    match ts with
    | .key :: rest =>
      if endsBlockPart rest then some ([emptyScalar], .blockValue :: stack, rest)
      else some ([], .node true true :: .blockValue :: stack, rest)
    | .blockEnd :: rest => some ([.mappingEnd], stack, rest)
    | _ => none
  | .blockValue =>
    match ts with
    | .value :: rest =>
      if endsBlockPart rest then some ([emptyScalar], .blockKey :: stack, rest)
      else some ([], .node true true :: .blockKey :: stack, rest)
    | _ => some ([emptyScalar], .blockKey :: stack, ts)
  | .flowItem first =>
    match ts with
    | .flowSequenceEnd :: rest => some ([.sequenceEnd], stack, rest)
    | .flowEntry :: rest => if first then readFlowItem stack ts else readFlowItem stack rest
    | _ => if first then readFlowItem stack ts else none
  | .pairKey =>
    match ts with
    | .value :: rest => some ([emptyScalar], .pairValue :: stack, rest)
    | _ :: rest =>
      if endsFlowItem ts then some ([emptyScalar], .pairValue :: stack, rest)
      else some ([], .node false false :: .pairValue :: stack, ts)
    | [] => none
  | .pairValue =>
    match ts with
    | .value :: rest =>
      if endsFlowItem rest then some ([emptyScalar], .pairEnd :: stack, rest)
      else some ([], .node false false :: .pairEnd :: stack, rest)
    | _ => some ([emptyScalar], .pairEnd :: stack, ts)
  | .pairEnd => some ([.mappingEnd], stack, ts)
  | .flowKey first =>
    match ts with
    | .flowMappingEnd :: rest => some ([.mappingEnd], stack, rest)
    | .flowEntry :: rest => if first then readFlowKey stack ts else readFlowKey stack rest
    | _ => if first then readFlowKey stack ts else none
  | .flowValue =>
    match ts with
    | .value :: rest =>
      if endsFlowPart rest then some ([emptyScalar], .flowKey false :: stack, rest)
      else some ([], .node false false :: .flowKey false :: stack, rest)
    | _ => some ([emptyScalar], .flowKey false :: stack, ts)
  | .flowMissingValue => some ([emptyScalar], .flowKey false :: stack, ts)

/-- Reads until nothing is expected any more. -/
def readEvents? (handles : Handles) : Nat → List Expected → List Token →
    Option (List Event × List Token)
  | _, [], ts => some ([], ts)
  | 0, _ :: _, _ => none
  | fuel + 1, expected :: stack, ts =>
    match step? handles expected stack ts with
    | none => none
    | some (events, stack, rest) =>
      (readEvents? handles fuel stack rest).map fun (more, after) => (events ++ more, after)

/-- Reads the directives in front of a document. Each handle may be declared once, and the version
    must be 1.1 or 1.2. -/
def readDirectives? (versioned : Bool) (declared : Handles) :
    List Token → Option (Handles × List Token)
  | .versionDirective major minor :: rest =>
    if versioned || major != 1 || (minor != 1 && minor != 2) then none
    else readDirectives? true declared rest
  | .tagDirective handle meaning :: rest =>
    if declared.any (·.1 == handle) then none
    else readDirectives? versioned (declared ++ [(handle, meaning)]) rest
  | ts => some (declared ++ defaultHandles, ts)

/-- Whether a document without content ends here. -/
def endsDocument : List Token → Bool
  | [] => true
  | .versionDirective _ _ :: _ | .tagDirective _ _ :: _ | .documentStart :: _
  | .documentEnd :: _ => true
  | _ => false

/-- Whether nothing follows the first document. -/
def isFinished (ts : List Token) : Bool := ts.all (· == .documentEnd)

/-- The events of the only document of a stream, none of them for an empty stream. -/
def events? (ts : List Token) : Option (List Event) :=
  let fuel := 8 * ts.length + 16
  let content (handles : Handles) (ts : List Token) : Option (List Event) :=
    match readEvents? handles fuel [.node true false] ts with
    | some (events, after) => if isFinished after then some events else none
    | none => none
  match ts with
  | [] => some []
  | .documentStart :: _ | .versionDirective _ _ :: _ | .tagDirective _ _ :: _ =>
    match readDirectives? false [] ts with
    | some (handles, .documentStart :: rest) =>
      if endsDocument rest then if isFinished rest then some [emptyScalar] else none
      else content handles rest
    | _ => none
  | _ => content defaultHandles ts

end ApiSkeleton.Yaml
