import ApiSkeleton.Yaml.Event
import ApiSkeleton.Yaml.Plain
import ApiSkeleton.Yaml.TokenStream

namespace ApiSkeleton.Yaml

/-- The anchor of an event. -/
def Event.anchor? : Event → Option String
  | .scalar anchor _ _ _ | .sequenceStart anchor _ | .mappingStart anchor _ => anchor
  | _ => none

/-- The places that references lead to. Anchors are numbered by how many names were known before
    them, so that a name that is marked again shares its number with the next new one. -/
structure Anchors where
  /-- The number of each name. -/
  numbers : List (String × Nat)
  /-- The position of the event for each number. -/
  positions : List (Nat × Nat)

/-- The anchors of events, and the number that each reference stands for; none if a reference comes
    before its anchor. -/
def readAnchors? (position : Nat) (known : Anchors) : List Event → Option (Anchors × List Nat)
  | [] => some (known, [])
  | .alias name :: rest =>
    match findMember? known.numbers name, readAnchors? (position + 1) known rest with
    | some number, some (final, numbers) => some (final, number :: numbers)
    | _, _ => none
  | event :: rest =>
    let known := match event.anchor? with
      | none => known
      | some name =>
        let number := known.numbers.length
        ⟨putMember known.numbers name number, (number, position) :: known.positions⟩
    readAnchors? (position + 1) known rest

/-- Events in which a reference holds the position that it leads to. -/
structure Linked where
  events : Array Event
  /-- The positions that references lead to, in order of the references. -/
  targets : Array (Option Nat)

/-- Where the reference at a position leads to. -/
def linkTargets (positions : List (Nat × Nat)) : List Event → List Nat → List (Option Nat)
  | .alias _ :: rest, number :: numbers =>
    (positions.find? (·.1 == number)).map (·.2) :: linkTargets positions rest numbers
  | _ :: rest, numbers => none :: linkTargets positions rest numbers
  | [], _ => []

def link? (events : List Event) : Option Linked :=
  match readAnchors? 0 ⟨[], []⟩ events with
  | none => none
  | some (anchors, numbers) =>
    some ⟨events.toArray, (linkTargets anchors.positions events numbers).toArray⟩

/-- How deep collections may be nested. -/
def maxDepth : Nat := 128

/-- A value, the position behind it, and how many references have been followed. -/
abbrev Built (α : Type) := Option (α × Nat × Nat)

/-- A tag of a document's own, without its mark. A mark alone stands for itself. -/
def ownTag? (tag : Option String) : Option String :=
  match tag.map String.toList with
  | some ['!'] => some "!"
  | some ('!' :: name) => some (String.ofList name)
  | _ => none

/-- Puts a value under its own tag. -/
def withTag (tag : Option String) (value : Node) : Node :=
  match ownTag? tag with
  | none => value
  | some name => .tagged name value

variable (doc : Linked)

mutual
/-- The value that starts at a position. -/
def readValue? : Nat → Nat → Nat → Nat → Built Node
  | 0, _, _, _ => none
  | fuel + 1, depth, position, followed =>
    match doc.targets[position]?.join with
    | some target =>
      if 100 * doc.events.size < followed + 1 then none
      else
        match readContent? fuel depth target (followed + 1) with
        | some (value, _, followed) => some (value, position + 1, followed)
        | none => none
    | none => readContent? fuel depth position followed

/-- The scalar or the collection that starts at a position. -/
def readContent? : Nat → Nat → Nat → Nat → Built Node
  | 0, _, _, _ => none
  | fuel + 1, depth, position, followed =>
    match doc.events[position]? with
    | some (.scalar _ tag text plain) =>
      let value := match ownTag? tag with
        | some _ => scalarValue? none text plain
        | none => scalarValue? tag text plain
      value.map fun node => (withTag tag node, position + 1, followed)
    | some (.sequenceStart _ tag) =>
      if depth = 0 then none
      else
        match readItems? fuel (depth - 1) (position + 1) followed with
        | some (items, after, followed) =>
          some (withTag tag (.list items), after, followed)
        | none => none
    | some (.mappingStart _ tag) =>
      if depth = 0 then none
      else
        match readEntries? fuel (depth - 1) (position + 1) followed [] with
        | some (entries, after, followed) =>
          some (withTag tag (.map entries), after, followed)
        | none => none
    | _ => none

/-- The items up to the end of a sequence. -/
def readItems? : Nat → Nat → Nat → Nat → Built (List Node)
  | 0, _, _, _ => none
  | fuel + 1, depth, position, followed =>
    if doc.events[position]? = some .sequenceEnd then some ([], position + 1, followed)
    else
      match readValue? fuel depth position followed with
      | none => none
      | some (item, next, followed) =>
        match readItems? fuel depth next followed with
        | some (items, after, followed) => some (item :: items, after, followed)
        | none => none

/-- The entries up to the end of a mapping, behind those already read; no key may come twice. -/
def readEntries? : Nat → Nat → Nat → Nat → List (Node × Node) → Built (List (Node × Node))
  | 0, _, _, _, _ => none
  | fuel + 1, depth, position, followed, done =>
    if doc.events[position]? = some .mappingEnd then some (done, position + 1, followed)
    else
      match readValue? fuel depth position followed with
      | none => none
      | some (key, next, followed) =>
        if done.any (·.1.same key) then none
        else
          match readValue? fuel depth next followed with
          | none => none
          | some (value, next, followed) =>
            readEntries? fuel depth next followed (done ++ [(key, value)])
end

/-- How deeply calls may be nested while a document is put together: within each collection they
    follow the events. -/
def nestingBound : Nat := (maxDepth + 1) * (2 * doc.events.size + 4)

/-- The value of a YAML text. An empty text is null. -/
def ofText? (text : String) : Option Node :=
  match (tokens? text).bind events? with
  | none => none
  | some [] => some .null
  | some events =>
    match link? events with
    | none => none
    | some doc => (readValue? doc (nestingBound doc) maxDepth 0 0).map (·.1)

end ApiSkeleton.Yaml
