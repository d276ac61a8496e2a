import ApiSkeleton.Tree.Basic

namespace ApiSkeleton.Toml

/-- How a table has come about. A table that a header has named is complete once its lines are; one
    that dotted keys have made can only grow by dotted keys; one that is only implied by a longer
    header may still be named itself. -/
inductive Origin where
  | header
  | implied
  | dotted
deriving DecidableEq

/-- What stands under a key. The values of numbers and truth values play no part. -/
inductive Item where
  | text (s : String)
  | scalar
  | dateTime
  | list (items : List Item)
  /-- A table within a line, which nothing can be added to. -/
  | inlineTable (entries : List (String × Item))
  | table (origin : Origin) (entries : List (String × Item))
  /-- Tables that are named by a header each, in order. -/
  | tables (all : List (List (String × Item)))
deriving Inhabited

abbrev Entries := List (String × Item)

namespace Entries

/-- Puts an item in the place of the one under its key, or at the end. -/
def put (es : Entries) (key : String) (item : Item) : Entries :=
  match es with
  | [] => [(key, item)]
  | (k, i) :: rest => if k = key then (key, item) :: rest else (k, i) :: put rest key item

/-- Changes the last of a list of tables. -/
def changeLast (f : Entries → Option Entries) : List Entries → Option (List Entries)
  | [] => none
  | [es] => (f es).map ([·])
  | es :: rest => (changeLast f rest).map (es :: ·)

/-- Changes the table that a header leads to. Tables on the way are made where they are missing, and
    of a list of tables the last one is meant. -/
def change (f : Entries → Option Entries) : Entries → List String → Option Entries
  | es, [] => f es
  | es, key :: path =>
    match findMember? es key with
    | none => (change f [] path).map fun inner => es.put key (.table .implied inner)
    | some (.table origin inner) =>
      (change f inner path).map fun inner => es.put key (.table origin inner)
    | some (.tables all) =>
      (changeLast (fun inner => change f inner path) all).map fun all => es.put key (.tables all)
    | some _ => none

/-- Names a table. -/
def nameTable (es : Entries) (path : List String) : Option Entries :=
  match path.getLast? with
  | none => none
  | some key =>
    es.change (fun es =>
      match findMember? es key with
      | none => some (es.put key (.table .header []))
      | some (.table .implied inner) => some (es.put key (.table .header inner))
      | some _ => none) path.dropLast

/-- Names one more table of a list. -/
def nameListed (es : Entries) (path : List String) : Option Entries :=
  match path.getLast? with
  | none => none
  | some key =>
    es.change (fun es =>
      match findMember? es key with
      | none => some (es.put key (.tables [[]]))
      | some (.tables all) => some (es.put key (.tables (all ++ [[]])))
      | some _ => none) path.dropLast

/-- Puts an item under a dotted key. -/
def putDotted (item : Item) : Entries → List String → Option Entries
  | _, [] => none
  | es, [key] => if (findMember? es key).isSome then none else some (es.put key item)
  | es, key :: next :: path =>
    match findMember? es key with
    | none =>
      (putDotted item [] (next :: path)).map fun inner => es.put key (.table .dotted inner)
    | some (.table origin inner) =>
      if origin = .header ∨ (path = [] ∧ origin ≠ .dotted) then none
      else (putDotted item inner (next :: path)).map fun inner => es.put key (.table origin inner)
    | some (.tables all) =>
      if path = [] then none
      else
        (changeLast (fun inner => putDotted item inner (next :: path)) all).map
          fun all => es.put key (.tables all)
    | some _ => none

end Entries

end ApiSkeleton.Toml
