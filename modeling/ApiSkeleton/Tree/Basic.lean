import ApiSkeleton.Decimal.Binary64

namespace ApiSkeleton

/-- A decoded document. Whole numbers are kept exactly, all others in double precision. -/
inductive Tree where
  | null
  | bool (b : Bool)
  | int (n : Int)
  | float (x : Binary64)
  | text (s : String)
  | list (items : List Tree)
  | object (members : List (String × Tree))
deriving Inhabited

/-- Puts a value under a key: in the place of an earlier one, or at the end. -/
def putMember {α : Type} (members : List (String × α)) (key : String) (value : α) :
    List (String × α) :=
  match members with
  | [] => [(key, value)]
  | (k, v) :: rest =>
    if k = key then (k, value) :: rest else (k, v) :: putMember rest key value

/-- The value under a key. -/
def findMember? {α : Type} (members : List (String × α)) (key : String) : Option α :=
  match members with
  | [] => none
  | (k, v) :: rest => if k = key then some v else findMember? rest key

namespace Tree

mutual
/-- Whether two trees are the same, with members in the same order. -/
def same : Tree → Tree → Bool
  | .null, .null => true
  | .bool a, .bool b => a == b
  | .int a, .int b => a == b
  | .float a, .float b => a == b
  | .text a, .text b => a == b
  | .list a, .list b => sameItems a b
  | .object a, .object b => sameMembers a b
  | _, _ => false

def sameItems : List Tree → List Tree → Bool
  | [], [] => true
  | a :: as, b :: bs => a.same b && sameItems as bs
  | _, _ => false

def sameMembers : List (String × Tree) → List (String × Tree) → Bool
  | [], [] => true
  | (k, a) :: as, (l, b) :: bs => k == l && a.same b && sameMembers as bs
  | _, _ => false
end

mutual
theorem same_iff (a b : Tree) : a.same b = true ↔ a = b := by
  cases a <;> cases b <;> simp [same, sameItems_iff, sameMembers_iff]

theorem sameItems_iff (as bs : List Tree) : sameItems as bs = true ↔ as = bs := by
  cases as <;> cases bs <;> simp [sameItems, same_iff, sameItems_iff]

theorem sameMembers_iff (as bs : List (String × Tree)) : sameMembers as bs = true ↔ as = bs := by
  rcases as with _ | ⟨⟨k, a⟩, as⟩ <;> rcases bs with _ | ⟨⟨l, b⟩, bs⟩ <;>
    simp [sameMembers, same_iff, sameMembers_iff]
end

instance : DecidableEq Tree := fun a b => decidable_of_iff _ (same_iff a b)

def asText? : Tree → Option String
  | .text s => some s
  | _ => none

def asBool? : Tree → Option Bool
  | .bool b => some b
  | _ => none

def asList? : Tree → Option (List Tree)
  | .list items => some items
  | _ => none

def asObject? : Tree → Option (List (String × Tree))
  | .object members => some members
  | _ => none

/-- The member of an object under a key; nothing else has members. -/
def member? (t : Tree) (key : String) : Option Tree :=
  match t with
  | .object members => findMember? members key
  | _ => none

end Tree

end ApiSkeleton
