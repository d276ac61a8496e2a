import ApiSkeleton.Emit.Context
import ApiSkeleton.Proofs.Members
import ApiSkeleton.Proofs.Template.Run
import ApiSkeleton.Proofs.Tree.WellFormed

namespace ApiSkeleton

namespace Tree

mutual
/-- A tree as it can be written down: what is not finite becomes null. -/
def written : Tree → Tree
  | .float x => if x.isFinite then .float x else .null
  | .list items => .list (writtenItems items)
  | .object members => .object (writtenMembers members)
  | t => t

def writtenItems : List Tree → List Tree
  | [] => []
  | t :: rest => t.written :: writtenItems rest

def writtenMembers : List (String × Tree) → List (String × Tree)
  | [] => []
  | (k, t) :: rest => (k, t.written) :: writtenMembers rest
end

private theorem findMember?_writtenMembers (members : List (String × Tree)) (key : String) :
    findMember? (writtenMembers members) key = (findMember? members key).map written := by
  induction members with
  | nil => rfl
  | cons entry rest ih =>
    obtain ⟨k, t⟩ := entry
    by_cases hkey : k = key <;> simp [writtenMembers, findMember?, hkey, ih]

end Tree

namespace Template.Value

open ApiSkeleton.Tree (written writtenItems writtenMembers)

private theorem toItems?_ofItems {items : List Tree}
    (hitems : ∀ t ∈ items, (ofTree t).toTree? = some t.written) :
    toItems? (ofItems items) = some (writtenItems items) := by
  induction items with
  | nil => rfl
  | cons t rest ih =>
    rw [List.forall_mem_cons] at hitems
    simp [ofItems, toItems?, writtenItems, hitems.1, ih hitems.2]

/-- Members are added behind those already read, as long as all keys differ. -/
private theorem toMembers?_ofMembers {members done : List (String × Tree)}
    (hmembers : ∀ entry ∈ members, (ofTree entry.2).toTree? = some entry.2.written)
    (hkeys : ((done ++ members).map (·.1)).Nodup) :
    toMembers? done (ofMembers members) = some (done ++ writtenMembers members) := by
  induction members generalizing done with
  | nil => simp [ofMembers, toMembers?, writtenMembers]
  | cons entry rest ih =>
    obtain ⟨k, t⟩ := entry
    rw [List.forall_mem_cons] at hmembers
    have hnew : k ∉ done.map (·.1) := by
      intro hk
      rw [List.map_append] at hkeys
      exact (List.nodup_append.mp hkeys).2.2 k hk k (by simp) rfl
    have hnext : (((done ++ [(k, t.written)]) ++ rest).map (·.1)).Nodup := by simpa using hkeys
    have hrest := ih hmembers.2 hnext
    simp [ofMembers, toMembers?, keyText?, hmembers.1, putMember_of_new _ hnew, hrest,
      writtenMembers]

/-- A document survives as a value of templates. -/
private theorem toTree?_ofTree {t : Tree} (h : t.WellFormed) :
    (ofTree t).toTree? = some t.written := by
  induction h with
  | null | bool | text => rfl
  | int hfits => simp [ofTree, toTree?, hfits, written]
  | float x => simp [ofTree, toTree?, written]
  | list _ ih => simp [ofTree, toTree?, toItems?_ofItems ih, written]
  | object _ hkeys ih =>
    have hread := @toMembers?_ofMembers _ [] ih (by simpa using hkeys)
    simp [ofTree, toTree?, hread, written]

end Template.Value

namespace Emit

mutual
theorem validator_written (t : Tree) : validator t.written = validator t := by
  cases t with
  | object members =>
    simp only [Tree.written, validator, Tree.findMember?_writtenMembers,
      itemValidator_written members]
    cases findMember? members "type" with
    | none => rfl
    | some type =>
      cases type with
      | float x => by_cases hx : x.isFinite <;> simp [Tree.written, hx]
      | _ => simp [Tree.written]
  | float x => by_cases hx : x.isFinite <;> simp [Tree.written, validator, hx]
  | _ => rfl

theorem itemValidator_written (members : List (String × Tree)) :
    itemValidator (Tree.writtenMembers members) = itemValidator members := by
  cases members with
  | nil => rfl
  | cons entry rest =>
    obtain ⟨k, t⟩ := entry
    simp only [Tree.writtenMembers, itemValidator, validator_written t, itemValidator_written rest]
end

/-- The validator of a schema that may be missing. -/
def validatorText (schema : Option Tree) : String := (schema.map validator).getD unknownValidator

/-- In a template, a schema has the validator that it has in the document. -/
theorem validatorOf_optionalTree {schema : Option Tree} (h : ∀ t ∈ schema, t.WellFormed) :
    Template.validatorOf (optionalTree schema) = .ok (.text (validatorText schema)) := by
  cases schema with
  | none => rfl
  | some t =>
    simp [Template.validatorOf, optionalTree, Template.Value.toTree?_ofTree (h t rfl),
      validator_written, validatorText]

end Emit

end ApiSkeleton
