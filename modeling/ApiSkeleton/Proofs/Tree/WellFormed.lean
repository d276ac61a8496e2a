import ApiSkeleton.Template.Value

namespace ApiSkeleton.Tree

/-- A tree that a text can be read as. -/
inductive WellFormed : Tree → Prop where
  | null : WellFormed .null
  | bool (b : Bool) : WellFormed (.bool b)
  | int {n : Int} (hfits : Template.Value.fitsDocument n) : WellFormed (.int n)
  | float (x : Binary64) : WellFormed (.float x)
  | text (s : String) : WellFormed (.text s)
  | list {items : List Tree} (hitems : ∀ t ∈ items, WellFormed t) : WellFormed (.list items)
  | object {members : List (String × Tree)} (hmembers : ∀ entry ∈ members, WellFormed entry.2)
      (hkeys : (members.map (·.1)).Nodup) : WellFormed (.object members)

theorem wellFormed_list_iff {items : List Tree} :
    (Tree.list items).WellFormed ↔ ∀ t ∈ items, t.WellFormed := by
  constructor
  · rintro ⟨⟩
    assumption
  · exact .list

theorem wellFormed_object_iff {members : List (String × Tree)} :
    (Tree.object members).WellFormed ↔
      (∀ entry ∈ members, entry.2.WellFormed) ∧ (members.map (·.1)).Nodup := by
  constructor
  · rintro ⟨⟩
    exact ⟨by assumption, by assumption⟩
  · rintro ⟨hmembers, hkeys⟩
    exact .object hmembers hkeys

end ApiSkeleton.Tree
