import ApiSkeleton.Proofs.Emit.Tables
import ApiSkeleton.Proofs.Model.Contents

namespace ApiSkeleton.Emit

open Model
open Text (IsAscii IsSolid SnakeCased snakeCase)

variable {s : Schema}

private theorem name_of_mem_columns {c : Column} (hc : c ∈ columns s) :
    c.name = snakeCase c.property := by
  rw [columns, List.mem_append] at hc
  refine hc.elim (fun hadded => ?_) (fun hown => ?_)
  · split at hadded
    · cases hadded
    · rw [List.mem_singleton.mp hadded]
      exact (snakeCase_eq_id_iff.mpr rfl).symm
  · obtain ⟨property, -, rfl⟩ := List.mem_map.mp hown
    rfl

private theorem properties_columns (s : Schema) : (columns s).map (·.property) =
    (if "id" ∈ s.properties.map (·.1) then [] else ["id"]) ++ s.properties.map (·.1) := by
  have hown : (s.properties.map (propertyColumn s)).map (·.property) = s.properties.map (·.1) := by
    rw [List.map_map]
    rfl
  rw [columns, List.map_append, hown]
  split <;> rfl

/-- Each property has one column, and the key that is added stands for none of them. -/
private theorem nodup_properties_columns (hnames : (s.properties.map (·.1)).Nodup) :
    ((columns s).map (·.property)).Nodup := by
  rw [properties_columns]
  by_cases hid : "id" ∈ s.properties.map (·.1)
  · rwa [if_pos hid, List.nil_append]
  · rw [if_neg hid, List.singleton_append]
    exact List.nodup_cons.mpr ⟨hid, hnames⟩

/-- Columns of properties without underscores have names of their own. -/
private theorem nodup_columnNames (hnames : (s.properties.map (·.1)).Nodup) :
    (((columns s).filter fun c => IsSolid c.property).map (·.name)).Nodup := by
  have hdistinct : (columns s).Pairwise fun a b => a.property ≠ b.property :=
    List.pairwise_map.mp (nodup_properties_columns hnames)
  rw [List.Nodup, List.pairwise_map]
  refine (hdistinct.filter _).imp_of_mem ?_
  intro a b ha hb hne hsame
  obtain ⟨ha, hasolid⟩ := List.mem_filter.mp ha
  obtain ⟨hb, hbsolid⟩ := List.mem_filter.mp hb
  rw [name_of_mem_columns ha, name_of_mem_columns hb] at hsame
  apply hne
  exact (Text.snakeCase_eq_snakeCase_iff (of_decide_eq_true hasolid)
    (of_decide_eq_true hbsolid)).mp hsame

/-- Snake case leaves no capitals in a text of ASCII characters, and works part by part. It keeps
texts without underscores apart, and so the columns of properties that have none. -/
theorem snake_case_keeps_columns_apart :
    (∀ name, IsAscii name → SnakeCased name) ∧
    (∀ front rest, snakeCase (front ++ rest) = snakeCase front ++ snakeCase rest) ∧
    (∀ a b, IsSolid a → IsSolid b → (snakeCase a = snakeCase b ↔ a = b)) ∧
    ∀ (document : Tree) (api : Api), document.WellFormed → Api.ofTree document = .ok api →
      ∀ s ∈ api.schemas,
        (((columns s).filter fun c => IsSolid c.property).map (·.name)).Nodup := by
  refine ⟨fun name => Text.snakeCased, Text.snakeCase_append,
    fun a b => Text.snakeCase_eq_snakeCase_iff, ?_⟩
  intro document api hdocument hapi s hs
  exact nodup_columnNames (nodup_propertyNames hdocument hapi hs)

/-- A document with one schema, which has properties of the given names. -/
def namingDocument (names : List String) : Tree :=
  .object
    [("info", .object []),
     ("components", .object
       [("schemas", .object
          [("Pet", .object [("properties", .object (names.map fun name => (name, .null)))])])])]

def namingApi (names : List String) : Api where
  endpoints := []
  schemas := [⟨"Pet", names.map fun name => (name, .null), []⟩]
  metadata := ⟨"", "", none⟩

/-- Names that differ in capitals and hyphens only are kept apart, but not from one that has an
underscore. -/
theorem namingDocument_apart :
    (IsAscii "userID" ∧ SnakeCased "userID" ∧ snakeCase "userID" = "user_i_d") ∧
    (IsSolid "petId" ∧ IsSolid "PetId" ∧ (snakeCase "petId" = snakeCase "PetId" ↔ "petId" = "PetId")) ∧
    (namingDocument ["petId", "PetId", "pet-Id", "pet_id"]).WellFormed ∧
    Api.ofTree (namingDocument ["petId", "PetId", "pet-Id", "pet_id"]) =
      .ok (namingApi ["petId", "PetId", "pet-Id", "pet_id"]) ∧
    ∃ s, (namingApi ["petId", "PetId", "pet-Id", "pet_id"]).schemas = [s] ∧
      (((columns s).filter fun c => IsSolid c.property).map (·.name)).Nodup ∧
      (columns s).map (fun c => (c.property, c.name)) =
        [("id", "id"), ("petId", "pet_id"), ("PetId", "_pet_id"), ("pet-Id", "pet-_id"),
         ("pet_id", "pet_id")] := by
  obtain ⟨hcased, -, hapart, hcolumns⟩ := snake_case_keeps_columns_apart
  have hdocument : (namingDocument ["petId", "PetId", "pet-Id", "pet_id"]).WellFormed := by
    simp [namingDocument, Tree.wellFormed_object_iff, Tree.WellFormed.null]
  have hapi : Api.ofTree (namingDocument ["petId", "PetId", "pet-Id", "pet_id"]) =
      .ok (namingApi ["petId", "PetId", "pet-Id", "pet_id"]) := rfl
  have hascii : IsAscii "userID" := by decide
  have hone : IsSolid "petId" := by decide
  have hother : IsSolid "PetId" := by decide
  exact ⟨⟨hascii, hcased _ hascii, by decide⟩, ⟨hone, hother, hapart _ _ hone hother⟩, hdocument, hapi,
    _, rfl, hcolumns _ _ hdocument hapi _ (List.mem_singleton_self _), by decide⟩

end ApiSkeleton.Emit
