import ApiSkeleton.Model.Basic
import ApiSkeleton.Proofs.Members
import Mathlib.Data.List.Induction

namespace ApiSkeleton.Model

/-- The endpoints with a primary tag. -/
def groupOf (endpoints : List Endpoint) (tag : String) : Group :=
  ⟨tag, endpoints.filter (·.primaryTag = tag)⟩

/-- The primary tags in the order of their first occurrence. -/
def primaryTags (endpoints : List Endpoint) : List String :=
  (endpoints.map (·.primaryTag)).eraseDups

theorem nodup_primaryTags (endpoints : List Endpoint) : (primaryTags endpoints).Nodup :=
  nodup_eraseDups _

theorem groups_concat (endpoints : List Endpoint) (e : Endpoint) :
    groups (endpoints ++ [e]) = addToGroup e (groups endpoints) := by
  simp [groups]

private theorem groupOf_concat_of_ne (endpoints : List Endpoint) {e : Endpoint} {tag : String}
    (hne : tag ≠ e.primaryTag) : groupOf (endpoints ++ [e]) tag = groupOf endpoints tag := by
  simp [groupOf, hne.symm]

private theorem groupOf_concat_of_new {endpoints : List Endpoint} {e : Endpoint}
    (hnew : e.primaryTag ∉ primaryTags endpoints) :
    groupOf (endpoints ++ [e]) e.primaryTag = ⟨e.primaryTag, [e]⟩ := by
  have hnone : endpoints.filter (·.primaryTag = e.primaryTag) = [] := by
    simpa [primaryTags, List.filter_eq_nil_iff] using hnew
  simp [groupOf, hnone]

/-- An endpoint is put into the group of its own tag, and no other group changes. -/
private theorem addToGroup_groupOf (endpoints : List Endpoint) (e : Endpoint) {tags : List String}
    (htags : tags.Nodup) :
    addToGroup e (tags.map (groupOf endpoints)) =
      if e.primaryTag ∈ tags then tags.map (groupOf (endpoints ++ [e]))
      else tags.map (groupOf (endpoints ++ [e])) ++ [⟨e.primaryTag, [e]⟩] := by
  induction tags with
  | nil => rfl
  | cons tag rest ih =>
    rw [List.nodup_cons] at htags
    rw [List.map_cons, addToGroup]
    by_cases htag : tag = e.primaryTag
    · have hrest : rest.map (groupOf endpoints) = rest.map (groupOf (endpoints ++ [e])) := by
        refine List.map_congr_left fun other hother => ?_
        rw [groupOf_concat_of_ne]
        rintro rfl
        exact htags.1 (htag ▸ hother)
      have hown : (groupOf endpoints tag).tag = e.primaryTag := htag
      rw [if_pos hown, if_pos (by simp [htag]), hrest]
      simp [groupOf, htag]
    · have hother : (groupOf endpoints tag).tag ≠ e.primaryTag := htag
      rw [if_neg hother, ih htags.2, List.map_cons, groupOf_concat_of_ne _ htag]
      by_cases hrest : e.primaryTag ∈ rest <;> simp [hrest, Ne.symm htag]

/-- One group for each primary tag. -/
theorem groups_eq (endpoints : List Endpoint) :
    groups endpoints = (primaryTags endpoints).map (groupOf endpoints) := by
  induction endpoints using List.reverseRecOn with
  | nil => rfl
  | append_singleton endpoints e ih =>
    have htags : primaryTags (endpoints ++ [e]) =
        if e.primaryTag ∈ primaryTags endpoints then primaryTags endpoints
        else primaryTags endpoints ++ [e.primaryTag] := by
      simp only [primaryTags, List.map_append, List.map_singleton, eraseDups_concat,
        List.mem_eraseDups]
    rw [groups_concat, ih, addToGroup_groupOf _ _ (nodup_primaryTags _), htags]
    by_cases hknown : e.primaryTag ∈ primaryTags endpoints
    · rw [if_pos hknown, if_pos hknown]
    · rw [if_neg hknown, if_neg hknown, List.map_append, List.map_singleton,
        groupOf_concat_of_new hknown]

theorem tags_groups (endpoints : List Endpoint) :
    (groups endpoints).map (·.tag) = primaryTags endpoints := by
  rw [groups_eq, List.map_map]
  exact List.map_id' _

theorem mem_primaryTags_iff {endpoints : List Endpoint} {tag : String} :
    tag ∈ primaryTags endpoints ↔ endpoints.filter (·.primaryTag = tag) ≠ [] := by
  simp [primaryTags, List.mem_eraseDups, List.filter_eq_nil_iff]

theorem groupOf_mem_groups {endpoints : List Endpoint} {tag : String}
    (h : endpoints.filter (·.primaryTag = tag) ≠ []) :
    groupOf endpoints tag ∈ groups endpoints := by
  rw [groups_eq]
  exact List.mem_map_of_mem (mem_primaryTags_iff.mpr h)

/-- What holds of all endpoints holds of those in the groups. -/
theorem forall_mem_groups {p : Endpoint → Prop} {endpoints : List Endpoint}
    (h : ∀ e ∈ endpoints, p e) : ∀ g ∈ groups endpoints, ∀ e ∈ g.endpoints, p e := by
  rw [groups_eq]
  intro g hg e he
  obtain ⟨tag, _, rfl⟩ := List.mem_map.mp hg
  exact h e (List.mem_filter.mp he).1

/-- The position of the first endpoint with a tag. -/
def firstPosition (endpoints : List Endpoint) (tag : String) : Nat :=
  (endpoints.map (·.primaryTag)).idxOf tag

/-- One group for each primary tag, in the order of first occurrence, with all endpoints of the tag in
their own order. -/
structure IsStablePartition (endpoints : List Endpoint) (gs : List Group) : Prop where
  tags : ∀ tag, tag ∈ gs.map (·.tag) ↔ tag ∈ endpoints.map (·.primaryTag)
  distinct : (gs.map (·.tag)).Nodup
  order : gs.Pairwise fun g h => firstPosition endpoints g.tag < firstPosition endpoints h.tag
  nonempty : ∀ g ∈ gs, g.endpoints ≠ []
  members : ∀ g ∈ gs, g.endpoints = endpoints.filter (·.primaryTag = g.tag)

theorem isStablePartition_groups (endpoints : List Endpoint) :
    IsStablePartition endpoints (groups endpoints) := by
  have hgroup : ∀ g ∈ groups endpoints, g.tag ∈ primaryTags endpoints ∧ g = groupOf endpoints g.tag := by
    rw [groups_eq]
    intro g hg
    obtain ⟨tag, htag, rfl⟩ := List.mem_map.mp hg
    exact ⟨htag, rfl⟩
  constructor
  case tags =>
    intro tag
    rw [tags_groups, primaryTags, List.mem_eraseDups]
  case distinct =>
    rw [tags_groups]
    exact nodup_primaryTags endpoints
  case order =>
    rw [groups_eq, List.pairwise_map]
    exact pairwise_idxOf_eraseDups _
  case nonempty =>
    intro g hg
    obtain ⟨htag, hg⟩ := hgroup g hg
    rw [hg]
    exact mem_primaryTags_iff.mp htag
  case members =>
    intro g hg
    rw [(hgroup g hg).2]
    rfl

/-- Filters by distinct tags take apart what has one of these tags. -/
private theorem flatMap_filter_perm (endpoints : List Endpoint) {tags : List String}
    (htags : tags.Nodup) :
    (tags.flatMap fun tag => endpoints.filter (·.primaryTag = tag)).Perm
      (endpoints.filter (·.primaryTag ∈ tags)) := by
  induction tags with
  | nil => simp
  | cons tag rest ih =>
    rw [List.nodup_cons] at htags
    let known := endpoints.filter (·.primaryTag ∈ tag :: rest)
    have hfirst : known.filter (·.primaryTag = tag) = endpoints.filter (·.primaryTag = tag) := by
      rw [List.filter_filter]
      refine List.filter_congr fun e _ => ?_
      by_cases he : e.primaryTag = tag <;> simp [he]
    have hothers : known.filter (fun e => !decide (e.primaryTag = tag)) =
        endpoints.filter (·.primaryTag ∈ rest) := by
      rw [List.filter_filter]
      refine List.filter_congr fun e _ => ?_
      by_cases he : e.primaryTag = tag
      · simp [he, htags.1]
      · simp [he]
    have hsplit := List.filter_append_perm (fun e : Endpoint => decide (e.primaryTag = tag)) known
    rw [hfirst, hothers] at hsplit
    exact ((ih htags.2).append_left _).trans hsplit

theorem flatMap_groups (endpoints : List Endpoint) :
    (groups endpoints).flatMap (·.endpoints) =
      (primaryTags endpoints).flatMap fun tag => endpoints.filter (·.primaryTag = tag) := by
  rw [groups_eq, List.flatMap_map]
  rfl

private theorem flatMap_groups_perm (endpoints : List Endpoint) :
    ((groups endpoints).flatMap (·.endpoints)).Perm endpoints := by
  have hall : endpoints.filter (·.primaryTag ∈ primaryTags endpoints) = endpoints := by
    rw [List.filter_eq_self]
    intro e he
    simpa [primaryTags, List.mem_eraseDups] using ⟨e, he, rfl⟩
  have hperm := flatMap_filter_perm endpoints (nodup_primaryTags endpoints)
  rwa [hall, ← flatMap_groups] at hperm

/-- In the concatenation of the groups, the endpoints with a tag are those of its group. -/
private theorem groupOf_flatMap_groups (endpoints : List Endpoint) (tag : String) :
    groupOf ((groups endpoints).flatMap (·.endpoints)) tag = groupOf endpoints tag := by
  have hothers {tags : List String} (htag : tag ∉ tags) :
      (tags.flatMap fun t => endpoints.filter (·.primaryTag = t)).filter (·.primaryTag = tag) =
        [] := by
    rw [List.filter_eq_nil_iff]
    intro e he
    obtain ⟨t, ht, he⟩ := List.mem_flatMap.mp he
    have hother : e.primaryTag = t := by simpa using (List.mem_filter.mp he).2
    have hne : t ≠ tag := fun h => htag (h ▸ ht)
    simpa [hother] using hne
  rw [groupOf, groupOf, flatMap_groups]
  by_cases htag : tag ∈ primaryTags endpoints
  · obtain ⟨before, after, hsplit⟩ := List.append_of_mem htag
    have hnodup := nodup_primaryTags endpoints
    rw [hsplit, List.nodup_append, List.nodup_cons] at hnodup
    have hbefore : tag ∉ before := fun h => hnodup.2.2 tag h tag (List.mem_cons_self ..) rfl
    rw [hsplit, List.flatMap_append, List.flatMap_cons, List.filter_append, List.filter_append,
      hothers hbefore, hothers hnodup.2.1.1, List.nil_append, List.append_nil, List.filter_filter]
    simp
  · rw [hothers htag, not_not.mp (mt mem_primaryTags_iff.mpr htag)]

private theorem primaryTags_flatMap_groups (endpoints : List Endpoint) :
    primaryTags ((groups endpoints).flatMap (·.endpoints)) = primaryTags endpoints := by
  rw [flatMap_groups, primaryTags, List.map_flatMap]
  refine eraseDups_flatMap_runs (nodup_primaryTags endpoints) ?_ ?_
  · intro tag htag
    simpa using mem_primaryTags_iff.mp htag
  · intro tag _ other hother
    obtain ⟨e, he, rfl⟩ := List.mem_map.mp hother
    simpa using (List.mem_filter.mp he).2

/-- Any list of endpoints. Its groups have distinct tags, in the order in which the tags first occur,
and each holds the endpoints of its tag, of which there is at least one, in their own order and as
often as they occur. So they hold together what the list holds, and grouping what they hold one after
the other gives the same groups again. -/
theorem groups_partition_endpoints (endpoints : List Endpoint) :
    IsStablePartition endpoints (groups endpoints) ∧
      ((groups endpoints).flatMap (·.endpoints)).Perm endpoints ∧
      groups ((groups endpoints).flatMap (·.endpoints)) = groups endpoints := by
  refine ⟨isStablePartition_groups endpoints, flatMap_groups_perm endpoints, ?_⟩
  rw [groups_eq ((groups endpoints).flatMap (·.endpoints)), primaryTags_flatMap_groups]
  rw [List.map_congr_left fun tag _ => groupOf_flatMap_groups endpoints tag, ← groups_eq]

end ApiSkeleton.Model
