import ApiSkeleton.Tree.Basic
import Mathlib.Data.List.Induction

namespace ApiSkeleton

variable {α : Type}

@[simp] theorem findMember?_putMember_self (members : List (String × α)) (key : String) (v : α) :
    findMember? (putMember members key v) key = some v := by
  induction members with
  | nil => simp [putMember, findMember?]
  | cons entry rest ih =>
    obtain ⟨k, w⟩ := entry
    by_cases hkey : k = key <;> simp [putMember, findMember?, hkey, ih]

theorem findMember?_putMember_of_ne (members : List (String × α)) {key other : String} (v : α)
    (hne : key ≠ other) :
    findMember? (putMember members key v) other = findMember? members other := by
  induction members with
  | nil => simp [putMember, findMember?, hne]
  | cons entry rest ih =>
    obtain ⟨k, w⟩ := entry
    by_cases hkey : k = key
    · subst k
      simp [putMember, findMember?, hne]
    · by_cases hother : k = other
      · subst k
        simp [putMember, findMember?, hkey]
      · simp [putMember, findMember?, hkey, hother, ih]

theorem findMember?_eq_none_iff {members : List (String × α)} {key : String} :
    findMember? members key = none ↔ key ∉ members.map (·.1) := by
  induction members with
  | nil => simp [findMember?]
  | cons entry rest ih =>
    obtain ⟨k, v⟩ := entry
    by_cases hkey : k = key
    · simp [findMember?, hkey]
    · simp [findMember?, hkey, ih, Ne.symm hkey]

theorem mem_of_findMember? {members : List (String × α)} {key : String} {v : α}
    (h : findMember? members key = some v) : (key, v) ∈ members := by
  induction members with
  | nil => cases h
  | cons entry rest ih =>
    obtain ⟨k, w⟩ := entry
    by_cases hkey : k = key
    · simp_all [findMember?]
    · exact List.mem_cons_of_mem _ (ih (by simpa [findMember?, hkey] using h))

/-- Where no key occurs twice, every member is found. -/
theorem findMember?_of_mem {members : List (String × α)} (hkeys : (members.map (·.1)).Nodup)
    {key : String} {v : α} (h : (key, v) ∈ members) : findMember? members key = some v := by
  induction members with
  | nil => cases h
  | cons entry rest ih =>
    obtain ⟨k, w⟩ := entry
    rw [List.map_cons, List.nodup_cons] at hkeys
    rcases List.mem_cons.mp h with hfirst | hrest
    · cases hfirst
      simp [findMember?]
    · have hne : k ≠ key := by
        rintro rfl
        exact hkeys.1 (List.mem_map.mpr ⟨(k, v), hrest, rfl⟩)
      simpa [findMember?, hne] using ih hkeys.2 hrest

theorem filter_key_eq_nil {members : List (String × α)} {key : String}
    (hkey : key ∉ members.map (·.1)) : members.filter (fun e => decide (e.1 = key)) = [] := by
  rw [List.filter_eq_nil_iff]
  intro entry hentry heq
  exact hkey (of_decide_eq_true heq ▸ List.mem_map_of_mem hentry)

/-- Where no key occurs twice, no other member has the key of one. -/
theorem filter_key_eq {members : List (String × α)} (hkeys : (members.map (·.1)).Nodup)
    {entry : String × α} (h : entry ∈ members) :
    members.filter (fun e => decide (e.1 = entry.1)) = [entry] := by
  induction members with
  | nil => cases h
  | cons first rest ih =>
    rw [List.map_cons, List.nodup_cons] at hkeys
    rcases List.mem_cons.mp h with rfl | hrest
    · rw [List.filter_cons_of_pos (by simp), filter_key_eq_nil hkeys.1]
    · have hne : first.1 ≠ entry.1 := fun heq => hkeys.1 (heq ▸ List.mem_map_of_mem hrest)
      rw [List.filter_cons_of_neg (by simpa using hne), ih hkeys.2 hrest]

theorem findMember?_append (first second : List (String × α)) (key : String) :
    findMember? (first ++ second) key = (findMember? first key).or (findMember? second key) := by
  induction first with
  | nil => rfl
  | cons entry rest ih =>
    obtain ⟨k, v⟩ := entry
    by_cases hkey : k = key <;> simp [findMember?, hkey, ih]

/-- A new key comes last. -/
theorem putMember_of_new {members : List (String × α)} {key : String} (v : α)
    (hnew : key ∉ members.map (·.1)) : putMember members key v = members ++ [(key, v)] := by
  induction members with
  | nil => rfl
  | cons entry rest ih =>
    obtain ⟨k, w⟩ := entry
    simp only [List.map_cons, List.mem_cons, not_or] at hnew
    simp [putMember, Ne.symm hnew.1, ih hnew.2]

/-- A known key keeps its place. -/
theorem keys_putMember_of_known {members : List (String × α)} {key : String} (v : α)
    (hknown : key ∈ members.map (·.1)) :
    (putMember members key v).map (·.1) = members.map (·.1) := by
  induction members with
  | nil => cases hknown
  | cons entry rest ih =>
    obtain ⟨k, w⟩ := entry
    by_cases hkey : k = key
    · simp [putMember, hkey]
    · have hrest : key ∈ rest.map (·.1) := by simpa [Ne.symm hkey] using hknown
      simpa [putMember, hkey] using ih hrest

/-- Putting members one after the other never gives two of them one key. -/
theorem nodup_keys_putMember {members : List (String × α)} (key : String) (v : α)
    (hkeys : (members.map (·.1)).Nodup) : ((putMember members key v).map (·.1)).Nodup := by
  by_cases hknown : key ∈ members.map (·.1)
  · rw [keys_putMember_of_known v hknown]
    exact hkeys
  · rw [putMember_of_new v hknown, List.map_append]
    exact List.nodup_append.mpr ⟨hkeys, by simp, by
      rintro k hk _ hlast rfl
      simp only [List.map_cons, List.map_nil, List.mem_singleton] at hlast
      exact hknown (hlast ▸ hk)⟩

/-- What holds of all values holds after one more of its kind has been put under a key. -/
theorem forall_mem_putMember {p : α → Prop} {members : List (String × α)} {key : String} {v : α}
    (hmembers : ∀ entry ∈ members, p entry.2) (hv : p v) :
    ∀ entry ∈ putMember members key v, p entry.2 := by
  induction members with
  | nil => simpa [putMember] using hv
  | cons entry rest ih =>
    obtain ⟨k, w⟩ := entry
    rw [List.forall_mem_cons] at hmembers
    by_cases hkey : k = key
    · simp only [putMember, if_pos hkey, List.forall_mem_cons]
      exact ⟨hv, hmembers.2⟩
    · simp only [putMember, if_neg hkey, List.forall_mem_cons]
      exact ⟨hmembers.1, ih hmembers.2⟩

theorem bind_asBool?_eq_none {found : Option Tree} (h : ∀ b, found ≠ some (.bool b)) :
    found.bind Tree.asBool? = none := by
  rcases found with _ | t
  · rfl
  · cases t with
    | bool b => exact absurd rfl (h b)
    | _ => rfl

theorem bind_asText?_eq_none {found : Option Tree} (h : ∀ s, found ≠ some (.text s)) :
    found.bind Tree.asText? = none := by
  rcases found with _ | t
  · rfl
  · cases t with
    | text s => exact absurd rfl (h s)
    | _ => rfl

theorem bind_asObject?_eq_none {found : Option Tree} (h : ∀ members, found ≠ some (.object members)) :
    found.bind Tree.asObject? = none := by
  rcases found with _ | t
  · rfl
  · cases t with
    | object members => exact absurd rfl (h members)
    | _ => rfl

section

variable {κ : Type} [BEq κ] [LawfulBEq κ]

theorem eraseDups_concat (keys : List κ) (key : κ) :
    (keys ++ [key]).eraseDups = if key ∈ keys then keys.eraseDups else keys.eraseDups ++ [key] := by
  rw [List.eraseDups_append]
  by_cases hknown : key ∈ keys <;> simp [List.removeAll, hknown, List.eraseDups_cons]

theorem nodup_eraseDups (keys : List κ) : keys.eraseDups.Nodup := by
  induction keys using List.reverseRecOn with
  | nil => exact List.nodup_nil
  | append_singleton keys key ih =>
    rw [eraseDups_concat]
    by_cases hknown : key ∈ keys
    · rwa [if_pos hknown]
    · rw [if_neg hknown, List.nodup_append]
      refine ⟨ih, by simp, fun k hk last hlast heq => hknown ?_⟩
      rw [← List.mem_singleton.mp hlast, ← heq]
      exact List.mem_eraseDups.mp hk

/-- What is kept of some keys stands in the order of the first occurrences. -/
theorem pairwise_idxOf_eraseDups (keys : List κ) :
    keys.eraseDups.Pairwise fun a b => keys.idxOf a < keys.idxOf b := by
  induction keys using List.reverseRecOn with
  | nil => exact .nil
  | append_singleton keys key ih =>
    have hbefore {k : κ} (hk : k ∈ keys) : (keys ++ [key]).idxOf k = keys.idxOf k := by
      rw [List.idxOf_append, if_pos hk]
    have hknown : keys.eraseDups.Pairwise fun a b =>
        (keys ++ [key]).idxOf a < (keys ++ [key]).idxOf b := by
      refine ih.imp_of_mem fun ha hb hlt => ?_
      rwa [hbefore (List.mem_eraseDups.mp ha), hbefore (List.mem_eraseDups.mp hb)]
    rw [eraseDups_concat]
    by_cases hkey : key ∈ keys
    · rwa [if_pos hkey]
    · rw [if_neg hkey, List.pairwise_append]
      refine ⟨hknown, List.pairwise_singleton _ _, fun a ha b hb => ?_⟩
      have hmem := List.mem_eraseDups.mp ha
      have hlast : (keys ++ [key]).idxOf key = keys.length := by
        simp [List.idxOf_append, hkey]
      rw [List.mem_singleton.mp hb, hbefore hmem, hlast]
      exact List.idxOf_lt_length_iff.mpr hmem

/-- Where each of some distinct keys stands a number of times in a row, each is kept once. -/
theorem eraseDups_flatMap_runs {keys : List κ} (hkeys : keys.Nodup)
    {runs : κ → List κ} (hsome : ∀ key ∈ keys, runs key ≠ [])
    (hruns : ∀ key ∈ keys, ∀ k ∈ runs key, k = key) : (keys.flatMap runs).eraseDups = keys := by
  induction keys with
  | nil => rfl
  | cons key rest ih =>
    rw [List.nodup_cons] at hkeys
    rw [List.forall_mem_cons] at hsome hruns
    obtain ⟨first, more, hrun⟩ := List.exists_cons_of_ne_nil hsome.1
    have hfirst : first = key := hruns.1 first (by simp [hrun])
    have hmore : more.filter (fun k => !k == key) = [] := by
      rw [List.filter_eq_nil_iff]
      intro k hk
      simp [hruns.1 k (by simp [hrun, hk])]
    have hrest : (rest.flatMap runs).filter (fun k => !k == key) = rest.flatMap runs := by
      rw [List.filter_eq_self]
      intro k hk
      obtain ⟨other, hother, hk⟩ := List.mem_flatMap.mp hk
      have hne : k ≠ key := by
        rw [hruns.2 other hother k hk]
        rintro rfl
        exact hkeys.1 hother
      simpa using hne
    rw [List.flatMap_cons, hrun, hfirst, List.cons_append, List.eraseDups_cons, List.filter_append,
      hmore, hrest, List.nil_append, ih hkeys.2 hsome.2 hruns.2]

end

end ApiSkeleton
