import ApiSkeleton.Decode
import ApiSkeleton.Proofs.Members
import ApiSkeleton.Proofs.Model.FirstViolation
import ApiSkeleton.Proofs.Tree.WellFormed
import Mathlib.Data.List.Forall2
import Mathlib.Data.List.Induction

namespace ApiSkeleton.Yaml.Node

/-- A value is part of another one as an item, under a key, or behind a tag. Keys are not
entered. -/
inductive Contains : Node → Node → Prop where
  | self (n : Node) : Contains n n
  | item {items : List Node} {n m : Node} (hitem : n ∈ items) (h : Contains n m) :
      Contains (.list items) m
  | member {entries : List (Node × Node)} {k v m : Node} (hentry : (k, v) ∈ entries)
      (h : Contains v m) : Contains (.map entries) m
  | behind (tag : String) {value m : Node} (h : Contains value m) : Contains (.tagged tag value) m

/-- A key that has no text. -/
inductive Unkeyable : Node → Prop where
  | null : Unkeyable .null
  | list (items : List Node) : Unkeyable (.list items)
  | map (entries : List (Node × Node)) : Unkeyable (.map entries)
  | tagged (tag : String) (value : Node) : Unkeyable (.tagged tag value)

/-- What the walk through a value comes to. -/
inductive Part where
  | value (n : Node)
  | key (n : Node)

mutual
/-- All parts of a value in the order of the walk. -/
def parts : Node → List Part
  | .list items => .value (.list items) :: partsOfItems items
  | .map entries => .value (.map entries) :: partsOfEntries entries
  | .tagged tag value => .value (.tagged tag value) :: value.parts
  | .null => [.value .null]
  | .bool b => [.value (.bool b)]
  | .int n => [.value (.int n)]
  | .float x => [.value (.float x)]
  | .text s => [.value (.text s)]

def partsOfItems : List Node → List Part
  | [] => []
  | n :: rest => n.parts ++ partsOfItems rest

def partsOfEntries : List (Node × Node) → List Part
  | [] => []
  | (k, v) :: rest => .key k :: (v.parts ++ partsOfEntries rest)
end

/-- What is wrong with a part by itself. -/
def Part.fault? : Part → Option DecodeFault
  | .value (.float x) => if x.isFinite then none else some (.nonFinite x)
  | .value _ => none
  | .key (.text _) | .key (.int _) | .key (.float _) | .key (.bool _) => none
  | .key k => some (.mappingKey k.shown)

/-- The first fault on the walk through a value. -/
def firstFault? (n : Node) : Option DecodeFault := n.parts.findSome? Part.fault?

theorem Part.fault?_value_eq_some_iff {n : Node} {f : DecodeFault} :
    (Part.value n).fault? = some f ↔ ∃ x, n = .float x ∧ ¬ x.isFinite ∧ f = .nonFinite x := by
  cases n with
  | float x =>
    by_cases hfinite : x.isFinite
    · simp [Part.fault?, hfinite]
    · simpa [Part.fault?, hfinite] using eq_comm
  | _ => simp [Part.fault?]

theorem Part.fault?_key_eq_some_iff {k : Node} {f : DecodeFault} :
    (Part.key k).fault? = some f ↔ k.Unkeyable ∧ f = .mappingKey k.shown := by
  constructor
  · intro h
    cases k with
    | null => exact ⟨.null, (Option.some.inj h).symm⟩
    | list items => exact ⟨.list items, (Option.some.inj h).symm⟩
    | map entries => exact ⟨.map entries, (Option.some.inj h).symm⟩
    | tagged tag value => exact ⟨.tagged tag value, (Option.some.inj h).symm⟩
    | bool | int | float | text => cases h
  · rintro ⟨hkey, rfl⟩
    cases hkey <;> rfl

private theorem mem_partsOfItems_iff {items : List Node} {p : Part} :
    p ∈ partsOfItems items ↔ ∃ n ∈ items, p ∈ n.parts := by
  induction items with
  | nil => simp [partsOfItems]
  | cons n rest ih => simp [partsOfItems, ih]

theorem mem_partsOfEntries_iff {entries : List (Node × Node)} {p : Part} :
    p ∈ partsOfEntries entries ↔ ∃ entry ∈ entries, p = .key entry.1 ∨ p ∈ entry.2.parts := by
  induction entries with
  | nil => simp [partsOfEntries]
  | cons entry rest ih => simp [partsOfEntries, ih, or_assoc]

private theorem value_mem_parts (n : Node) : .value n ∈ n.parts := by
  cases n <;> simp [parts]

/-- The walk goes through everything that a value contains. -/
theorem Contains.parts_subset {n m : Node} (h : n.Contains m) : m.parts ⊆ n.parts := by
  induction h with
  | self n => exact List.Subset.refl _
  | item hitem _ ih =>
    intro p hp
    rw [parts]
    exact List.mem_cons_of_mem _ (mem_partsOfItems_iff.mpr ⟨_, hitem, ih hp⟩)
  | member hentry _ ih =>
    intro p hp
    rw [parts]
    exact List.mem_cons_of_mem _ (mem_partsOfEntries_iff.mpr ⟨_, hentry, .inr (ih hp)⟩)
  | behind tag _ ih =>
    intro p hp
    rw [parts]
    exact List.mem_cons_of_mem _ (ih hp)

/-- Where a part stands: it is a value that the value contains, or a key of a mapping that it
contains. -/
def Part.StandsIn (n : Node) : Part → Prop
  | .value m => n.Contains m
  | .key k => ∃ entries v, n.Contains (.map entries) ∧ (k, v) ∈ entries

theorem Part.StandsIn.mono {n m : Node} (hmore : ∀ q, m.Contains q → n.Contains q) {p : Part}
    (h : p.StandsIn m) : p.StandsIn n := by
  cases p with
  | value q => exact hmore q h
  | key k =>
    obtain ⟨entries, v, hmap, hentry⟩ := h
    exact ⟨entries, v, hmore _ hmap, hentry⟩

mutual
theorem standsIn_of_mem (n : Node) {p : Part} (hp : p ∈ n.parts) : p.StandsIn n := by
  cases n with
  | list items =>
    rw [parts, List.mem_cons] at hp
    rcases hp with rfl | hp
    · exact .self _
    · obtain ⟨m, hm, hstands⟩ := standsIn_of_mem_items items hp
      exact hstands.mono fun _ => .item hm
  | map entries =>
    rw [parts, List.mem_cons] at hp
    rcases hp with rfl | hp
    · exact .self _
    · obtain ⟨entry, hentry, rfl | hstands⟩ := standsIn_of_mem_entries entries hp
      · exact ⟨entries, entry.2, .self _, hentry⟩
      · exact hstands.mono fun _ => .member hentry
  | tagged tag value =>
    rw [parts, List.mem_cons] at hp
    rcases hp with rfl | hp
    · exact .self _
    · exact (standsIn_of_mem value hp).mono fun _ => .behind tag
  | null | bool | int | float | text =>
    rw [parts, List.mem_singleton] at hp
    rw [hp]
    exact .self _

theorem standsIn_of_mem_items (items : List Node) {p : Part} (hp : p ∈ partsOfItems items) :
    ∃ m ∈ items, p.StandsIn m := by
  cases items with
  | nil => cases hp
  | cons n rest =>
    rw [partsOfItems, List.mem_append] at hp
    rcases hp with hp | hp
    · exact ⟨n, List.mem_cons_self .., standsIn_of_mem n hp⟩
    · obtain ⟨m, hm, hstands⟩ := standsIn_of_mem_items rest hp
      exact ⟨m, List.mem_cons_of_mem _ hm, hstands⟩

theorem standsIn_of_mem_entries (entries : List (Node × Node)) {p : Part}
    (hp : p ∈ partsOfEntries entries) :
    ∃ entry ∈ entries, p = .key entry.1 ∨ p.StandsIn entry.2 := by
  match entries with
  | [] => cases hp
  | (k, v) :: rest =>
    rw [partsOfEntries, List.mem_cons, List.mem_append] at hp
    rcases hp with rfl | hp | hp
    · exact ⟨(k, v), List.mem_cons_self .., .inl rfl⟩
    · exact ⟨(k, v), List.mem_cons_self .., .inr (standsIn_of_mem v hp)⟩
    · obtain ⟨entry, hentry, hstands⟩ := standsIn_of_mem_entries rest hp
      exact ⟨entry, List.mem_cons_of_mem _ hentry, hstands⟩
end

/-- The walk comes to what stands in the value, and to nothing else. -/
private theorem mem_parts_iff {n : Node} {p : Part} : p ∈ n.parts ↔ p.StandsIn n := by
  refine ⟨standsIn_of_mem n, fun h => ?_⟩
  cases p with
  | value m => exact h.parts_subset (value_mem_parts m)
  | key k =>
    obtain ⟨entries, v, hmap, hentry⟩ := h
    refine hmap.parts_subset ?_
    rw [parts]
    exact List.mem_cons_of_mem _ (mem_partsOfEntries_iff.mpr ⟨_, hentry, .inl rfl⟩)

/-- There is a fault somewhere exactly if the value contains a number that is not finite, or a
mapping with a key that has no text. -/
theorem exists_firstFault?_iff {n : Node} : (∃ f, n.firstFault? = some f) ↔
    (∃ x, n.Contains (.float x) ∧ ¬ x.isFinite) ∨
    ∃ entries k v, n.Contains (.map entries) ∧ (k, v) ∈ entries ∧ k.Unkeyable := by
  have hsome : (∃ f, n.firstFault? = some f) ↔ ∃ p ∈ n.parts, ∃ f, p.fault? = some f := by
    rw [← Option.isSome_iff_exists, firstFault?, List.isSome_findSome?, List.any_eq_true]
    simp only [Option.isSome_iff_exists]
  rw [hsome]
  constructor
  · rintro ⟨p, hp, f, hf⟩
    have hstands := mem_parts_iff.mp hp
    cases p with
    | value m =>
      obtain ⟨x, rfl, hx, -⟩ := Part.fault?_value_eq_some_iff.mp hf
      exact .inl ⟨x, hstands, hx⟩
    | key k =>
      obtain ⟨entries, v, hmap, hentry⟩ := hstands
      exact .inr ⟨entries, k, v, hmap, hentry, (Part.fault?_key_eq_some_iff.mp hf).1⟩
  · rintro (⟨x, hx, hinfinite⟩ | ⟨entries, k, v, hmap, hentry, hkey⟩)
    · exact ⟨.value (.float x), mem_parts_iff.mpr hx, _,
        Part.fault?_value_eq_some_iff.mpr ⟨x, rfl, hinfinite, rfl⟩⟩
    · exact ⟨.key k, mem_parts_iff.mpr ⟨entries, v, hmap, hentry⟩, _,
        Part.fault?_key_eq_some_iff.mpr ⟨hkey, rfl⟩⟩

theorem failure?_keyText (k : Node) : failure? k.keyText = (Part.key k).fault? := by
  cases k <;> rfl

mutual
/-- A conversion fails with the first fault on the walk. -/
theorem failure?_toTree (n : Node) : failure? n.toTree = n.parts.findSome? Part.fault? := by
  cases n with
  | list items =>
    rw [toTree, failure?_return, failure?_toItems, parts, List.findSome?_cons]
    rfl
  | map entries =>
    rw [toTree, failure?_return, failure?_toMembers, parts, List.findSome?_cons]
    rfl
  | tagged tag value =>
    rw [toTree, failure?_toTree value, parts, List.findSome?_cons]
    rfl
  | float x => by_cases hfinite : x.isFinite <;> simp [toTree, parts, Part.fault?, hfinite]
  | null | bool | int | text => rfl

theorem failure?_toItems (items : List Node) :
    failure? (toItems items) = (partsOfItems items).findSome? Part.fault? := by
  cases items with
  | nil => rfl
  | cons n rest =>
    rw [toItems, failure?_bind fun _ => failure?_return, failure?_toTree n, failure?_toItems rest,
      partsOfItems, List.findSome?_append]

theorem failure?_toMembers (done : List (String × Tree)) (entries : List (Node × Node)) :
    failure? (toMembers done entries) = (partsOfEntries entries).findSome? Part.fault? := by
  match entries with
  | [] => rfl
  | (k, v) :: rest =>
    have hrest : ∀ key t, failure? (toMembers (putMember done key t) rest) =
        (partsOfEntries rest).findSome? Part.fault? := fun key t =>
      failure?_toMembers (putMember done key t) rest
    rw [toMembers, failure?_bind fun key => failure?_bind (hrest key), failure?_keyText,
      failure?_toTree v, partsOfEntries, List.findSome?_cons, List.findSome?_append]
    cases (Part.key k).fault? <;> rfl
end

/-- The members that pairs become when keys that are the same are merged: every key stands where it
came first, and has the value that came last. -/
structure Merges (pairs members : List (String × Tree)) : Prop where
  keys : members.map (·.1) = (pairs.map (·.1)).eraseDups
  last : ∀ key, findMember? members key = findMember? pairs.reverse key

/-- Puts pairs one after the other. -/
def putAll (done pairs : List (String × Tree)) : List (String × Tree) :=
  pairs.foldl (fun members pair => putMember members pair.1 pair.2) done

theorem putAll_concat (pairs : List (String × Tree)) (key : String) (t : Tree) :
    putAll [] (pairs ++ [(key, t)]) = putMember (putAll [] pairs) key t := by
  simp [putAll]

private theorem merges_putAll (pairs : List (String × Tree)) : Merges pairs (putAll [] pairs) := by
  induction pairs using List.reverseRecOn with
  | nil => exact ⟨rfl, fun _ => rfl⟩
  | append_singleton pairs pair ih =>
    obtain ⟨key, t⟩ := pair
    have hsame : key ∈ (putAll [] pairs).map (·.1) ↔ key ∈ pairs.map (·.1) := by
      rw [ih.keys, List.mem_eraseDups]
    rw [putAll_concat]
    refine ⟨?_, fun other => ?_⟩
    · rw [List.map_append, List.map_singleton, eraseDups_concat, ← ih.keys]
      by_cases hknown : key ∈ (putAll [] pairs).map (·.1)
      · rw [keys_putMember_of_known t hknown, if_pos (hsame.mp hknown)]
      · rw [putMember_of_new t hknown, if_neg (hknown ∘ hsame.mpr), List.map_append,
          List.map_singleton]
    · rw [List.reverse_concat, findMember?]
      by_cases hkey : key = other
      · rw [if_pos hkey, hkey, findMember?_putMember_self]
      · rw [if_neg hkey, findMember?_putMember_of_ne _ t hkey, ih.last]

/-- Members are determined by the order of their keys and what is found under each of them. -/
private theorem eq_of_findMember? {as bs : List (String × Tree)}
    (hkeys : as.map (·.1) = bs.map (·.1))
    (hnodup : (bs.map (·.1)).Nodup) (hfound : ∀ key, findMember? as key = findMember? bs key) :
    as = bs := by
  induction as generalizing bs with
  | nil => exact (List.map_eq_nil_iff.mp hkeys.symm).symm
  | cons a rest ih =>
    cases bs with
    | nil => cases hkeys
    | cons b more =>
      obtain ⟨key, t⟩ := a
      obtain ⟨other, u⟩ := b
      simp only [List.map_cons, List.cons.injEq, List.nodup_cons] at hkeys hnodup
      obtain ⟨rfl, hrest⟩ := hkeys
      have hhead : t = u := by simpa [findMember?] using hfound key
      rw [hhead, ih hrest hnodup.2 fun k => ?_]
      by_cases hk : key = k
      · have hnone : findMember? more k = none := findMember?_eq_none_iff.mpr (hk ▸ hnodup.1)
        rw [hnone, findMember?_eq_none_iff, hrest]
        exact hk ▸ hnodup.1
      · simpa [findMember?, hk] using hfound k

/-- There is one way to merge keys. -/
private theorem merges_iff {pairs members : List (String × Tree)} :
    Merges pairs members ↔ members = putAll [] pairs := by
  constructor
  · intro h
    have hput := merges_putAll pairs
    exact eq_of_findMember? (h.keys.trans hput.keys.symm) (hput.keys ▸ nodup_eraseDups _) fun key =>
      (h.last key).trans (hput.last key).symm
  · rintro rfl
    exact merges_putAll pairs

/-- The text of a key: a text itself, or a number or a truth value written out. -/
inductive KeyText : Node → String → Prop where
  | text (s : String) : KeyText (.text s) s
  | int (n : Int) : KeyText (.int n) (toString n)
  | float (x : Binary64) : KeyText (.float x) (Decimal.yamlStyle.render x)
  | bool (b : Bool) : KeyText (.bool b) (boolText b)

/-- The tree has the shape of the value. -/
inductive Becomes : Node → Tree → Prop where
  | null : Becomes .null .null
  | bool (b : Bool) : Becomes (.bool b) (.bool b)
  | int (n : Int) : Becomes (.int n) (.int n)
  | float {x : Binary64} (hfinite : x.isFinite) : Becomes (.float x) (.float x)
  | text (s : String) : Becomes (.text s) (.text s)
  | list {items : List Node} {trees : List Tree} (hitems : List.Forall₂ Becomes items trees) :
      Becomes (.list items) (.list trees)
  | map {entries : List (Node × Node)} {pairs members : List (String × Tree)}
      (hkeys : List.Forall₂ (fun entry pair => KeyText entry.1 pair.1) entries pairs)
      (hvalues : List.Forall₂ (fun entry pair => Becomes entry.2 pair.2) entries pairs)
      (hmerges : Merges pairs members) : Becomes (.map entries) (.object members)
  | tagged (tag : String) {value : Node} {t : Tree} (hvalue : Becomes value t) :
      Becomes (.tagged tag value) t

theorem keyText_eq_ok_iff {k : Node} {key : String} : k.keyText = .ok key ↔ KeyText k key := by
  constructor
  · intro h
    cases k with
    | text s => exact Except.ok.inj h ▸ .text s
    | int n => exact Except.ok.inj h ▸ .int n
    | float x => exact Except.ok.inj h ▸ .float x
    | bool b => exact Except.ok.inj h ▸ .bool b
    | null | list | map | tagged => cases h
  · intro h
    cases h <;> rfl

mutual
/-- A value becomes a tree exactly if the tree has its shape. -/
theorem toTree_eq_ok_iff (n : Node) {t : Tree} : n.toTree = .ok t ↔ Becomes n t := by
  cases n with
  | list items =>
    simp only [toTree, bind_eq_ok_iff, pure_eq_ok, Except.ok.injEq, toItems_eq_ok_iff items]
    constructor
    · rintro ⟨trees, hitems, rfl⟩
      exact .list hitems
    · intro h
      cases h with
      | list hitems => exact ⟨_, hitems, rfl⟩
  | map entries =>
    simp only [toTree, bind_eq_ok_iff, pure_eq_ok, Except.ok.injEq,
      toMembers_eq_ok_iff [] entries]
    constructor
    · rintro ⟨members, ⟨pairs, hkeys, hvalues, hput⟩, rfl⟩
      exact .map hkeys hvalues (merges_iff.mpr hput)
    · intro h
      cases h with
      | map hkeys hvalues hmerges =>
        exact ⟨_, ⟨_, hkeys, hvalues, merges_iff.mp hmerges⟩, rfl⟩
  | tagged tag value =>
    rw [toTree, toTree_eq_ok_iff value]
    exact ⟨.tagged tag, fun | .tagged _ hvalue => hvalue⟩
  | float x =>
    rw [toTree]
    by_cases hfinite : x.isFinite
    · rw [if_pos hfinite, Except.ok.injEq]
      exact ⟨fun h => h ▸ .float hfinite, fun | .float _ => rfl⟩
    · rw [if_neg hfinite]
      exact ⟨nofun, fun | .float hx => absurd hx hfinite⟩
  | null => exact ⟨fun h => Except.ok.inj h ▸ .null, fun | .null => rfl⟩
  | bool b => exact ⟨fun h => Except.ok.inj h ▸ .bool b, fun | .bool _ => rfl⟩
  | int n => exact ⟨fun h => Except.ok.inj h ▸ .int n, fun | .int _ => rfl⟩
  | text s => exact ⟨fun h => Except.ok.inj h ▸ .text s, fun | .text _ => rfl⟩

theorem toItems_eq_ok_iff (items : List Node) {trees : List Tree} :
    toItems items = .ok trees ↔ List.Forall₂ Becomes items trees := by
  cases items with
  | nil => simp [toItems, eq_comm]
  | cons n rest =>
    simp only [toItems, bind_eq_ok_iff, pure_eq_ok, Except.ok.injEq, toTree_eq_ok_iff n,
      toItems_eq_ok_iff rest, List.forall₂_cons_left_iff]
    constructor
    · rintro ⟨t, ht, others, hothers, rfl⟩
      exact ⟨t, others, ht, hothers, rfl⟩
    · rintro ⟨t, others, ht, hothers, rfl⟩
      exact ⟨t, ht, others, hothers, rfl⟩

theorem toMembers_eq_ok_iff (done : List (String × Tree)) (entries : List (Node × Node))
    {members : List (String × Tree)} : toMembers done entries = .ok members ↔
      ∃ pairs, List.Forall₂ (fun entry pair => KeyText entry.1 pair.1) entries pairs ∧
        List.Forall₂ (fun entry pair => Becomes entry.2 pair.2) entries pairs ∧
        members = putAll done pairs := by
  match entries with
  | [] => simp [toMembers, putAll, eq_comm]
  | (k, v) :: rest =>
    simp only [toMembers, bind_eq_ok_iff, keyText_eq_ok_iff, toTree_eq_ok_iff v,
      toMembers_eq_ok_iff _ rest, List.forall₂_cons_left_iff]
    constructor
    · rintro ⟨key, hkey, t, ht, pairs, hkeys, hvalues, hput⟩
      exact ⟨(key, t) :: pairs, ⟨_, _, hkey, hkeys, rfl⟩, ⟨_, _, ht, hvalues, rfl⟩, hput⟩
    · rintro ⟨_, ⟨pair, pairs, hkey, hkeys, rfl⟩, ⟨_, _, ht, hvalues, heq⟩, hput⟩
      obtain ⟨rfl, rfl⟩ := List.cons.inj heq
      exact ⟨pair.1, hkey, pair.2, ht, pairs, hkeys, hvalues, hput⟩
end

mutual
/-- A tree seen as a value, with all keys as texts. -/
def ofTree : Tree → Node
  | .null => .null
  | .bool b => .bool b
  | .int n => .int n
  | .float x => .float x
  | .text s => .text s
  | .list items => .list (ofItems items)
  | .object members => .map (ofMembers members)

def ofItems : List Tree → List Node
  | [] => []
  | t :: rest => ofTree t :: ofItems rest

def ofMembers : List (String × Tree) → List (Node × Node)
  | [] => []
  | (key, t) :: rest => (.text key, ofTree t) :: ofMembers rest
end

/-- A tree whose numbers are all finite. -/
inductive AllFinite : Tree → Prop where
  | null : AllFinite .null
  | bool (b : Bool) : AllFinite (.bool b)
  | int (n : Int) : AllFinite (.int n)
  | float {x : Binary64} (hfinite : x.isFinite) : AllFinite (.float x)
  | text (s : String) : AllFinite (.text s)
  | list {items : List Tree} (hitems : ∀ t ∈ items, AllFinite t) : AllFinite (.list items)
  | object {members : List (String × Tree)} (hmembers : ∀ entry ∈ members, AllFinite entry.2) :
      AllFinite (.object members)

private theorem toItems_ofItems {items : List Tree} (h : ∀ t ∈ items, (ofTree t).toTree = .ok t) :
    toItems (ofItems items) = .ok items := by
  induction items with
  | nil => rfl
  | cons t rest ih =>
    rw [List.forall_mem_cons] at h
    rw [ofItems, toItems, h.1, ok_bind, ih h.2, ok_bind, pure_eq_ok]

/-- With no key twice, members are put behind each other. -/
private theorem toMembers_ofMembers {done members : List (String × Tree)}
    (h : ∀ entry ∈ members, (ofTree entry.2).toTree = .ok entry.2)
    (hkeys : ((done ++ members).map (·.1)).Nodup) :
    toMembers done (ofMembers members) = .ok (done ++ members) := by
  induction members generalizing done with
  | nil => rw [ofMembers, toMembers, List.append_nil]
  | cons entry rest ih =>
    obtain ⟨key, t⟩ := entry
    rw [List.forall_mem_cons] at h
    have hnew : key ∉ done.map (·.1) := by
      intro hknown
      rw [List.map_append, List.nodup_append] at hkeys
      exact hkeys.2.2 key hknown key (List.mem_cons_self ..) rfl
    have hnext : done ++ (key, t) :: rest = putMember done key t ++ rest := by
      rw [putMember_of_new t hnew, List.append_assoc, List.singleton_append]
    have hhere : keyText (.text key) = .ok key := rfl
    rw [hnext] at hkeys ⊢
    rw [ofMembers, toMembers, hhere, ok_bind, h.1, ok_bind, ih h.2 hkeys]

/-- A tree that a text can be read as is what it becomes when it is seen as a value. -/
private theorem toTree_ofTree {t : Tree} (ht : t.WellFormed) (hfinite : AllFinite t) :
    (ofTree t).toTree = .ok t := by
  induction ht with
  | null | bool | int | text => rfl
  | float x =>
    cases hfinite with
    | float hx => rw [ofTree, toTree, if_pos hx]
  | list _ ih =>
    cases hfinite with
    | list hitems => rw [ofTree, toTree, toItems_ofItems fun t ht => ih t ht (hitems t ht)]; rfl
  | @object members _ hkeys ih =>
    cases hfinite with
    | object hmembers =>
      have hall : toMembers [] (ofMembers members) = .ok members :=
        toMembers_ofMembers (fun entry h => ih entry h (hmembers entry h)) hkeys
      rw [ofTree, toTree, hall]
      rfl

/-- Whether a value becomes a tree, and which one. The conversion fails exactly if the value
contains a number that is not finite or a mapping with a key that has no text, and then with the
first such fault on the walk, which goes depth first and comes to a key before what stands under it.
Otherwise the tree has the shape of the value. A tree that a text can be read as becomes itself, so
that a document describes the same API, or is refused for the same reason, in both formats. -/
theorem toTree_outcome (n : Node) :
    (∀ f, n.toTree = .error f ↔ n.firstFault? = some f) ∧
    ((∃ f, n.firstFault? = some f) ↔
      (∃ x, n.Contains (.float x) ∧ ¬ x.isFinite) ∨
      ∃ entries k v, n.Contains (.map entries) ∧ (k, v) ∈ entries ∧ k.Unkeyable) ∧
    (∀ t, n.toTree = .ok t ↔ Becomes n t) ∧
    ∀ t : Tree, t.WellFormed → AllFinite t →
      (ofTree t).toTree = .ok t ∧
      ∀ json yaml jsonPath yamlPath, Tree.ofJson? json = some t → ofText? yaml = some (ofTree t) →
        (decodeDocument yamlPath .yaml yaml >>= Model.Api.ofTree) =
          (decodeDocument jsonPath .json json >>= Model.Api.ofTree) := by
  refine ⟨fun f => ?_, exists_firstFault?_iff, fun t => toTree_eq_ok_iff n, fun t ht hfinite => ?_⟩
  · rw [← failure?_eq_some_iff, failure?_toTree, firstFault?]
  · have hback := toTree_ofTree ht hfinite
    refine ⟨hback, fun json yaml jsonPath yamlPath hjson hyaml => ?_⟩
    simp only [decodeDocument, decodeText, hjson, hyaml, hback]

/-- A mapping with a number, a truth value and a text as keys, the first and the last of which have
the same text. -/
def statusKeys : Node :=
  .map [(.int 200, .text "fine"), (.bool true, .tagged "x" .null), (.text "200", .float ⟨0⟩)]

/-- A mapping with a fault in a key and one in the value under it. -/
def faultyKeys : Node := .list [.map [(.null, .float (.infinity false))]]

/-- The tree of a small document. -/
def smallTree : Tree := .object [("a", .list [.int 1])]

theorem small_values_converted :
    Becomes statusKeys (.object [("200", .float ⟨0⟩), ("true", .null)]) ∧
    faultyKeys.toTree = .error (.mappingKey "Null") ∧
    smallTree.WellFormed ∧ AllFinite smallTree ∧ (ofTree smallTree).toTree = .ok smallTree ∧
    (decodeDocument ⟨"api.yaml"⟩ .yaml "a: [1]" >>= Model.Api.ofTree) =
      (decodeDocument ⟨"api.json"⟩ .json "\x7b\"a\":[1]\x7d" >>= Model.Api.ofTree) := by
  obtain ⟨-, -, hbecomes, hback⟩ := toTree_outcome statusKeys
  obtain ⟨hfails, -, -, -⟩ := toTree_outcome faultyKeys
  have hfirst : faultyKeys.firstFault? = some (.mappingKey "Null") := rfl
  have hwell : smallTree.WellFormed := by
    have hone : (Tree.int 1).WellFormed := .int (by decide)
    simp [smallTree, Tree.wellFormed_object_iff, Tree.wellFormed_list_iff, hone]
  have hfinite : AllFinite smallTree := by
    refine .object fun entry hentry => ?_
    obtain rfl := List.mem_singleton.mp hentry
    refine .list fun t ht => ?_
    obtain rfl := List.mem_singleton.mp ht
    exact .int 1
  obtain ⟨hsame, hboth⟩ := hback smallTree hwell hfinite
  refine ⟨(hbecomes _).mp rfl, (hfails _).mpr hfirst, hwell, hfinite, hsame, ?_⟩
  exact hboth _ _ _ _ (by decide +kernel) (by with_unfolding_all rfl)

end ApiSkeleton.Yaml.Node
