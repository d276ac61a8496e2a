import ApiSkeleton.Proofs.FileSystem.Listing
import ApiSkeleton.Proofs.Path.Separate

namespace ApiSkeleton.FileSystem

variable {fs now : FileSystem} {base place names : List String} {content : ByteArray}

/-- Files under the names that lead to them, in strict order of these. -/
def InOrder (files : List (List String × ByteArray)) : Prop := files.Pairwise fun a b => a.1 < b.1

private theorem InOrder.nodup {files : List (List String × ByteArray)} (h : InOrder files) :
    files.Nodup := by
  refine List.Pairwise.imp (fun hlt heq => ?_) h
  rw [heq] at hlt
  exact lt_irrefl _ hlt

/-- There is one order of the same files. -/
private theorem InOrder.eq_of_mem_iff {files others : List (List String × ByteArray)}
    (h : InOrder files)
    (hothers : InOrder others) (hmem : ∀ f, f ∈ files ↔ f ∈ others) : files = others :=
  ((List.perm_ext_iff_of_nodup h.nodup hothers.nodup).mpr hmem).eq_of_pairwise
    (fun _ _ _ _ hlt hgt => absurd hgt (lt_asymm hlt)) h hothers

/-- The order of two members of a directory is that of all that lies below them. -/
theorem lt_of_members {first second : String} {q r : List String} (hlt : first < second)
    (hq : names ++ [first] <+: q) (hr : names ++ [second] <+: r) : q < r := by
  obtain ⟨more, rfl⟩ := hq
  obtain ⟨others, rfl⟩ := hr
  simp only [List.append_assoc, List.singleton_append]
  induction names with
  | nil => exact List.cons_lt_cons_iff.mpr (.inl hlt)
  | cons name rest ih => exact List.cons_lt_cons_iff.mpr (.inr ⟨rfl, ih⟩)

theorem lt_append_of_ne_nil {below : List String} (h : below ≠ []) : names < names ++ below := by
  induction names with
  | nil =>
    obtain ⟨name, rest, rfl⟩ := List.exists_cons_of_ne_nil h
    exact List.nil_lt_cons ..
  | cons name rest ih => exact List.cons_lt_cons_iff.mpr (.inr ⟨rfl, ih⟩)

/-- A file that lies below a directory, under its names from there. -/
def fileBelow? (base : List String) : List String × Entry → Option (List String × ByteArray)
  | (q, .file content) =>
    if base.isPrefixOf q ∧ q ≠ base then some (q.drop base.length, content) else none
  | (_, .directory) => none

/-- All files below a directory, in the order of their names, step by step. -/
def filesBelow (fs : FileSystem) (base : List String) : List (List String × ByteArray) :=
  (fs.entries.filterMap (fileBelow? base)).mergeSort fun a b => decide (a.1 ≤ b.1)

theorem fileBelow?_eq_some_iff {entry : List String × Entry} :
    fileBelow? base entry = some (names, content) ↔
      names ≠ [] ∧ entry = (base ++ names, .file content) := by
  obtain ⟨q, _ | found⟩ := entry
  · simp [fileBelow?]
  · simp only [fileBelow?, Option.ite_none_right_eq_some, Option.some.injEq, Prod.mk.injEq,
      List.isPrefixOf_iff_prefix]
    constructor
    · rintro ⟨⟨⟨rest, rfl⟩, hne⟩, hdrop, rfl⟩
      rw [List.drop_left] at hdrop
      subst hdrop
      exact ⟨by simpa using hne, rfl, rfl⟩
    · rintro ⟨hsome, rfl, hcontent⟩
      cases hcontent
      simp [hsome]

theorem mem_filesBelow_iff (h : fs.Listed) : (names, content) ∈ fs.filesBelow base ↔
    names ≠ [] ∧ fs.at? (base ++ names) = some (.file content) := by
  simp only [filesBelow, List.mem_mergeSort, List.mem_filterMap, fileBelow?_eq_some_iff]
  constructor
  · rintro ⟨_, hmem, hsome, rfl⟩
    exact ⟨hsome, h.at?_of_mem (by simp [hsome]) hmem⟩
  · rintro ⟨hsome, hat⟩
    exact ⟨_, mem_entries_of_at? (by simp [hsome]) hat, hsome, rfl⟩

theorem inOrder_filesBelow (h : fs.Listed) : InOrder (fs.filesBelow base) := by
  have hsorted : (fs.filesBelow base).Pairwise fun a b => a.1 ≤ b.1 := by
    refine (List.pairwise_mergeSort ?_ ?_ _).imp (by simp)
    · simpa using fun a b c => @le_trans (List String) _ a b c
    · simpa using @le_total (List String) _
  have hapart : (fs.filesBelow base).Pairwise fun a b => a.1 ≠ b.1 := by
    refine (List.Perm.pairwise_iff Ne.symm (List.mergeSort_perm _ _)).mpr ?_
    refine (List.pairwise_map.mp h.once).filterMap _ fun a b hne f hf g hg heq => hne ?_
    rw [(fileBelow?_eq_some_iff.mp hf).2, (fileBelow?_eq_some_iff.mp hg).2, heq]
  exact (hsorted.and hapart).imp fun ⟨hle, hne⟩ => lt_of_le_of_ne hle hne

/-- The files that a walk comes to with one member of a directory. -/
def filesAt (fs : FileSystem) (place : List String) :
    String × Entry → List (List String × ByteArray)
  | (name, .file content) => [([name], content)]
  | (name, .directory) => (fs.filesBelow (place ++ [name])).map fun f => (name :: f.1, f.2)

theorem head_of_mem_filesAt {member : String × Entry} {f : List String × ByteArray}
    (hf : f ∈ fs.filesAt place member) : ∃ rest, f.1 = member.1 :: rest := by
  obtain ⟨name, _ | content⟩ := member
  · obtain ⟨g, -, rfl⟩ := List.mem_map.mp hf
    exact ⟨g.1, rfl⟩
  · rw [List.mem_singleton.mp hf]
    exact ⟨[], rfl⟩

private theorem inOrder_filesAt (h : fs.Listed) (member : String × Entry) :
    InOrder (fs.filesAt place member) := by
  obtain ⟨name, _ | content⟩ := member
  · refine List.pairwise_map.mpr ((inOrder_filesBelow h).imp fun hlt => ?_)
    exact List.cons_lt_cons_iff.mpr (.inr ⟨rfl, hlt⟩)
  · exact List.pairwise_singleton ..

/-- A walk comes to the files below a directory member by member, also where directories are new. -/
theorem filesBelow_eq_flatMap (htree : fs.IsTree) (hlisted : fs.Listed) (hnow : now.Listed)
    (hchanges : ChangesOnly (fun q => ¬ base <+: q) fs now) (hplace : base <+: place) :
    fs.filesBelow place = (now.members place).flatMap (fs.filesAt place) := by
  have hfile (names : List String) (content : ByteArray) :
      now.at? (place ++ names) = some (.file content) ↔
        fs.at? (place ++ names) = some (.file content) :=
    hchanges.same _ content fun helse => helse (hplace.trans (List.prefix_append ..))
  refine (inOrder_filesBelow hlisted).eq_of_mem_iff ?_ ?_
  · refine List.pairwise_flatMap.mpr ⟨fun member _ => inOrder_filesAt hlisted member, ?_⟩
    refine (pairwise_members hnow).imp fun hlt f hf g hg => ?_
    obtain ⟨rest, hrest⟩ := head_of_mem_filesAt hf
    obtain ⟨more, hmore⟩ := head_of_mem_filesAt hg
    rw [hrest, hmore]
    exact List.cons_lt_cons_iff.mpr (.inl hlt)
  · rintro ⟨names, content⟩
    rw [mem_filesBelow_iff hlisted, List.mem_flatMap]
    constructor
    · rintro ⟨hsome, hat⟩
      obtain ⟨name, rest, rfl⟩ := List.exists_cons_of_ne_nil hsome
      by_cases hrest : rest = []
      · subst hrest
        refine ⟨(name, .file content), (mem_members_iff hnow).mpr ((hfile _ _).mpr hat), ?_⟩
        exact List.mem_singleton_self _
      · -- What lies deeper is in a directory of the tree, which is still one.
        have hsplit : place ++ name :: rest = place ++ [name] ++ rest := by simp
        rw [hsplit] at hat
        have hfound : fs.at? (place ++ [name] ++ rest) ≠ none := by
          rw [hat]
          simp
        have hdirectory := htree.directory_above ⟨rest, hrest, rfl⟩ hfound
        have hmember := (mem_members_iff hnow).mpr (hchanges.directory _ hdirectory)
        refine ⟨(name, .directory), hmember, ?_⟩
        exact List.mem_map.mpr ⟨(rest, content), (mem_filesBelow_iff hlisted).mpr ⟨hrest, hat⟩, rfl⟩
    · rintro ⟨⟨name, _ | found⟩, hmember, hmem⟩
      · obtain ⟨⟨rest, _⟩, hrest, heq⟩ := List.mem_map.mp hmem
        cases heq
        obtain ⟨-, hat⟩ := (mem_filesBelow_iff hlisted).mp hrest
        exact ⟨by simp, by simpa using hat⟩
      · cases List.mem_singleton.mp hmem
        exact ⟨by simp, (hfile _ _).mp ((mem_members_iff hnow).mp hmember)⟩

/-- What a change leaves of the files below a place, if paths start where they did. -/
def Spares (start base : List String) (before after : FileSystem) : Prop :=
  before.current = start → ChangesOnly (fun q => ¬ base <+: q) before after ∧
    (before.Listed → after.Listed)

theorem Spares.refl (start base : List String) (fs : FileSystem) : Spares start base fs fs :=
  fun _ => ⟨ChangesOnly.refl _ fs, id⟩

instance (start base : List String) : IsPreorder FileSystem (Spares start base) where
  refl := Spares.refl start base
  trans before middle after h h' hstart := by
    obtain ⟨hfirst, hlisted⟩ := h hstart
    obtain ⟨hsecond, hlisted'⟩ := h' (hfirst.current.trans hstart)
    exact ⟨hfirst.trans hsecond, hlisted' ∘ hlisted⟩

/-- Files below a root are written without touching what is below a place beside it. -/
theorem spares_write {root : Path} {start : List String}
    (hbeside : Path.Beside base (root.landing start)) (fs : FileSystem) (file : OutputFile) :
    Spares start base fs ((sinkBelow root).write fs file).1 := by
  intro hstart
  refine ⟨?_, fun hlisted => hlisted.write root file⟩
  have hwithin : ChangesOnly (Below root fs) fs _ := changesWithin_write root fs file
  refine hwithin.mono fun q hq hbase => ?_
  obtain ⟨⟨names, -, rfl⟩, -⟩ := hq
  have hpart := (hbeside.append [] names).1
  rw [List.append_nil] at hpart
  exact hpart (hstart ▸ hbase)

end ApiSkeleton.FileSystem
