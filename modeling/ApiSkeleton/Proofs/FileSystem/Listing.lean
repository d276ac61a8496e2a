import ApiSkeleton.Proofs.FileSystem.Confinement
import ApiSkeleton.Proofs.Path.Descent
import Mathlib.Data.List.Lex
import Mathlib.Data.List.Nodup
import Mathlib.Data.String.Basic

namespace ApiSkeleton.FileSystem

open ApiSkeleton.Path (Component)

variable {fs before after : FileSystem} {root p : Path} {base place q names : List String}
  {name : String} {entry : Entry}

/-- A name that a directory can hold. -/
structure IsEntryName (name : String) : Prop where
  fileName : Path.IsFileName name
  nul : '\x00' ∉ name.toList
  short : name.utf8ByteSize ≤ maxName

instance : DecidablePred IsEntryName := fun name =>
  have : Decidable (Path.IsFileName name) := inferInstanceAs (Decidable (_ ∧ _))
  decidable_of_iff (Path.IsFileName name ∧ '\x00' ∉ name.toList ∧ name.utf8ByteSize ≤ maxName)
    ⟨fun ⟨hfile, hnul, hshort⟩ => ⟨hfile, hnul, hshort⟩, fun h => ⟨h.fileName, h.nul, h.short⟩⟩

/-- Every place is listed once, under names that directories can hold. -/
structure Listed (fs : FileSystem) : Prop where
  once : (fs.entries.map (·.1)).Nodup
  names : ∀ q ∈ fs.entries.map (·.1), ∀ name ∈ q, IsEntryName name
  start : ∀ name ∈ fs.current, IsEntryName name

theorem mem_entries_of_at? (hq : q ≠ []) (h : fs.at? q = some entry) : (q, entry) ∈ fs.entries := by
  rw [at?, if_neg hq, Option.map_eq_some_iff] at h
  obtain ⟨⟨p, e⟩, hfound, rfl⟩ := h
  have hp : p = q := by simpa using List.find?_some hfound
  exact hp ▸ List.mem_of_find?_eq_some hfound

theorem Listed.at?_of_mem (h : fs.Listed) (hq : q ≠ []) (hmem : (q, entry) ∈ fs.entries) :
    fs.at? q = some entry := by
  cases hat : fs.at? q with
  | none =>
    rw [at?, if_neg hq, Option.map_eq_none_iff, List.find?_eq_none] at hat
    exact absurd (beq_self_eq_true q) (hat _ hmem)
  | some found =>
    have hsame := List.inj_on_of_nodup_map h.once (mem_entries_of_at? hq hat) hmem rfl
    rw [(Prod.mk.inj hsame).2]

theorem Listed.at?_eq_some_iff (h : fs.Listed) (hq : q ≠ []) :
    fs.at? q = some entry ↔ (q, entry) ∈ fs.entries :=
  ⟨mem_entries_of_at? hq, h.at?_of_mem hq⟩

private theorem Listed.names_of_found (h : fs.Listed) (hq : fs.at? q ≠ none) :
    ∀ name ∈ q, IsEntryName name := by
  by_cases hsome : q = []
  · simp [hsome]
  · obtain ⟨found, hfound⟩ := Option.ne_none_iff_exists'.mp hq
    exact h.names q (List.mem_map_of_mem (mem_entries_of_at? hsome hfound))

theorem Listed.names_below (h : fs.Listed) (hfound : fs.at? (base ++ names) ≠ none) :
    ∀ name ∈ names, IsEntryName name := fun name hname =>
  h.names_of_found hfound name (List.mem_append_right _ hname)

theorem keys_put (fs : FileSystem) (place : List String) (entry : Entry) :
    (fs.put place entry).entries.map (·.1) =
      if place ∈ fs.entries.map (·.1) then fs.entries.map (·.1)
      else fs.entries.map (·.1) ++ [place] := by
  unfold put
  induction fs.entries with
  | nil => simp [put.go]
  | cons first rest ih =>
    obtain ⟨q, e⟩ := first
    rw [put.go]
    by_cases hq : q = place
    · simp [hq]
    · rw [if_neg hq, List.map_cons, ih]
      by_cases hrest : place ∈ rest.map (·.1)
      · simp [hrest]
      · simp [hrest, Ne.symm hq]

theorem Listed.put (h : fs.Listed) (hplace : ∀ name ∈ place, IsEntryName name) (entry : Entry) :
    (fs.put place entry).Listed := by
  have hkeys := keys_put fs place entry
  by_cases hold : place ∈ fs.entries.map (·.1)
  · rw [if_pos hold] at hkeys
    exact ⟨hkeys ▸ h.once, hkeys ▸ h.names, h.start⟩
  · rw [if_neg hold] at hkeys
    refine ⟨?_, ?_, h.start⟩
    · rw [hkeys, ← List.concat_eq_append]
      exact h.once.concat hold
    · rw [hkeys, List.forall_mem_append, List.forall_mem_singleton]
      exact ⟨h.names, hplace⟩

private theorem names_of_stepFrom {c : Component} (hplace : ∀ name ∈ place, IsEntryName name)
    (hc : ∀ name, c = .name name → Path.IsFileName name ∧ '\x00' ∉ name.toList)
    (h : fs.stepFrom place c = .ok q) : ∀ name ∈ q, IsEntryName name := by
  unfold stepFrom at h
  split at h
  · cases h
  · cases h
  · cases c with
    | root =>
      cases h
      simp
    | current =>
      cases h
      exact hplace
    | parent =>
      cases h
      exact fun name hname => hplace name (List.mem_of_mem_dropLast hname)
    | name s =>
      simp only at h
      split at h
      · cases h
      · rename_i hshort
        cases h
        rw [List.forall_mem_append, List.forall_mem_singleton]
        exact ⟨hplace, (hc s rfl).1, (hc s rfl).2, Nat.le_of_not_lt hshort⟩

private theorem names_of_follow {cs : List Component} (hplace : ∀ name ∈ place, IsEntryName name)
    (hcs : ∀ name, .name name ∈ cs → Path.IsFileName name ∧ '\x00' ∉ name.toList)
    (h : fs.follow place cs = .ok q) : ∀ name ∈ q, IsEntryName name := by
  induction cs generalizing place with
  | nil =>
    cases h
    exact hplace
  | cons c rest ih =>
    rw [follow_cons] at h
    obtain ⟨next, hnext, hrest⟩ := bind_eq_ok_iff.mp h
    refine ih (names_of_stepFrom hplace ?_ hnext) (fun s hs => hcs s (List.mem_cons_of_mem _ hs))
      hrest
    rintro s rfl
    exact hcs s (List.mem_cons_self ..)

/-- The names of a place that a path leads to. -/
theorem Listed.names_of_resolve (h : fs.Listed) (hp : fs.resolve p = .ok q) :
    ∀ name ∈ q, IsEntryName name := by
  obtain ⟨hdown, hfollow⟩ := of_resolve hp
  refine names_of_follow h.start (fun s hs => ?_) hfollow
  obtain ⟨hname, htext⟩ := Path.isFileName_of_mem_components hs
  exact ⟨hname, fun hnul => hdown.nul (htext _ hnul)⟩

instance : IsPreorder FileSystem fun before after => before.Listed → after.Listed where
  refl _ := id
  trans _ _ _ h h' := h' ∘ h

private theorem Listed.makeDirectories (h : fs.Listed) (p : Path) :
    (fs.makeDirectories p).1.Listed :=
  makeAll_relates (R := fun before after => before.Listed → after.Listed)
    (fun _ _ _ hplace _ hlisted => hlisted.put (hlisted.names_of_resolve hplace) _) fs _ h

/-- Writing a file keeps every place listed once. -/
theorem Listed.write (h : fs.Listed) (root : Path) (file : OutputFile) :
    ((sinkBelow root).write fs file).1.Listed := by
  change (writeBelow root fs file).1.Listed
  unfold writeBelow
  cases checkInside file.path with
  | error f => exact h
  | ok _ =>
    have hmade := h.makeDirectories ((root.join file.path).parent?.getD ⟨""⟩)
    simp only
    rcases hmake : fs.makeDirectories ((root.join file.path).parent?.getD ⟨""⟩) with
      ⟨made, fault | _⟩
    · rwa [hmake] at hmade
    · rw [hmake] at hmade
      simp only
      cases hwritten : made.writeFile (root.join file.path) file.content with
      | error fault => exact hmade
      | ok written =>
        obtain ⟨place, hplace, -, -, rfl⟩ := exists_put_of_writeFile hwritten
        exact hmade.put (hmade.names_of_resolve hplace) _

/-- What is in a directory, in the order of the names. -/
def members (fs : FileSystem) (place : List String) : List (String × Entry) :=
  (fs.namesIn place).filterMap fun name => (fs.at? (place ++ [name])).map (name, ·)

/-- The name of a place in a directory. -/
theorem nameIn_eq_some_iff : (if q.length = place.length + 1 ∧ place.isPrefixOf q then q.getLast?
    else none) = some name ↔ q = place ++ [name] := by
  constructor
  · intro h
    split at h
    · rename_i hq
      obtain ⟨hlength, hprefix⟩ := hq
      obtain ⟨rest, rfl⟩ := List.isPrefixOf_iff_prefix.mp hprefix
      rw [List.length_append, Nat.add_left_cancel_iff] at hlength
      obtain ⟨last, rfl⟩ := List.length_eq_one_iff.mp hlength
      rw [List.getLast?_concat, Option.some.injEq] at h
      rw [h]
    · cases h
  · rintro rfl
    simp

private theorem mem_namesIn_iff (h : fs.Listed) : name ∈ fs.namesIn place ↔
    fs.at? (place ++ [name]) ≠ none := by
  rw [namesIn, List.mem_mergeSort, List.mem_filterMap, Option.ne_none_iff_exists']
  simp only [h.at?_eq_some_iff (by simp : place ++ [name] ≠ []), Prod.exists, nameIn_eq_some_iff]
  constructor
  · rintro ⟨q, entry, hmem, rfl⟩
    exact ⟨entry, hmem⟩
  · rintro ⟨entry, hmem⟩
    exact ⟨_, entry, hmem, rfl⟩

private theorem nodup_namesIn (h : fs.Listed) : (fs.namesIn place).Nodup := by
  have hkeys : (fs.namesIn place).Perm ((fs.entries.map (·.1)).filterMap fun q =>
      if q.length = place.length + 1 ∧ place.isPrefixOf q then q.getLast? else none) := by
    rw [List.filterMap_map]
    exact List.mergeSort_perm _ _
  refine hkeys.nodup_iff.mpr (h.once.filterMap fun q q' name hq hq' => ?_)
  rw [nameIn_eq_some_iff.mp hq, nameIn_eq_some_iff.mp hq']

/-- The names in a directory are in strict order. -/
private theorem pairwise_namesIn (h : fs.Listed) : (fs.namesIn place).Pairwise (· < ·) := by
  have hsorted : (fs.namesIn place).Pairwise (· ≤ ·) := by
    refine (List.pairwise_mergeSort ?_ ?_ _).imp (by simp)
    · simpa using fun a b c => @le_trans String _ a b c
    · simpa using le_total
  exact (hsorted.and (nodup_namesIn h)).imp fun ⟨hle, hne⟩ => lt_of_le_of_ne hle hne

theorem mem_members_iff (h : fs.Listed) : (name, entry) ∈ fs.members place ↔
    fs.at? (place ++ [name]) = some entry := by
  simp only [members, List.mem_filterMap, Option.map_eq_some_iff, Prod.mk.injEq]
  constructor
  · rintro ⟨_, -, found, hfound, rfl, rfl⟩
    exact hfound
  · intro hfound
    exact ⟨name, (mem_namesIn_iff h).mpr (by simp [hfound]), entry, hfound, rfl, rfl⟩

theorem pairwise_members (h : fs.Listed) :
    (fs.members place).Pairwise fun a b => a.1 < b.1 := by
  refine (pairwise_namesIn h).filterMap _ fun a b hlt c hc d hd => ?_
  obtain ⟨_, -, rfl⟩ := Option.map_eq_some_iff.mp hc
  obtain ⟨_, -, rfl⟩ := Option.map_eq_some_iff.mp hd
  exact hlt

/-- All directories on the way to something that is there are there. -/
theorem IsTree.hasWay (h : fs.IsTree) (hfound : fs.at? (base ++ names) ≠ none) :
    HasWay fs base names := by
  rintro above below rfl hbelow
  rw [← List.append_assoc] at hfound
  exact h.directory_above ⟨below, hbelow, rfl⟩ hfound

/-- A path to a directory that other paths can be put behind. -/
structure Enters (fs : FileSystem) (root : Path) (base : List String) : Prop
    extends Reaches fs root base where
  text_ne : root.text ≠ ""
  nul : '\x00' ∉ root.text.toList

theorem enters_of_isDirectory (h : fs.isDirectory root) :
    Enters fs root (root.landing fs.current) := by
  cases hresolve : fs.resolve root with
  | ok base =>
    have hdown := (of_resolve hresolve).1
    rw [← landing_of_resolve hresolve]
    exact ⟨reaches_of_isDirectory hresolve h, hdown.text_ne, hdown.nul⟩
  | error fault =>
    rw [isDirectory, look, hresolve, error_bind] at h
    cases h

theorem Enters.keeps (h : Enters before root base) (hkeeps : KeepsKinds before after) :
    Enters after root base where
  follow := by rw [hkeeps.current, hkeeps.follow (by simp [h.follow]), h.follow]
  directory := hkeeps.directory _ h.directory
  text_ne := h.text_ne
  nul := h.nul

theorem HasWay.keeps (h : HasWay before base names) (hkeeps : KeepsKinds before after) :
    HasWay after base names := fun above below hsplit hbelow =>
  hkeeps.directory _ (h above below hsplit hbelow)

section Descending

variable (hroot : Enters fs root base) (hnames : ∀ name ∈ names, IsEntryName name)
  (hway : HasWay fs base names)

include hroot hnames hway

/-- A path that goes down through directories can be followed unless it is too long. -/
theorem resolve_descend : fs.resolve (root.descend names) =
    if maxPath < (root.descend names).text.utf8ByteSize then .error .nameTooLong
    else .ok (base ++ names) := by
  have hfiles : ∀ name ∈ names, Path.IsFileName name := fun name hname =>
    (hnames name hname).fileName
  have hnul : '\x00' ∉ (root.descend names).text.toList := by
    intro hmem
    rcases Path.mem_descend hfiles hmem with hmem | hslash | ⟨name, hname, hmem⟩
    · exact hroot.nul hmem
    · exact absurd hslash (by decide)
    · exact (hnames name hname).nul hmem
  have hfollow := follow_names (fun name hname => (hnames name hname).short) hway
  rw [resolve, if_neg (Path.descend_text_ne hroot.text_ne hfiles), if_neg (by simpa using hnul),
    Path.components_descend hroot.text_ne hfiles, follow_append, hroot.follow, ok_bind, hfollow]

theorem list_descend (hdirectory : fs.at? (base ++ names) = some .directory) :
    fs.list (root.descend names) =
      if maxPath < (root.descend names).text.utf8ByteSize then .error .nameTooLong
      else .ok (fs.members (base ++ names)) := by
  rw [list, resolve_descend hroot hnames hway]
  split
  · rfl
  · rw [ok_bind, hdirectory, members]

theorem read_descend (hsome : names ≠ []) {content : ByteArray}
    (hfile : fs.at? (base ++ names) = some (.file content)) : fs.read (root.descend names) =
      if maxPath < (root.descend names).text.utf8ByteSize then .error .nameTooLong
      else .ok content := by
  have hasks := Path.asksDirectory_descend hroot.text_ne
    (fun name hname => (hnames name hname).fileName) hsome
  rw [read, look, resolve_descend hroot hnames hway]
  split
  · rfl
  · rw [ok_bind, hfile, hasks]
    rfl

end Descending

end ApiSkeleton.FileSystem
