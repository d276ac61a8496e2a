import ApiSkeleton.FileSystem
import ApiSkeleton.Proofs.Path.Parent
import Mathlib.Data.List.Basic
import Mathlib.Tactic.Tauto

namespace ApiSkeleton.Path

/-- The name that a step goes down by. -/
def Component.name? : Component → Option String
  | .name s => some s
  | .root | .current | .parent => none

/-- The names on a path. -/
def names (p : Path) : List String := p.components.filterMap (·.name?)

/-- A path goes on where another one ends. -/
def IsBelow (q p : Path) : Prop := p.names <+: q.names ∧ p.names ≠ q.names

theorem not_isBelow_self (p : Path) : ¬ p.IsBelow p := fun h => h.2 rfl

theorem filterMap_name?_leadingComponents (ss : List (List Char)) :
    (leadingComponents ss).filterMap (·.name?) = (innerComponents ss).filterMap (·.name?) := by
  cases ss with
  | nil => rfl
  | cons first more =>
    rw [leadingComponents]
    by_cases hroot : first = []
    · by_cases hmore : more = []
      · simp [hroot, hmore, innerComponents]
      · simp [hroot, hmore, innerComponents, Component.name?]
    · by_cases hdot : first = ['.']
      · simp [hdot, innerComponents, Component.name?]
      · simp [hroot, hdot]

theorem mem_innerComponents {ss : List (List Char)} {c : Component}
    (hc : c ∈ innerComponents ss) : c = .parent ∨ ∃ s, c = .name s := by
  induction ss with
  | nil => cases hc
  | cons s more ih =>
    rw [innerComponents] at hc
    split at hc
    · exact ih hc
    · split at hc
      all_goals
        rcases List.mem_cons.mp hc with hc | hc
        · simp [hc]
        · exact ih hc

/-- Without climbs the steps in the middle of a path are names. -/
theorem innerComponents_of_plain {p : Path} (hp : ∀ c ∈ p.components, c.isPlain) :
    innerComponents (segments p.text.toList) = p.names.map .name := by
  have hnames : ∀ cs : List Component, (∀ c ∈ cs, ∃ s, c = .name s) →
      cs = (cs.filterMap (·.name?)).map .name := by
    intro cs hcs
    induction cs with
    | nil => rfl
    | cons c rest ih =>
      rw [List.forall_mem_cons] at hcs
      obtain ⟨⟨s, rfl⟩, hrest⟩ := hcs
      simpa [Component.name?] using ih hrest
  rw [names, components_eq, filterMap_name?_leadingComponents]
  refine hnames _ fun c hc => ?_
  rcases mem_innerComponents hc with hparent | hname
  · have hplain := hp c (mem_components_of_inner hc)
    rw [hparent] at hplain
    cases hplain
  · exact hname

/-- Below a directory, a path without climbs goes down by its names. -/
theorem components_join_plain {dir p : Path} (hdir : dir.text ≠ "")
    (hp : ∀ c ∈ p.components, c.isPlain) :
    (dir.join p).components = dir.components ++ p.names.map .name := by
  rw [components_join hdir (not_isAbsolute_of_plain hp), innerComponents_of_plain hp]

/-- Below a directory, the names of a path follow those of the directory. -/
theorem names_join {dir p : Path} (hdir : dir.text ≠ "") (hp : ¬ p.isAbsolute) :
    (dir.join p).names = dir.names ++ p.names := by
  rw [names, components_join hdir hp, List.filterMap_append, ← filterMap_name?_leadingComponents,
    ← components_eq, names, names]

theorem names_fileName {name : String} (h : IsFileName name) : (Path.mk name).names = [name] := by
  rw [names, components_eq, filterMap_name?_leadingComponents, innerComponents_fileName h]
  rfl

theorem getLast?_names {p : Path} {name : String} (h : p.fileName? = some name) :
    p.names.getLast? = some name := by
  unfold fileName? at h
  split at h
  · rename_i last hlast
    cases h
    obtain ⟨before, hbefore⟩ := List.getLast?_eq_some_iff.mp hlast
    simp [names, hbefore, Component.name?]
  · cases h

/-- A path keeps its segments when it is put behind another one. -/
theorem segments_join {dir p : Path} (hdir : dir.text ≠ "") (hp : ¬ p.isAbsolute) :
    ∃ before, segments (dir.join p).text.toList = before ++ segments p.text.toList := by
  simp only [join, hp, hdir, Bool.false_eq_true, if_false, false_or]
  by_cases hlast : dir.text.toList.getLast? = some '/'
  · obtain ⟨cs, hcs⟩ := List.getLast?_eq_some_iff.mp hlast
    refine ⟨segments cs, ?_⟩
    simp only [hlast, if_true]
    rw [String.toList_append, hcs, List.append_assoc, List.singleton_append, segments_append_slash]
  · refine ⟨segments dir.text.toList, ?_⟩
    simp only [hlast, if_false]
    rw [String.toList_append, String.toList_append, List.append_assoc]
    exact segments_append_slash _ _

/-- What stands before a path does not change what is at its end. -/
theorem lastSegment_join {dir p : Path} (hdir : dir.text ≠ "") (hp : ¬ p.isAbsolute) :
    FileSystem.lastSegment (dir.join p) = FileSystem.lastSegment p := by
  obtain ⟨before, hbefore⟩ := segments_join hdir hp
  rw [FileSystem.lastSegment, hbefore, List.getLast?_append_of_ne_nil _ (segments_ne_nil _)]
  rfl

/-- A path inside that leads to a file: there is a name at its end. -/
structure IsFile (p : Path) : Prop extends p.IsPlain where
  asks_file : FileSystem.asksDirectory p = false

/-- The name at the end of the path of a file. -/
private theorem IsFile.exists_last {p : Path} (h : p.IsFile) : ∃ before name,
    segments p.text.toList = before ++ [name] ∧ ¬ IsIdle name ∧ name ≠ ['.', '.'] := by
  obtain ⟨before, name, hsegments⟩ :=
    (List.eq_nil_or_concat' (segments p.text.toList)).resolve_left (segments_ne_nil _)
  have hlast : ¬ (name = [] ∨ name = ['.'] ∨ name = ['.', '.']) := by
    simpa [FileSystem.asksDirectory, FileSystem.lastSegment, hsegments] using h.asks_file
  refine ⟨before, name, hsegments, ?_, ?_⟩
  · rw [IsIdle]
    tauto
  · tauto

theorem IsFile.join {dir p : Path} (hdir : dir.IsPlain) (hp : p.IsFile) : (dir.join p).IsFile := by
  refine ⟨hdir.join hp.toIsPlain, ?_⟩
  rw [FileSystem.asksDirectory, lastSegment_join hdir.text_ne (not_isAbsolute_of_plain hp.steps)]
  exact hp.asks_file

theorem components_fileName {name : String} (h : IsFileName name) :
    (Path.mk name).components = [.name name] := by
  have hinner := innerComponents_fileName h
  rw [segments_of_no_slash h.1] at hinner
  rw [components_eq, segments_of_no_slash h.1]
  simp [leadingComponents, h.2.1, h.2.2.1, hinner]

theorem isFile_of_fileName {name : String} (h : IsFileName name) : (Path.mk name).IsFile := by
  refine ⟨⟨fun hempty => h.2.1 (by simpa using hempty), ?_⟩, ?_⟩
  · simp [components_fileName h, Component.isPlain]
  · rw [FileSystem.asksDirectory, FileSystem.lastSegment, segments_of_no_slash h.1]
    simp [h.2.1, h.2.2.1, h.2.2.2]

/-- The last name on the path of a file. -/
theorem IsFile.exists_names {p : Path} (h : p.IsFile) :
    ∃ above name, p.names = above ++ [name] := by
  obtain ⟨before, name, hsegments, hidle, hclimb⟩ := h.exists_last
  have hinner := innerComponents_of_plain h.steps
  rw [hsegments, innerComponents_append, innerComponents_step hidle, stepOf,
    if_neg hclimb] at hinner
  have hlast : p.names.getLast? = some (String.ofList name) := by
    have hmapped := congrArg List.getLast? hinner
    simpa [List.getLast?_map, eq_comm] using hmapped
  obtain ⟨above, habove⟩ := List.getLast?_eq_some_iff.mp hlast
  exact ⟨above, _, habove⟩

/-- Nothing but a file can be at the path of a file below a directory. -/
theorem IsFile.asksDirectory_join {dir p : Path} (hdir : dir.text ≠ "") (hp : p.IsFile) :
    FileSystem.asksDirectory (dir.join p) = false := by
  rw [FileSystem.asksDirectory, lastSegment_join hdir (not_isAbsolute_of_plain hp.steps)]
  exact hp.asks_file

end ApiSkeleton.Path
