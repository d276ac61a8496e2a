import ApiSkeleton.Proofs.Path.File
import Mathlib.Data.List.Induction

namespace ApiSkeleton.Path

/-- Where a step leads to if nothing is in the way. -/
def Component.land (place : List String) : Component → List String
  | .root => []
  | .current => place
  | .parent => place.dropLast
  | .name s => place ++ [s]

/-- The place that a path names, seen from another place. -/
def landing (start : List String) (p : Path) : List String := p.components.foldl Component.land start

theorem foldl_land_plain {cs : List Component} (hcs : ∀ c ∈ cs, c.isPlain) (place : List String) :
    cs.foldl Component.land place = place ++ cs.filterMap (·.name?) := by
  induction cs generalizing place with
  | nil => simp
  | cons c rest ih =>
    rw [List.forall_mem_cons] at hcs
    rw [List.foldl_cons, ih hcs.2]
    cases c with
    | current => simp [Component.land, Component.name?]
    | name s => simp [Component.land, Component.name?]
    | root | parent => cases hcs.1

/-- Names lead down by themselves. -/
theorem foldl_land_names (names place : List String) :
    (names.map Component.name).foldl Component.land place = place ++ names := by
  rw [foldl_land_plain (by simp [Component.isPlain])]
  simp [List.filterMap_map, Component.name?]

private theorem filter_ne_current_of_plain {cs : List Component} (hcs : ∀ c ∈ cs, c.isPlain) :
    cs.filter (· != .current) = (cs.filterMap (·.name?)).map .name := by
  induction cs with
  | nil => rfl
  | cons c rest ih =>
    rw [List.forall_mem_cons] at hcs
    cases c with
    | current => simp [Component.name?, ih hcs.2]
    | name s => simp [Component.name?, ih hcs.2]
    | root | parent => cases hcs.1

theorem join_of_empty {dir p : Path} (hdir : dir.text = "") (hp : ¬ p.isAbsolute) :
    dir.join p = p := by
  simp [join, hp, hdir]

theorem components_of_empty {dir : Path} (hdir : dir.text = "") : dir.components = [] := by
  rw [components_eq, hdir]
  rfl

/-- A path is put behind another one as it is written. -/
theorem exists_text_join {p : Path} (hp : ¬ p.isAbsolute) (dir : Path) :
    ∃ rest, (dir.join p).text = dir.text ++ rest := by
  rw [join, if_neg hp]
  split
  · exact ⟨p.text, rfl⟩
  · exact ⟨"/" ++ p.text, String.append_assoc ..⟩

/-- Below any path, one without climbs leads down by its names. -/
theorem landing_join {p : Path} (hp : ∀ c ∈ p.components, c.isPlain) (dir : Path)
    (start : List String) : (dir.join p).landing start = dir.landing start ++ p.names := by
  by_cases hdir : dir.text = ""
  · rw [join_of_empty hdir (not_isAbsolute_of_plain hp), landing, landing, components_of_empty hdir,
      foldl_land_plain hp, List.foldl_nil, names]
  · rw [landing, landing, components_join_plain hdir hp, List.foldl_append, foldl_land_names]

/-- Single dots aside, the steps of a path without climbs are put behind those of any other path. -/
theorem filter_components_join {p : Path} (hp : ∀ c ∈ p.components, c.isPlain) (dir : Path) :
    (dir.join p).components.filter (· != .current) =
      dir.components.filter (· != .current) ++ p.names.map .name := by
  by_cases hdir : dir.text = ""
  · rw [join_of_empty hdir (not_isAbsolute_of_plain hp), components_of_empty hdir,
      filter_ne_current_of_plain hp, List.filter_nil, List.nil_append, names]
  · have hnames : ∀ c ∈ p.names.map Component.name, c.isPlain := by simp [Component.isPlain]
    rw [components_join_plain hdir hp, List.filter_append, filter_ne_current_of_plain hnames]
    simp [List.filterMap_map, Component.name?]

/-- What can be the path of a file behind another path can be by itself. -/
theorem lastSegment_join_any {p : Path} (hp : ¬ p.isAbsolute) (dir : Path) :
    FileSystem.lastSegment (dir.join p) = FileSystem.lastSegment p := by
  by_cases hdir : dir.text = ""
  · rw [join_of_empty hdir hp]
  · exact lastSegment_join hdir hp

theorem landing_congr {p q : Path} (h : p.components = q.components) (start : List String) :
    p.landing start = q.landing start := by
  rw [landing, h, landing]

/-- A slash between two texts puts one path behind the other, however the first one ends. -/
theorem components_slash {p q : Path} (hp : p.text ≠ "") (hq : ¬ q.isAbsolute) :
    (Path.mk (p.text ++ "/" ++ q.text)).components = (p.join q).components := by
  have hstart : segments p.text.toList ≠ [[]] := fun h =>
    hp (by simpa using segments_eq_singleton_nil_iff.mp h)
  have hslash : (p.text ++ "/" ++ q.text).toList = p.text.toList ++ '/' :: q.text.toList := by simp
  rw [components_join hp hq, components_eq, components_eq, hslash, segments_append_slash,
    leadingComponents_append (segments_ne_nil _) hstart]

theorem IsPlain.slash {p q : Path} (hp : p.IsPlain) (hq : q.IsPlain) :
    (Path.mk (p.text ++ "/" ++ q.text)).IsPlain := by
  refine ⟨by simp, ?_⟩
  rw [components_slash hp.text_ne (not_isAbsolute_of_plain hq.steps)]
  exact (hp.join hq).steps

theorem names_slash {p q : Path} (hp : p.IsPlain) (hq : q.IsPlain) :
    (Path.mk (p.text ++ "/" ++ q.text)).names = p.names ++ q.names := by
  have hrelative := not_isAbsolute_of_plain hq.steps
  rw [names, components_slash hp.text_ne hrelative, ← names, names_join hp.text_ne hrelative]

/-- A dot in front of a path without climbs keeps where it leads. -/
theorem landing_current {p : Path} (hp : ∀ c ∈ p.components, c.isPlain) (start : List String) :
    (Path.mk ("./" ++ p.text)).landing start = start ++ p.names := by
  have hdot : ("./" ++ p.text).toList = ['.'] ++ '/' :: p.text.toList := by simp
  have hsteps : (Path.mk ("./" ++ p.text)).components = .current :: p.names.map .name := by
    rw [components_eq, hdot, segments_append_slash, ← innerComponents_of_plain hp]
    rfl
  rw [landing, hsteps, List.foldl_cons, foldl_land_names, Component.land]

private theorem segments_climbs (n : Nat) (rest : List Char) :
    segments ((String.join (List.replicate n "../")).toList ++ rest) =
      List.replicate n ['.', '.'] ++ segments rest := by
  induction n with
  | zero => simp
  | succ n ih =>
    have hclimb : (String.join (List.replicate (n + 1) "../")).toList ++ rest =
        ['.', '.'] ++ '/' :: ((String.join (List.replicate n "../")).toList ++ rest) := by
      simp [List.replicate_succ]
    rw [hclimb, segments_append_slash, ih, List.replicate_succ]
    rfl

private theorem innerComponents_climbs (n : Nat) :
    innerComponents (List.replicate n ['.', '.']) = List.replicate n .parent := by
  induction n with
  | zero => rfl
  | succ n ih => simp [List.replicate_succ, innerComponents, ih]

/-- As many climbs as there are names lead back to where the names start. -/
private theorem foldl_land_climbs (place below : List String) :
    (List.replicate below.length Component.parent).foldl Component.land (place ++ below) =
      place := by
  induction below using List.reverseRecOn with
  | nil => simp
  | append_singleton below s ih =>
    have hclimb : Component.land (place ++ (below ++ [s])) .parent = place ++ below := by
      rw [Component.land, ← List.append_assoc, List.dropLast_concat]
    rw [List.length_append, List.length_singleton, List.replicate_succ, List.foldl_cons, hclimb, ih]

/-- Climbs in front of a path without any lead out of as many directories, and down from there. -/
theorem landing_climbs {p : Path} (hp : ∀ c ∈ p.components, c.isPlain) {below : List String}
    (hbelow : below ≠ []) (place : List String) :
    (Path.mk (String.join (List.replicate below.length "../") ++ p.text)).landing
      (place ++ below) = place ++ p.names := by
  obtain ⟨n, hn⟩ : ∃ n, below.length = n + 1 :=
    Nat.exists_eq_succ_of_ne_zero (by simpa using hbelow)
  have hsteps : (Path.mk (String.join (List.replicate below.length "../") ++ p.text)).components =
      List.replicate below.length .parent ++ p.names.map .name := by
    rw [components_eq, String.toList_append, segments_climbs, ← innerComponents_of_plain hp,
      ← innerComponents_climbs, ← innerComponents_append, hn, List.replicate_succ]
    rfl
  rw [landing, hsteps, List.foldl_append, foldl_land_climbs, foldl_land_names]

theorem root_notMem_innerComponents (ss : List (List Char)) : .root ∉ innerComponents ss := by
  intro hroot
  rcases mem_innerComponents hroot with hparent | ⟨s, hname⟩
  · cases hparent
  · cases hname

/-- The root can only be the first step. -/
theorem root_notMem_tail (p : Path) : .root ∉ p.components.tail := by
  rw [components_eq]
  cases segments p.text.toList with
  | nil => simp [leadingComponents]
  | cons first more =>
    rw [leadingComponents]
    split
    · split
      · simp
      · exact root_notMem_innerComponents more
    · split
      · exact root_notMem_innerComponents more
      · exact fun hroot => root_notMem_innerComponents (first :: more) (List.mem_of_mem_tail hroot)

private theorem isAbsolute_of_root_mem {p : Path} (h : .root ∈ p.components) : p.isAbsolute := by
  rw [components_eq] at h
  cases htext : p.text.toList with
  | nil => simp [htext, segments, leadingComponents] at h
  | cons c rest =>
    by_cases hc : c = '/'
    · simp [isAbsolute, htext, hc]
    · obtain ⟨s, more, -, hsegments⟩ := segments_cons hc rest
      rw [htext, hsegments, leadingComponents, if_neg (by simp)] at h
      split at h
      · exact absurd (List.mem_of_ne_of_mem (by simp) h) (root_notMem_innerComponents more)
      · exact absurd h (root_notMem_innerComponents _)

/-- A path that leaves is refused, and so is one from the root, and one that goes nowhere. -/
theorem not_staysInside_iff {p : Path} :
    p.staysInside = false ↔
      p.text = "" ∨ p.text.toList.head? = some '/' ∨ .parent ∈ p.components := by
  have habsolute : p.text.toList.head? = some '/' ↔ p.isAbsolute := by simp [isAbsolute]
  rw [← Bool.not_eq_true, staysInside_iff, habsolute]
  constructor
  · intro h
    by_cases htext : p.text = ""
    · exact .inl htext
    · refine .inr ?_
      have hclimb : ¬ ∀ c ∈ p.components, c.isPlain := fun hall => h ⟨components_ne_nil htext, hall⟩
      push Not at hclimb
      obtain ⟨c, hc, hplain⟩ := hclimb
      cases c with
      | root => exact .inl (isAbsolute_of_root_mem hc)
      | parent => exact .inr hc
      | current | name => exact absurd rfl hplain
  · rintro (htext | hroot | hparent) ⟨hsome, hall⟩
    · exact hsome (components_of_empty htext)
    · exact not_isAbsolute_of_plain hall hroot
    · exact absurd (hall _ hparent) (by simp [Component.isPlain])

end ApiSkeleton.Path
