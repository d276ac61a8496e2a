import ApiSkeleton.Proofs.FileSystem.Frame
import ApiSkeleton.Proofs.Layout
import ApiSkeleton.Proofs.Text.Name

namespace ApiSkeleton

open ApiSkeleton.Path (Component)

/-- The characters that stems are made of. -/
def IsTagChar (c : Char) : Prop := c.isLower ∨ c.isDigit ∨ c = '-' ∨ c = '_'

instance : DecidablePred IsTagChar := fun _ => inferInstanceAs (Decidable (_ ∨ _ ∨ _ ∨ _))

private theorem isTagChar_stemChar {c : Char} (hupper : c.isUpper = false) :
    IsTagChar (stemChar c) := by
  unfold stemChar
  split
  · rename_i hkept
    simpa [IsTagChar, Char.isAlphanum, Char.isAlpha, hupper, or_assoc] using hkept
  · decide

private theorem stemChar_of_isTagChar {c : Char} (hc : IsTagChar c) : stemChar c = c := by
  refine if_pos ?_
  rcases hc with hlower | hdigit | rfl | rfl
  · simp [Char.isAlphanum, Char.isAlpha, hlower]
  · simp [Char.isAlphanum, hdigit]
  · rfl
  · rfl

/-- Stems have no capitals, and nothing from beyond ASCII. -/
private theorem IsTagChar.ascii {c : Char} (hc : IsTagChar c) :
    c.toNat < 128 ∧ c.isUpper = false := by
  rcases hc with hlower | hdigit | rfl | rfl
  · refine ⟨Text.toNat_lt_of_isAlpha (by simp [Char.isAlpha, hlower]), ?_⟩
    rw [Bool.eq_false_iff, ne_eq, Text.isUpper_iff]
    have hbounds : 97 ≤ c.toNat := by
      simp only [Char.isLower, Bool.and_eq_true, decide_eq_true_eq, ge_iff_le,
        UInt32.le_iff_toNat_le] at hlower
      exact hlower.1
    omega
  · have hbounds : 48 ≤ c.toNat ∧ c.toNat ≤ 57 := Char.isDigit_iff_toNat.mp hdigit
    refine ⟨by omega, ?_⟩
    rw [Bool.eq_false_iff, ne_eq, Text.isUpper_iff]
    omega
  · decide
  · decide

/-- A stem is never empty, and holds nothing that a path could be steered by. -/
theorem tagStem_form (tag : String) :
    tagStem tag ≠ "" ∧ ∀ c ∈ (tagStem tag).toList, IsTagChar c := by
  unfold tagStem
  cases hstem : (Text.lowercase tag).toList.map stemChar with
  | nil => simp [Model.defaultTag, IsTagChar]
  | cons first rest =>
    refine ⟨by simp, fun c hc => ?_⟩
    have hmapped : c ∈ (Text.lowercase tag).toList.map stemChar := by simpa [hstem] using hc
    obtain ⟨d, hd, rfl⟩ := List.mem_map.mp hmapped
    exact isTagChar_stemChar (Text.isUpper_of_mem_lowercase hd)

/-- A text that looks like a stem is its own stem. -/
theorem tagStem_eq_self {s : String} (hsome : s ≠ "") (hs : ∀ c ∈ s.toList, IsTagChar c) :
    tagStem s = s := by
  have hkept : s.toList.map stemChar = s.toList := by
    rw [List.map_congr_left fun c hc => stemChar_of_isTagChar (hs c hc), List.map_id']
  have hchars : s.toList ≠ [] := by simpa using hsome
  simp [tagStem, Text.lowercase_eq_self fun c hc => (hs c hc).ascii, hkept, hchars]

private theorem tagStem_tagStem (tag : String) : tagStem (tagStem tag) = tagStem tag :=
  tagStem_eq_self (tagStem_form tag).1 (tagStem_form tag).2

namespace Layout

variable {l : Layout}

/-- What the modules of a tag are for, as their names tell it. -/
def moduleKinds : List String := ["routes", "handlers", "index"]

/-- The path of the module of a tag that is of some kind. -/
def kindPath (l : Layout) (tag kind : String) : Path := l.groupPath (tagStem tag ++ "." ++ kind)

theorem tagPaths_eq (l : Layout) (tag : String) :
    l.tagPaths tag = moduleKinds.map (l.kindPath tag) := by
  simp [tagPaths, moduleKinds, kindPath, routesPath, handlersPath, routerPath, routesModule,
    handlersModule, routerModule, String.append_assoc]

private theorem slash_notMem_kind {kind : String} (hkind : kind ∈ moduleKinds) (tag : String) :
    '/' ∉ (tagStem tag ++ "." ++ kind).toList := by
  rw [String.append_assoc]
  refine slash_notMem_module ?_
  fin_cases hkind <;> decide

/-- A module of a tag lies one step below the directory of the groups. -/
theorem Accepted.components_kindPath (h : l.Accepted) {kind : String} (hkind : kind ∈ moduleKinds)
    (tag : String) : (l.kindPath tag kind).components =
      l.routesRoot.components ++ [.name (tagStem tag ++ "." ++ kind ++ "." ++ l.extension)] :=
  h.components_groupPath (slash_notMem_kind hkind tag)

/-- The directory of the groups is what the two directories of the layout read, one behind the
other. -/
private theorem Accepted.components_routesRoot (h : l.Accepted) :
    (Path.mk (l.sourceDir ++ "/" ++ l.routesDir)).components = l.routesRoot.components := by
  have hrelative := Path.not_isAbsolute_of_plain (isPlain_of_isInside h.routesDir).steps
  have hslash := Path.components_slash h.isPlain_source.text_ne hrelative
  rw [routesRoot, ← hslash]

/-- The name of a module shows the stem of its tag, which ends at the first dot. -/
private theorem tagStem_eq_of_names_eq (h : l.Accepted) {a b kind other : String}
    (hkind : kind ∈ moduleKinds) (hother : other ∈ moduleKinds)
    (hnames : (l.kindPath a kind).names = (l.kindPath b other).names) : tagStem a = tagStem b := by
  have hnodot (tag : String) : '.' ∉ (tagStem tag).toList := fun hdot =>
    (isStemChar_of_mem_tagStem hdot).1 rfl
  have hrole (kind : String) : IsRole ("." ++ kind) := .inr (by simp)
  rw [Path.names, Path.names, h.components_kindPath hkind, h.components_kindPath hother] at hnames
  have hfile : tagStem a ++ ("." ++ kind) = tagStem b ++ ("." ++ other) := by
    rw [List.filterMap_append, List.filterMap_append, List.append_right_inj] at hnames
    simpa [Path.Component.name?, ← String.append_assoc] using hnames
  exact (stem_role_inj (hnodot a) (hnodot b) (hrole kind) (hrole other) hfile).1

/-- How the modules of a tag lie in an application: right in the directory of the groups, inside the
application, so that no sink refuses them for leaving it. -/
structure Confines (l : Layout) (tag kind : String) (path : Path) : Prop where
  components : path.components = (Path.mk (l.sourceDir ++ "/" ++ l.routesDir)).components ++
    [.name (tagStem tag ++ "." ++ kind ++ "." ++ l.extension)]
  plain : ∀ c ∈ path.components, c = .current ∨ ∃ name, c = .name name
  kept : ∀ m content, (Memory.sink.write m ⟨path, content⟩).2 = .ok ()
  written : ∀ root fs content p,
    ((FileSystem.sinkBelow root).write fs ⟨path, content⟩).2 ≠ .error (.io p .outsideRoot)

theorem Accepted.confines (h : l.Accepted) {kind : String} (hkind : kind ∈ moduleKinds)
    (tag : String) : l.Confines tag kind (l.kindPath tag kind) := by
  have hstays : (l.kindPath tag kind).staysInside := by
    have hmem : l.kindPath tag kind ∈ l.tagPaths tag :=
      tagPaths_eq l tag ▸ List.mem_map_of_mem hkind
    have hmodule : l.kindPath tag kind ∈ l.modulePaths [tag] := by simp [modulePaths, hmem]
    exact h.staysInside_modulePaths _ hmodule
  have hcheck := FileSystem.checkInside_eq_ok_iff.mpr hstays
  refine ⟨?_, fun c hc => ?_, fun m content => ?_, fun root fs content => ?_⟩
  · rw [h.components_kindPath hkind, h.components_routesRoot]
  · have hplain := (Path.staysInside_iff.mp hstays).2 c hc
    cases c with
    | current => exact .inl rfl
    | name s => exact .inr ⟨s, rfl⟩
    | root | parent => cases hplain
  · simp only [Memory.sink, Memory.write, hcheck]
  · generalize l.kindPath tag kind = path at hstays
    exact @FileSystem.writeBelow_ne_outsideRoot ⟨path, content⟩ hstays root fs

end Layout

/-- Tags cannot steer paths. The stem of any text is a text of small ASCII letters, digits, hyphens
and underscores that is not empty and is its own stem. Under every layout that the check accepts,
the three modules of a tag lie right in the directory of the groups, under the stem, their kind and
the extension, and on no step of their paths outside the application; two tags have a file in common
exactly if they have one stem. -/
theorem tags_confined (tag : String) :
    tagStem tag ≠ "" ∧
    (∀ c ∈ (tagStem tag).toList, c.isLower ∨ c.isDigit ∨ c = '-' ∨ c = '_') ∧
    tagStem (tagStem tag) = tagStem tag ∧
    ∀ l : Layout, l.fault? = none →
      l.Confines tag "routes" (l.routesPath tag) ∧ l.Confines tag "handlers" (l.handlersPath tag) ∧
      l.Confines tag "index" (l.routerPath tag) ∧
      ∀ other, ((∃ p ∈ l.tagPaths tag, ∃ q ∈ l.tagPaths other, p.components = q.components) ↔
          tagStem tag = tagStem other) ∧
        ((∃ p ∈ l.tagPaths tag, ∃ q ∈ l.tagPaths other, p.names = q.names) ↔
          tagStem tag = tagStem other) := by
  obtain ⟨hsome, hchars⟩ := tagStem_form tag
  refine ⟨hsome, hchars, tagStem_tagStem tag, fun l hl => ?_⟩
  have haccepted := Layout.fault?_eq_none_iff.mp hl
  have hpaths := Layout.tagPaths_eq l tag
  simp only [Layout.tagPaths, Layout.moduleKinds, List.map_cons, List.map_nil, List.cons.injEq,
    and_true] at hpaths
  rw [hpaths.1, hpaths.2.1, hpaths.2.2]
  refine ⟨haccepted.confines (by simp [Layout.moduleKinds]) tag,
    haccepted.confines (by simp [Layout.moduleKinds]) tag,
    haccepted.confines (by simp [Layout.moduleKinds]) tag, fun other => ?_⟩
  -- Both kinds of sameness follow from one stem, and the weaker one leads back to it.
  have hsame : tagStem tag = tagStem other →
      ∃ p ∈ l.tagPaths tag, ∃ q ∈ l.tagPaths other, p.components = q.components := by
    intro hstem
    refine ⟨l.routesPath tag, by simp [Layout.tagPaths], l.routesPath other,
      by simp [Layout.tagPaths], ?_⟩
    rw [Layout.routesPath, Layout.routesPath, Layout.routesModule, Layout.routesModule, hstem]
  have hback : (∃ p ∈ l.tagPaths tag, ∃ q ∈ l.tagPaths other, p.names = q.names) →
      tagStem tag = tagStem other := by
    rintro ⟨p, hp, q, hq, hnames⟩
    rw [Layout.tagPaths_eq, List.mem_map] at hp hq
    obtain ⟨kind, hkind, rfl⟩ := hp
    obtain ⟨second, hsecond, rfl⟩ := hq
    exact Layout.tagStem_eq_of_names_eq haccepted hkind hsecond hnames
  have hweaker : (∃ p ∈ l.tagPaths tag, ∃ q ∈ l.tagPaths other, p.components = q.components) →
      ∃ p ∈ l.tagPaths tag, ∃ q ∈ l.tagPaths other, p.names = q.names := by
    rintro ⟨p, hp, q, hq, hcomponents⟩
    exact ⟨p, hp, q, hq, by rw [Path.names, hcomponents, Path.names]⟩
  exact ⟨⟨fun h => hback (hweaker h), hsame⟩, ⟨hback, fun h => hweaker (hsame h)⟩⟩

/-- A tag that tries to climb, in directories that are written in a roundabout way. -/
theorem climbingTag_confined : (Layout.mk "ts" "./src//" "a/./b/" "db").fault? = none ∧
    ((Layout.mk "ts" "./src//" "a/./b/" "db").routesPath "../../../PwnedΣ").components =
      [.current, .name "src", .name "a", .name "b", .name "_________pwned_.routes.ts"] := by
  have haccepted : (Layout.mk "ts" "./src//" "a/./b/" "db").fault? = none := by decide
  obtain ⟨-, -, -, hlayout⟩ := tags_confined "../../../PwnedΣ"
  refine ⟨haccepted, ?_⟩
  rw [(hlayout _ haccepted).1.components]
  decide +kernel

end ApiSkeleton
