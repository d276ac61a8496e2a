import ApiSkeleton.Layout
import ApiSkeleton.Proofs.Path
import ApiSkeleton.Proofs.Text.Lowercase
import Mathlib.Data.List.Nodup

namespace ApiSkeleton

open ApiSkeleton.Path (Component innerComponents segments)

theorem Layout.isPlain_of_isInside {dir : String} (h : isInside dir) : (Path.mk dir).IsPlain := by
  have hboth : dir ≠ "" ∧ ∀ c ∈ (Path.mk dir).components, c.isPlain := by
    simpa [isInside] using h
  exact ⟨hboth.1, hboth.2⟩

/-- The characters of the stems that tags become: no dots, no separators, no capitals. -/
def IsStemChar (c : Char) : Prop := c ≠ '.' ∧ c ≠ '/' ∧ c.isUpper = false

instance : DecidablePred IsStemChar := fun _ => inferInstanceAs (Decidable (_ ∧ _ ∧ _))

private theorem isStemChar_stemChar {c : Char} (hupper : c.isUpper = false) :
    IsStemChar (stemChar c) := by
  unfold stemChar
  split
  · rename_i hkept
    have hne : c ≠ '.' ∧ c ≠ '/' := by
      constructor <;> (rintro rfl; revert hkept; decide)
    exact ⟨hne.1, hne.2, hupper⟩
  · decide

theorem isStemChar_of_mem_tagStem {tag : String} {c : Char} (hc : c ∈ (tagStem tag).toList) :
    IsStemChar c := by
  unfold tagStem at hc
  cases hempty : ((Text.lowercase tag).toList.map stemChar).isEmpty with
  | true =>
    have hdefault : ∀ d ∈ Model.defaultTag.toList, IsStemChar d := by
      simp [Model.defaultTag, IsStemChar]
    exact hdefault c (by simpa [hempty] using hc)
  | false =>
    have hmapped : c ∈ (Text.lowercase tag).toList.map stemChar := by simpa [hempty] using hc
    obtain ⟨d, hd, rfl⟩ := List.mem_map.mp hmapped
    exact isStemChar_stemChar (Text.isUpper_of_mem_lowercase hd)

namespace Layout

/-- What the check of a layout asks for. -/
structure Accepted (l : Layout) : Prop where
  extension_ne : l.extension ≠ ""
  extension_bare : ∀ c ∈ l.extension.toList, c ∉ ['.', '/', '\\']
  sourceDir : isInside l.sourceDir
  routesDir : isInside l.routesDir
  dbDir : isInside l.dbDir

theorem fault?_eq_none_iff {l : Layout} : l.fault? = none ↔ l.Accepted := by
  have hextension : ¬ (l.extension = "" ∨ l.extension.toList.any ['.', '/', '\\'].contains) ↔
      l.extension ≠ "" ∧ ∀ c ∈ l.extension.toList, c ∉ ['.', '/', '\\'] := by
    simp
  unfold fault?
  constructor
  · intro h
    by_cases hbad : l.extension = "" ∨ l.extension.toList.any ['.', '/', '\\'].contains
    · rw [if_pos hbad] at h
      cases h
    · rw [if_neg hbad] at h
      obtain ⟨hne, hbare⟩ := hextension.mp hbad
      cases hsource : isInside l.sourceDir <;> cases hroutes : isInside l.routesDir <;>
        cases hdb : isInside l.dbDir <;> simp [hsource, hroutes, hdb] at h
      exact ⟨hne, hbare, hsource, hroutes, hdb⟩
  · rintro ⟨hne, hbare, hsource, hroutes, hdb⟩
    rw [if_neg (hextension.mpr ⟨hne, hbare⟩)]
    simp [hsource, hroutes, hdb]

variable {l : Layout}

/-- A name with the extension of the layout is the name of a file. -/
theorem Accepted.isFileName (h : l.Accepted) {module : String} (hmodule : '/' ∉ module.toList) :
    Path.IsFileName (module ++ "." ++ l.extension) := by
  have hnonempty : l.extension.toList ≠ [] := by simpa using h.extension_ne
  obtain ⟨c, rest, hext⟩ := List.exists_cons_of_ne_nil hnonempty
  have hdot : c ≠ '.' := by
    rintro rfl
    exact h.extension_bare '.' (by simp [hext]) (by simp)
  have hslash : '/' ∉ l.extension.toList := fun hc => h.extension_bare '/' hc (by simp)
  have hlist : (module ++ "." ++ l.extension).toList =
      module.toList ++ '.' :: l.extension.toList := by
    simp
  refine ⟨?_, ?_, ?_, ?_⟩
  · rw [hlist]
    simp [hmodule, hslash]
  · simp [hlist]
  · intro heq
    have hlength := congrArg List.length (hlist.symm.trans heq)
    simp only [hext, List.length_append, List.length_cons, List.length_nil] at hlength
    omega
  · intro heq
    rw [hlist, hext] at heq
    cases hm : module.toList with
    | nil => simp [hm, hdot] at heq
    | cons d more =>
      have hlength := congrArg List.length heq
      simp only [hm, List.length_append, List.length_cons, List.length_nil] at hlength
      omega

theorem Accepted.isPlain_source (h : l.Accepted) : (Path.mk l.sourceDir).IsPlain :=
  isPlain_of_isInside h.sourceDir

theorem Accepted.isPlain_routesRoot (h : l.Accepted) : l.routesRoot.IsPlain :=
  h.isPlain_source.join (isPlain_of_isInside h.routesDir)

theorem Accepted.isPlain_dbRoot (h : l.Accepted) :
    ((Path.mk l.sourceDir).join ⟨l.dbDir⟩).IsPlain :=
  h.isPlain_source.join (isPlain_of_isInside h.dbDir)

theorem Accepted.components_groupPath (h : l.Accepted) {module : String}
    (hmodule : '/' ∉ module.toList) : (l.groupPath module).components =
      l.routesRoot.components ++ [.name (module ++ "." ++ l.extension)] :=
  Path.components_join_file h.isPlain_routesRoot.text_ne (h.isFileName hmodule)

theorem Accepted.components_schemaPath (h : l.Accepted) : l.schemaPath.components =
    ((Path.mk l.sourceDir).join ⟨l.dbDir⟩).components ++ [.name ("schema." ++ l.extension)] :=
  Path.components_join_file h.isPlain_dbRoot.text_ne (@Accepted.isFileName l h "schema" (by decide))

/-- The paths of the modules of a tag. -/
def tagPaths (l : Layout) (tag : String) : List Path :=
  [l.routesPath tag, l.handlersPath tag, l.routerPath tag]

/-- The paths of all modules for a list of tags, in the order in which they are written. -/
def modulePaths (l : Layout) (tags : List String) : List Path :=
  l.schemaPath :: tags.flatMap l.tagPaths ++ [l.routeIndexPath]

/-- The names of the modules of a tag, each as the stem of the tag and what the module is for. -/
def tagParts (tag : String) : List (String × String) :=
  [(tagStem tag, ".routes"), (tagStem tag, ".handlers"), (tagStem tag, ".index")]

/-- The names of all modules in the order of their paths. -/
def moduleParts (tags : List String) : List (String × String) :=
  ("schema", "") :: tags.flatMap tagParts ++ [("index", "")]

theorem length_modulePaths (l : Layout) (tags : List String) :
    (l.modulePaths tags).length = 3 * tags.length + 2 := by
  induction tags with
  | nil => rfl
  | cons tag rest ih =>
    simp only [modulePaths, tagPaths, List.flatMap_cons, List.length_cons, List.length_append,
      List.length_nil] at ih ⊢
    omega

theorem slash_notMem_module {tag role : String} (hrole : '/' ∉ role.toList) :
    '/' ∉ (tagStem tag ++ role).toList := by
  rw [String.toList_append, List.mem_append, not_or]
  exact ⟨fun hc => (isStemChar_of_mem_tagStem hc).2.1 rfl, hrole⟩

theorem slash_notMem_routesModule (tag : String) : '/' ∉ (routesModule tag).toList := by
  unfold routesModule
  exact slash_notMem_module (by decide)

theorem slash_notMem_handlersModule (tag : String) : '/' ∉ (handlersModule tag).toList := by
  unfold handlersModule
  exact slash_notMem_module (by decide)

theorem slash_notMem_routerModule (tag : String) : '/' ∉ (routerModule tag).toList := by
  unfold routerModule
  exact slash_notMem_module (by decide)

/-- What holds of the schema and of every module beside the groups holds of all modules. -/
theorem forall_modulePaths {p : Path → Prop} {tags : List String} (hschema : p l.schemaPath)
    (hgroup : ∀ module, '/' ∉ module.toList → p (l.groupPath module)) :
    ∀ path ∈ l.modulePaths tags, p path := by
  intro path hpath
  simp only [modulePaths, tagPaths, List.cons_append, List.mem_cons, List.mem_append,
    List.mem_flatMap, List.not_mem_nil, or_false] at hpath
  rcases hpath with hpath | ⟨tag, _, hpath | hpath | hpath⟩ | hpath <;> rw [hpath]
  · exact hschema
  · exact hgroup _ (slash_notMem_routesModule tag)
  · exact hgroup _ (slash_notMem_handlersModule tag)
  · exact hgroup _ (slash_notMem_routerModule tag)
  · exact hgroup _ (by decide)

/-- Every module lies inside the application. -/
theorem Accepted.staysInside_modulePaths (h : l.Accepted) {tags : List String} :
    ∀ path ∈ l.modulePaths tags, path.staysInside := by
  have hfile {dir : List Component} (hdir : ∀ c ∈ dir, c.isPlain) (name : String) :
      ∀ c ∈ dir ++ [.name name], c.isPlain := by
    intro c hc
    rcases List.mem_append.mp hc with hc | hc
    · exact hdir c hc
    · rw [List.mem_singleton.mp hc]
      rfl
  refine forall_modulePaths ?_ fun module hmodule => ?_
  · rw [Path.staysInside_iff, h.components_schemaPath]
    exact ⟨by simp, hfile h.isPlain_dbRoot.steps _⟩
  · rw [Path.staysInside_iff, h.components_groupPath hmodule]
    exact ⟨by simp, hfile h.isPlain_routesRoot.steps _⟩

theorem Accepted.fileName?_groupPath (h : l.Accepted) {module : String}
    (hmodule : '/' ∉ module.toList) :
    (l.groupPath module).fileName? = some (module ++ "." ++ l.extension) :=
  Path.fileName?_of_components (h.components_groupPath hmodule)

/-- The name of the file of a module, from its parts. -/
def partsName (l : Layout) (part : String × String) : String :=
  part.1 ++ part.2 ++ "." ++ l.extension

private theorem Accepted.fileName?_tagPaths (h : l.Accepted) (tag : String) :
    (l.tagPaths tag).map Path.fileName? =
      (tagParts tag).map fun part => some (l.partsName part) := by
  simp only [tagPaths, List.map_cons, List.map_nil, routesPath, handlersPath, routerPath,
    h.fileName?_groupPath (slash_notMem_routesModule tag),
    h.fileName?_groupPath (slash_notMem_handlersModule tag),
    h.fileName?_groupPath (slash_notMem_routerModule tag)]
  simp only [routesModule, handlersModule, routerModule, tagParts, partsName, List.map_cons,
    List.map_nil]

theorem Accepted.fileName?_modulePaths (h : l.Accepted) (tags : List String) :
    (l.modulePaths tags).map Path.fileName? =
      (moduleParts tags).map fun part => some (l.partsName part) := by
  have hschema : l.schemaPath.fileName? = some (l.partsName ("schema", "")) := by
    rw [Path.fileName?_of_components h.components_schemaPath]
    simp [partsName]
  have hindex : l.routeIndexPath.fileName? = some (l.partsName ("index", "")) := by
    rw [routeIndexPath, h.fileName?_groupPath (by decide)]
    simp [partsName]
  simp only [modulePaths, moduleParts, List.map_cons, List.map_append, List.map_nil, hschema,
    List.map_flatMap, h.fileName?_tagPaths, hindex]

/-- Whether the second part of a module's name begins where a stem ends. -/
def IsRole (role : String) : Prop := role.toList = [] ∨ role.toList.head? = some '.'

/-- A stem ends at the first dot, so the name of a module tells its parts. -/
theorem stem_role_inj {a b r q : String} (ha : '.' ∉ a.toList) (hb : '.' ∉ b.toList)
    (hr : IsRole r) (hq : IsRole q) (heq : a ++ r = b ++ q) : a = b ∧ r = q := by
  have hstem {s t : String} (hs : '.' ∉ s.toList) (ht : IsRole t) :
      (s ++ t).toList.takeWhile (· ≠ '.') = s.toList := by
    have hall : ∀ c ∈ s.toList, decide (c ≠ '.') = true := by
      intro c hc
      simp only [ne_eq, decide_eq_true_eq]
      rintro rfl
      exact hs hc
    have hrest : t.toList.takeWhile (· ≠ '.') = [] := by
      rcases ht with ht | ht
      · rw [ht]; rfl
      · cases hlist : t.toList with
        | nil => rfl
        | cons c rest =>
          rw [hlist] at ht
          simp_all
    rw [String.toList_append, List.takeWhile_append_of_pos hall, hrest, List.append_nil]
  have hab : a = b := by
    rw [← String.toList_inj, ← hstem ha hr, heq, hstem hb hq]
  subst hab
  exact ⟨rfl, by simpa using heq⟩

private theorem nodup_moduleParts {tags : List String} (hstems : (tags.map tagStem).Nodup) :
    (moduleParts tags).Nodup := by
  have hroles : ∀ tag, ∀ part ∈ tagParts tag, part.1 = tagStem tag ∧ part.2 ≠ "" := by
    intro tag part hpart
    simp only [tagParts, List.mem_cons, List.not_mem_nil, or_false] at hpart
    rcases hpart with rfl | rfl | rfl <;> simp
  have htags : (tags.flatMap tagParts).Nodup := by
    rw [List.nodup_flatMap]
    refine ⟨fun tag _ => by simp [tagParts], ?_⟩
    refine (List.pairwise_map.mp hstems).imp ?_
    intro a b hne part ha hb
    exact hne ((hroles a part ha).1.symm.trans (hroles b part hb).1)
  have hfixed : ∀ part ∈ tags.flatMap tagParts, part.2 ≠ "" := by
    intro part hpart
    obtain ⟨tag, _, hpart⟩ := List.mem_flatMap.mp hpart
    exact (hroles tag part hpart).2
  rw [moduleParts, List.cons_append, List.nodup_cons, List.nodup_append]
  refine ⟨?_, htags, by simp, ?_⟩
  · rw [List.mem_append, not_or]
    exact ⟨fun hmem => hfixed _ hmem rfl, by decide⟩
  · intro part hpart other hother heq
    rw [List.mem_singleton.mp hother] at heq
    exact hfixed part hpart (by rw [heq])

/-- The first part of a module's name holds no dot, and neither part a capital. -/
structure WellNamed (part : String × String) : Prop where
  stem : ∀ c ∈ part.1.toList, IsStemChar c
  role : IsRole part.2
  lower : ∀ c ∈ part.2.toList, c.isUpper = false

theorem wellNamed_of_mem_moduleParts {tags : List String} :
    ∀ part ∈ moduleParts tags, WellNamed part := by
  have hroles : ∀ role ∈ ["", ".routes", ".handlers", ".index"],
      IsRole role ∧ ∀ c ∈ role.toList, c.isUpper = false := by simp [IsRole]
  have hnamed {stem role : String} (hstem : ∀ c ∈ stem.toList, IsStemChar c)
      (hrole : role ∈ ["", ".routes", ".handlers", ".index"]) : WellNamed (stem, role) :=
    ⟨hstem, (hroles role hrole).1, (hroles role hrole).2⟩
  intro part hpart
  rw [moduleParts, List.cons_append, List.mem_cons, List.mem_append, List.mem_singleton] at hpart
  rcases hpart with hpart | hpart | hpart
  · rw [hpart]
    exact hnamed (by simp [IsStemChar]) (by simp)
  · obtain ⟨tag, _, hpart⟩ := List.mem_flatMap.mp hpart
    have hstem : ∀ c ∈ (tagStem tag).toList, IsStemChar c := fun c => isStemChar_of_mem_tagStem
    simp only [tagParts, List.mem_cons, List.not_mem_nil, or_false] at hpart
    rcases hpart with hpart | hpart | hpart <;> rw [hpart] <;> exact hnamed hstem (by simp)
  · rw [hpart]
    exact hnamed (by simp [IsStemChar]) (by simp)

/-- Only the extension of a module may have capitals. -/
private theorem asciiLowercase_partsName {part : String × String} (h : WellNamed part) :
    Text.asciiLowercase (l.partsName part) =
      part.1 ++ part.2 ++ Text.asciiLowercase ("." ++ l.extension) := by
  rw [partsName, String.append_assoc, Text.asciiLowercase_append, Text.asciiLowercase_append,
    Text.asciiLowercase_eq_self fun c hc => (h.stem c hc).2.2, Text.asciiLowercase_eq_self h.lower]

/-- No two modules have one name, even if the case of ASCII letters does not count. -/
theorem Accepted.nodup_fileNames (h : l.Accepted) {tags : List String}
    (hstems : (tags.map tagStem).Nodup) :
    ((l.modulePaths tags).map fun path => path.fileName?.map Text.asciiLowercase).Nodup := by
  have hnames : (l.modulePaths tags).map (fun path => path.fileName?.map Text.asciiLowercase) =
      (moduleParts tags).map fun part => some (Text.asciiLowercase (l.partsName part)) := by
    have hmapped := congrArg (List.map (Option.map Text.asciiLowercase))
      (h.fileName?_modulePaths tags)
    simpa only [List.map_map, Function.comp_def, Option.map_some] using hmapped
  rw [hnames]
  refine List.Nodup.map_on ?_ (nodup_moduleParts hstems)
  intro part hpart other hother heq
  have hwell := wellNamed_of_mem_moduleParts part hpart
  have hwell' := wellNamed_of_mem_moduleParts other hother
  rw [Option.some.injEq, asciiLowercase_partsName hwell, asciiLowercase_partsName hwell',
    String.append_left_inj] at heq
  have hsame := stem_role_inj (fun hc => (hwell.stem _ hc).1 rfl)
    (fun hc => (hwell'.stem _ hc).1 rfl) hwell.role hwell'.role heq
  exact Prod.ext hsame.1 hsame.2

end Layout

end ApiSkeleton
