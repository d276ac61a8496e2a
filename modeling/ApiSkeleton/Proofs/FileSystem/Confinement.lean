import ApiSkeleton.Proofs.FileSystem.Frame

namespace ApiSkeleton.FileSystem

open ApiSkeleton.Path (Component)

variable {fs before after : FileSystem} {base q : List String} {root p : Path}

/-- Everything lies in a directory, and relative paths start from one. -/
structure IsTree (fs : FileSystem) : Prop where
  current : fs.at? fs.current = some .directory
  around : ∀ place name, fs.at? (place ++ [name]) ≠ none → fs.at? place = some .directory

theorem isTree_of_entries (hcurrent : fs.at? fs.current = some .directory)
    (h : ∀ entry ∈ fs.entries, fs.at? entry.1.dropLast = some .directory) : fs.IsTree := by
  refine ⟨hcurrent, fun place name hfound => ?_⟩
  rw [at?, if_neg (by simp), ne_eq, Option.map_eq_none_iff] at hfound
  obtain ⟨entry, hentry⟩ := Option.ne_none_iff_exists'.mp hfound
  have hplace : entry.1 = place ++ [name] := by simpa using List.find?_some hentry
  have hdirectory := h entry (List.mem_of_find?_eq_some hentry)
  rwa [hplace, List.dropLast_concat] at hdirectory

/-- A place strictly below another one. -/
def IsUnder (base q : List String) : Prop := ∃ names, names ≠ [] ∧ q = base ++ names

theorem IsTree.directory_above (h : fs.IsTree) (hq : IsUnder base q) (hfound : fs.at? q ≠ none) :
    fs.at? base = some .directory := by
  obtain ⟨names, hnames, rfl⟩ := hq
  induction names using List.reverseRecOn with
  | nil => exact absurd rfl hnames
  | append_singleton above name ih =>
    rw [← List.append_assoc] at hfound
    have habove := h.around _ _ hfound
    by_cases hempty : above = []
    · rwa [hempty, List.append_nil] at habove
    · exact ih hempty (by simp [habove])

/-- A file that was removed is not found any more. -/
theorem IsTree.read_remove (h : fs.IsTree) {content : ByteArray} (hread : fs.read p = .ok content) :
    (fs.remove p).read p = .error .notFound := by
  obtain ⟨entry, hlook, hentry⟩ := bind_eq_ok_iff.mp hread
  obtain ⟨place, hplace, hfound⟩ := bind_eq_ok_iff.mp hlook
  have hdirectory : fs.at? place ≠ some .directory := by
    intro hat
    rw [hat] at hfound
    cases hfound
    cases hentry
  -- Paths start from a directory and so do those around it, which leaves the file to be removed.
  have hcurrent : ¬ place <+: fs.current := by
    rintro ⟨names, hnames⟩
    by_cases hempty : names = []
    · rw [hempty, List.append_nil] at hnames
      exact hdirectory (hnames ▸ h.current)
    · exact hdirectory (h.directory_above ⟨names, hempty, hnames.symm⟩ (by simp [h.current]))
  have hgone : (fs.remove p).at? place = none := by
    have hroot : place ≠ [] := by
      rintro rfl
      exact hdirectory rfl
    rw [at?_remove hplace hroot, if_pos ⟨List.prefix_rfl, hcurrent⟩]
  by_cases hmissing : (fs.remove p).resolve p = .error .notFound
  · rw [read, look, hmissing]
    rfl
  · have hresolve := (extends_remove p).keepsKinds.resolve hmissing
    rw [read, look, ← hresolve, hplace, ok_bind, hgone]
    rfl

/-- Something is missing for a path if it is for its steps. -/
theorem follow_of_resolve_notFound (htext : p.text ≠ "") (h : fs.resolve p = .error .notFound) :
    fs.follow fs.current p.components = .error .notFound := by
  rw [resolve, if_neg htext] at h
  split at h
  · cases h
  · split at h
    · cases h
    · exact h

/-- In a tree, following names to a place where there is something fails on no missing directory. -/
private theorem IsTree.follow_ne_notFound (h : fs.IsTree) {place : List String}
    {cs : List Component}
    (hcs : ∀ c ∈ cs, c.isPlain) (hfound : fs.at? (cs.foldl Component.land place) ≠ none) :
    fs.follow place cs ≠ .error .notFound := by
  induction cs generalizing place with
  | nil => simp [follow]
  | cons c rest ih =>
    -- The steps only lead down, so there is something here because there is something at the end.
    have hhere : fs.at? place ≠ none := by
      rw [Path.foldl_land_plain hcs] at hfound
      by_cases hnames : (c :: rest).filterMap (·.name?) = []
      · rwa [hnames, List.append_nil] at hfound
      · simp [h.directory_above ⟨_, hnames, rfl⟩ hfound]
    rw [List.forall_mem_cons] at hcs
    rw [follow_cons]
    cases hstep : fs.stepFrom place c with
    | ok next =>
      rw [ok_bind, land_of_stepFrom hstep]
      exact ih hcs.2 hfound
    | error fault =>
      rw [error_bind]
      intro hmissing
      rw [Except.error.inj hmissing, stepFrom_eq_notFound_iff] at hstep
      exact hhere hstep

/-- A path that names a place where there is something is followed there, or fails for another
reason than that something is missing, if it does not climb. -/
private theorem IsTree.resolve_ne_notFound (h : fs.IsTree) (htext : p.text ≠ "")
    (hclimb : .parent ∉ p.components) (hfound : fs.at? (p.landing fs.current) ≠ none) :
    fs.resolve p ≠ .error .notFound := by
  -- A root can only come first, and what follows leads down.
  have hplain : ∀ c ∈ p.components.tail, c.isPlain := by
    intro c hc
    cases c with
    | root => exact absurd hc (Path.root_notMem_tail p)
    | parent => exact absurd (List.mem_of_mem_tail hc) hclimb
    | current | name => rfl
  intro hmissing
  have hfollow := follow_of_resolve_notFound htext hmissing
  rw [Path.landing] at hfound
  cases hsteps : p.components with
  | nil =>
    rw [hsteps] at hfollow
    cases hfollow
  | cons c rest =>
    rw [hsteps] at hplain hfound hclimb hfollow
    cases c with
    | root =>
      have hstep : fs.stepFrom fs.current .root = .ok [] := by simp [stepFrom, h.current]
      rw [follow_cons, hstep, ok_bind] at hfollow
      exact h.follow_ne_notFound hplain hfound hfollow
    | parent => exact absurd (List.mem_cons_self ..) hclimb
    | current | name =>
      exact h.follow_ne_notFound (List.forall_mem_cons.mpr ⟨rfl, hplain⟩) hfound hfollow

/-- There is something in the place that a path names, although something is missing on the way. -/
def Hides (fs : FileSystem) (p : Path) : Prop :=
  fs.resolve p = .error .notFound ∧ fs.at? (p.landing fs.current) ≠ none

theorem IsTree.not_hides (h : fs.IsTree) (htext : p.text ≠ "") (hclimb : .parent ∉ p.components) :
    ¬ fs.Hides p :=
  fun ⟨hmissing, hfound⟩ => h.resolve_ne_notFound htext hclimb hfound hmissing

/-- Nothing but that something is missing prevents that a path is followed. -/
def Open (fs : FileSystem) (p : Path) : Prop :=
  ∀ fault, fs.resolve p = .error fault → fault = .notFound

theorem KeepsKinds.open_of_open (h : KeepsKinds before after) (hopen : after.Open p) :
    before.Open p := by
  intro fault hfault
  by_contra hother
  have hsame : after.resolve p = before.resolve p := h.resolve (by simpa [hfault] using hother)
  exact hother (hopen fault (hsame.trans hfault))

/-- What is at the place of a path that could be followed is found, unless it is hidden. -/
theorem pathExists_or_not_open (hfound : fs.at? (p.landing fs.current) ≠ none)
    (hshown : ¬ fs.Hides p) (hasks : asksDirectory p = false) : fs.pathExists p ∨ ¬ fs.Open p := by
  cases hresolve : fs.resolve p with
  | error fault =>
    refine .inr fun hopen => hshown ⟨?_, hfound⟩
    rw [hresolve, hopen fault hresolve]
  | ok place =>
    rw [← landing_of_resolve hresolve] at hfound
    obtain ⟨entry, hat⟩ := Option.ne_none_iff_exists'.mp hfound
    left
    rw [pathExists, look, hresolve, ok_bind, hat]
    cases entry <;> simp [hasks]

/-- A path that can be followed behind a root can only fail by itself where something is missing. -/
private theorem open_of_resolve_join {place : List String} (hp : p.staysInside)
    (h : fs.resolve (root.join p) = .ok place) : fs.Open root := by
  intro fault hfault
  by_cases hroot : root.text = ""
  · rw [resolve, if_pos hroot] at hfault
    exact (Except.error.inj hfault).symm
  · have hsteps := (Path.staysInside_iff.mp hp).2
    obtain ⟨hdown, hfollow⟩ := of_resolve h
    obtain ⟨rest, hrest⟩ := Path.exists_text_join (Path.not_isAbsolute_of_plain hsteps) root
    have hnul : '\x00' ∉ root.text.toList := fun hmem =>
      hdown.nul (by rw [hrest, String.toList_append]; exact List.mem_append_left _ hmem)
    have hshort : root.text.utf8ByteSize ≤ maxPath := by
      have hwhole := hdown.short
      rw [hrest, String.utf8ByteSize_append] at hwhole
      omega
    rw [Path.components_join_plain hroot hsteps, follow_append] at hfollow
    obtain ⟨above, habove, -⟩ := bind_eq_ok_iff.mp hfollow
    rw [resolve, if_neg hroot, if_neg (by simpa using hnul), if_neg (Nat.not_lt.mpr hshort),
      habove] at hfault
    cases hfault

/-- Changes at places that depend on the state before them. -/
def ChangesWithin (places : FileSystem → List String → Prop) (before after : FileSystem) : Prop :=
  ChangesOnly (places before) before after

/-- Changes that follow each other are one, if no place is added on the way. -/
theorem isPreorder_changesWithin {places : FileSystem → List String → Prop}
    (h : ∀ before middle, KeepsKinds before middle → ∀ q, places middle q → places before q) :
    IsPreorder FileSystem (ChangesWithin places) where
  refl fs := ChangesOnly.refl _ fs
  trans before middle _ hfirst hsecond :=
    hfirst.trans (hsecond.mono (h before middle hfirst.toKeepsKinds))

/-- The places of files that can be written below a root. -/
def Below (root : Path) (fs : FileSystem) (q : List String) : Prop :=
  IsUnder (root.landing fs.current) q ∧ fs.Open root

instance : IsPreorder FileSystem (ChangesWithin (Below root)) :=
  isPreorder_changesWithin fun _ _ hkeeps _ ⟨hunder, hopen⟩ =>
    ⟨hkeeps.current ▸ hunder, hkeeps.open_of_open hopen⟩

theorem changesWithin_write (root : Path) (fs : FileSystem) (file : OutputFile) :
    ChangesWithin (Below root) fs ((sinkBelow root).write fs file).1 := by
  change ChangesOnly (Below root fs) fs (writeBelow root fs file).1
  rcases writeBelow_outcome root fs file with
    ⟨-, hwrite⟩ | ⟨hinside, made, hkeeps, ⟨p, fault, hwrite⟩ | ⟨hresolve, hasks, hfile, hwrite⟩⟩
  · exact hwrite ▸ ChangesOnly.refl _ fs
  · exact hwrite ▸ hkeeps.mono fun _ => False.elim
  · have hbelow : Below root fs (placeBelow root fs.current file.path) :=
      ⟨⟨_, names_ne_nil_of_join hinside hasks, rfl⟩,
        hkeeps.open_of_open (open_of_resolve_join hinside hresolve)⟩
    exact hwrite ▸ (hkeeps.mono fun _ => False.elim).trans
      (ChangesOnly.put_file hbelow hfile file.content)

end ApiSkeleton.FileSystem
