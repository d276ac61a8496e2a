import ApiSkeleton.Proofs.FileSystem.Directories
import Mathlib.Data.List.Infix
import Mathlib.Data.Set.Card

namespace ApiSkeleton.FileSystem

variable {fs start : FileSystem} {root : Path} {base : List String}

/-- A file whose path goes down from a root, and is short enough below it. -/
structure Fits (root : Path) (file : OutputFile) : Prop where
  isFile : file.path.IsFile
  root_ne : root.text ≠ ""
  leadsDown : LeadsDown root file.path.names (root.join file.path)

/-- A path that no limit of a file system refuses. -/
structure Nameable (path : Path) : Prop where
  nul : '\x00' ∉ path.text.toList
  short : path.text.utf8ByteSize ≤ maxPath
  names : ∀ name ∈ path.names, name.utf8ByteSize ≤ maxName

instance (path : Path) : Decidable (Nameable path) :=
  decidable_of_iff
    ('\x00' ∉ path.text.toList ∧ path.text.utf8ByteSize ≤ maxPath ∧
      ∀ name ∈ path.names, name.utf8ByteSize ≤ maxName)
    ⟨fun ⟨hnul, hshort, hnames⟩ => ⟨hnul, hshort, hnames⟩,
      fun ⟨hnul, hshort, hnames⟩ => ⟨hnul, hshort, hnames⟩⟩

theorem fits_of_nameable {file : OutputFile} (hroot : root.text ≠ "") (hfile : file.path.IsFile)
    (h : Nameable (root.join file.path)) : Fits root file := by
  have hrelative := Path.not_isAbsolute_of_plain hfile.steps
  have hasks := hfile.asksDirectory_join hroot
  refine ⟨hfile, hroot, Path.components_join_plain hroot hfile.steps,
    Path.join_text_ne hroot hrelative, h.nul, h.short, fun name hname => ?_, fun _ hdot => ?_⟩
  · refine h.names name ?_
    rw [Path.names_join hroot hrelative]
    exact List.mem_append_right _ hname
  · rw [asksDirectory, hdot] at hasks
    cases hasks

/-- There is a file where a directory is needed, or a directory where a file is to go. -/
def Blocked (fs : FileSystem) (base names : List String) : Prop :=
  (∃ above content, above <+: names ∧ above ≠ names ∧
    fs.at? (base ++ above) = some (.file content)) ∨
  fs.at? (base ++ names) = some .directory

/-- A file and the directories around it were added to a file system. -/
structure AddsFile (written fs : FileSystem) (base names : List String) (content : ByteArray) :
    Prop where
  current : written.current = fs.current
  file : written.at? (base ++ names) = some (.file content)
  way : ∀ above, above <+: names → above ≠ names → written.at? (base ++ above) = some .directory
  other : ∀ q, (∀ above, above <+: names → q ≠ base ++ above) → written.at? q = fs.at? q

private theorem blocked_concat_iff {above : List String} {name : String} :
    Blocked fs base (above ++ [name]) ↔
      HasFile fs base above ∨ fs.at? (base ++ (above ++ [name])) = some .directory := by
  refine or_congr_left ⟨?_, ?_⟩
  · rintro ⟨before, content, hbefore, hne, hfile⟩
    exact ⟨before, content, (List.prefix_concat_iff.mp hbefore).resolve_left hne, hfile⟩
  · rintro ⟨before, content, hbefore, hfile⟩
    refine ⟨before, content, hbefore.trans (List.prefix_append ..), ?_, hfile⟩
    rintro rfl
    have hlonger := hbefore.length_le
    rw [List.length_append, List.length_singleton] at hlonger
    omega

private theorem AddsWay.put_file {made : FileSystem} {above : List String} {name : String}
    (h : AddsWay made fs base above) (content : ByteArray) :
    AddsFile (made.put (base ++ (above ++ [name])) (.file content)) fs base (above ++ [name])
      content := by
  have hput := @at?_put made (base ++ (above ++ [name])) (by simp) (.file content)
  refine ⟨h.current, by rw [hput, if_pos rfl], fun before hbefore hne => ?_, fun q hq => ?_⟩
  · rw [hput, if_neg fun heq => hne (List.append_cancel_left heq)]
    exact h.way before ((List.prefix_concat_iff.mp hbefore).resolve_left hne)
  · rw [hput, if_neg (hq _ List.prefix_rfl)]
    exact h.other q fun before hbefore => hq before (hbefore.trans (List.prefix_append ..))

theorem AddsFile.at?_append {written : FileSystem} {names : List String} {content : ByteArray}
    (h : AddsFile written fs base names content) (above : List String) :
    written.at? (base ++ above) = if above = names then some (.file content)
      else if above <+: names then some .directory else fs.at? (base ++ above) := by
  by_cases hself : above = names
  · rw [if_pos hself, hself, h.file]
  · rw [if_neg hself]
    by_cases habove : above <+: names
    · rw [if_pos habove, h.way above habove hself]
    · rw [if_neg habove]
      refine h.other _ fun before hbefore heq => habove ?_
      rwa [List.append_cancel_left heq]

/-- A file is written with the directories that it needs, unless something is in the way. -/
theorem writeBelow_cases {file : OutputFile} (hfits : Fits root file) (hroot : Reaches fs root base)
    (hsteps : root.components ≠ []) :
    (¬ Blocked fs base file.path.names ∧ ∃ written, writeBelow root fs file = (written, .ok ()) ∧
      AddsFile written fs base file.path.names file.content) ∨
    (Blocked fs base file.path.names ∧ ∃ made f, writeBelow root fs file = (made, .error f)) := by
  have hinside : checkInside file.path = .ok () := by
    rw [checkInside, if_pos hfits.isFile.toIsPlain.staysInside]
  have hasks := hfits.isFile.asksDirectory_join hfits.root_ne
  obtain ⟨above, name, hnames⟩ := hfits.isFile.exists_names
  have hdown := hfits.leadsDown
  rw [hnames] at hdown ⊢
  obtain ⟨up, hup, hupDown, -⟩ := hdown.parent hsteps
  obtain ⟨hmakes, hfails⟩ := makeAll_below hupDown hroot hsteps (Nat.lt_succ_self up.text.length)
  rw [blocked_concat_iff]
  by_cases hfile : HasFile fs base above
  · obtain ⟨made, fault, hall⟩ := hfails hfile
    refine .inr ⟨.inl hfile, made, .io up (.system fault), ?_⟩
    simp only [writeBelow, hinside, hup, Option.getD_some, makeDirectories, hall]
  · obtain ⟨made, hall, hadds⟩ := hmakes hfile
    have hresolve :=
      hdown.resolve_of_hasWay (hroot.extends (extends_of_makeAll hall)) hadds.hasWay
    simp only [hfile, false_or, ← hadds.at?_concat name, writeBelow, hinside, hup, Option.getD_some,
      makeDirectories, hall, writeFile, hresolve, ok_bind]
    cases hat : made.at? (base ++ (above ++ [name])) with
    | none => exact .inl ⟨by simp, _, by simp [hasks], hadds.put_file file.content⟩
    | some entry =>
      cases entry with
      | directory => exact .inr ⟨rfl, made, _, rfl⟩
      | file old => exact .inl ⟨by simp, _, by simp [hasks], hadds.put_file file.content⟩

/-- The content that was last written for some names. -/
def lastContent? (files : List OutputFile) (names : List String) : Option ByteArray :=
  (files.reverse.find? fun f => f.path.names == names).map (·.content)

theorem lastContent?_concat (files : List OutputFile) (f : OutputFile) (names : List String) :
    lastContent? (files ++ [f]) names =
      if f.path.names = names then some f.content else lastContent? files names := by
  by_cases hf : f.path.names = names
  · simp [lastContent?, hf]
  · simp [lastContent?, hf]

theorem lastContent?_eq_none_iff {files : List OutputFile} {names : List String} :
    lastContent? files names = none ↔ ∀ f ∈ files, f.path.names ≠ names := by
  simp [lastContent?]

/-- None of some files would have to lie in another one. -/
def Clear (files : List OutputFile) : Prop :=
  ∀ f ∈ files, ∀ g ∈ files, ¬ g.path.IsBelow f.path

theorem clear_iff_paths {files : List OutputFile} : Clear files ↔
    ∀ a ∈ files.map (·.path), ∀ b ∈ files.map (·.path), ¬ b.IsBelow a := by
  simp [Clear]

private theorem clear_concat_iff {files : List OutputFile} {f : OutputFile} :
    Clear (files ++ [f]) ↔
      Clear files ∧ ∀ g ∈ files, ¬ f.path.IsBelow g.path ∧ ¬ g.path.IsBelow f.path := by
  have hself := Path.not_isBelow_self f.path
  simp only [Clear, List.forall_mem_append, List.forall_mem_singleton, hself, not_false_eq_true,
    and_true, forall_and]
  tauto

/-- What a file system holds below a root that was empty at the start, once some files were
written. -/
structure Holds (fs start : FileSystem) (base : List String) (files : List OutputFile) : Prop where
  current : fs.current = start.current
  file : ∀ names content, fs.at? (base ++ names) = some (.file content) ↔
    lastContent? files names = some content
  directory : ∀ names, fs.at? (base ++ names) = some .directory ↔
    names = [] ∨ ∃ f ∈ files, names <+: f.path.names ∧ names ≠ f.path.names
  outside : ∀ q, ¬ base <+: q → fs.at? q = start.at? q

variable {done : List OutputFile}

/-- Nothing that there was at the start is lost. -/
theorem Holds.extends (h : Holds fs start base done) (hstart : Holds start start base []) :
    fs.Extends start := by
  refine ⟨h.current, fun q entry hq => ?_⟩
  by_cases hbase : base <+: q
  · obtain ⟨names, rfl⟩ := hbase
    cases entry with
    | file content => simpa [lastContent?] using (hstart.file names content).mp hq
    | directory =>
      have hempty : names = [] := by simpa using (hstart.directory names).mp hq
      exact (h.directory names).mpr (.inl hempty)
  · rw [h.outside q hbase, hq]

private theorem Holds.blocked_iff (h : Holds fs start base done) {f : OutputFile}
    (hf : f.path.names ≠ []) : Blocked fs base f.path.names ↔
      ∃ g ∈ done, f.path.IsBelow g.path ∨ g.path.IsBelow f.path := by
  have hfile : (∃ above content, above <+: f.path.names ∧ above ≠ f.path.names ∧
      fs.at? (base ++ above) = some (.file content)) ↔ ∃ g ∈ done, f.path.IsBelow g.path := by
    constructor
    · rintro ⟨above, content, habove, hne, hat⟩
      have hcontent := (h.file above content).mp hat
      obtain ⟨g, hg, rfl⟩ : ∃ g ∈ done, g.path.names = above := by
        by_contra hnone
        push Not at hnone
        rw [lastContent?_eq_none_iff.mpr hnone] at hcontent
        cases hcontent
      exact ⟨g, hg, habove, hne⟩
    · rintro ⟨g, hg, hbelow, hne⟩
      cases hcontent : lastContent? done g.path.names with
      | none => exact absurd rfl (lastContent?_eq_none_iff.mp hcontent g hg)
      | some content => exact ⟨_, content, hbelow, hne, (h.file _ content).mpr hcontent⟩
  rw [Blocked, hfile, h.directory]
  simp only [hf, false_or, Path.IsBelow, ← exists_or, ← and_or_left]

/-- One more file is written. -/
private theorem Holds.addsFile {written : FileSystem} {f : OutputFile}
    (h : Holds fs start base done) (hf : f.path.names ≠ [])
    (hclear : ∀ g ∈ done, ¬ f.path.IsBelow g.path ∧ ¬ g.path.IsBelow f.path)
    (hadds : AddsFile written fs base f.path.names f.content) :
    Holds written start base (done ++ [f]) := by
  refine ⟨hadds.current.trans h.current, fun names content => ?_, fun names => ?_, fun q hq => ?_⟩
  · rw [hadds.at?_append, lastContent?_concat]
    by_cases hself : names = f.path.names
    · simp [hself]
    · rw [if_neg hself, if_neg (Ne.symm hself)]
      by_cases habove : names <+: f.path.names
      · rw [if_pos habove]
        have hnone : lastContent? done names = none := by
          refine lastContent?_eq_none_iff.mpr fun g hg heq => (hclear g hg).1 ?_
          rw [Path.IsBelow, heq]
          exact ⟨habove, hself⟩
        simp [hnone]
      · rw [if_neg habove, h.file]
  · rw [hadds.at?_append]
    have hlast : (∃ g ∈ done ++ [f], names <+: g.path.names ∧ names ≠ g.path.names) ↔
        (∃ g ∈ done, names <+: g.path.names ∧ names ≠ g.path.names) ∨
          names <+: f.path.names ∧ names ≠ f.path.names := by
      simp only [List.mem_append, List.mem_singleton, or_and_right, exists_or, exists_eq_left]
    rw [hlast]
    by_cases hself : names = f.path.names
    · have hnone : ¬ ∃ g ∈ done, names <+: g.path.names ∧ names ≠ g.path.names := by
        rintro ⟨g, hg, hbelow⟩
        rw [hself] at hbelow
        exact (hclear g hg).2 hbelow
      simp [hself, hf, hself ▸ hnone]
    · rw [if_neg hself]
      by_cases habove : names <+: f.path.names
      · simp [habove, hself]
      · rw [if_neg habove, h.directory]
        simp [habove]
  · rw [hadds.other q fun above _ heq => hq ⟨above, heq.symm⟩, h.outside q hq]

/-- Nothing was written yet into a directory that is empty. -/
theorem holds_nil (hdirectory : made.at? base = some .directory)
    (hempty : ∀ names, names ≠ [] → made.at? (base ++ names) = none) : Holds made made base [] := by
  refine ⟨rfl, fun names content => ?_, fun names => ?_, fun q _ => rfl⟩
  · by_cases hnames : names = []
    · simp [hnames, hdirectory, lastContent?]
    · simp [hempty names hnames, lastContent?]
  · by_cases hnames : names = []
    · simp [hnames, hdirectory]
    · simp [hnames, hempty names hnames]

/-- There are as many files as were written exactly if no two were written to one place. -/
theorem Holds.ncard_eq_length_iff {files : List OutputFile} (h : Holds fs start base files) :
    {names | ∃ content, fs.at? (base ++ names) = some (.file content)}.ncard = files.length ↔
      (files.map (·.path.names)).Nodup := by
  have hfound : {names | ∃ content, fs.at? (base ++ names) = some (.file content)} =
      ((files.map (·.path.names)).toFinset : Set (List String)) := by
    ext names
    rw [Set.mem_ofPred_eq, List.coe_toFinset, Set.mem_ofPred_eq, List.mem_map]
    simp only [h.file]
    rw [← Option.isSome_iff_exists, ← Option.ne_none_iff_isSome, ne_eq, lastContent?_eq_none_iff]
    push Not
    rfl
  have hlength : (files.map (·.path.names)).length = files.length := List.length_map _
  rw [hfound, Set.ncard_coe_finset, List.card_toFinset, ← hlength]
  refine ⟨fun hsame => ?_, fun hnodup => by rw [hnodup.dedup]⟩
  exact List.dedup_eq_self.mp ((List.dedup_sublist _).eq_of_length hsame)

theorem lastContent?_of_nodup {files : List OutputFile} (h : (files.map (·.path.names)).Nodup)
    {f : OutputFile} (hf : f ∈ files) : lastContent? files f.path.names = some f.content := by
  induction files using List.reverseRecOn with
  | nil => cases hf
  | append_singleton before last ih =>
    rw [List.map_append, List.nodup_append] at h
    obtain ⟨hbefore, -, hapart⟩ := h
    rw [lastContent?_concat]
    rcases List.mem_append.mp hf with hf | hf
    · have hne : last.path.names ≠ f.path.names := fun heq =>
        hapart _ (List.mem_map_of_mem hf) _ (List.mem_map_of_mem (List.mem_singleton_self last))
          heq.symm
      rw [if_neg hne]
      exact ih hbefore hf
    · rw [List.mem_singleton.mp hf, if_pos rfl]

section Running

variable (hstart : Holds start start base []) (hroot : Reaches start root base)
  (hsteps : root.components ≠ [])

include hstart hroot hsteps

/-- Below a root that was empty, a file is refused exactly if it would have to lie in one of those
written before it, or one of them in it. -/
private theorem Holds.write {f : OutputFile} (h : Holds fs start base done) (hfits : Fits root f) :
    ((∀ g ∈ done, ¬ f.path.IsBelow g.path ∧ ¬ g.path.IsBelow f.path) →
      ∃ written, writeBelow root fs f = (written, .ok ()) ∧
        Holds written start base (done ++ [f])) ∧
    ((∃ g ∈ done, f.path.IsBelow g.path ∨ g.path.IsBelow f.path) →
      ∃ made fault, writeBelow root fs f = (made, .error fault)) := by
  have hsome : f.path.names ≠ [] := by
    obtain ⟨above, name, hnames⟩ := hfits.isFile.exists_names
    simp [hnames]
  have hblocked := h.blocked_iff hsome
  rcases writeBelow_cases hfits (hroot.extends (h.extends hstart)) hsteps with
    ⟨hfree, written, hwrite, hadds⟩ | ⟨hblock, hwrite⟩
  · exact ⟨fun hclear => ⟨written, hwrite, h.addsFile hsome hclear hadds⟩,
      fun hclash => absurd (hblocked.mpr hclash) hfree⟩
  · refine ⟨fun hclear => ?_, fun _ => hwrite⟩
    obtain ⟨g, hg, hclash⟩ := hblocked.mp hblock
    exact absurd hclash (not_or.mpr (hclear g hg))

/-- Writing files below a root that was empty comes to its end exactly if none of them would have to
lie in another one. -/
theorem run_below {files : List OutputFile} (hfits : ∀ f ∈ files, Fits root f)
    (h : Holds fs start base done) (hdone : Clear done) :
    (Clear (done ++ files) → ∃ final,
      (sinkBelow root).run fs (files.map .ok) = (final, .ok (files.map (·.path))) ∧
        Holds final start base (done ++ files)) ∧
    (¬ Clear (done ++ files) → ∃ final fault,
      (sinkBelow root).run fs (files.map .ok) = (final, .error fault)) := by
  induction files generalizing fs done with
  | nil =>
    rw [List.append_nil]
    exact ⟨fun _ => ⟨fs, rfl, h⟩, fun hclash => absurd hdone hclash⟩
  | cons f rest ih =>
    rw [List.forall_mem_cons] at hfits
    obtain ⟨hwrites, hfails⟩ := Holds.write hstart hroot hsteps h hfits.1
    have hsplit : done ++ f :: rest = (done ++ [f]) ++ rest := by simp
    rw [hsplit, List.map_cons, Sink.run]
    by_cases hclear : ∀ g ∈ done, ¬ f.path.IsBelow g.path ∧ ¬ g.path.IsBelow f.path
    · obtain ⟨written, hwrite, hwritten⟩ := hwrites hclear
      obtain ⟨hruns, hstops⟩ := ih hfits.2 hwritten (clear_concat_iff.mpr ⟨hdone, hclear⟩)
      have hstep : (sinkBelow root).write fs f = (written, .ok ()) := hwrite
      rw [hstep]
      refine ⟨fun hall => ?_, fun hclash => ?_⟩
      · obtain ⟨final, hrun, hfinal⟩ := hruns hall
        exact ⟨final, by simp [hrun, Except.map], hfinal⟩
      · obtain ⟨final, fault, hrun⟩ := hstops hclash
        exact ⟨final, fault, by simp [hrun, Except.map]⟩
    · push Not at hclear
      obtain ⟨g, hg, hclash⟩ := hclear
      obtain ⟨made, fault, hwrite⟩ := hfails ⟨g, hg, by tauto⟩
      have hstep : (sinkBelow root).write fs f = (made, .error fault) := hwrite
      rw [hstep]
      refine ⟨fun hall => ?_, fun _ => ⟨made, fault, rfl⟩⟩
      have hf : f ∈ (done ++ [f]) ++ rest := by simp
      have hg' : g ∈ (done ++ [f]) ++ rest := by simp [hg]
      exact absurd (hclash (hall g hg' f hf)) (hall f hf g hg')

end Running

end ApiSkeleton.FileSystem
