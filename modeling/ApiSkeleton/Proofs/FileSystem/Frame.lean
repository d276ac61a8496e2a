import ApiSkeleton.Proofs.FileSystem.Writing
import ApiSkeleton.Proofs.Path.Landing

namespace ApiSkeleton.FileSystem

open ApiSkeleton.Path (Component)

variable {fs before after : FileSystem} {places : List String → Prop} {root : Path}

theorem land_of_stepFrom {place q : List String} {c : Component}
    (h : fs.stepFrom place c = .ok q) : q = c.land place := by
  unfold stepFrom at h
  split at h
  · cases h
  · cases h
  · cases c with
    | name s =>
      simp only at h
      split at h
      · cases h
      · exact (Except.ok.inj h).symm
    | root | current | parent => exact (Except.ok.inj h).symm

private theorem landing_of_follow {place q : List String} {cs : List Component}
    (h : fs.follow place cs = .ok q) : q = cs.foldl Component.land place := by
  induction cs generalizing place with
  | nil => exact (Except.ok.inj h).symm
  | cons c rest ih =>
    rw [follow_cons] at h
    obtain ⟨next, hnext, hrest⟩ := bind_eq_ok_iff.mp h
    rw [List.foldl_cons, ← land_of_stepFrom hnext]
    exact ih hrest

/-- Without links, a path leads to the place that it names, if it leads anywhere. -/
theorem landing_of_resolve {p : Path} {q : List String} (h : fs.resolve p = .ok q) :
    q = p.landing fs.current :=
  landing_of_follow (of_resolve h).2

/-- A file that can be read is there, in the place that its path names. -/
theorem at?_landing_of_read {p : Path} {content : ByteArray} (h : fs.read p = .ok content) :
    fs.at? (p.landing fs.current) ≠ none := by
  obtain ⟨entry, hlook, -⟩ := bind_eq_ok_iff.mp h
  obtain ⟨q, hq, hfound⟩ := bind_eq_ok_iff.mp hlook
  rw [← landing_of_resolve hq]
  intro hnone
  simp [hnone] at hfound

/-- Nothing is removed, and only at some places files are new or have another content. -/
structure ChangesOnly (places : List String → Prop) (before after : FileSystem) : Prop
    extends KeepsKinds before after where
  same : ∀ q content, ¬ places q →
    (after.at? q = some (.file content) ↔ before.at? q = some (.file content))

/-- No file is new or has another content. -/
abbrev KeepsFiles : FileSystem → FileSystem → Prop := ChangesOnly fun _ => False

namespace ChangesOnly

theorem refl (places : List String → Prop) (fs : FileSystem) : ChangesOnly places fs fs :=
  ⟨⟨rfl, fun _ h => h, fun _ content h => ⟨content, h⟩⟩, fun _ _ _ => Iff.rfl⟩

theorem trans {middle : FileSystem} (h : ChangesOnly places before middle)
    (h' : ChangesOnly places middle after) : ChangesOnly places before after := by
  refine ⟨⟨h'.current.trans h.current, fun q hq => h'.directory q (h.directory q hq), ?_⟩, ?_⟩
  · intro q content hq
    obtain ⟨now, hnow⟩ := h.file q content hq
    exact h'.file q now hnow
  · exact fun q content hq => (h'.same q content hq).trans (h.same q content hq)

instance : IsPreorder FileSystem (ChangesOnly places) where
  refl := refl places
  trans _ _ _ := trans

theorem mono {more : List String → Prop} (h : ChangesOnly places before after)
    (hmore : ∀ q, places q → more q) : ChangesOnly more before after :=
  ⟨h.toKeepsKinds, fun q content hq => h.same q content fun hp => hq (hmore q hp)⟩

private theorem put_directory {place : List String} (hfree : fs.at? place = none) :
    ChangesOnly places fs (fs.put place .directory) := by
  have hsome : place ≠ [] := by
    rintro rfl
    cases hfree
  have hother : ∀ {q entry}, fs.at? q = some entry → q ≠ place := by
    rintro q entry hq rfl
    rw [hfree] at hq
    cases hq
  refine ⟨⟨rfl, fun q hq => ?_, fun q content hq => ⟨content, ?_⟩⟩, fun q content _ => ?_⟩
  · rw [at?_put hsome, if_neg (hother hq), hq]
  · rw [at?_put hsome, if_neg (hother hq), hq]
  · rw [at?_put hsome]
    by_cases hq : q = place
    · simp [hq, hfree]
    · rw [if_neg hq]

theorem put_file {place : List String} (hplace : places place)
    (hfile : fs.at? place ≠ some .directory) (content : ByteArray) :
    ChangesOnly places fs (fs.put place (.file content)) := by
  have hsome : place ≠ [] := by
    rintro rfl
    exact hfile rfl
  refine ⟨⟨rfl, fun q hq => ?_, fun q old hq => ?_⟩, fun q old hq => ?_⟩
  · rw [at?_put hsome, if_neg (by rintro rfl; exact hfile hq), hq]
  · rw [at?_put hsome]
    by_cases hself : q = place
    · exact ⟨content, if_pos hself⟩
    · exact ⟨old, by rw [if_neg hself, hq]⟩
  · rw [at?_put hsome, if_neg (by rintro rfl; exact hq hplace)]

/-- A file elsewhere is read as before. -/
theorem read (h : ChangesOnly places before after) {p : Path} {content : ByteArray}
    (hread : before.read p = .ok content) (helse : ¬ places (p.landing before.current)) :
    after.read p = .ok content := by
  obtain ⟨entry, hlook, hentry⟩ := bind_eq_ok_iff.mp hread
  obtain ⟨q, hq, hfound⟩ := bind_eq_ok_iff.mp hlook
  rw [← landing_of_resolve hq] at helse
  rw [FileSystem.read, FileSystem.look, h.resolve (by simp [hq]), hq, ok_bind]
  cases hat : before.at? q with
  | none => simp [hat] at hfound
  | some found =>
    rw [hat] at hfound
    cases found with
    | directory =>
      cases hfound
      cases hentry
    | file now =>
      rw [(h.same q now helse).mpr hat]
      simp only at hfound ⊢
      rw [hfound]
      exact hentry

end ChangesOnly

private theorem keepsFiles_makeDirectories (fs : FileSystem) (p : Path) :
    KeepsFiles fs (fs.makeDirectories p).1 :=
  makeAll_relates (fun _ _ _ _ hfree => ChangesOnly.put_directory hfree) fs _

/-- A file is written by putting it where no directory is. -/
theorem exists_put_of_writeFile {p : Path} {content : ByteArray}
    (h : fs.writeFile p content = .ok after) : ∃ place, fs.resolve p = .ok place ∧
      asksDirectory p = false ∧ fs.at? place ≠ some .directory ∧
      after = fs.put place (.file content) := by
  obtain ⟨place, hplace, hwritten⟩ := bind_eq_ok_iff.mp h
  refine ⟨place, hplace, ?_⟩
  cases hat : fs.at? place with
  | none =>
    cases hasks : asksDirectory p <;> simp [hat, hasks] at hwritten
    exact ⟨rfl, by simp, hwritten.symm⟩
  | some entry =>
    cases entry with
    | directory => simp [hat] at hwritten
    | file old =>
      cases hasks : asksDirectory p <;> simp [hat, hasks] at hwritten
      exact ⟨rfl, by simp, hwritten.symm⟩

theorem checkInside_eq_ok_iff {p : Path} : checkInside p = .ok () ↔ p.staysInside := by
  cases hinside : p.staysInside <;> simp [checkInside, hinside]

theorem checkInside_of_leaving {p : Path} (h : p.staysInside = false) :
    checkInside p = .error (.io p .outsideRoot) := by
  rw [checkInside, h]
  rfl

/-- The place that a file has below a root. -/
def placeBelow (root : Path) (start : List String) (p : Path) : List String :=
  root.landing start ++ p.names

theorem landing_join_of_staysInside {p : Path} (hp : p.staysInside) (root : Path)
    (start : List String) : (root.join p).landing start = placeBelow root start p :=
  Path.landing_join (Path.staysInside_iff.mp hp).2 root start

/-- A path of a file has a name at its end. -/
theorem names_ne_nil_of_join {root p : Path} (hp : p.staysInside)
    (hasks : asksDirectory (root.join p) = false) : p.names ≠ [] := by
  obtain ⟨hsome, hsteps⟩ := Path.staysInside_iff.mp hp
  have htext : p.text ≠ "" := fun hempty => hsome (Path.components_of_empty hempty)
  rw [asksDirectory, Path.lastSegment_join_any (Path.not_isAbsolute_of_plain hsteps)] at hasks
  obtain ⟨above, name, hnames⟩ := Path.IsFile.exists_names ⟨⟨htext, hsteps⟩, hasks⟩
  simp [hnames]

/-- What comes of writing a file below a root: its path leaves, or a directory or the file itself
cannot be made, or the file is put in its place. -/
theorem writeBelow_outcome (root : Path) (fs : FileSystem) (file : OutputFile) :
    (file.path.staysInside = false ∧
      writeBelow root fs file = (fs, .error (.io file.path .outsideRoot))) ∨
    (file.path.staysInside ∧ ∃ made, KeepsFiles fs made ∧
      ((∃ p fault, writeBelow root fs file = (made, .error (.io p (.system fault)))) ∨
      (made.resolve (root.join file.path) = .ok (placeBelow root fs.current file.path) ∧
        asksDirectory (root.join file.path) = false ∧
        made.at? (placeBelow root fs.current file.path) ≠ some .directory ∧
        writeBelow root fs file =
          (made.put (placeBelow root fs.current file.path) (.file file.content), .ok ())))) := by
  cases hinside : file.path.staysInside with
  | false => exact .inl ⟨rfl, by simp only [writeBelow, checkInside_of_leaving hinside]⟩
  | true =>
    have hcheck := checkInside_eq_ok_iff.mpr hinside
    -- Only directories are made up to the point where the file itself is put.
    have hkeeps := keepsFiles_makeDirectories fs ((root.join file.path).parent?.getD ⟨""⟩)
    refine .inr ⟨rfl, _, hkeeps, ?_⟩
    simp only [writeBelow, hcheck]
    rcases hmade : fs.makeDirectories ((root.join file.path).parent?.getD ⟨""⟩) with ⟨made, fault | _⟩
    · exact .inl ⟨_, fault, rfl⟩
    · rw [hmade] at hkeeps
      simp only
      cases hwritten : made.writeFile (root.join file.path) file.content with
      | error fault => exact .inl ⟨_, fault, rfl⟩
      | ok written =>
        obtain ⟨place, hplace, hasks, hfile, rfl⟩ := exists_put_of_writeFile hwritten
        have hlands : place = placeBelow root fs.current file.path := by
          rw [landing_of_resolve hplace, hkeeps.current, landing_join_of_staysInside hinside]
        rw [hlands] at hplace hfile ⊢
        exact .inr ⟨hplace, hasks, hfile, rfl⟩

/-- Writing a file below a root, whether or not it fails, changes no other file. -/
theorem changesOnly_writeBelow (root : Path) (fs : FileSystem) (file : OutputFile) :
    ChangesOnly (fun q => q = placeBelow root fs.current file.path ∧ file.path.names ≠ []) fs
      (writeBelow root fs file).1 := by
  rcases writeBelow_outcome root fs file with
    ⟨-, hwrite⟩ | ⟨hinside, made, hkeeps, ⟨p, fault, hwrite⟩ | ⟨-, hasks, hfile, hwrite⟩⟩
  · exact hwrite ▸ ChangesOnly.refl _ fs
  · exact hwrite ▸ hkeeps.mono fun _ => False.elim
  · exact hwrite ▸ (hkeeps.mono fun _ => False.elim).trans
      (ChangesOnly.put_file ⟨rfl, names_ne_nil_of_join hinside hasks⟩ hfile file.content)

/-- What is written is found, under its path and in the place that the path names. -/
theorem found_of_writeBelow {file : OutputFile}
    (h : writeBelow root fs file = (after, .ok ())) : file.path.names ≠ [] ∧
      after.at? (placeBelow root fs.current file.path) = some (.file file.content) ∧
      after.read (root.join file.path) = .ok file.content := by
  rcases writeBelow_outcome root fs file with
    ⟨-, hwrite⟩ | ⟨hinside, made, -, ⟨p, fault, hwrite⟩ | ⟨hresolve, hasks, hfile, hwrite⟩⟩
  · cases h.symm.trans hwrite
  · cases h.symm.trans hwrite
  · cases h.symm.trans hwrite
    have hnames := names_ne_nil_of_join hinside hasks
    have hput := @at?_put made (placeBelow root fs.current file.path) (by simp [placeBelow, hnames])
      (.file file.content)
    have hchange : ChangesOnly (fun _ => True) made _ :=
      ChangesOnly.put_file trivial hfile file.content
    refine ⟨hnames, by rw [hput, if_pos rfl], ?_⟩
    rw [read, look, hchange.resolve (by simp [hresolve]), hresolve, ok_bind, hput, if_pos rfl]
    simp [hasks]

/-- Only the check of a path says that it leaves. -/
theorem writeBelow_ne_outsideRoot {file : OutputFile} (h : file.path.staysInside) (root : Path)
    (fs : FileSystem) (p : Path) : (writeBelow root fs file).2 ≠ .error (.io p .outsideRoot) := by
  rcases writeBelow_outcome root fs file with
    ⟨hleaves, -⟩ | ⟨-, made, -, ⟨q, fault, hwrite⟩ | ⟨-, -, -, hwrite⟩⟩
  · rw [h] at hleaves
    cases hleaves
  · simp [hwrite]
  · simp [hwrite]

/-- Below a directory that is there, a file whose path is short enough is written unless something is
in its way. -/
theorem writeBelow_succeeds_iff {base : List String} {file : OutputFile} (hfits : Fits root file)
    (hroot : Reaches fs root base) :
    (writeBelow root fs file).2 = .ok () ↔ ¬ Blocked fs base file.path.names := by
  rcases writeBelow_cases hfits hroot (Path.components_ne_nil hfits.root_ne) with
    ⟨hfree, written, hwrite, -⟩ | ⟨hblocked, made, f, hwrite⟩
  · simp [hwrite, hfree]
  · simp [hwrite, hblocked]

/-- Which files a sink takes, and what it does with them. A path is refused exactly if it is empty,
begins at the root or climbs, for files in memory as for those below a root; nothing is changed
then, and the failure is the same. No other path is refused for leaving. A file with such a path is
put in the place that its names lead to from the root, which is also what the path behind the root
says once its dots are dropped, and no other file is made or changed, whether or not the writing
fails. Below a root that is a directory it only fails if there is something in the way. -/
theorem sinks_stay_inside (root : Path) (file : OutputFile) :
    (checkInside file.path ≠ .ok () ↔ file.path.text = "" ∨
      file.path.text.toList.head? = some '/' ∨ .parent ∈ file.path.components) ∧
    (checkInside file.path ≠ .ok () →
      (∀ m, Memory.sink.write m file = (m, .error (.io file.path .outsideRoot))) ∧
      ∀ fs, (sinkBelow root).write fs file = (fs, .error (.io file.path .outsideRoot))) ∧
    (checkInside file.path = .ok () →
      (∀ m, Memory.sink.write m file = (Memory.insert file m, .ok ())) ∧
      (root.join file.path).components.filter (· != .current) =
        root.components.filter (· != .current) ++ file.path.names.map .name ∧
      ∀ fs written result, (sinkBelow root).write fs file = (written, result) →
        (∀ p, result ≠ .error (.io p .outsideRoot)) ∧
        ChangesOnly (· = root.landing fs.current ++ file.path.names) fs written ∧
        (result = .ok () → file.path.names ≠ [] ∧
          written.at? (root.landing fs.current ++ file.path.names) = some (.file file.content)) ∧
        ∀ base, Fits root file → Reaches fs root base →
          (result = .ok () ↔ ¬ Blocked fs base file.path.names)) := by
  have hrefused : checkInside file.path ≠ .ok () ↔ file.path.staysInside = false := by
    rw [ne_eq, checkInside_eq_ok_iff, Bool.not_eq_true]
  refine ⟨hrefused.trans Path.not_staysInside_iff, fun hleaves => ?_, fun hinside => ?_⟩
  · have hcheck := checkInside_of_leaving (hrefused.mp hleaves)
    exact ⟨fun m => by simp only [Memory.sink, Memory.write, hcheck],
      fun fs => by simp only [sinkBelow, writeBelow, hcheck]⟩
  · have hstays := checkInside_eq_ok_iff.mp hinside
    refine ⟨fun m => by simp only [Memory.sink, Memory.write, hinside],
      Path.filter_components_join (Path.staysInside_iff.mp hstays).2 root, ?_⟩
    intro fs written result hwrite
    have hwritten : writeBelow root fs file = (written, result) := hwrite
    have honly := changesOnly_writeBelow root fs file
    have hrefuses := writeBelow_ne_outsideRoot hstays root fs
    rw [hwritten] at honly hrefuses
    refine ⟨hrefuses, honly.mono fun q hq => hq.1, ?_, fun base hfits hroot => ?_⟩
    · rintro rfl
      obtain ⟨hnames, hfound, -⟩ := found_of_writeBelow hwritten
      exact ⟨hnames, hfound⟩
    · rw [← writeBelow_succeeds_iff hfits hroot, hwritten]

end ApiSkeleton.FileSystem
