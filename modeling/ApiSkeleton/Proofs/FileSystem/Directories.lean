import ApiSkeleton.Proofs.FileSystem.Lookup
import ApiSkeleton.Proofs.Path.File
import Mathlib.Data.List.Basic
import Mathlib.Data.List.Induction
import Mathlib.Order.Defs.Unbundled

namespace ApiSkeleton.FileSystem

variable {fs made : FileSystem} {root p : Path} {base names above : List String}

/-- All directories on the way to a place are there. -/
def HasWay (fs : FileSystem) (base names : List String) : Prop :=
  ∀ above below, names = above ++ below → below ≠ [] → fs.at? (base ++ above) = some .directory

theorem hasWay_nil : HasWay fs base [] := by
  intro above below hsplit hbelow
  exact absurd (List.append_eq_nil_iff.mp hsplit.symm).2 hbelow

theorem hasWay_concat_iff {name : String} : HasWay fs base (above ++ [name]) ↔
    HasWay fs base above ∧ fs.at? (base ++ above) = some .directory := by
  constructor
  · refine fun h => ⟨fun before after hsplit hafter => ?_, h above [name] rfl (by simp)⟩
    exact h before (after ++ [name]) (by rw [hsplit, List.append_assoc]) (by simp)
  · rintro ⟨hway, hlast⟩ before after hsplit hafter
    obtain ⟨rest, last, rfl⟩ := (List.eq_nil_or_concat' after).resolve_left hafter
    rw [← List.append_assoc] at hsplit
    obtain ⟨habove, -⟩ := List.append_inj' hsplit rfl
    by_cases hrest : rest = []
    · rwa [habove, hrest, List.append_nil] at hlast
    · exact hway before rest habove hrest

/-- Unless all directories on the way are there, there is a first one that is not. -/
private theorem hasWay_or_blocked (fs : FileSystem) (base names : List String) :
    HasWay fs base names ∨
    ∃ above below, names = above ++ below ∧ below ≠ [] ∧ HasWay fs base above ∧
      fs.at? (base ++ above) ≠ some .directory := by
  induction names using List.reverseRecOn with
  | nil => exact .inl hasWay_nil
  | append_singleton above name ih =>
    rcases ih with hway | ⟨before, after, hsplit, -, hblocked⟩
    · by_cases hlast : fs.at? (base ++ above) = some .directory
      · exact .inl (hasWay_concat_iff.mpr ⟨hway, hlast⟩)
      · exact .inr ⟨above, [name], rfl, by simp, hway, hlast⟩
    · exact .inr ⟨before, after ++ [name], by rw [hsplit, List.append_assoc], by simp, hblocked⟩

/-- There is a file on the way to a place, or at the place. -/
def HasFile (fs : FileSystem) (base names : List String) : Prop :=
  ∃ above content, above <+: names ∧ fs.at? (base ++ above) = some (.file content)

theorem HasWay.at?_of_ne (hway : HasWay fs base names) (habove : above <+: names)
    (hne : above ≠ names) : fs.at? (base ++ above) = some .directory := by
  obtain ⟨below, hsplit⟩ := habove
  refine hway above below hsplit.symm ?_
  rintro rfl
  exact hne (by simpa using hsplit)

/-- With all directories on the way, a file can only be at the place. -/
theorem HasWay.hasFile_iff (hway : HasWay fs base names) :
    HasFile fs base names ↔ ∃ content, fs.at? (base ++ names) = some (.file content) := by
  constructor
  · rintro ⟨above, content, habove, hfile⟩
    by_cases hwhole : above = names
    · exact ⟨content, hwhole ▸ hfile⟩
    · rw [hway.at?_of_ne habove hwhole] at hfile
      cases hfile
  · rintro ⟨content, hfile⟩
    exact ⟨names, content, List.prefix_rfl, hfile⟩

private theorem hasFile_concat_iff {name : String} : HasFile fs base (above ++ [name]) ↔
    HasFile fs base above ∨
      ∃ content, fs.at? (base ++ (above ++ [name])) = some (.file content) := by
  constructor
  · rintro ⟨before, content, hbefore, hfile⟩
    rcases List.prefix_concat_iff.mp hbefore with hwhole | hstrict
    · exact .inr ⟨content, hwhole ▸ hfile⟩
    · exact .inl ⟨before, content, hstrict, hfile⟩
  · rintro (⟨before, content, hbefore, hfile⟩ | ⟨content, hfile⟩)
    · exact ⟨before, content, hbefore.trans (List.prefix_append ..), hfile⟩
    · exact ⟨_, content, List.prefix_rfl, hfile⟩

/-- A path that leads to a directory. -/
structure Reaches (fs : FileSystem) (root : Path) (base : List String) : Prop where
  follow : fs.follow fs.current root.components = .ok base
  directory : fs.at? base = some .directory

theorem Reaches.extends {before : FileSystem} (h : Reaches before root base)
    (hmore : fs.Extends before) : Reaches fs root base :=
  ⟨by rw [hmore.current, hmore.keepsKinds.follow (by simp [h.follow]), h.follow],
    hmore.entries _ _ h.directory⟩

private theorem Reaches.not_hasFile (h : Reaches fs root base) : ¬ HasFile fs base [] := by
  simp [hasWay_nil.hasFile_iff, h.directory]

/-- A path that goes down from another one by some names, and that is short enough. -/
structure LeadsDown (root : Path) (names : List String) (p : Path) : Prop where
  components : p.components = root.components ++ names.map .name
  text_ne : p.text ≠ ""
  nul : '\x00' ∉ p.text.toList
  short : p.text.utf8ByteSize ≤ maxPath
  names_short : ∀ name ∈ names, name.utf8ByteSize ≤ maxName
  last : names ≠ [] → lastSegment p ≠ ['.']

theorem LeadsDown.resolve (h : LeadsDown root names p) (hroot : Reaches fs root base) :
    fs.resolve p = fs.follow base (names.map .name) := by
  rw [FileSystem.resolve, if_neg h.text_ne, if_neg (by simpa using h.nul),
    if_neg (Nat.not_lt.mpr h.short), h.components, follow_append, hroot.follow, ok_bind]

theorem LeadsDown.resolve_of_hasWay (h : LeadsDown root names p) (hroot : Reaches fs root base)
    (hway : HasWay fs base names) : fs.resolve p = .ok (base ++ names) := by
  rw [h.resolve hroot, follow_names h.names_short hway]

/-- The path around one that leads down leads down, too, and is shorter. -/
theorem LeadsDown.parent {name : String} (h : LeadsDown root (above ++ [name]) p)
    (hroot : root.components ≠ []) :
    ∃ up, p.parent? = some up ∧ LeadsDown root above up ∧ up.text.length < p.text.length := by
  have hsteps : p.components = (root.components ++ above.map .name) ++ [.name name] := by
    rw [h.components, List.map_append, List.append_assoc]
    rfl
  obtain ⟨up, hup, haround⟩ := Path.exists_parent hsteps
  obtain ⟨rest, hrest, htext⟩ := haround.text
  have hwhole : p.text = up.text ++ String.ofList rest := by
    rw [← String.toList_inj, String.toList_append, String.toList_ofList, htext]
  refine ⟨up, hup, ⟨haround.components, ?_, ?_, ?_, ?_, ?_⟩, ?_⟩
  · intro hempty
    have hnone : up.components = [] := by
      rw [Path.components_eq, hempty]
      rfl
    rw [haround.components, List.append_eq_nil_iff] at hnone
    exact hroot hnone.1
  · intro hnul
    exact h.nul (by rw [htext]; exact List.mem_append_left _ hnul)
  · have hshort := h.short
    rw [hwhole, String.utf8ByteSize_append] at hshort
    omega
  · exact fun s hs => h.names_short s (List.mem_append_left _ hs)
  · intro hsome
    obtain ⟨rest, last, rfl⟩ := (List.eq_nil_or_concat' above).resolve_left hsome
    exact haround.last last (by simp)
  · have hpositive := List.length_pos_iff.mpr hrest
    rw [← String.length_toList, ← String.length_toList, htext, List.length_append]
    omega

/-- What it means that a path could be resolved. -/
theorem of_resolve (h : fs.resolve root = .ok base) :
    LeadsDown root [] root ∧ fs.follow fs.current root.components = .ok base := by
  rw [resolve] at h
  split at h
  · cases h
  · rename_i hsome
    split at h
    · cases h
    · rename_i hnul
      split at h
      · cases h
      · rename_i hshort
        refine ⟨⟨by simp, hsome, by simpa using hnul, Nat.le_of_not_lt hshort, by simp, ?_⟩, h⟩
        exact fun hnil => absurd rfl hnil

theorem reaches_of_isDirectory (hresolve : made.resolve root = .ok base)
    (hdirectory : made.isDirectory root) : Reaches made root base := by
  refine ⟨(of_resolve hresolve).2, ?_⟩
  rw [isDirectory, look, hresolve, ok_bind] at hdirectory
  cases hat : made.at? base with
  | none => simp [hat] at hdirectory
  | some entry =>
    cases entry with
    | directory => rfl
    | file content =>
      rw [hat] at hdirectory
      cases hasks : asksDirectory root <;> simp [hasks] at hdirectory

theorem exists_reaches_of_isDirectory (h : fs.isDirectory root) : ∃ base, Reaches fs root base := by
  cases hresolve : fs.resolve root with
  | ok base => exact ⟨base, reaches_of_isDirectory hresolve h⟩
  | error fault =>
    rw [isDirectory, look, hresolve, error_bind] at h
    cases h

/-- Makes one directory unless it is there. -/
def ensureDirectory (fs : FileSystem) (path : Path) : FileSystem × Except SystemFault Unit :=
  match fs.makeDirectory path with
  | .ok made => (made, .ok ())
  | .error fault => (fs, if fs.isDirectory path then .ok () else .error fault)

theorem makeAll_of_found (h : fs.makeDirectory p ≠ .error .notFound) (around : List Path) :
    fs.makeAll (p :: around) = fs.ensureDirectory p := by
  rw [makeAll, ensureDirectory]
  cases hmake : fs.makeDirectory p with
  | ok made => rfl
  | error fault =>
    rw [hmake] at h
    cases fault <;> first | rfl | exact absurd rfl h

/-- If a directory on the way is missing, those around the last one are made first. -/
theorem makeAll_of_missing (h : fs.makeDirectory p = .error .notFound) (around : List Path) :
    fs.makeAll (p :: around) =
      match fs.makeAll around with
      | (made, .error fault) => (made, .error fault)
      | (made, .ok ()) => made.ensureDirectory p := by
  rw [makeAll, h]
  simp only
  rcases fs.makeAll around with ⟨made, fault | _⟩
  · rfl
  · cases hmake : made.makeDirectory p with
    | ok final => simp only [ensureDirectory, hmake]
    | error fault => simp only [ensureDirectory, hmake]

/-- A directory is made by putting it where nothing is. -/
theorem exists_put_of_makeDirectory (h : fs.makeDirectory p = .ok made) :
    ∃ place, fs.resolve p = .ok place ∧ fs.at? place = none ∧ made = fs.put place .directory := by
  obtain ⟨place, hplace, hmade⟩ := bind_eq_ok_iff.mp h
  cases hat : fs.at? place with
  | some entry => simp [hat] at hmade
  | none =>
    rw [hat] at hmade
    simp only at hmade
    split at hmade
    · cases hmade
    · exact ⟨place, hplace, hat, (Except.ok.inj hmade).symm⟩

private theorem isDirectory_of_makeDirectory (h : fs.makeDirectory p = .ok made) :
    made.isDirectory p := by
  obtain ⟨place, hplace, hat, rfl⟩ := exists_put_of_makeDirectory h
  have hsome : place ≠ [] := by
    rintro rfl
    cases hat
  rw [isDirectory, look, (Extends.put hat .directory).resolve hplace, ok_bind, at?_put hsome,
    if_pos rfl]

private theorem isDirectory_of_ensureDirectory (h : fs.ensureDirectory p = (made, .ok ())) :
    made.isDirectory p := by
  rw [ensureDirectory] at h
  cases hmake : fs.makeDirectory p with
  | ok now =>
    rw [hmake] at h
    cases h
    exact isDirectory_of_makeDirectory hmake
  | error fault =>
    rw [hmake, Prod.mk.injEq] at h
    obtain ⟨rfl, hdirectory⟩ := h
    by_contra hno
    simp [hno] at hdirectory

section Relating

variable {R : FileSystem → FileSystem → Prop} [IsPreorder FileSystem R]

theorem ensureDirectory_relates
    (hput : ∀ fs p place, fs.resolve p = .ok place → fs.at? place = none →
      R fs (fs.put place .directory)) (fs : FileSystem) (p : Path) :
    R fs (fs.ensureDirectory p).1 := by
  rw [ensureDirectory]
  cases hmake : fs.makeDirectory p with
  | ok made =>
    obtain ⟨place, hplace, hat, rfl⟩ := exists_put_of_makeDirectory hmake
    exact hput fs p place hplace hat
  | error fault => exact refl_of R fs

/-- What relates the states before and after a new directory is put where a path leads relates those
before and after many are made, whether or not that fails. -/
theorem makeAll_relates
    (hput : ∀ fs p place, fs.resolve p = .ok place → fs.at? place = none →
      R fs (fs.put place .directory)) (fs : FileSystem) (paths : List Path) :
    R fs (fs.makeAll paths).1 := by
  induction paths with
  | nil => exact refl_of R fs
  | cons path around ih =>
    by_cases hmissing : fs.makeDirectory path = .error .notFound
    · rw [makeAll_of_missing hmissing]
      rcases hall : fs.makeAll around with ⟨made, fault | _⟩
      · rwa [hall] at ih
      · rw [hall] at ih
        exact trans_of R ih (ensureDirectory_relates hput made path)
    · rw [makeAll_of_found hmissing]
      exact ensureDirectory_relates hput fs path

end Relating

instance : IsPreorder FileSystem fun before after => after.Extends before where
  refl := Extends.refl
  trans _ _ _ h h' := h'.trans h

/-- Making directories takes nothing away, whether or not it fails. -/
private theorem extends_makeAll (fs : FileSystem) (paths : List Path) :
    (fs.makeAll paths).1.Extends fs :=
  makeAll_relates (R := fun before after => after.Extends before)
    (fun _ _ _ _ hat => Extends.put hat .directory) fs paths

theorem extends_of_makeAll {paths : List Path} {result : Except SystemFault Unit}
    (h : fs.makeAll paths = (made, result)) : made.Extends fs := by
  have hextends := extends_makeAll fs paths
  rwa [h] at hextends

/-- A directory that was made with those around it is there. -/
theorem isDirectory_of_makeAll {around : List Path}
    (h : fs.makeAll (p :: around) = (made, .ok ())) : made.isDirectory p := by
  by_cases hmissing : fs.makeDirectory p = .error .notFound
  · rw [makeAll_of_missing hmissing] at h
    rcases hall : fs.makeAll around with ⟨now, fault | _⟩
    · simp [hall] at h
    · rw [hall] at h
      exact isDirectory_of_ensureDirectory h
  · rw [makeAll_of_found hmissing] at h
    exact isDirectory_of_ensureDirectory h

/-- The directories on the way to a place, and one at the place, were added to a file system. -/
structure AddsWay (made fs : FileSystem) (base names : List String) : Prop where
  current : made.current = fs.current
  way : ∀ above, above <+: names → made.at? (base ++ above) = some .directory
  other : ∀ q, (∀ above, above <+: names → q ≠ base ++ above) → made.at? q = fs.at? q

theorem AddsWay.trans {final : FileSystem} (h : AddsWay made fs base above)
    (h' : AddsWay final made base names) (habove : above <+: names) :
    AddsWay final fs base names := by
  refine ⟨h'.current.trans h.current, h'.way, fun q hq => ?_⟩
  rw [h'.other q hq, h.other q fun before hbefore => hq before (hbefore.trans habove)]

theorem AddsWay.hasWay {name : String} (h : AddsWay made fs base above) :
    HasWay made base (above ++ [name]) := by
  refine fun before after hsplit hafter => h.way before ?_
  rcases List.prefix_concat_iff.mp ⟨after, hsplit.symm⟩ with hwhole | hstrict
  · rw [hwhole] at hsplit
    exact absurd (List.self_eq_append_right.mp hsplit) hafter
  · exact hstrict

theorem AddsWay.at?_concat (h : AddsWay made fs base above) (name : String) :
    made.at? (base ++ (above ++ [name])) = fs.at? (base ++ (above ++ [name])) := by
  refine h.other _ fun before hbefore heq => ?_
  have hlonger := hbefore.length_le
  rw [← List.append_cancel_left heq, List.length_append, List.length_singleton] at hlonger
  omega

theorem addsWay_of_hasWay (hway : HasWay fs base names)
    (hend : fs.at? (base ++ names) = some .directory) : AddsWay fs fs base names := by
  refine ⟨rfl, fun before hbefore => ?_, fun q _ => rfl⟩
  by_cases hwhole : before = names
  · rw [hwhole, hend]
  · exact hway.at?_of_ne hbefore hwhole

theorem addsWay_put (hway : HasWay fs base names) (hsome : base ++ names ≠ []) :
    AddsWay (fs.put (base ++ names) .directory) fs base names := by
  have hput := @at?_put fs (base ++ names) hsome .directory
  refine ⟨rfl, fun before hbefore => ?_, fun q hq => ?_⟩
  · by_cases hwhole : before = names
    · rw [hput, if_pos (by rw [hwhole])]
    · rw [hput, if_neg fun heq => hwhole (List.append_cancel_left heq)]
      exact hway.at?_of_ne hbefore hwhole
  · rw [hput, if_neg (hq _ List.prefix_rfl)]

/-- A directory that exists need not be made. -/
theorem ensureDirectory_here (h : LeadsDown root names p) (hroot : Reaches fs root base)
    (hway : HasWay fs base names) (hend : fs.at? (base ++ names) = some .directory) :
    fs.makeDirectory p = .error .exists ∧ fs.ensureDirectory p = (fs, .ok ()) := by
  have hresolve := h.resolve_of_hasWay hroot hway
  have hmake : fs.makeDirectory p = .error .exists := by
    rw [makeDirectory, hresolve, ok_bind, hend]
  have hdirectory : fs.isDirectory p := by
    rw [isDirectory, look, hresolve, ok_bind, hend]
  exact ⟨hmake, by simp [ensureDirectory, hmake, hdirectory]⟩

/-- Where the directories on the way are there, only a file prevents that a directory is made. -/
private theorem ensureDirectory_of_hasWay (h : LeadsDown root names p)
    (hroot : Reaches fs root base) (hway : HasWay fs base names) :
    fs.makeDirectory p ≠ .error .notFound ∧
    ((∀ content, fs.at? (base ++ names) ≠ some (.file content)) →
      ∃ made, fs.ensureDirectory p = (made, .ok ()) ∧ AddsWay made fs base names) ∧
    ((∃ content, fs.at? (base ++ names) = some (.file content)) →
      ∃ fault, fs.ensureDirectory p = (fs, .error fault)) := by
  have hresolve := h.resolve_of_hasWay hroot hway
  cases hat : fs.at? (base ++ names) with
  | none =>
    have hsome : names ≠ [] := by
      rintro rfl
      rw [List.append_nil, hroot.directory] at hat
      cases hat
    have hmake : fs.makeDirectory p = .ok (fs.put (base ++ names) .directory) := by
      rw [makeDirectory, hresolve, ok_bind, hat]
      exact if_neg (h.last hsome)
    refine ⟨by simp [hmake], fun _ => ⟨_, by rw [ensureDirectory, hmake], ?_⟩, by simp⟩
    exact addsWay_put hway (by simp [hsome])
  | some entry =>
    cases entry with
    | directory =>
      obtain ⟨hmake, hensure⟩ := ensureDirectory_here h hroot hway hat
      exact ⟨by simp [hmake], fun _ => ⟨fs, hensure, addsWay_of_hasWay hway hat⟩, by simp⟩
    | file content =>
      have hmake : fs.makeDirectory p = .error .exists := by
        rw [makeDirectory, hresolve, ok_bind, hat]
      have hno : fs.isDirectory p = false := by
        rw [isDirectory, look, hresolve, ok_bind, hat]
        cases asksDirectory p <;> rfl
      refine ⟨by simp [hmake], fun hnofile => absurd rfl (hnofile content), fun _ => ?_⟩
      exact ⟨.exists, by simp [ensureDirectory, hmake, hno]⟩

/-- Where a directory on the way is not there, it hangs on the first one that is not. -/
private theorem makeDirectory_of_blocked {below : List String} (h : LeadsDown root names p)
    (hroot : Reaches fs root base) (hsplit : names = above ++ below) (hbelow : below ≠ [])
    (hway : HasWay fs base above) :
    (fs.at? (base ++ above) = none → fs.makeDirectory p = .error .notFound) ∧
    ((∃ content, fs.at? (base ++ above) = some (.file content)) →
      fs.makeDirectory p ≠ .error .notFound ∧
        ∃ fault, fs.ensureDirectory p = (fs, .error fault)) := by
  obtain ⟨hnone, hfile⟩ := follow_names_fails h.names_short hsplit hbelow hway
  have hresolve := h.resolve hroot
  constructor
  · intro hat
    rw [makeDirectory, hresolve, hnone hat, error_bind]
  · rintro ⟨content, hat⟩
    have hmake : fs.makeDirectory p = .error .notADirectory := by
      rw [makeDirectory, hresolve, hfile content hat, error_bind]
    have hno : fs.isDirectory p = false := by
      rw [isDirectory, look, hresolve, hfile content hat, error_bind]
    exact ⟨by simp [hmake], .notADirectory, by simp [ensureDirectory, hmake, hno]⟩

theorem ancestors_succ {up : Path} (hup : p.parent? = some up) (fuel : Nat) :
    ancestors (fuel + 1) p = p :: ancestors fuel up := by
  rw [ancestors, hup]

/-- A directory that exists need not be made with those around it. -/
theorem makeAll_here (h : LeadsDown root [] p) (hroot : Reaches fs root base) (fuel : Nat) :
    fs.makeAll (ancestors fuel p) = (fs, .ok ()) := by
  cases fuel with
  | zero => rfl
  | succ fuel =>
    cases hup : p.parent? with
    | none => rw [ancestors, hup, makeAll]
    | some up =>
      obtain ⟨hmake, hensure⟩ := ensureDirectory_here h hroot hasWay_nil
        (by rw [List.append_nil, hroot.directory])
      rw [ancestors_succ hup, makeAll_of_found (by simp [hmake]), hensure]

/-- Making a directory with those around it, below a directory that exists. Without a file on the
way all of them are there afterwards, and with one it fails. -/
theorem makeAll_below (h : LeadsDown root names p) (hroot : Reaches fs root base)
    (hsteps : root.components ≠ []) {fuel : Nat} (hfuel : p.text.length < fuel) :
    (¬ HasFile fs base names →
      ∃ made, fs.makeAll (ancestors fuel p) = (made, .ok ()) ∧ AddsWay made fs base names) ∧
    (HasFile fs base names →
      ∃ made fault, fs.makeAll (ancestors fuel p) = (made, .error fault)) := by
  induction names using List.reverseRecOn generalizing p fuel with
  | nil =>
    have hhere : fs.at? (base ++ []) = some .directory := by
      rw [List.append_nil, hroot.directory]
    exact ⟨fun _ => ⟨fs, makeAll_here h hroot fuel, addsWay_of_hasWay hasWay_nil hhere⟩,
      fun hfile => absurd hfile hroot.not_hasFile⟩
  | append_singleton above name ih =>
    obtain ⟨up, hup, hdown, hshorter⟩ := h.parent hsteps
    obtain ⟨less, rfl⟩ : ∃ less, fuel = less + 1 := Nat.exists_eq_add_one.mpr (by omega)
    rw [ancestors_succ hup]
    rcases hasWay_or_blocked fs base (above ++ [name]) with
      hway | ⟨before, below, hsplit, hbelow, hbefore, hblocked⟩
    · obtain ⟨hfound, hmakes, hfails⟩ := ensureDirectory_of_hasWay h hroot hway
      rw [makeAll_of_found hfound, hway.hasFile_iff]
      exact ⟨fun hno => hmakes (not_exists.mp hno), fun hfile => ⟨fs, hfails hfile⟩⟩
    · obtain ⟨hmissing, hstops⟩ := makeDirectory_of_blocked h hroot hsplit hbelow hbefore
      cases hat : fs.at? (base ++ before) with
      | some entry =>
        cases entry with
        | directory => exact absurd hat hblocked
        | file content =>
          obtain ⟨hfound, fault, hfails⟩ := hstops ⟨content, hat⟩
          have hfile : HasFile fs base (above ++ [name]) :=
            ⟨before, content, ⟨below, hsplit.symm⟩, hat⟩
          rw [makeAll_of_found hfound]
          exact ⟨fun hno => absurd hfile hno, fun _ => ⟨fs, fault, hfails⟩⟩
      | none =>
        rw [makeAll_of_missing (hmissing hat), hasFile_concat_iff]
        obtain ⟨hmakes, hfails⟩ := ih hdown (show up.text.length < less by omega)
        by_cases hfile : HasFile fs base above
        · obtain ⟨made, fault, hall⟩ := hfails hfile
          rw [hall]
          exact ⟨fun hno => absurd (.inl hfile) hno, fun _ => ⟨made, fault, rfl⟩⟩
        · obtain ⟨made, hall, hadds⟩ := hmakes hfile
          -- With the directories around it made, this is the case without anything missing.
          obtain ⟨-, hlast, hlastFails⟩ :=
            ensureDirectory_of_hasWay h (hroot.extends (extends_of_makeAll hall)) hadds.hasWay
          rw [hadds.at?_concat name] at hlast hlastFails
          simp only [hall, hfile, false_or, not_exists]
          refine ⟨fun hno => ?_, fun hend => ⟨made, hlastFails hend⟩⟩
          obtain ⟨final, hensure, hfinal⟩ := hlast hno
          exact ⟨final, hensure, hadds.trans hfinal (List.prefix_append ..)⟩

end ApiSkeleton.FileSystem
