import ApiSkeleton.App.Creation
import ApiSkeleton.Proofs.App.TemplateName
import ApiSkeleton.Proofs.FileSystem.Walk
import ApiSkeleton.Proofs.Output

namespace ApiSkeleton

namespace App

open FileSystem (Enters Listed IsTree Spares HasWay IsEntryName ChangesOnly)

variable {p : Plan} {fs now : FileSystem} {root : Path} {base names : List String} {name : String}
  {content : ByteArray}

theorem fromUTF8?_toUTF8 (s : String) : String.fromUTF8? s.toUTF8 = some s := by
  have hvalid : s.toUTF8.IsValidUTF8 := s.isValidUTF8
  rw [String.fromUTF8?, dif_pos hvalid]
  rfl

namespace Plan

/-- A file under its names from further up. -/
def under (names : List String) (f : List String × ByteArray) : List String × ByteArray :=
  (names ++ f.1, f.2)

theorem under_concat (names : List String) (name : String) : under (names ++ [name]) =
    under names ∘ fun f => (name :: f.1, f.2) := by
  funext f
  simp [under]

private theorem prefix_of_mem_filesAt {place : List String} {member : String × Entry}
    {f : List String × ByteArray} (hf : f ∈ (fs.filesAt place member).map (under names)) :
    names ++ [member.1] <+: f.1 := by
  obtain ⟨g, hg, rfl⟩ := List.mem_map.mp hf
  obtain ⟨rest, hrest⟩ := FileSystem.head_of_mem_filesAt hg
  exact ⟨rest, by simp [under, hrest]⟩

section Reading

variable (htree : fs.IsTree) (hlisted : fs.Listed) (hroot : Enters fs root base)

include htree hlisted hroot

theorem read_visit (hmem : (names, content) ∈ fs.filesBelow base) : fs.read (root.descend names) =
    if FileSystem.maxPath < (root.descend names).text.utf8ByteSize then .error .nameTooLong
    else .ok content := by
  obtain ⟨hsome, hat⟩ := (FileSystem.mem_filesBelow_iff hlisted).mp hmem
  have hfound : fs.at? (base ++ names) ≠ none := by simp [hat]
  exact FileSystem.read_descend hroot (hlisted.names_below hfound)
    (htree.hasWay hfound) hsome hat

/-- A file is read the same while others are written elsewhere. -/
private theorem read_now (hspares : Spares fs.current base fs now)
    (hmem : (names, content) ∈ fs.filesBelow base) :
    now.read (root.descend names) = fs.read (root.descend names) := by
  obtain ⟨hchanges, hnow⟩ := hspares rfl
  obtain ⟨hsome, hat⟩ := (FileSystem.mem_filesBelow_iff hlisted).mp hmem
  have hfound : fs.at? (base ++ names) ≠ none := by simp [hat]
  have hway := htree.hasWay hfound
  have hfile := (hchanges.same _ content fun helse => helse (List.prefix_append ..)).mpr hat
  rw [read_visit htree hlisted hroot hmem]
  exact FileSystem.read_descend (hroot.keeps hchanges.toKeepsKinds)
    (hlisted.names_below hfound) (hway.keeps hchanges.toKeepsKinds) hsome hfile

end Reading

variable [Template.Engine]

/-- The step for a file below a directory of templates. -/
def visitStep (p : Plan) (fs : FileSystem) (root : Path) (visit : List String × ByteArray) : Step :=
  p.copyStep fs (root.descend visit.1) (relativeName visit.1)

/-- Where a file below a directory of templates is copied to. -/
def copyPath (p : Plan) (visit : List String × ByteArray) : Path :=
  p.layout.place (slashed (relativeName visit.1))

/-- What a file is copied to: its text rendered if it is a template, all its bytes otherwise. -/
structure CopyOf (p : Plan) (visit : List String × ByteArray) (file : OutputFile) : Prop where
  path : file.path = p.copyPath visit
  content : ∃ above name, visit.1 = above ++ [name] ∧
    if isTemplate name then
      ∃ text rendered, String.fromUTF8? visit.2 = some text ∧
        Template.renderText (slashed (relativeName visit.1)) text p.context = .ok rendered ∧
        file.content = rendered.toUTF8
    else file.content = visit.2

/-- Why a file cannot be copied, whatever takes the copy. -/
inductive CannotCopy (p : Plan) (root : Path) (visit : List String × ByteArray) :
    Failure → Prop where
  | tooLong (hlong : FileSystem.maxPath < (root.descend visit.1).text.utf8ByteSize) :
      CannotCopy p root visit (.io (root.descend visit.1) (.system .nameTooLong))
  | notText (htemplate : isTemplate (relativeName visit.1))
      (hbytes : String.fromUTF8? visit.2 = none) :
      CannotCopy p root visit (.io (root.descend visit.1) .notText)
  | render {text : String} {f : Failure} (htemplate : isTemplate (relativeName visit.1))
      (htext : String.fromUTF8? visit.2 = some text)
      (hrender : Template.renderText (slashed (relativeName visit.1)) text p.context = .error f) :
      CannotCopy p root visit f

/-- What is copied for a file with some content. -/
def copyOfContent (p : Plan) (source : Path) (name : String) (content : ByteArray) : Step :=
  if isTemplate name then
    .ofText (p.layout.place (slashed name)) <|
      match String.fromUTF8? content with
      | none => .error (.io source .notText)
      | some text => Template.renderText (slashed name) text p.context
  else .ok ⟨p.layout.place (slashed name), content⟩

/-- Copying looks at nothing but the content of the file. -/
theorem copyStep_eq (p : Plan) (fs : FileSystem) (source : Path) (name : String) :
    p.copyStep fs source name =
      match fs.read source with
      | .error fault => .error (.io source (.system fault))
      | .ok content => p.copyOfContent source name content := by
  have htemplate := isTemplate_slashed name
  unfold slashed at htemplate
  unfold copyStep copyOfContent FileSystem.readText slashed
  simp only [htemplate]
  cases fs.read source with
  | error fault => split <;> rfl
  | ok content =>
    split
    · simp only
      cases String.fromUTF8? content <;> rfl
    · rfl

section Tree

variable (htree : fs.IsTree) (hlisted : fs.Listed) (hroot : Enters fs root base)

include htree hlisted hroot

/-- A file that a walk comes to while others are written elsewhere is copied as at first. -/
private theorem copyStep_now (hspares : Spares fs.current base fs now)
    (hmem : (names ++ [name], content) ∈ fs.filesBelow base) :
    p.copyStep now ((root.descend names).join ⟨name⟩) (leading names ++ name) =
      p.visitStep fs root (names ++ [name], content) := by
  rw [← Path.descend_concat, ← relativeName_concat, visitStep, copyStep_eq, copyStep_eq,
    read_now htree hlisted hroot hspares hmem]

theorem visitStep_eq {visit : List String × ByteArray} (hmem : visit ∈ fs.filesBelow base) :
    p.visitStep fs root visit =
      if FileSystem.maxPath < (root.descend visit.1).text.utf8ByteSize then
        .error (.io (root.descend visit.1) (.system .nameTooLong))
      else p.copyOfContent (root.descend visit.1) (relativeName visit.1) visit.2 := by
  rw [visitStep, copyStep_eq, read_visit htree hlisted hroot hmem]
  by_cases hlong : FileSystem.maxPath < (root.descend visit.1).text.utf8ByteSize
  · rw [if_pos hlong, if_pos hlong]
  · rw [if_neg hlong, if_neg hlong]

theorem copyOf_of_visitStep {visit : List String × ByteArray} {file : OutputFile}
    (hmem : visit ∈ fs.filesBelow base) (h : p.visitStep fs root visit = .ok file) :
    CopyOf p visit file := by
  obtain ⟨hsome, -⟩ := (FileSystem.mem_filesBelow_iff hlisted).mp hmem
  obtain ⟨above, name, hnames⟩ := (List.eq_nil_or_concat' visit.1).resolve_left hsome
  have htemplate := isTemplate_relativeName above name
  rw [← hnames] at htemplate
  rw [visitStep_eq htree hlisted hroot hmem] at h
  split at h
  · cases h
  · rw [copyOfContent, htemplate] at h
    split at h
    · rename_i hmark
      cases htext : String.fromUTF8? visit.2 with
      | none => simp [htext, Step.ofText, Except.map] at h
      | some text =>
        cases hrender : Template.renderText (slashed (relativeName visit.1)) text p.context with
        | error f => simp [htext, hrender, Step.ofText, Except.map] at h
        | ok rendered =>
          simp only [htext, hrender, Step.ofText, Except.map, Except.ok.injEq] at h
          refine ⟨by rw [← h, copyPath], above, name, hnames, ?_⟩
          rw [if_pos hmark]
          exact ⟨text, rendered, htext, hrender, by rw [← h]⟩
    · rename_i hplain
      have hfile := Except.ok.inj h
      refine ⟨by rw [← hfile, copyPath], above, name, hnames, ?_⟩
      rw [if_neg hplain, ← hfile]

theorem cannotCopy_of_visitStep {visit : List String × ByteArray} {f : Failure}
    (hmem : visit ∈ fs.filesBelow base) (h : p.visitStep fs root visit = .error f) :
    CannotCopy p root visit f := by
  rw [visitStep_eq htree hlisted hroot hmem] at h
  split at h
  · rename_i hlong
    cases h
    exact .tooLong hlong
  · rw [copyOfContent] at h
    split at h
    · rename_i hmark
      cases htext : String.fromUTF8? visit.2 with
      | none =>
        simp only [htext, Step.ofText, Except.map, Except.error.injEq] at h
        exact h ▸ .notText hmark htext
      | some text =>
        cases hrender : Template.renderText (slashed (relativeName visit.1)) text p.context with
        | error g =>
          simp only [htext, hrender, Step.ofText, Except.map, Except.error.injEq] at h
          exact .render hmark htext (h ▸ hrender)
        | ok rendered => simp [htext, hrender, Step.ofText, Except.map] at h
    · cases h

end Tree

/-- The steps of a walk: one for each file in order, unless there is a directory whose path is too
long to be listed. Then the walk ends with the files that come before it. `places` is where all of
this can lie. -/
inductive Walked (p : Plan) (fs : FileSystem) (root : Path) (places : List String → Prop)
    (files : List (List String × ByteArray)) : List Step → Prop where
  | complete : Walked p fs root places files (files.map (p.visitStep fs root))
  | stopped {before after : List (List String × ByteArray)} {names : List String}
      (hfiles : files = before ++ after) (hplace : places names)
      (hlong : FileSystem.maxPath < (root.descend names).text.utf8ByteSize)
      (hbefore : ∀ f ∈ before, f.1 < names) (hafter : ∀ f ∈ after, names < f.1) :
      Walked p fs root places files
        (before.map (p.visitStep fs root) ++ [.error (.io root (.system .nameTooLong))])

variable {σ : Type} {sink : Sink σ} {view : σ → FileSystem} {places : List String → Prop}
  {files : List (List String × ByteArray)} {steps : List Step}

theorem Walked.mono {more : List String → Prop} (h : Walked p fs root places files steps)
    (hmore : ∀ names, places names → more names) : Walked p fs root more files steps := by
  cases h with
  | complete => exact .complete
  | stopped hfiles hplace hlong hbefore hafter =>
    exact .stopped hfiles (hmore _ hplace) hlong hbefore hafter

/-- What is walked through first comes first. -/
private theorem Walked.after (h : Walked p fs root places files steps)
    {first : List (List String × ByteArray)}
    (hfirst : ∀ f ∈ first, ∀ names, places names → f.1 < names) :
    Walked p fs root places (first ++ files) (first.map (p.visitStep fs root) ++ steps) := by
  cases h with
  | complete =>
    rw [← List.map_append]
    exact .complete
  | stopped hfiles hplace hlong hbefore hafter =>
    rw [← List.append_assoc, ← List.map_append]
    refine .stopped (by rw [hfiles, List.append_assoc]) hplace hlong ?_ hafter
    exact List.forall_mem_append.mpr ⟨fun f hf => hfirst f hf _ hplace, hbefore⟩

/-- Walking through one thing after the other is walking through all of them. -/
private theorem each_walked {α : Type} {act : α → σ → σ × Except Failure (List Path)}
    {items : List α}
    {filesOf : α → List (List String × ByteArray)} {placesOf : α → List String → Prop}
    {R : σ → σ → Prop} [IsPreorder σ R] (hwrite : ∀ s file, R s (sink.write s file).1)
    (hfiles : ∀ a ∈ items, ∀ f ∈ filesOf a, placesOf a f.1)
    (horder : items.Pairwise fun a b => ∀ q r, placesOf a q → placesOf b r → q < r) {s : σ}
    (hact : ∀ a ∈ items, ∀ t, R s t →
      ∃ steps, act a t = sink.run t steps ∧ Walked p fs root (placesOf a) (filesOf a) steps) :
    ∃ steps, Sink.each act items s = sink.run s steps ∧
      Walked p fs root (fun q => ∃ a ∈ items, placesOf a q) (items.flatMap filesOf) steps := by
  induction items generalizing s with
  | nil => exact ⟨[], rfl, .complete⟩
  | cons a rest ih =>
    rw [List.forall_mem_cons] at hact hfiles
    obtain ⟨hlater, horder⟩ := List.pairwise_cons.mp horder
    obtain ⟨steps, hfirst, hwalked⟩ := hact.1 s (refl_of R s)
    rw [Sink.each_cons, hfirst, List.flatMap_cons]
    cases hwalked with
    | complete =>
      rcases hrun : sink.run s ((filesOf a).map (p.visitStep fs root)) with ⟨t, f | paths⟩
      · refine ⟨_, ?_, .complete⟩
        rw [List.map_append, Sink.run_append, hrun]
        rfl
      · have hto : R s (sink.run s ((filesOf a).map (p.visitStep fs root))).1 :=
          Sink.run_relates (fun u file _ => hwrite u file) s
        rw [hrun] at hto
        obtain ⟨steps, hrest, hmore⟩ := ih hfiles.2 horder
          fun b hb u hu => hact.2 b hb u (trans_of R hto hu)
        refine ⟨(filesOf a).map (p.visitStep fs root) ++ steps, ?_, ?_⟩
        · rw [Sink.run_append, hrun, Sink.followedBy, Sink.followedBy, hrest]
        · refine (hmore.after ?_).mono ?_
          · rintro f hf q ⟨b, hb, hq⟩
            exact hlater b hb _ _ (hfiles.1 f hf) hq
          · rintro q ⟨b, hb, hq⟩
            exact ⟨b, List.mem_cons_of_mem a hb, hq⟩
    | stopped hsplit hplace hlong hbefore hafter =>
      refine ⟨_, ?_, .stopped (by rw [hsplit, List.append_assoc])
        ⟨a, List.mem_cons_self .., hplace⟩ hlong hbefore ?_⟩
      · rw [Sink.run_append]
        rcases sink.run s _ with ⟨t, f | paths⟩ <;> rfl
      · refine List.forall_mem_append.mpr ⟨hafter, fun f hf => ?_⟩
        obtain ⟨b, hb, hmem⟩ := List.mem_flatMap.mp hf
        exact hlater b hb _ _ hplace (hfiles.2 b hb f hmem)

instance (view : σ → FileSystem) (start base : List String) :
    IsPreorder σ fun s t => Spares start base (view s) (view t) where
  refl s := Spares.refl start base (view s)
  trans _ _ _ := trans_of (Spares start base)

section Walking

variable (htree : fs.IsTree) (hlisted : fs.Listed)

include hlisted in
/-- A directory that is too long to be listed comes before all that it holds. -/
private theorem walked_stopped
    (hlong : FileSystem.maxPath < (root.descend names).text.utf8ByteSize) :
    Walked p fs root (names <+: ·) ((fs.filesBelow (base ++ names)).map (under names))
      [.error (.io root (.system .nameTooLong))] := by
  refine .stopped (List.nil_append _).symm List.prefix_rfl hlong (by simp) ?_
  rw [List.forall_mem_map]
  rintro ⟨below, content⟩ hmem
  exact FileSystem.lt_append_of_ne_nil ((FileSystem.mem_filesBelow_iff hlisted).mp hmem).1

variable (hroot : Enters fs root base)
  (hwrite : ∀ s file, Spares fs.current base (view s) (view (sink.write s file).1))

include htree hlisted hroot hwrite

/-- A directory is walked through while files are written elsewhere. -/
private theorem copyDirectory_walked {fuel : Nat} {s : σ} (hs : Spares fs.current base fs (view s))
    (hway : HasWay (view s) base names)
    (hdirectory : (view s).at? (base ++ names) = some .directory)
    (hfuel : FileSystem.maxPath < fuel + (root.descend names).text.utf8ByteSize) :
    ∃ steps, p.copyDirectory sink view root fuel (root.descend names) (leading names) s =
        sink.run s steps ∧
      Walked p fs root (names <+: ·) ((fs.filesBelow (base ++ names)).map (under names))
        steps := by
  induction fuel generalizing names s with
  | zero =>
    -- The fuel lasts until the path is too long anyway, as every name makes it longer.
    rw [Nat.zero_add] at hfuel
    exact ⟨_, rfl, walked_stopped hlisted hfuel⟩
  | succ fuel ih =>
    obtain ⟨hchanges, hnow⟩ := hs rfl
    have hnames := (hnow hlisted).names_below (by rw [hdirectory]; simp)
    rw [copyDirectory, FileSystem.list_descend (hroot.keeps hchanges.toKeepsKinds) hnames hway
      hdirectory]
    by_cases hlong : FileSystem.maxPath < (root.descend names).text.utf8ByteSize
    · rw [if_pos hlong]
      exact ⟨_, rfl, walked_stopped hlisted hlong⟩
    · rw [if_neg hlong, FileSystem.filesBelow_eq_flatMap htree hlisted (hnow hlisted) hchanges
        (List.prefix_append ..), List.map_flatMap]
      have horder : ((view s).members (base ++ names)).Pairwise fun a b =>
          ∀ q r, names ++ [a.1] <+: q → names ++ [b.1] <+: r → q < r :=
        (FileSystem.pairwise_members (hnow hlisted)).imp fun hlt q r => FileSystem.lt_of_members hlt
      refine (each_walked (R := fun s t => Spares fs.current base (view s) (view t)) hwrite
        (fun _ _ _ => prefix_of_mem_filesAt) horder ?_).imp fun steps ⟨hrun, hwalked⟩ =>
          ⟨hrun, hwalked.mono ?_⟩
      · rintro ⟨name, entry⟩ hmember t ht
        have hat := (FileSystem.mem_members_iff (hnow hlisted)).mp hmember
        rw [List.append_assoc] at hat
        have hlater := trans_of (Spares fs.current base) hs ht
        obtain ⟨hkeeps, -⟩ := ht hchanges.current
        cases entry with
        | directory =>
          have hfound : (view s).at? (base ++ (names ++ [name])) ≠ none := by
            rw [hat]
            simp
          have hname := (hnow hlisted).names_below hfound name (by simp)
          have hlonger : (root.descend names).text.utf8ByteSize <
              (root.descend (names ++ [name])).text.utf8ByteSize :=
            Path.utf8ByteSize_descend_lt hname.fileName
          have hway' : HasWay (view t) base (names ++ [name]) := FileSystem.hasWay_concat_iff.mpr
            ⟨hway.keeps hkeeps.toKeepsKinds, hkeeps.directory _ hdirectory⟩
          have hdeeper := ih hlater hway' (hkeeps.directory _ hat) (by omega)
          rw [Path.descend_concat, leading_concat, ← List.append_assoc] at hdeeper
          rwa [FileSystem.filesAt, List.map_map, ← under_concat]
        | file content =>
          have hfile := (hchanges.same _ content fun helse => helse (List.prefix_append ..)).mp hat
          have hmem : (names ++ [name], content) ∈ fs.filesBelow base :=
            (FileSystem.mem_filesBelow_iff hlisted).mpr ⟨by simp, hfile⟩
          refine ⟨[p.visitStep fs root (names ++ [name], content)], ?_, .complete⟩
          simp only
          rw [copyStep_now htree hlisted hroot hlater hmem]
      · rintro q ⟨member, -, hq⟩
        exact (List.prefix_append ..).trans hq

end Walking

/-- The directory of templates is walked through while files are written elsewhere. -/
theorem writeStart_walked (htemplates : p.templates = some root) (htree : fs.IsTree)
    (hlisted : fs.Listed) (hdirectory : fs.isDirectory root)
    (hwrite : ∀ s file,
      Spares fs.current (root.landing fs.current) (view s) (view (sink.write s file).1))
    {s : σ} (hs : view s = fs) : ∃ steps, p.writeStart sink view s = sink.run s steps ∧
      Walked p fs root (fun _ => True) (fs.filesBelow (root.landing fs.current)) steps := by
  have hroot := FileSystem.enters_of_isDirectory hdirectory
  have hbase : fs.at? (root.landing fs.current ++ []) = some .directory := by
    rw [List.append_nil]
    exact hroot.directory
  have hunder : under [] = id := rfl
  subst hs
  obtain ⟨steps, hrun, hwalked⟩ := @copyDirectory_walked p (view s) root (root.landing _) [] _ σ
    sink view htree hlisted hroot hwrite (FileSystem.maxPath + 1) s (Spares.refl _ _ _)
    FileSystem.hasWay_nil hbase (by omega)
  rw [List.append_nil, hunder, List.map_id] at hwalked
  rw [writeStart, htemplates]
  simp only [hdirectory, if_true]
  exact ⟨steps, hrun, hwalked.mono fun _ _ => trivial⟩

end Plan

end App

end ApiSkeleton
