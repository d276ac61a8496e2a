import ApiSkeleton.Proofs.App.TemplateTree
import ApiSkeleton.Proofs.FileSystem.Mirror
import ApiSkeleton.Proofs.Template.Placeholder

namespace ApiSkeleton.App.Plan

open FileSystem (Enters Listed IsTree Spares sinkBelow)

variable {p : Plan} {fs : FileSystem} {root : Path} {base : List String}
  {files : List (List String × ByteArray)} {σ : Type} {sink : Sink σ} {s : σ}

section Copying

variable [Template.Engine]

/-- Why copying ends where it does: a directory that comes there has too long a path, the next file
cannot be copied, or its copy is refused. -/
inductive Stops (p : Plan) (sink : Sink σ) (root : Path)
    (before after : List (List String × ByteArray)) (now final : σ) : Failure → Prop where
  | directory {names : List String} (hfinal : final = now)
      (hlong : FileSystem.maxPath < (root.descend names).text.utf8ByteSize)
      (hbefore : ∀ f ∈ before, f.1 < names) (hafter : ∀ f ∈ after, names < f.1) :
      Stops p sink root before after now final (.io root (.system .nameTooLong))
  | file {visit : List String × ByteArray} {rest : List (List String × ByteArray)} {f : Failure}
      (hfinal : final = now) (hafter : after = visit :: rest)
      (hcannot : CannotCopy p root visit f) :
      Stops p sink root before after now final f
  | copy {visit : List String × ByteArray} {rest : List (List String × ByteArray)}
      {file : OutputFile} {f : Failure} (hafter : after = visit :: rest)
      (hcopy : CopyOf p visit file) (hwrite : sink.write now file = (final, .error f)) :
      Stops p sink root before after now final f

/-- Copying files in order: a copy of each is written if it succeeds, and copies of those before the
failure otherwise. -/
structure Copies (p : Plan) (sink : Sink σ) (root : Path) (files : List (List String × ByteArray))
    (s : σ) (result : σ × Except Failure (List Path)) : Prop where
  success : ∀ final paths, result = (final, .ok paths) →
    paths = files.map p.copyPath ∧ ∃ written, List.Forall₂ (CopyOf p) files written ∧
      sink.run s (written.map .ok) = (final, .ok paths)
  failure : ∀ final f, result = (final, .error f) →
    ∃ before after written now, files = before ++ after ∧ List.Forall₂ (CopyOf p) before written ∧
      sink.run s (written.map .ok) = (now, .ok (before.map p.copyPath)) ∧
      Stops p sink root before after now final f

theorem paths_of_copies {written : List OutputFile} (h : List.Forall₂ (CopyOf p) files written) :
    written.map (·.path) = files.map p.copyPath := by
  induction h with
  | nil => rfl
  | cons hcopy _ ih => rw [List.map_cons, List.map_cons, hcopy.path, ih]

section Steps

variable (htree : fs.IsTree) (hlisted : fs.Listed) (hroot : Enters fs root base)

include htree hlisted hroot

theorem copies_of_visitSteps {written : List OutputFile}
    (hfiles : ∀ f ∈ files, f ∈ fs.filesBelow base)
    (h : files.map (p.visitStep fs root) = written.map .ok) :
    List.Forall₂ (CopyOf p) files written := by
  induction files generalizing written with
  | nil => rw [List.map_eq_nil_iff.mp h.symm]; exact .nil
  | cons visit rest ih =>
    rw [List.forall_mem_cons] at hfiles
    obtain ⟨file, more, rfl, hfile, hmore⟩ := List.map_eq_cons_iff.mp h.symm
    have hcopy := copyOf_of_visitStep htree hlisted hroot hfiles.1 hfile.symm
    exact .cons hcopy (ih hfiles.2 hmore.symm)

/-- A step that ends the run of a walk stands for a file, and those before it are copied. -/
private theorem stops_of_visitSteps (more : List (List String × ByteArray))
    {written : List OutputFile} {step : Step} {rest : List Step} {now final : σ} {f : Failure}
    (hfiles : ∀ f ∈ files, f ∈ fs.filesBelow base)
    (h : files.map (p.visitStep fs root) = written.map .ok ++ step :: rest)
    (hlast : step = .error f ∧ final = now ∨
      ∃ file, step = .ok file ∧ sink.write now file = (final, .error f)) :
    ∃ before after, files ++ more = before ++ after ∧ List.Forall₂ (CopyOf p) before written ∧
      Stops p sink root before after now final f := by
  obtain ⟨before, others, rfl, hbefore, hothers⟩ := List.map_eq_append_iff.mp h
  obtain ⟨visit, after, rfl, hvisit, -⟩ := List.map_eq_cons_iff.mp hothers
  rw [List.forall_mem_append, List.forall_mem_cons] at hfiles
  obtain ⟨hearlier, hmem, -⟩ := hfiles
  refine ⟨before, visit :: (after ++ more), by simp,
    copies_of_visitSteps htree hlisted hroot hearlier hbefore, ?_⟩
  rcases hlast with ⟨rfl, hfinal⟩ | ⟨file, rfl, hwrite⟩
  · exact .file hfinal rfl (cannotCopy_of_visitStep htree hlisted hroot hmem hvisit)
  · exact .copy rfl (copyOf_of_visitStep htree hlisted hroot hmem hvisit) hwrite

/-- Running the steps of a walk copies the files that it comes to. -/
private theorem copies_of_walked {steps : List Step} {places : List String → Prop}
    (h : Walked p fs root places (fs.filesBelow base) steps) :
    Copies p sink root (fs.filesBelow base) s (sink.run s steps) where
  success final paths hrun := by
    obtain ⟨written, hsteps, rfl⟩ := Sink.files_of_run hrun
    cases h with
    | complete =>
      have hcopies := copies_of_visitSteps htree hlisted hroot (fun _ hf => hf) hsteps
      exact ⟨paths_of_copies hcopies, written, hcopies, hsteps ▸ hrun⟩
    | stopped =>
      have hmem : .error (.io root (.system .nameTooLong)) ∈ written.map (Except.ok : _ → Step) :=
        hsteps ▸ List.mem_append_right _ (List.mem_singleton_self _)
      simp at hmem
  failure final f hrun := by
    obtain ⟨written, step, rest, now, hsteps, hwritten, hlast⟩ := Sink.of_run_error hrun
    cases h with
    | complete =>
      obtain ⟨before, after, hsplit, hcopies, hstops⟩ :=
        stops_of_visitSteps htree hlisted hroot [] (fun _ hf => hf) hsteps hlast
      rw [List.append_nil] at hsplit
      exact ⟨before, after, written, now, hsplit, hcopies, paths_of_copies hcopies ▸ hwritten,
        hstops⟩
    | @stopped earlier later names hfiles hplace hlong hbefore hafter =>
      have hearlier : ∀ f ∈ earlier, f ∈ fs.filesBelow base := fun f hf => by
        rw [hfiles]
        exact List.mem_append_left _ hf
      rcases List.eq_nil_or_concat' rest with rfl | ⟨others, last, rfl⟩
      · -- The directory is what the run ends at, after all files that come before it.
        obtain ⟨hvisits, hstep⟩ := List.append_inj' hsteps rfl
        cases hstep
        have hcopies := copies_of_visitSteps htree hlisted hroot hearlier hvisits
        rcases hlast with ⟨heq, hfinal⟩ | ⟨file, heq, -⟩
        · cases heq
          exact ⟨earlier, later, written, now, hfiles, hcopies, paths_of_copies hcopies ▸ hwritten,
            .directory hfinal hlong hbefore hafter⟩
        · cases heq
      · rw [← List.cons_append, ← List.append_assoc] at hsteps
        obtain ⟨before, after, hsplit, hcopies, hstops⟩ := stops_of_visitSteps htree hlisted hroot
          later hearlier (List.append_inj' hsteps rfl).1 hlast
        exact ⟨before, after, written, now, hfiles.trans hsplit, hcopies,
          paths_of_copies hcopies ▸ hwritten, hstops⟩

end Steps

/-- A path that files are copied to holds the copy of the last of them, where `key` tells which
paths lead to the same place. -/
def HoldsLast {α : Type} (p : Plan) (files : List (List String × ByteArray)) (key : Path → α)
    (holds : Path → ByteArray → Prop) : Prop :=
  ∀ before visit after, files = before ++ visit :: after →
    (∀ later ∈ after, key (p.copyPath later) ≠ key (p.copyPath visit)) →
    ∃ content, CopyOf p visit ⟨p.copyPath visit, content⟩ ∧ holds (p.copyPath visit) content

/-- The copies of files that are split are split as well. -/
private theorem copies_split {before after : List (List String × ByteArray)}
    {visit : List String × ByteArray} {written : List OutputFile}
    (h : List.Forall₂ (CopyOf p) (before ++ visit :: after) written) :
    ∃ earlier file later, written = earlier ++ file :: later ∧ CopyOf p visit file ∧
      List.Forall₂ (CopyOf p) after later := by
  induction before generalizing written with
  | nil =>
    obtain ⟨file, later, hcopy, hlater, rfl⟩ := List.forall₂_cons_left_iff.mp h
    exact ⟨[], file, later, rfl, hcopy, hlater⟩
  | cons first rest ih =>
    obtain ⟨copy, more, -, hmore, rfl⟩ := List.forall₂_cons_left_iff.mp h
    obtain ⟨earlier, file, later, rfl, hcopy, hlater⟩ := ih hmore
    exact ⟨copy :: earlier, file, later, rfl, hcopy, hlater⟩

private theorem holdsLast_of_copies {α : Type} [BEq α] [LawfulBEq α] {key : Path → α}
    {holds : Path → ByteArray → Prop} {written : List OutputFile}
    (hcopies : List.Forall₂ (CopyOf p) files written)
    (hholds : ∀ path (file : OutputFile),
      written.reverse.find? (key ·.path == key path) = some file → holds path file.content) :
    HoldsLast p files key holds := by
  rintro before visit after rfl hlater
  obtain ⟨earlier, file, later, rfl, hcopy, hmore⟩ := copies_split hcopies
  have hother : ∀ f ∈ later, key f.path ≠ key file.path := by
    intro f hf
    have hpath : f.path ∈ after.map p.copyPath := by
      rw [← paths_of_copies hmore]
      exact List.mem_map_of_mem hf
    obtain ⟨visit', hvisit', heq⟩ := List.mem_map.mp hpath
    rw [← heq, hcopy.path]
    exact hlater visit' hvisit'
  have hpath := hcopy.path
  refine ⟨file.content, hpath ▸ hcopy, hpath ▸ hholds _ file ?_⟩
  rw [List.reverse_append, List.reverse_cons, List.append_assoc, List.find?_append,
    List.find?_eq_none.mpr (by simpa using hother)]
  simp

theorem renderText_source (hengine : Template.Engine.FillsIn) {t : Template.Pattern} {text : String}
    (ht : t.FilledBy p.context text) (name : String) :
    Template.renderText name t.source p.context = .ok text := by
  rw [Template.renderText, hengine name t p.context text ht]

/-- The copy of a template that asks for names of texts has the texts in their places. -/
private theorem content_of_copyOf (hengine : Template.Engine.FillsIn) {t : Template.Pattern}
    {text : String} (ht : t.FilledBy p.context text) {above : List String} {name : String}
    (htemplate : isTemplate name) {file : OutputFile}
    (h : CopyOf p (above ++ [name], t.source.toUTF8) file) : file.content = text.toUTF8 := by
  obtain ⟨front, last, hnames, hcontent⟩ := h.content
  obtain ⟨-, rfl⟩ := List.append_singleton_inj.mp hnames
  rw [if_pos htemplate] at hcontent
  obtain ⟨source, rendered, hsource, hrender, hfile⟩ := hcontent
  rw [fromUTF8?_toUTF8] at hsource
  cases hsource
  rw [renderText_source hengine ht] at hrender
  rw [hfile, ← Except.ok.inj hrender]

/-- Only the length of its path can keep such a template from being copied. -/
private theorem eq_of_cannotCopy (hengine : Template.Engine.FillsIn) {t : Template.Pattern}
    {text : String} (ht : t.FilledBy p.context text) {names : List String} {f : Failure}
    (h : CannotCopy p root (names, t.source.toUTF8) f) :
    f = .io (root.descend names) (.system .nameTooLong) := by
  cases h with
  | tooLong => rfl
  | notText _ hbytes =>
    rw [fromUTF8?_toUTF8] at hbytes
    cases hbytes
  | render _ hsource hrender =>
    rw [fromUTF8?_toUTF8] at hsource
    cases hsource
    rw [renderText_source hengine ht] at hrender
    cases hrender

omit [Template.Engine] in
/-- In the default layout, a copy lies where the file does. -/
private theorem text_copyPath_default (hlayout : p.layout = defaultLayout) {above : List String}
    {name : String} (hnames : ∀ s ∈ above ++ [name], Path.IsFileName s ∧ '\\' ∉ s.toList)
    (content : ByteArray) : (p.copyPath (above ++ [name], content)).text = relativeName
      (above ++ [if above = [] ∧ baseName name = "gitignore" then ".gitignore"
        else baseName name]) := by
  rw [List.forall_mem_append, List.forall_mem_singleton] at hnames
  obtain ⟨habove, hname, hplain⟩ := hnames
  have hslashes : '\\' ∉ (relativeName (above ++ [name])).toList := by
    rw [relativeName_concat, String.toList_append, List.mem_append, not_or]
    refine ⟨fun h => ?_, hplain⟩
    rcases mem_leading h with hslash | ⟨s, hs, hc⟩
    · exact absurd hslash (by decide)
    · exact (habove s hs).2 hc
  rw [copyPath, slashed_eq_self hslashes, hlayout]
  exact text_place_default (fun s hs => ⟨(habove s hs).1.1, (habove s hs).1.2.1⟩) hname.1

/-- The files in a directory, in the order of a walk. -/
def filesIn (fs : FileSystem) (root : Path) : List (List String × ByteArray) :=
  fs.filesBelow (root.landing fs.current)

/-- Starting with a directory of templates, which has its files in the order of a walk. Into any
sink beside the files, and below a target beside the directory, a copy of each file is written in
that order; if this fails, copies of those before the failure are. A path that several files are
copied to holds the copy of the last of them. If the engine fills in what the context has, the copy
of a template that asks for nothing else is its text with that filled in. In the default layout, a
copy lies where the file does, without one mark of templates, and a `gitignore` at the top gets its
dot back. -/
theorem templates_copied (htemplates : p.templates = some root) (htree : fs.IsTree)
    (hlisted : fs.Listed) (hdirectory : fs.isDirectory root) :
    (∀ names content, (names, content) ∈ filesIn fs root ↔
      fs.at? (root.landing fs.current ++ names) = some (.file content)) ∧
    FileSystem.InOrder (filesIn fs root) ∧
    (∀ {σ : Type} (sink : Sink σ) (s : σ),
      Copies p sink root (filesIn fs root) s (p.writeStart sink (fun _ => fs) s)) ∧
    (∀ m final paths, p.writeStart Memory.sink (fun _ => fs) m = (final, .ok paths) →
      HoldsLast p (filesIn fs root) Path.components fun path content =>
        Memory.content? final path = some content) ∧
    (∀ target, Path.Beside (root.landing fs.current) (target.landing fs.current) →
      Copies p (sinkBelow target) root (filesIn fs root) fs
        (p.writeStart (sinkBelow target) id fs) ∧
      ∀ final paths, p.writeStart (sinkBelow target) id fs = (final, .ok paths) →
        HoldsLast p (filesIn fs root) Path.names fun path content =>
          final.at? (target.landing fs.current ++ path.names) = some (.file content)) ∧
    (Template.Engine.FillsIn → ∀ above name (t : Template.Pattern) text, isTemplate name →
      t.FilledBy p.context text →
      (∀ file, CopyOf p (above ++ [name], t.source.toUTF8) file → file.content = text.toUTF8) ∧
      ∀ f, CannotCopy p root (above ++ [name], t.source.toUTF8) f →
        f = .io (root.descend (above ++ [name])) (.system .nameTooLong)) ∧
    (p.layout = defaultLayout → ∀ above name content,
      (∀ s ∈ above ++ [name], Path.IsFileName s ∧ '\\' ∉ s.toList) →
      ∃ kept, (name = kept ++ templateSuffix ∨ isTemplate name = false ∧ name = kept) ∧
        (p.copyPath (above ++ [name], content)).text = relativeName
          (above ++ [if above = [] ∧ kept = "gitignore" then ".gitignore" else kept])) := by
  have hroot := FileSystem.enters_of_isDirectory hdirectory
  have hcopies {τ : Type} (sink : Sink τ) (view : τ → FileSystem) (s : τ) (hview : view s = fs)
      (hwrite : ∀ s file,
        Spares fs.current (root.landing fs.current) (view s) (view (sink.write s file).1)) :
      Copies p sink root (filesIn fs root) s (p.writeStart sink view s) := by
    obtain ⟨steps, hrun, hwalked⟩ :=
      writeStart_walked htemplates htree hlisted hdirectory hwrite hview
    rw [hrun]
    exact copies_of_walked htree hlisted hroot hwalked
  have hbeside {τ : Type} (sink : Sink τ) (s : τ) :
      Copies p sink root (filesIn fs root) s (p.writeStart sink (fun _ => fs) s) :=
    hcopies sink (fun _ => fs) s rfl fun _ _ => Spares.refl _ _ _
  have hbelow {target : Path}
      (h : Path.Beside (root.landing fs.current) (target.landing fs.current)) :
      Copies p (sinkBelow target) root (filesIn fs root) fs
        (p.writeStart (sinkBelow target) id fs) :=
    hcopies (sinkBelow target) id fs rfl (FileSystem.spares_write h)
  refine ⟨fun names content => ?_, FileSystem.inOrder_filesBelow hlisted, hbeside, ?_, ?_,
    fun hengine above name t text htemplate ht =>
      ⟨fun file => content_of_copyOf hengine ht htemplate, fun f => eq_of_cannotCopy hengine ht⟩,
    ?_⟩
  · rw [filesIn, FileSystem.mem_filesBelow_iff hlisted, and_iff_right_iff_imp]
    rintro hfile rfl
    rw [List.append_nil, hroot.directory] at hfile
    cases hfile
  · intro m final paths hrun
    obtain ⟨-, written, hcopies, hwritten⟩ := (hbeside Memory.sink m).success final paths hrun
    refine holdsLast_of_copies hcopies fun path file hlast => ?_
    have hlast' : Memory.lastWrite? written path.components = some file := hlast
    rw [Memory.content?_of_run hwritten, hlast']
    rfl
  · refine fun target h => ⟨hbelow h, fun final paths hrun => ?_⟩
    obtain ⟨-, written, hcopies, hwritten⟩ := (hbelow h).success final paths hrun
    refine holdsLast_of_copies hcopies fun path file hlast => ?_
    rw [FileSystem.file_of_run hwritten, FileSystem.lastContent?, hlast]
    exact .inl rfl
  · intro hlayout above name content hnames
    refine ⟨baseName name, ?_, text_copyPath_default hlayout hnames content⟩
    rcases baseName_spec name with hmark | ⟨hplain, hsame⟩
    · exact .inl hmark
    · exact .inr ⟨hplain, hsame.symm⟩

end Copying

/-- A template for a line with the name of an application and the directory of its sources. -/
def lineTemplate : Template.Pattern where
  before := "// "
  holes := [⟨"app_name", [], " in "⟩, ⟨"layout", ["source_dir"], "\n"⟩]

/-- An application that starts with them. -/
def sharedPlan : Plan :=
  { (default : Plan) with name := "pets", layout := defaultLayout, templates := some ⟨"t"⟩ }

private theorem filledBy_lineTemplate :
    lineTemplate.FilledBy sharedPlan.context "// pets in src\n" := by
  refine ⟨⟨by decide, ?_⟩, fun h => if h.name = "app_name" then "pets" else "src", by decide, ?_⟩
  · simp only [lineTemplate, List.forall_mem_cons]
    exact ⟨⟨by decide, by decide, by decide⟩, ⟨by decide, by decide, by decide⟩, by simp⟩
  · simp only [lineTemplate, List.forall_mem_cons]
    exact ⟨rfl, rfl, by simp⟩

/-- Templates with a directory in which two files are copied to the same path. -/
def sharedTemplates : FileSystem :=
  ⟨[(["t"], .directory), (["t", "docs"], .directory), (["t", "docs", "x"], .file ⟨#[0, 255]⟩),
    (["t", "docs", "x.jinja"], .file lineTemplate.source.toUTF8),
    (["t", "gitignore"], .file "*.db".toUTF8)], []⟩

private theorem isTree_sharedTemplates : sharedTemplates.IsTree := by
  refine FileSystem.isTree_of_entries rfl ?_
  simp only [sharedTemplates, List.forall_mem_cons]
  exact ⟨rfl, rfl, rfl, rfl, rfl, by simp⟩

private theorem listed_sharedTemplates : sharedTemplates.Listed :=
  ⟨by decide, by decide, by simp [sharedTemplates]⟩

private theorem namesIn_sharedTemplates : sharedTemplates.namesIn ["t"] = ["docs", "gitignore"] ∧
    sharedTemplates.namesIn ["t", "docs"] = ["x", "x.jinja"] := by
  constructor <;> (rw [FileSystem.namesIn, List.mergeSort_of_pairwise (by decide)]; rfl)

private theorem list_sharedTemplates :
    sharedTemplates.list ⟨"t"⟩ = .ok [("docs", .directory), ("gitignore", .file "*.db".toUTF8)] ∧
    sharedTemplates.list ⟨"t/docs"⟩ =
      .ok [("x", .file ⟨#[0, 255]⟩), ("x.jinja", .file lineTemplate.source.toUTF8)] := by
  obtain ⟨htop, hdocs⟩ := namesIn_sharedTemplates
  constructor
  · change Except.ok ((sharedTemplates.namesIn ["t"]).filterMap _) = _
    rw [htop]
    rfl
  · change Except.ok ((sharedTemplates.namesIn ["t", "docs"]).filterMap _) = _
    rw [hdocs]
    rfl

private theorem filesIn_sharedTemplates : filesIn sharedTemplates ⟨"t"⟩ =
    [(["docs", "x"], ⟨#[0, 255]⟩), (["docs", "x.jinja"], lineTemplate.source.toUTF8),
      (["gitignore"], "*.db".toUTF8)] := by
  rw [filesIn, FileSystem.filesBelow, List.mergeSort_of_pairwise (by decide)]
  rfl

private theorem copyStep_line {fs : FileSystem}
    (hread : fs.read ⟨"t/docs/x.jinja"⟩ = .ok lineTemplate.source.toUTF8) :
    sharedPlan.copyStep fs ⟨"t/docs/x.jinja"⟩ "docs/x.jinja" =
      .ok ⟨⟨"docs/x"⟩, "// pets in src\n".toUTF8⟩ := by
  rw [copyStep_eq, hread]
  simp only [copyOfContent]
  rw [if_pos (by decide), fromUTF8?_toUTF8]
  simp only [renderText_source Template.fillsIn filledBy_lineTemplate]
  rfl

/-- The templates beside the file that two of them are copied to. -/
def copiedTemplates (content : ByteArray) : FileSystem :=
  ⟨sharedTemplates.entries ++ [(["out"], .directory), (["out", "docs"], .directory),
    (["out", "docs", "x"], .file content)], []⟩

private theorem copyDirectory_docs (depth : Nat) :
    sharedPlan.copyDirectory (sinkBelow ⟨"out"⟩) id ⟨"t"⟩ (depth + 1) ⟨"t/docs"⟩ "docs/"
      sharedTemplates =
    (copiedTemplates "// pets in src\n".toUTF8, .ok [⟨"docs/x"⟩, ⟨"docs/x"⟩]) := by
  have hfirst : (sinkBelow ⟨"out"⟩).run sharedTemplates
      [sharedPlan.copyStep sharedTemplates ((Path.mk "t/docs").join ⟨"x"⟩) ("docs/" ++ "x")] =
      (copiedTemplates ⟨#[0, 255]⟩, .ok [⟨"docs/x"⟩]) := rfl
  have hsecond : (sinkBelow ⟨"out"⟩).run (copiedTemplates ⟨#[0, 255]⟩)
      [sharedPlan.copyStep (copiedTemplates ⟨#[0, 255]⟩) ((Path.mk "t/docs").join ⟨"x.jinja"⟩)
        ("docs/" ++ "x.jinja")] =
      (copiedTemplates "// pets in src\n".toUTF8, .ok [⟨"docs/x"⟩]) := by
    have hstep : sharedPlan.copyStep (copiedTemplates ⟨#[0, 255]⟩) ⟨"t/docs/x.jinja"⟩
        "docs/x.jinja" = .ok ⟨⟨"docs/x"⟩, "// pets in src\n".toUTF8⟩ := copyStep_line rfl
    change (sinkBelow ⟨"out"⟩).run _ [sharedPlan.copyStep _ ⟨"t/docs/x.jinja"⟩ "docs/x.jinja"] = _
    rw [hstep]
    rfl
  rw [copyDirectory, id, list_sharedTemplates.2]
  simp only [Sink.each_cons, id, hfirst, Sink.followedBy, hsecond]
  rfl

private theorem exists_copyDirectory_sharedPlan (depth : Nat) : ∃ final,
    sharedPlan.copyDirectory (sinkBelow ⟨"out"⟩) id ⟨"t"⟩ (depth + 2) ⟨"t"⟩ "" sharedTemplates =
      (final, .ok [⟨"docs/x"⟩, ⟨"docs/x"⟩, ⟨".gitignore"⟩]) := by
  have hdocs : sharedPlan.copyDirectory (sinkBelow ⟨"out"⟩) id ⟨"t"⟩ (depth + 1)
      ((Path.mk "t").join ⟨"docs"⟩) ("" ++ "docs" ++ "/") sharedTemplates =
      (copiedTemplates "// pets in src\n".toUTF8, .ok [⟨"docs/x"⟩, ⟨"docs/x"⟩]) :=
    copyDirectory_docs depth
  rw [copyDirectory, id, list_sharedTemplates.1]
  simp only [Sink.each_cons, id, hdocs, Sink.followedBy]
  exact ⟨_, rfl⟩

private theorem exists_writeStart_sharedPlan : ∃ final,
    sharedPlan.writeStart (sinkBelow ⟨"out"⟩) id sharedTemplates =
      (final, .ok [⟨"docs/x"⟩, ⟨"docs/x"⟩, ⟨".gitignore"⟩]) := by
  have hdepth : FileSystem.maxPath + 1 = 4094 + 2 := rfl
  change ∃ final, sharedPlan.copyDirectory _ _ _ _ _ _ _ = (final, _)
  rw [hdepth]
  exact exists_copyDirectory_sharedPlan 4094

/-- Both copies are written, and the last one stays, with the names of the context in it. -/
theorem sharedTemplates_copied : ∃ final,
    sharedPlan.writeStart (sinkBelow ⟨"out"⟩) id sharedTemplates =
      (final, .ok [⟨"docs/x"⟩, ⟨"docs/x"⟩, ⟨".gitignore"⟩]) ∧
    lineTemplate.source = "// \x7b\x7b app_name \x7d\x7d in \x7b\x7b layout.source_dir \x7d\x7d\n" ∧
    final.at? ["out", "docs", "x"] = some (.file "// pets in src\n".toUTF8) := by
  have hplan : sharedPlan.templates = some ⟨"t"⟩ := rfl
  obtain ⟨-, -, -, -, hbelow, hfilled, -⟩ :=
    templates_copied hplan isTree_sharedTemplates listed_sharedTemplates rfl
  obtain ⟨-, hlast⟩ := hbelow ⟨"out"⟩ (Path.beside_of_heads (by decide) [] [])
  obtain ⟨final, hrun⟩ := exists_writeStart_sharedPlan
  have hsplit : filesIn sharedTemplates ⟨"t"⟩ = [(["docs", "x"], ⟨#[0, 255]⟩)] ++
      (["docs", "x.jinja"], lineTemplate.source.toUTF8) :: [(["gitignore"], "*.db".toUTF8)] :=
    filesIn_sharedTemplates
  have hother : ∀ later ∈ [(["gitignore"], "*.db".toUTF8)], (sharedPlan.copyPath later).names ≠
      (sharedPlan.copyPath (["docs", "x.jinja"], lineTemplate.source.toUTF8)).names :=
    List.forall_mem_singleton.mpr (by decide +kernel)
  obtain ⟨content, hcopy, hheld⟩ := hlast final _ hrun _ _ _ hsplit hother
  obtain ⟨hcontent, -⟩ := hfilled Template.fillsIn ["docs"] "x.jinja" lineTemplate
    "// pets in src\n" (by decide) filledBy_lineTemplate
  exact ⟨final, hrun, rfl, hcontent _ hcopy ▸ hheld⟩

end ApiSkeleton.App.Plan
