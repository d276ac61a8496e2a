import ApiSkeleton.Proofs.App.Separation
import ApiSkeleton.Proofs.FileSystem.Writing

namespace ApiSkeleton.App

open FileSystem (Holds Reaches Fits Clear LeadsDown Nameable sinkBelow)

theorem isFileName_of_isAppName {name : String} (h : isAppName name.toList) :
    Path.IsFileName name := by
  cases hname : name.toList with
  | nil => simp [hname, isAppName] at h
  | cons first rest =>
    have hchars : first.isAlphanum ∧ ∀ d ∈ rest, d.isAlphanum ∨ d = '_' ∨ d = '-' := by
      simpa [hname, isAppName, or_assoc] using h
    have hfirst : first ≠ '/' ∧ first ≠ '.' := by
      constructor <;> (rintro rfl; exact absurd hchars.1 (by decide))
    refine ⟨?_, by simp [hname], ?_, ?_⟩
    · rw [hname, List.mem_cons, not_or]
      refine ⟨Ne.symm hfirst.1, fun hslash => ?_⟩
      exact absurd (hchars.2 '/' hslash) (by decide)
    · simp [hname, hfirst.2]
    · simp [hname, hfirst.2]

/-- A path that ends in a name, as it is written. -/
structure EndsInName (path : Path) : Prop where
  parent : ∃ up, path.parent? = some up
  last : ∀ s ∈ (Path.segments path.text.toList).getLast?, ¬ Path.IsIdle s

theorem EndsInName.text_ne {path : Path} (h : EndsInName path) : path.text ≠ "" := by
  intro hempty
  have hlast := h.last
  rw [hempty] at hlast
  exact hlast [] rfl (.inl rfl)

/-- The path of an application ends in its name. -/
theorem Request.endsInName_target {r : Request} (h : Path.IsFileName r.name) :
    EndsInName r.target := by
  have hidle : ¬ Path.IsIdle r.name.toList := not_or.mpr ⟨h.2.1, h.2.2.1⟩
  have hname := Path.segments_of_no_slash h.1
  by_cases hparent : r.parent.text = ""
  · have htarget : r.target = ⟨r.name⟩ := by
      simp [Request.target, Path.join, Path.not_isAbsolute_fileName h, hparent]
    rw [htarget]
    have hsteps : (Path.mk r.name).components = [] ++ [.name r.name] := Path.components_fileName h
    obtain ⟨up, hup, -⟩ := Path.exists_parent hsteps
    exact ⟨⟨up, hup⟩, by simpa [hname] using hidle⟩
  · obtain ⟨up, hup, -⟩ := Path.exists_parent (Path.components_join_file hparent h)
    obtain ⟨before, hbefore⟩ := Path.segments_join hparent (Path.not_isAbsolute_fileName h)
    refine ⟨⟨up, hup⟩, ?_⟩
    rw [Request.target, hbefore, hname, List.getLast?_concat]
    simpa using hidle

theorem Request.endsInName_of_plan {r : Request} {fs : FileSystem} {p : Plan}
    (h : r.plan fs = .ok p) : EndsInName p.target := by
  rw [(Request.fields_of_plan h).1]
  exact Request.endsInName_target (isFileName_of_isAppName (Request.checked_of_plan h).1)

namespace Plan

variable {p : Plan} {fs made : FileSystem} {place : List String}

/-- What is left to the file system when an application is written: the document can still be read,
the directory of the application can be made and is empty then, and no path is too long. -/
structure Room (p : Plan) (fs made : FileSystem) (place : List String) : Prop where
  document : ∃ content, fs.read p.spec = .ok content
  makes : fs.makeDirectories p.target = (made, .ok ())
  target : made.resolve p.target = .ok place
  empty : ∀ names, names ≠ [] → made.at? (place ++ names) = none
  nameable : ∀ path ∈ p.paths, Nameable (p.target.join path)

/-- The run that writes an application does what the dry run said: it reports the same files, and
there is one file for each of them, with its content. -/
structure FollowsDryRun [Template.Engine] (p : Plan) (fs : FileSystem) (place : List String)
    (written : List OutputFile) : Prop where
  report : (p.apply fs false).2 = .ok ⟨p.target, written.map (·.path), false⟩
  count : {names | ∃ content,
    (p.apply fs false).1.at? (place ++ names) = some (.file content)}.ncard = written.length
  contents : ∀ f ∈ written,
    (p.apply fs false).1.at? (place ++ f.path.names) = some (.file f.content)

private theorem Room.leadsDown (h : p.Room fs made place) : LeadsDown p.target [] p.target :=
  (FileSystem.of_resolve h.target).1

private theorem Room.extends (h : p.Room fs made place) : made.Extends fs :=
  FileSystem.extends_of_makeAll h.makes

theorem Room.reaches (h : p.Room fs made place) (hend : EndsInName p.target) :
    Reaches made p.target place := by
  obtain ⟨up, hup⟩ := hend.parent
  have hmakes := h.makes
  rw [FileSystem.makeDirectories, FileSystem.ancestors_succ hup] at hmakes
  exact FileSystem.reaches_of_isDirectory h.target (FileSystem.isDirectory_of_makeAll hmakes)

/-- The copy of the document does not depend on what was written. -/
private theorem specStep_of_extends {later : FileSystem}
    (hread : ∃ content, fs.read p.spec = .ok content)
    (hmore : later.Extends fs) : p.specStep later = p.specStep fs := by
  obtain ⟨content, hcontent⟩ := hread
  simp only [specStep, hcontent, hmore.read hcontent]

theorem Room.fits (h : p.Room fs made place) (hready : p.Ready fs) (hend : EndsInName p.target)
    {file : OutputFile} (hfile : file.path ∈ p.paths) : Fits p.target file :=
  FileSystem.fits_of_nameable hend.text_ne (hready.isFile_paths _ hfile) (h.nameable _ hfile)

/-- The first file needs the directory of the application, which may as well be there already. -/
private theorem Room.write_first (h : p.Room fs made place) (hend : EndsInName p.target)
    {file : OutputFile} (hfile : file.path = ⟨"package.json"⟩) :
    (sinkBelow p.target).write fs file = (sinkBelow p.target).write made file := by
  have hname : Path.IsFileName "package.json" := by simp [Path.IsFileName]
  have hinside : checkInside file.path = .ok () := by
    rw [hfile]
    rfl
  have hup : (p.target.join file.path).parent? = some p.target := by
    rw [hfile, Path.parent?_join_file hname hend.last]
  have hagain : made.makeDirectories p.target = (made, .ok ()) :=
    FileSystem.makeAll_here h.leadsDown (h.reaches hend) _
  simp only [sinkBelow, FileSystem.writeBelow, hinside, hup, Option.getD_some, h.makes, hagain]

/-- An application is written as if its directory were there already and the document read
before. -/
private theorem Room.write_eq [Template.Engine] (h : p.Room fs made place) (hready : p.Ready fs)
    (hend : EndsInName p.target) :
    p.write (sinkBelow p.target) id fs =
      (sinkBelow p.target).run made (files.map (fun f => p.fileStep f.1 f.2) ++
        p.specStep fs :: Emit.steps p.layout p.api) := by
  obtain ⟨started, hstarted, hplaces⟩ := exists_files_of_steps (fileStep_ok p)
  have hfits : ∀ f ∈ started, Fits p.target f := by
    refine fun f hf => h.fits hready hend (List.mem_append_left _ ?_)
    rw [← hplaces]
    exact List.mem_map_of_mem hf
  have hsame : (sinkBelow p.target).run fs (started.map .ok) =
      (sinkBelow p.target).run made (started.map .ok) := by
    rw [places_files] at hplaces
    cases started with
    | nil => cases hplaces
    | cons first rest =>
      rw [List.map_cons, List.cons.injEq] at hplaces
      rw [List.map_cons, Sink.run, Sink.run, h.write_first hend hplaces.1]
  have hreaches := h.reaches hend
  have hnil : Holds made made place [] := FileSystem.holds_nil hreaches.directory h.empty
  obtain ⟨hruns, hstops⟩ := FileSystem.run_below hnil hreaches
    (Path.components_ne_nil hend.text_ne) hfits hnil (by simp [Clear])
  rw [Sink.run_append, hstarted, write, writeStart, hready.builtIn]
  simp only [hstarted, hsame]
  by_cases hclear : Clear ([] ++ started)
  · obtain ⟨final, hrun, hfinal⟩ := hruns hclear
    have hmore : final.Extends fs := (hfinal.extends hnil).trans h.extends
    simp only [hrun, Sink.followedBy, id, specStep_of_extends hready.readable hmore]
  · obtain ⟨final, fault, hrun⟩ := hstops hclear
    simp only [hrun, Sink.followedBy]

/-- What comes of writing an application. -/
theorem Room.apply_cases [Template.Engine] (h : p.Room fs made place) (hready : p.Ready fs)
    (hend : EndsInName p.target) {written : List OutputFile}
    (hsteps : files.map (fun f => p.fileStep f.1 f.2) ++ p.specStep fs ::
      Emit.steps p.layout p.api = written.map .ok) (hpaths : written.map (·.path) = p.paths) :
    (Clear written ∧ ∃ final, p.apply fs false =
        (final, .ok ⟨p.target, written.map (·.path), false⟩) ∧ Holds final made place written) ∨
    (¬ Clear written ∧ ∃ final f, p.apply fs false = (final, .error f)) := by
  have hfits : ∀ f ∈ written, Fits p.target f := by
    refine fun f hf => h.fits hready hend ?_
    rw [← hpaths]
    exact List.mem_map_of_mem hf
  have hreaches := h.reaches hend
  have hnil : Holds made made place [] := FileSystem.holds_nil hreaches.directory h.empty
  obtain ⟨hruns, hstops⟩ := FileSystem.run_below hnil hreaches
    (Path.components_ne_nil hend.text_ne) hfits hnil (by simp [Clear])
  have happly : p.apply fs false = ((((sinkBelow p.target).run made (written.map .ok)).1),
      ((sinkBelow p.target).run made (written.map .ok)).2.map fun paths =>
        ⟨p.target, paths, false⟩) := by
    simp [apply, h.write_eq hready hend, hsteps]
  rw [List.nil_append] at hruns hstops
  by_cases hclear : Clear written
  · obtain ⟨final, hrun, hfinal⟩ := hruns hclear
    exact .inl ⟨hclear, final, by simp [happly, hrun, Except.map], hfinal⟩
  · obtain ⟨final, f, hrun⟩ := hstops hclear
    exact .inr ⟨hclear, final, f, by simp [happly, hrun, Except.map]⟩

end Plan

/-- The real run of a plan that was accepted, for an application with the files that come with this
library. The dry run lists everything that is rendered. The real run comes to an end exactly if no
path of the list lies below another one. It does what the dry run said, with the same list and one
file of the right content for each entry, exactly if no two paths of the list lead to one place
either. This is so if the directories of the layout stay clear of each other and of the files with
fixed names, which its check does not ask for. -/
theorem Request.realRun_of_plan [Template.Engine] {r : Request} {planned fs made : FileSystem}
    {p : Plan} {place : List String} (hplan : r.plan planned = .ok p) (hbuiltIn : r.templates = none)
    (hroom : p.Room fs made place) :
    ∃ written : List OutputFile,
      files.map (fun f => p.fileStep f.1 f.2) ++ p.specStep fs :: Emit.steps p.layout p.api =
        written.map .ok ∧
      p.apply fs true = (fs, .ok ⟨p.target, written.map (·.path), true⟩) ∧
      ((∃ report, (p.apply fs false).2 = .ok report) ↔
        ∀ a ∈ written.map (·.path), ∀ b ∈ written.map (·.path), ¬ b.IsBelow a) ∧
      (p.FollowsDryRun fs place written ↔ Path.Separate (written.map (·.path))) ∧
      (p.layout.Apart → Path.Separate (written.map (·.path))) := by
  have hready : p.Ready fs :=
    { Plan.ready_of_plan hplan hbuiltIn with readable := hroom.document }
  obtain ⟨written, hsteps, hpaths⟩ := hready.exists_files
  have hcases := hroom.apply_cases hready (Request.endsInName_of_plan hplan) hsteps hpaths
  refine ⟨written, hsteps, by rw [hready.apply_dry, hpaths], ?_, ?_,
    fun hapart => hpaths ▸ hready.separate_paths hapart⟩
  · rw [← FileSystem.clear_iff_paths]
    rcases hcases with ⟨hyes, final, happly, -⟩ | ⟨hno, final, f, happly⟩
    · exact iff_of_true ⟨_, by rw [happly]⟩ hyes
    · refine iff_of_false ?_ hno
      rintro ⟨report, hreport⟩
      rw [happly] at hreport
      cases hreport
  · rw [Path.Separate, ← FileSystem.clear_iff_paths, List.map_map]
    rcases hcases with ⟨hyes, final, happly, hholds⟩ | ⟨hno, final, f, happly⟩
    · constructor
      · intro hfollows
        have hcount := hfollows.count
        rw [happly] at hcount
        exact ⟨hholds.ncard_eq_length_iff.mp hcount, hyes⟩
      · rintro ⟨hnodup, -⟩
        refine ⟨by rw [happly], by rw [happly]; exact hholds.ncard_eq_length_iff.mpr hnodup, ?_⟩
        intro f hf
        rw [happly]
        exact (hholds.file _ _).mpr (FileSystem.lastContent?_of_nodup hnodup hf)
    · refine iff_of_false (fun hfollows => ?_) (fun hseparate => hno hseparate.2)
      have hreport := hfollows.report
      rw [happly] at hreport
      cases hreport

/-- A configuration whose directory for the sources is named like a file. -/
def tangledText : String := "[output]\nsource_dir = \"package.json\"\n"

/-- A directory that holds the document and that configuration. -/
def mixedFiles : FileSystem :=
  ⟨[(["api.json"], .file petText.toUTF8), (["tangled.toml"], .file tangledText.toUTF8)], []⟩

/-- A request that names the configuration. -/
def tangledRequest : Request := ⟨"pets", ⟨"api.json"⟩, ⟨"."⟩, some ⟨"tangled.toml"⟩, none⟩

/-- A plan for the directory has room if its paths are short. -/
private theorem room_mixedFiles {r : Request} {p : Plan} (hplan : r.plan mixedFiles = .ok p)
    (hbuiltIn : r.templates = none) (htarget : p.target = ⟨"./pets"⟩)
    (hnameable : ∀ path ∈ p.paths, Nameable (p.target.join path)) :
    p.Room mixedFiles (mixedFiles.put ["pets"] .directory) ["pets"] := by
  refine ⟨(Plan.ready_of_plan hplan hbuiltIn).readable, ?_, ?_, ?_, hnameable⟩
  · rw [htarget]
    rfl
  · rw [htarget]
    rfl
  · intro names hnames
    have hother : ["pets"] ++ names ≠ ["pets"] := by simpa using hnames
    rw [FileSystem.at?_put (by simp), if_neg hother]
    simp [FileSystem.at?, mixedFiles]

/-- What a plan for the directory says, as far as it can be decided. -/
private theorem exists_plan_mixedFiles {r : Request} {l : Layout}
    (h : (r.plan mixedFiles).toOption.map (fun p =>
      (p.target, p.layout, p.paths.all fun path => decide (Nameable (p.target.join path)))) =
        some (⟨"./pets"⟩, l, true)) :
    ∃ p, r.plan mixedFiles = .ok p ∧ p.target = ⟨"./pets"⟩ ∧ p.layout = l ∧
      ∀ path ∈ p.paths, Nameable (p.target.join path) := by
  cases hplan : r.plan mixedFiles with
  | error f => simp [hplan, Except.toOption] at h
  | ok p =>
    have hfields : p.target = ⟨"./pets"⟩ ∧ p.layout = l ∧
        (p.paths.all fun path => decide (Nameable (p.target.join path))) = true := by
      simpa [hplan, Except.toOption] using h
    refine ⟨p, rfl, hfields.1, hfields.2.1, fun path hpath => ?_⟩
    exact of_decide_eq_true (List.all_eq_true.mp hfields.2.2 path hpath)

theorem realRun_petRequest : ∃ p made place written, petRequest.plan mixedFiles = .ok p ∧
    petRequest.templates = none ∧ p.Room mixedFiles made place ∧
    p.apply mixedFiles true = (mixedFiles, .ok ⟨p.target, written.map (·.path), true⟩) ∧
    p.FollowsDryRun mixedFiles place written := by
  obtain ⟨p, hplan, htarget, hlayout, hnameable⟩ :=
    @exists_plan_mixedFiles petRequest defaultLayout (by decide +kernel)
  have hroom := room_mixedFiles hplan rfl htarget hnameable
  obtain ⟨written, -, hdry, -, hfollows, hapart⟩ := Request.realRun_of_plan hplan rfl hroom
  refine ⟨p, _, _, written, hplan, rfl, hroom, hdry, hfollows.mpr (hapart ?_)⟩
  rw [hlayout]
  exact Layout.apart_defaultLayout

/-- The check of the layout accepts the configuration, and the dry run lists all files. The real run
fails: `package.json` is written as a file, and then needed as a directory. -/
theorem tangledRequest_fails : ∃ p made place, tangledRequest.plan mixedFiles = .ok p ∧
    tangledRequest.templates = none ∧ p.Room mixedFiles made place ∧
    p.apply mixedFiles true = (mixedFiles, .ok ⟨p.target, p.paths, true⟩) ∧
    ∃ f, (p.apply mixedFiles false).2 = .error f := by
  obtain ⟨p, hplan, htarget, hlayout, hnameable⟩ :=
    @exists_plan_mixedFiles tangledRequest ⟨"ts", "package.json", "routes", "db"⟩
      (by decide +kernel)
  have hroom := room_mixedFiles hplan rfl htarget hnameable
  have hready := Plan.ready_of_plan hplan rfl
  obtain ⟨written, hsteps, hpaths⟩ := hready.exists_files
  refine ⟨p, _, _, hplan, rfl, hroom, hready.apply_dry, ?_⟩
  rcases hroom.apply_cases hready (Request.endsInName_of_plan hplan) hsteps hpaths with
    ⟨hclear, -⟩ | ⟨-, final, f, happly⟩
  · have hlisted : ∀ path ∈ files.map (fun f => p.layout.place f.1), path ∈ p.paths :=
      fun path hpath => List.mem_append_left _ hpath
    rw [FileSystem.clear_iff_paths, hpaths] at hclear
    rw [places_files, hlayout] at hlisted
    have hbelow : ((Path.mk "package.json").join ⟨"index.ts"⟩).IsBelow ⟨"package.json"⟩ :=
      ⟨by decide, by decide⟩
    exact absurd hbelow (hclear _ (hlisted _ (by simp)) _ (hlisted _ (by simp)))
  · exact ⟨f, by rw [happly]⟩

end ApiSkeleton.App
