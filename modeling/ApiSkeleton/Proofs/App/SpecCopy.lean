import ApiSkeleton.Proofs.App.Preservation

namespace ApiSkeleton

namespace Layout

variable {l : Layout}

/-- No module is named like the copy of the document. -/
private theorem partsName_ne_copy {tags : List String} {part : String × String}
    (hpart : part ∈ moduleParts tags) (l : Layout) (format : Format) :
    l.partsName part ≠ "openapi." ++ format.name := by
  intro heq
  have hwell := wellNamed_of_mem_moduleParts part hpart
  have hsplit : part.1 ++ (part.2 ++ "." ++ l.extension) = "openapi" ++ ("." ++ format.name) := by
    rw [partsName] at heq
    simp only [← String.append_assoc]
    exact heq
  have hrole : IsRole (part.2 ++ "." ++ l.extension) := by
    rcases hwell.role with hnone | hdot
    · exact .inr (by simp [hnone])
    · exact .inr (by simp [hdot])
  obtain ⟨hstem, hrest⟩ := stem_role_inj (fun hc => (hwell.stem _ hc).1 rfl) (by decide) hrole
    (.inr (by simp)) hsplit
  simp only [moduleParts, List.cons_append, List.mem_cons, List.mem_append, List.mem_flatMap,
    tagParts, List.not_mem_nil, or_false] at hpart
  have hsecond := congrArg (fun s => s.toList[1]?) hrest
  rcases hpart with rfl | ⟨tag, -, rfl | rfl | rfl⟩ | rfl
  · exact absurd hstem (by decide)
  · cases format <;> simp [Format.name] at hsecond
  · cases format <;> simp [Format.name] at hsecond
  · cases format <;> simp [Format.name] at hsecond
  · exact absurd hstem (by decide)

private theorem Accepted.getLast?_names_ne_copy (h : l.Accepted) {tags : List String}
    (format : Format) :
    ∀ path ∈ l.modulePaths tags, path.names.getLast? ≠ some ("openapi." ++ format.name) := by
  intro path hpath hlast
  have hname : path.fileName? ∈ (moduleParts tags).map fun part => some (l.partsName part) := by
    rw [← h.fileName?_modulePaths]
    exact List.mem_map_of_mem hpath
  obtain ⟨part, hpart, hfile⟩ := List.mem_map.mp hname
  rw [Path.getLast?_names hfile.symm] at hlast
  exact partsName_ne_copy hpart l format (Option.some.inj hlast)

end Layout

/-- A path that ends in the name of a copy is read in the format that the name was made for. -/
private theorem Format.ofPath_of_fileName {path : Path} {format : Format}
    (h : path.fileName? = some ("openapi." ++ format.name)) : ofPath path = format := by
  rw [ofPath, Path.extension?, h]
  cases format <;> decide

/-- The same content in the same format describes the same API. -/
theorem FileSystem.loadApi_of_read {fs later : FileSystem} {path copy : Path} {content : ByteArray}
    {api : Model.Api} (hread : fs.read path = .ok content) (hcopy : later.read copy = .ok content)
    (hformat : Format.ofPath copy = Format.ofPath path) (h : fs.loadApi path = .ok api) :
    later.loadApi copy = .ok api := by
  obtain ⟨document, hdocument, hapi⟩ := bind_eq_ok_iff.mp h
  have htexts : later.readText copy = fs.readText path := by
    rw [readText, readText, hread, hcopy]
  have hsame : later.loadDocument copy = .ok document := by
    unfold loadDocument decodeDocument at hdocument ⊢
    rw [htexts, hformat]
    split at hdocument
    · cases hdocument
    · cases hdocument
    · split at hdocument
      · rename_i t ht
        simpa only [ht] using hdocument
      · cases hdocument
  rw [loadApi, hsame, ok_bind, hapi]

namespace App

open FileSystem (IsUnder Below ChangesWithin ChangesOnly sinkBelow writeBelow placeBelow)

namespace Plan

variable {p : Plan} {fs : FileSystem}

private theorem format_copy (htarget : p.target.text ≠ "") :
    Format.ofPath (p.target.join p.specPath) = Format.ofPath p.spec := by
  have hsteps : (p.target.join p.specPath).components = (p.target.components ++ [.name "doc"]) ++
      [.name ("openapi." ++ (Format.ofPath p.spec).name)] := by
    rw [Path.components_join_plain htarget p.isFile_specPath.steps, p.names_specPath]
    simp
  exact Format.ofPath_of_fileName (Path.fileName?_of_components hsteps)

/-- The paths of the modules of an application. -/
def modulePaths (p : Plan) : List Path :=
  p.layout.modulePaths ((Model.groups p.api.endpoints).map (·.tag))

theorem names_modulePaths_ne_copy (hl : p.layout.Accepted) :
    ∀ path ∈ p.modulePaths, path.names ≠ p.specPath.names := by
  intro path hpath hsame
  refine hl.getLast?_names_ne_copy (Format.ofPath p.spec) path hpath ?_
  rw [hsame, p.names_specPath]
  rfl

/-- The places that are not that of a file. -/
def Spares (root path : Path) (fs : FileSystem) (q : List String) : Prop :=
  q ≠ placeBelow root fs.current path

instance (root path : Path) : IsPreorder FileSystem (ChangesWithin (Spares root path)) :=
  FileSystem.isPreorder_changesWithin fun _ _ hkeeps _ hspares => by
    rwa [Spares, hkeeps.current] at hspares

/-- Writing the modules leaves the copy of the document as it is. -/
private theorem read_copy (p : Plan) (hl : p.layout.Accepted) {middle copied : FileSystem}
    {content : ByteArray}
    (hcopy : writeBelow p.target middle ⟨p.specPath, content⟩ = (copied, .ok ())) :
    ((sinkBelow p.target).run copied ((Emit.moduleFiles p.layout p.api).map .ok)).1.read
      (p.target.join p.specPath) = .ok content := by
  obtain ⟨-, -, hread⟩ := FileSystem.found_of_writeBelow hcopy
  have hrun : ChangesWithin (Spares p.target p.specPath) copied
      ((sinkBelow p.target).run copied ((Emit.moduleFiles p.layout p.api).map .ok)).1 := by
    refine Sink.run_relates (fun s file hfile => ?_) copied
    obtain ⟨f, hf, hsame⟩ := List.mem_map.mp hfile
    rw [← Except.ok.inj hsame]
    have hpath : f.path ∈ p.modulePaths := Emit.path_mem_modulePaths hf
    refine (FileSystem.changesOnly_writeBelow p.target s f).mono fun q hq hcopied => ?_
    rw [hq.1] at hcopied
    exact names_modulePaths_ne_copy hl f.path hpath (List.append_cancel_left hcopied)
  refine ChangesOnly.read hrun hread fun hspares => hspares ?_
  exact FileSystem.landing_join_of_staysInside p.isFile_specPath.staysInside p.target copied.current

/-- What a run that comes to its end has done: the files to start with, the copy of what the
document holds then, and the modules. -/
private theorem of_apply [Template.Engine] {final : FileSystem} {report : Report}
    (hl : p.layout.Accepted) (hchecked : Emit.checkApi p.api = .ok ()) (hapi : p.api.WellFormed)
    (h : p.apply fs false = (final, .ok report)) : ∃ middle started content,
      p.writeStart (sinkBelow p.target) id fs = (middle, .ok started) ∧
      report.files = started ++ p.specPath :: p.modulePaths ∧
      middle.read p.spec = .ok content ∧ final.read (p.target.join p.specPath) = .ok content := by
  rcases hwrite : p.write (sinkBelow p.target) id fs with ⟨written, f | paths⟩
  · simp [apply, hwrite, Except.map] at h
  · simp only [apply, hwrite, Except.map, Bool.false_eq_true, if_false, Prod.mk.injEq,
      Except.ok.injEq] at h
    obtain ⟨rfl, rfl⟩ := h
    obtain ⟨middle, started, rest, hstart, hrest, rfl⟩ := Sink.of_followedBy hwrite
    obtain ⟨file, copied, more, hspec, hcopy, hmodules, rfl⟩ := Sink.of_run_cons hrest
    obtain ⟨content, hcontent, rfl⟩ := specStep_eq_ok_iff.mp hspec
    rw [Emit.steps_of_checked hapi hchecked] at hmodules
    have hwritten : writeBelow p.target middle ⟨p.specPath, content⟩ = (copied, .ok ()) := hcopy
    have hread := p.read_copy hl hwritten
    rw [hmodules] at hread
    refine ⟨middle, started, content, hstart, ?_, hcontent, hread⟩
    rw [Sink.paths_of_run_files hmodules, Emit.paths_moduleFiles, modulePaths]

end Plan

namespace Request

variable {r : Request} {fs final : FileSystem} {report : Report}

/-- The document does not lie in the place of an application that is made, unless it is hidden. -/
private theorem not_below_spec {p : Plan} (htree : fs.IsTree) (hplan : r.plan fs = .ok p)
    {content : ByteArray} (hread : fs.read r.spec = .ok content) (hsafe : ¬ fs.Hides r.target ∨
      ¬ IsUnder (r.target.landing fs.current) (r.spec.landing fs.current)) :
    ¬ Below r.target fs (r.spec.landing fs.current) := by
  rintro ⟨hunder, hopen⟩
  rcases hsafe with hshown | helse
  · have hnone := at?_target_of_open hplan hshown hopen
    have hdirectory := htree.directory_above hunder (FileSystem.at?_landing_of_read hread)
    rw [hnone] at hdirectory
    cases hdirectory
  · exact helse hunder

/-- What an application keeps of its document. The copy is made from what the document holds once
the files to start with are written, and no file that is written later goes to its place. Unless the
document itself is a file of the application that the path of the target hides, the copy holds what
the document held at the start, and it describes the same API. -/
theorem specCopy_of_create [Template.Engine] (htree : fs.IsTree)
    (h : r.create fs false = (final, .ok report)) :
    let name : Path := ⟨"doc/openapi." ++ (Format.ofPath r.spec).name⟩
    let copy := r.target.join name
    (∃ p middle started later content, r.plan fs = .ok p ∧
      p.writeStart (sinkBelow r.target) id fs = (middle, .ok started) ∧
      report.files = started ++ name :: later ∧ (∀ path ∈ later, path.names ≠ name.names) ∧
      middle.read r.spec = .ok content ∧ final.read copy = .ok content) ∧
    (¬ fs.Hides r.target ∨
        ¬ IsUnder (r.target.landing fs.current) (r.spec.landing fs.current) →
      ∃ content api, fs.read r.spec = .ok content ∧ final.read copy = .ok content ∧
        fs.loadApi r.spec = .ok api ∧ final.loadApi copy = .ok api) := by
  intro name copy
  rw [create] at h
  cases hplan : r.plan fs with
  | error f => simp [hplan] at h
  | ok p =>
    rw [hplan] at h
    obtain ⟨htarget, hspec, -, hl, hload, hchecked⟩ := fields_of_plan hplan
    obtain ⟨⟨original, horiginal⟩, hwell⟩ := FileSystem.of_loadApi hload
    obtain ⟨middle, started, content, hstart, hfiles, hcontent, hcopied⟩ :=
      p.of_apply hl hchecked hwell h
    have hname : p.specPath = name := by rw [Plan.specPath, hspec]
    have hformat := p.format_copy (endsInName_of_plan hplan).text_ne
    rw [htarget] at hstart hcopied hformat
    rw [hspec] at hcontent hformat
    rw [hname] at hfiles hcopied hformat
    refine ⟨⟨p, middle, started, p.modulePaths, content, rfl, hstart, hfiles,
      hname ▸ Plan.names_modulePaths_ne_copy hl, hcontent, hcopied⟩, fun hsafe => ?_⟩
    -- The files to start with are all below the target, and the document is not.
    have hbegun : ChangesWithin (Below r.target) fs middle := by
      have hrelates := Plan.writeStart_relates (FileSystem.changesWithin_write r.target) p id fs
      rwa [hstart] at hrelates
    have hkept := ChangesOnly.read hbegun horiginal (not_below_spec htree hplan horiginal hsafe)
    have hsame : content = original := Except.ok.inj (hcontent.symm.trans hkept)
    rw [hsame] at hcopied
    exact ⟨original, p.api, horiginal, hcopied, hload,
      FileSystem.loadApi_of_read horiginal hcopied hformat hload⟩

end Request

/-- A request for an application beside those directories, under another name. -/
def besideRequest : Request := ⟨"shop", ⟨"pets/api.json"⟩, ⟨"."⟩, none, some ⟨"start"⟩⟩

theorem besideRequest_keeps_document : ∃ final report api,
    besideRequest.create detourFiles false = (final, .ok report) ∧
    final.read ⟨"./shop/doc/openapi.json"⟩ = .ok petText.toUTF8 ∧
    detourFiles.loadApi ⟨"pets/api.json"⟩ = .ok api ∧
    final.loadApi ⟨"./shop/doc/openapi.json"⟩ = .ok api := by
  have hdone : (besideRequest.create detourFiles false).2.toOption.isSome := by decide +kernel
  have hshown : ¬ detourFiles.Hides besideRequest.target :=
    Request.not_hides_target isTree_detourFiles (by simp [Path.IsFileName, besideRequest])
      (.inr (by decide))
  rcases hcreate : besideRequest.create detourFiles false with ⟨final, f | report⟩
  · simp [hcreate, Except.toOption] at hdone
  · obtain ⟨-, hkeeps⟩ := Request.specCopy_of_create isTree_detourFiles hcreate
    obtain ⟨content, api, hread, hcopy, hload, hagain⟩ := hkeeps (.inl hshown)
    have hcontent : content = petText.toUTF8 := (Except.ok.inj hread).symm
    exact ⟨final, report, api, rfl, hcontent ▸ hcopy, hload, hagain⟩

/-- A file to start with takes the place of the document that is hidden, and the copy is made of
that. -/
theorem detourRequest_loses_document : detourFiles.IsTree ∧ ∃ final report,
    detourRequest.create detourFiles false = (final, .ok report) ∧
    detourFiles.read detourRequest.spec = .ok petText.toUTF8 ∧
    final.read (detourRequest.target.join ⟨"doc/openapi.json"⟩) = .ok "theirs".toUTF8 ∧
    petText ≠ "theirs" := by
  obtain ⟨final, report, hcreate, -, hcopy⟩ := create_detourRequest
  exact ⟨isTree_detourFiles, final, report, hcreate, rfl, hcopy, by decide⟩

end App

end ApiSkeleton
