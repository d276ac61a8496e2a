import ApiSkeleton.Proofs.App.RealRun
import ApiSkeleton.Proofs.FileSystem.Confinement

namespace ApiSkeleton.App

open FileSystem (IsTree IsUnder Below ChangesWithin ChangesOnly sinkBelow)

namespace Plan

variable [Template.Engine]

private theorem changesWithin_apply (p : Plan) (fs : FileSystem) (dryRun : Bool) :
    ChangesWithin (Below p.target) fs (p.apply fs dryRun).1 := by
  cases dryRun with
  | true =>
    rw [apply_dryRun]
    exact refl_of (ChangesWithin (Below p.target)) fs
  | false => exact write_relates (FileSystem.changesWithin_write p.target) p id fs

end Plan

namespace Request

variable {r : Request} {fs : FileSystem}

private theorem changesWithin_create [Template.Engine] (r : Request) (fs : FileSystem)
    (dryRun : Bool) :
    ChangesWithin (Below r.target) fs (r.create fs dryRun).1 := by
  rw [create]
  cases hplan : r.plan fs with
  | error f => exact refl_of (ChangesWithin (Below r.target)) fs
  | ok p => exact (fields_of_plan hplan).1 ▸ p.changesWithin_apply fs dryRun

private theorem text_target_ne (hname : Path.IsFileName r.name) : r.target.text ≠ "" :=
  (endsInName_target hname).text_ne

private theorem asksDirectory_target (hname : Path.IsFileName r.name) :
    FileSystem.asksDirectory r.target = false := by
  rw [FileSystem.asksDirectory, target,
    Path.lastSegment_join_any (Path.not_isAbsolute_fileName hname)]
  exact (Path.isFile_of_fileName hname).asks_file

private theorem components_target (hname : Path.IsFileName r.name) :
    r.target.components = r.parent.components ++ [.name r.name] := by
  by_cases hparent : r.parent.text = ""
  · rw [target, Path.join_of_empty hparent (Path.not_isAbsolute_fileName hname),
      Path.components_of_empty hparent, Path.components_fileName hname, List.nil_append]
  · exact Path.components_join_file hparent hname

/-- Nothing is hidden behind the path of an application in a directory that is there, or whose path
does not climb. -/
theorem not_hides_target (htree : fs.IsTree) (hname : Path.IsFileName r.name)
    (hparent : fs.isDirectory r.parent ∨ .parent ∉ r.parent.components) :
    ¬ fs.Hides r.target := by
  rcases hparent with hdirectory | hclimb
  · rintro ⟨hmissing, -⟩
    obtain ⟨place, hreaches⟩ := FileSystem.exists_reaches_of_isDirectory hdirectory
    have hfollow := FileSystem.follow_of_resolve_notFound (text_target_ne hname) hmissing
    rw [components_target hname, FileSystem.follow_append, hreaches.follow, ok_bind,
      FileSystem.follow_cons] at hfollow
    cases hstep : fs.stepFrom place (.name r.name) with
    | ok q =>
      rw [hstep] at hfollow
      cases hfollow
    | error fault =>
      rw [hstep, error_bind] at hfollow
      rw [Except.error.inj hfollow, FileSystem.stepFrom_eq_notFound_iff, hreaches.directory] at hstep
      cases hstep
  · refine htree.not_hides (text_target_ne hname) ?_
    rw [components_target hname]
    simpa using hclimb

/-- An application is only written where there was nothing, unless the check of its target was
misled. -/
theorem at?_target_of_open {p : Plan} (hplan : r.plan fs = .ok p) (hshown : ¬ fs.Hides r.target)
    (hopen : fs.Open r.target) : fs.at? (r.target.landing fs.current) = none := by
  obtain ⟨hname, -, habsent⟩ := checked_of_plan hplan
  by_contra hfound
  rcases FileSystem.pathExists_or_not_open hfound hshown
    (asksDirectory_target (isFileName_of_isAppName hname)) with hthere | hclosed
  · rw [habsent] at hthere
    cases hthere
  · exact hclosed hopen

/-- What making an application leaves alone, whether or not it fails. Every directory stays, every
file stays a file, and only files below the directory of the application are made or changed. If
nothing is hidden behind the path of that directory, all files keep their content, and there was
nothing in its place if there are new files. Nothing is hidden if the directory around it is there,
or if the path of that one does not climb. -/
theorem create_preserves [Template.Engine] (r : Request) (htree : fs.IsTree) (dryRun : Bool) :
    let base := r.target.landing fs.current
    let final := (r.create fs dryRun).1
    (∀ q, fs.at? q = some .directory → final.at? q = some .directory) ∧
    (∀ q content, fs.at? q = some (.file content) → ∃ now, final.at? q = some (.file now)) ∧
    (∀ q content, ¬ IsUnder base q →
      (final.at? q = some (.file content) ↔ fs.at? q = some (.file content))) ∧
    (¬ fs.Hides r.target → ∀ q content,
      (fs.at? q = some (.file content) → final.at? q = some (.file content)) ∧
      (final.at? q = some (.file content) →
        fs.at? q = some (.file content) ∨ IsUnder base q ∧ fs.at? base = none)) ∧
    (checkAppName r.name = .ok () →
      fs.isDirectory r.parent ∨ .parent ∉ r.parent.components → ¬ fs.Hides r.target) := by
  intro base final
  have honly : ChangesOnly (Below r.target fs) fs final := r.changesWithin_create fs dryRun
  refine ⟨honly.directory, honly.file,
    fun q content helse => honly.same q content fun hbelow => helse hbelow.1, ?_, ?_⟩
  · intro hshown q content
    cases hplan : r.plan fs with
    | error f =>
      have hsame : final = fs := by
        simp only [final, create, hplan]
      rw [hsame]
      exact ⟨id, .inl⟩
    | ok p =>
      by_cases hbelow : Below r.target fs q
      -- The target was not there, so nothing was below it: a file that is found there is new.
      · have hnone : fs.at? base = none := at?_target_of_open hplan hshown hbelow.2
        refine ⟨fun hq => ?_, fun _ => .inr ⟨hbelow.1, hnone⟩⟩
        have hdirectory := htree.directory_above hbelow.1 (by simp [hq])
        rw [hnone] at hdirectory
        cases hdirectory
      · have hsame := honly.same q content hbelow
        exact ⟨hsame.mpr, fun hq => .inl (hsame.mp hq)⟩
  · intro hcheck hparent
    exact not_hides_target htree (isFileName_of_isAppName (isAppName_of_checkAppName hcheck)) hparent

end Request

private theorem isTree_petFiles : petFiles.IsTree :=
  FileSystem.isTree_of_entries rfl (by simp [petFiles])

theorem petRequest_preserves : petFiles.IsTree ∧
    (petRequest.create petFiles false).1.at? ["api.json"] = some (.file petText.toUTF8) := by
  obtain ⟨-, -, -, hkeeps, hshown⟩ := petRequest.create_preserves isTree_petFiles false
  have hnothing : ¬ petFiles.Hides petRequest.target := hshown rfl (.inl rfl)
  exact ⟨isTree_petFiles, (hkeeps hnothing ["api.json"] _).1 rfl⟩

/-- A directory that is named like the application, and one with a file to start with that is named
like one in it. -/
def detourFiles : FileSystem :=
  ⟨[(["pets"], .directory), (["pets", "api.json"], .file petText.toUTF8), (["start"], .directory),
    (["start", "api.json"], .file "theirs".toUTF8)], []⟩

/-- A request whose path to the application leaves a directory that is missing. -/
def detourRequest : Request :=
  ⟨"pets", ⟨"pets/api.json"⟩, ⟨"new/.."⟩, none, some ⟨"start"⟩⟩

theorem isTree_detourFiles : detourFiles.IsTree :=
  FileSystem.isTree_of_entries rfl (by
    simp only [detourFiles, List.forall_mem_cons, List.not_mem_nil, false_implies, implies_true,
      and_true]
    exact ⟨rfl, rfl, rfl, rfl⟩)

/-- What comes of the request, as far as it can be decided. -/
theorem create_detourRequest : ∃ final report,
    detourRequest.create detourFiles false = (final, .ok report) ∧
    final.read ⟨"pets/api.json"⟩ = .ok "theirs".toUTF8 ∧
    final.read (detourRequest.target.join ⟨"doc/openapi.json"⟩) = .ok "theirs".toUTF8 := by
  have hall : (match detourRequest.create detourFiles false with
      | (final, .ok _) => [⟨"pets/api.json"⟩, detourRequest.target.join ⟨"doc/openapi.json"⟩].all
          fun path => decide ((final.read path).toOption = some "theirs".toUTF8)
      | (_, .error _) => false) = true := by
    decide +kernel
  rcases hcreate : detourRequest.create detourFiles false with ⟨final, f | report⟩
  · simp [hcreate] at hall
  · rw [hcreate] at hall
    simp only [List.all_cons, List.all_nil, Bool.and_true, Bool.and_eq_true,
      decide_eq_true_eq, toOption_eq_some_iff] at hall
    exact ⟨final, report, rfl, hall⟩

/-- The check finds no target. Then `new` is made for the first file, `new/../pets` leads to the
directory that is there, and its file is overwritten. -/
theorem detourRequest_overwrites : detourFiles.IsTree ∧
    (∃ report, (detourRequest.create detourFiles false).2 = .ok report) ∧
    detourFiles.read ⟨"pets/api.json"⟩ = .ok petText.toUTF8 ∧
    (detourRequest.create detourFiles false).1.read ⟨"pets/api.json"⟩ = .ok "theirs".toUTF8 := by
  obtain ⟨final, report, hcreate, hread, -⟩ := create_detourRequest
  rw [hcreate]
  exact ⟨isTree_detourFiles, ⟨report, rfl⟩, rfl, hread⟩

end ApiSkeleton.App
