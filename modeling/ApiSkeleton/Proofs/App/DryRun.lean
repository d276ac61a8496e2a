import ApiSkeleton.Proofs.App.Writing
import ApiSkeleton.Proofs.Emit.Generation
import ApiSkeleton.Proofs.FileSystem.Confinement
import ApiSkeleton.Proofs.Model.WellFormed
import ApiSkeleton.Proofs.Yaml.Words
import ApiSkeleton.Template.Named

namespace ApiSkeleton

open Model

private theorem Config.fault?_of_ofText {path : Path} {text : String} {l : Layout}
    (h : ofText path text = .ok l) : l.fault? = none := by
  unfold ofText at h
  split at h
  · cases h
  · split at h
    · cases h
    · rename_i hfault
      cases h
      exact hfault

private theorem Config.fault?_of_load {fs : FileSystem} {path : Path} {l : Layout}
    (h : load fs path = .ok (some l)) : l.fault? = none := by
  unfold load at h
  split at h
  · cases h
  · split at h
    · cases h
    · rename_i text _
      cases htext : ofText path text with
      | error f => simp [htext, Except.map] at h
      | ok found =>
        have heq : found = l := by simpa [htext, Except.map] using h
        exact heq ▸ fault?_of_ofText htext

/-- Whatever configuration is in force, its layout has passed the check. -/
theorem Config.fault?_of_resolve {fs : FileSystem} {given : Option Path} {document : Path}
    {l : Layout} (h : resolve fs given document = .ok l) : l.fault? = none := by
  unfold resolve at h
  split at h
  · obtain ⟨found, hload, hfound⟩ := bind_eq_ok_iff.mp h
    cases found with
    | none => cases hfound
    | some loaded =>
      cases hfound
      exact fault?_of_load hload
  · split at h
    · cases h
      decide
    · obtain ⟨found, hload, hfound⟩ := bind_eq_ok_iff.mp h
      cases hfound
      cases found with
      | none => decide
      | some loaded => exact fault?_of_load hload

/-- The trees of documents are well-formed in either format. -/
private theorem wellFormed_of_decode {format : Format} {text : String} {t : Tree}
    (h : decodeText format text = .ok t) : t.WellFormed := by
  unfold decodeText at h
  split at h
  · split at h
    · rename_i found
      cases h
      exact Tree.wellFormed_of_json found
    · cases h
  · split at h
    · rename_i found
      exact Yaml.Node.wellFormed_toTree (Yaml.hasWords_of_text found) h
    · cases h

namespace FileSystem

private theorem read_of_readText {fs : FileSystem} {path : Path} {text : String}
    (h : fs.readText path = .ok text) : ∃ content, fs.read path = .ok content := by
  unfold readText at h
  split at h
  · cases h
  · exact ⟨_, by assumption⟩

/-- A document that was loaded can be copied, and its API carries well-formed trees only. -/
theorem of_loadApi {fs : FileSystem} {path : Path} {api : Api} (h : fs.loadApi path = .ok api) :
    (∃ content, fs.read path = .ok content) ∧ api.WellFormed := by
  obtain ⟨document, hdocument, hapi⟩ := bind_eq_ok_iff.mp h
  unfold loadDocument at hdocument
  split at hdocument
  · cases hdocument
  · cases hdocument
  · rename_i text htext
    refine ⟨read_of_readText htext, ?_⟩
    unfold decodeDocument at hdocument
    split at hdocument
    · rename_i t ht
      cases hdocument
      exact wellFormed_ofTree (wellFormed_of_decode ht) hapi
    · cases hdocument

end FileSystem

namespace App

/-- What planning makes sure of before an application is written. -/
structure Plan.Ready (p : Plan) (fs : FileSystem) : Prop where
  builtIn : p.templates = none
  layout : p.layout.Accepted
  readable : ∃ content, fs.read p.spec = .ok content
  api : p.api.WellFormed
  checked : Emit.checkApi p.api = .ok ()

/-- What a successful plan says about the request and the files. -/
theorem Request.of_plan {r : Request} {fs : FileSystem} {p : Plan} (h : r.plan fs = .ok p) :
    ∃ layout api, p = ⟨r.name, r.target, r.spec, layout, api, r.templates⟩ ∧
      Config.resolve fs r.config r.spec = .ok layout ∧ fs.loadApi r.spec = .ok api ∧
      Emit.checkApi api = .ok () := by
  simp only [Request.plan] at h
  obtain ⟨_, _, h⟩ := bind_eq_ok_iff.mp h
  by_cases hspec : fs.pathExists r.spec <;> by_cases htarget : fs.pathExists r.target <;>
    simp [hspec, htarget, bind_eq_ok_iff] at h
  obtain ⟨layout, hlayout, api, hapi, ⟨_, hcheck⟩, hplan⟩ := h
  exact ⟨layout, api, hplan.symm, hlayout, hapi, hcheck⟩

theorem isAppName_of_checkAppName {name : String} (h : checkAppName name = .ok ()) :
    isAppName name.toList := by
  by_contra hno
  simp [checkAppName, hno] at h

/-- What a successful plan says about the name, the document and the target. -/
theorem Request.checked_of_plan {r : Request} {fs : FileSystem} {p : Plan}
    (h : r.plan fs = .ok p) :
    isAppName r.name.toList ∧ fs.pathExists r.spec ∧ fs.pathExists r.target = false := by
  simp only [Request.plan] at h
  obtain ⟨_, hname, h⟩ := bind_eq_ok_iff.mp h
  by_cases hspec : fs.pathExists r.spec <;> by_cases htarget : fs.pathExists r.target <;>
    simp [hspec, htarget, bind_eq_ok_iff] at h
  exact ⟨isAppName_of_checkAppName hname, hspec, by simpa using htarget⟩

/-- What a successful plan says about itself. -/
theorem Request.fields_of_plan {r : Request} {fs : FileSystem} {p : Plan} (h : r.plan fs = .ok p) :
    p.target = r.target ∧ p.spec = r.spec ∧ p.templates = r.templates ∧ p.layout.Accepted ∧
      fs.loadApi r.spec = .ok p.api ∧ Emit.checkApi p.api = .ok () := by
  obtain ⟨layout, api, rfl, hlayout, hapi, hcheck⟩ := of_plan h
  exact ⟨rfl, rfl, rfl, Layout.fault?_eq_none_iff.mp (Config.fault?_of_resolve hlayout), hapi, hcheck⟩

/-- An accepted plan is ready to be written from the files that it was made from. -/
theorem Plan.ready_of_plan {r : Request} {fs : FileSystem} {p : Plan} (h : r.plan fs = .ok p)
    (hbuiltIn : r.templates = none) : p.Ready fs := by
  obtain ⟨-, hspec, htemplates, hlayout, hapi, hcheck⟩ := Request.fields_of_plan h
  obtain ⟨hreadable, hwell⟩ := FileSystem.of_loadApi hapi
  exact ⟨htemplates.trans hbuiltIn, hlayout, hspec ▸ hreadable, hwell, hcheck⟩

namespace Plan

variable {p : Plan} {fs : FileSystem}

/-- The copy of the document. -/
def specPath (p : Plan) : Path := ⟨"doc/openapi." ++ (Format.ofPath p.spec).name⟩

/-- The paths of all files of an application. -/
def paths (p : Plan) : List Path :=
  files.map (fun f => p.layout.place f.1) ++
    p.specPath :: p.layout.modulePaths ((groups p.api.endpoints).map (·.tag))

theorem specStep_eq_ok_iff {file : OutputFile} : p.specStep fs = .ok file ↔
    ∃ content, fs.read p.spec = .ok content ∧ file = ⟨p.specPath, content⟩ := by
  have hpath : (Path.mk "doc").join ⟨"openapi." ++ (Format.ofPath p.spec).name⟩ = p.specPath := by
    unfold specPath
    cases Format.ofPath p.spec <;> rfl
  rw [specStep, hpath]
  cases fs.read p.spec <;> simp [eq_comm]

private theorem specStep_ok (h : p.Ready fs) :
    ∃ content, p.specStep fs = .ok ⟨p.specPath, content⟩ := by
  obtain ⟨content, hcontent⟩ := h.readable
  exact ⟨content, specStep_eq_ok_iff.mpr ⟨content, hcontent, rfl⟩⟩

/-- With the files that come with this library, an application is one list of steps. -/
theorem write_eq_run [Template.Engine] {σ : Type} (sink : Sink σ) (hbuiltIn : p.templates = none)
    (s : σ) :
    p.write sink (fun _ => fs) s =
      sink.run s (files.map (fun f => p.fileStep f.1 f.2) ++
        p.specStep fs :: Emit.steps p.layout p.api) := by
  rw [Sink.run_append]
  simp only [write, writeStart, hbuiltIn]

/-- None of the steps of a plan that is ready fails. -/
theorem Ready.exists_files (h : p.Ready fs) : ∃ written : List OutputFile,
    files.map (fun f => p.fileStep f.1 f.2) ++ p.specStep fs :: Emit.steps p.layout p.api =
      written.map .ok ∧ written.map (·.path) = p.paths := by
  obtain ⟨started, hstarted, hplaces⟩ := exists_files_of_steps (fileStep_ok p)
  obtain ⟨content, hspec⟩ := specStep_ok h
  have hmodules := Emit.steps_of_checked h.api h.checked p.layout
  refine ⟨started ++ ⟨p.specPath, content⟩ :: Emit.moduleFiles p.layout p.api, ?_, ?_⟩
  · rw [hstarted, hspec, hmodules, List.map_append, List.map_cons]
  · rw [List.map_append, List.map_cons, hplaces, Emit.paths_moduleFiles, paths]

/-- All files of a plan that is ready lie inside the application. -/
theorem Ready.staysInside_paths (h : p.Ready fs) : ∀ path ∈ p.paths, path.staysInside := by
  have hspec : p.specPath.staysInside := by
    unfold specPath
    cases Format.ofPath p.spec <;> decide
  intro path hpath
  rcases List.mem_append.mp hpath with hstart | hrest
  · exact staysInside_places h.layout path hstart
  · rcases List.mem_cons.mp hrest with hcopy | hmodule
    · rw [hcopy]
      exact hspec
    · exact h.layout.staysInside_modulePaths path hmodule

private theorem length_paths (p : Plan) :
    p.paths.length = 3 * (groups p.api.endpoints).length + 13 := by
  have hfiles : files.length = 10 := rfl
  simp only [paths, List.length_append, List.length_map, List.length_cons, hfiles,
    Layout.length_modulePaths]
  omega

/-- A dry run of a plan that is ready writes every file. -/
theorem Ready.apply_dry [Template.Engine] (h : p.Ready fs) :
    p.apply fs true = (fs, .ok ⟨p.target, p.paths, true⟩) := by
  obtain ⟨written, hsteps, hpaths⟩ := h.exists_files
  have hinside : ∀ f ∈ written, f.path.staysInside := by
    intro f hf
    have hmem : f.path ∈ p.paths := by
      rw [← hpaths]
      exact List.mem_map_of_mem hf
    exact h.staysInside_paths f.path hmem
  have hwrite : (p.write Memory.sink (fun _ => fs) []).2 = .ok p.paths := by
    rw [write_eq_run Memory.sink h.builtIn, hsteps, Memory.run_files hinside, hpaths]
  rw [apply_dryRun, hwrite]
  rfl

/-- Once the document was taken away, a dry run fails where it would be copied. -/
theorem Ready.apply_dry_of_removed [Template.Engine] (h : p.Ready fs) (htree : fs.IsTree) :
    p.apply (fs.remove p.spec) true =
      (fs.remove p.spec, .error (.io p.spec (.system .notFound))) := by
  obtain ⟨started, hstarted, hplaces⟩ := exists_files_of_steps (fileStep_ok p)
  have hinside : ∀ f ∈ started, f.path.staysInside := by
    intro f hf
    refine staysInside_places h.layout f.path ?_
    rw [← hplaces]
    exact List.mem_map_of_mem hf
  obtain ⟨content, hread⟩ := h.readable
  have hspec : p.specStep (fs.remove p.spec) = .error (.io p.spec (.system .notFound)) := by
    rw [specStep, htree.read_remove hread]
  have hwrite : (p.write Memory.sink (fun _ => fs.remove p.spec) []).2 =
      .error (.io p.spec (.system .notFound)) := by
    rw [write_eq_run Memory.sink h.builtIn, Sink.run_append, hstarted, Memory.run_files hinside,
      hspec]
    rfl
  rw [apply_dryRun, hwrite]
  rfl

end Plan

/-- A plan that was accepted, for an application with the files that come with this library, can
always be rendered: over the same files a dry run changes nothing and fails nowhere. It reports the
files that every application starts with, the copy of the document, the schema, the three modules
of every group and the list of routers in this order, and all of them lie inside the application. -/
theorem Request.dryRun_of_plan [Template.Engine] {r : Request} {fs : FileSystem} {p : Plan}
    (hplan : r.plan fs = .ok p) (hbuiltIn : r.templates = none) :
    let gs := groups p.api.endpoints
    ∃ paths, p.apply fs true = (fs, .ok ⟨r.target, paths, true⟩) ∧
      paths = files.map (fun f => p.layout.place f.1) ++
        ⟨"doc/openapi." ++ (Format.ofPath r.spec).name⟩ :: p.layout.schemaPath ::
        gs.flatMap (fun g =>
          [p.layout.routesPath g.tag, p.layout.handlersPath g.tag, p.layout.routerPath g.tag]) ++
        [p.layout.routeIndexPath] ∧
      files.length = 10 ∧ paths.length = 3 * gs.length + 13 ∧
      ∀ path ∈ paths, checkInside path = .ok () := by
  intro gs
  have hready := Plan.ready_of_plan hplan hbuiltIn
  obtain ⟨layout, api, hfields, _⟩ := Request.of_plan hplan
  have htarget : p.target = r.target := by rw [hfields]
  have hspec : p.spec = r.spec := by rw [hfields]
  refine ⟨p.paths, htarget ▸ hready.apply_dry, ?_, rfl, p.length_paths, ?_⟩
  · rw [← hspec]
    simp only [Plan.paths, Plan.specPath, Layout.modulePaths, Layout.tagPaths, List.flatMap_map,
      List.append_assoc, List.cons_append, gs]
  · intro path hpath
    rw [checkInside, if_pos (hready.staysInside_paths path hpath)]

/-- A request for an application with the files that come with this library. -/
def petRequest : Request := ⟨"pets", ⟨"api.json"⟩, ⟨"."⟩, none, none⟩

/-- A document with one endpoint. -/
def petText : String :=
  "\x7b\"info\":\x7b\x7d,\"paths\":\x7b\"/pets\":\x7b\"get\":\x7b\x7d\x7d\x7d\x7d"

/-- A directory that holds nothing but the document. -/
def petFiles : FileSystem := ⟨[(["api.json"], .file petText.toUTF8)], []⟩

theorem dryRun_petRequest : ∃ p paths, petRequest.plan petFiles = .ok p ∧
    petRequest.templates = none ∧
    p.apply petFiles true = (petFiles, .ok ⟨⟨"./pets"⟩, paths, true⟩) := by
  have hsome : (petRequest.plan petFiles).toOption.isSome := by decide +kernel
  cases hplan : petRequest.plan petFiles with
  | error f =>
    rw [hplan] at hsome
    cases hsome
  | ok p =>
    obtain ⟨paths, happly, _⟩ := Request.dryRun_of_plan hplan rfl
    exact ⟨p, paths, rfl, rfl, happly⟩

end App

end ApiSkeleton
