import ApiSkeleton.Proofs.App.DryRun
import ApiSkeleton.Proofs.Model.FirstViolation
import Mathlib.Computability.Language

namespace ApiSkeleton

open Model
open scoped Computability

/-- Of two steps in a row the second one is only made with the result of the first. -/
theorem failure?_andThen {α β : Type} (x : Except Failure α)
    (next : α → Except Failure β) :
    failure? (x >>= next) = (failure? x).or (x.toOption.bind fun a => failure? (next a)) := by
  cases x <;> rfl

private theorem bind_or {α β : Type} (o : Option α) (first second : α → Option β) :
    (o.bind fun a => (first a).or (second a)) = (o.bind first).or (o.bind second) := by
  cases o <;> rfl

theorem findSome?_cons_or {α β : Type} (first : α → Option β) (a : α) (rest : List α) :
    (a :: rest).findSome? first = (first a).or (rest.findSome? first) := by
  rw [List.findSome?_cons]
  cases first a <;> rfl

def IsLetterOrDigit (c : Char) : Prop :=
  ('A' ≤ c ∧ c ≤ 'Z') ∨ ('a' ≤ c ∧ c ≤ 'z') ∨ ('0' ≤ c ∧ c ≤ '9')

/-- The texts that consist of one character of a kind. -/
def single (p : Char → Prop) : Language Char := {w | ∃ c, w = [c] ∧ p c}

/-- The names of applications: a letter or a digit, and then any number of letters, digits,
underscores and hyphens. -/
def appNames : Language Char :=
  single IsLetterOrDigit * (single fun c => IsLetterOrDigit c ∨ c = '_' ∨ c = '-')∗

private theorem isAlphanum_iff {c : Char} : c.isAlphanum ↔ IsLetterOrDigit c := by
  simp [Char.isAlphanum, Char.isAlpha, Char.isUpper, Char.isLower, Char.isDigit, IsLetterOrDigit,
    Char.le_def, or_assoc]

private theorem mem_kstar_single_iff {p : Char → Prop} {w : List Char} :
    w ∈ (single p)∗ ↔ ∀ c ∈ w, p c := by
  constructor
  · rintro ⟨parts, rfl, hparts⟩ c hc
    obtain ⟨part, hpart, hmem⟩ := List.mem_flatten.mp hc
    obtain ⟨d, rfl, hd⟩ := hparts part hpart
    exact List.mem_singleton.mp hmem ▸ hd
  · intro hw
    refine ⟨w.map fun c => [c], ?_, fun part hpart => ?_⟩
    · rw [← List.flatMap_def, List.flatMap_singleton']
    · obtain ⟨c, hc, rfl⟩ := List.mem_map.mp hpart
      exact ⟨c, rfl, hw c hc⟩

/-- The check of a name decides the grammar. -/
theorem mem_appNames_iff {w : List Char} : w ∈ appNames ↔ isAppName w := by
  have hpart (c : Char) : (c.isAlphanum || c == '_' || c == '-') = true ↔
      IsLetterOrDigit c ∨ c = '_' ∨ c = '-' := by
    simp [isAlphanum_iff, or_assoc]
  rw [appNames, Language.mem_mul]
  constructor
  · rintro ⟨first, ⟨c, rfl, hc⟩, rest, hrest, rfl⟩
    simp only [List.singleton_append, isAppName, Bool.and_eq_true, List.all_eq_true, hpart]
    exact ⟨isAlphanum_iff.mpr hc, mem_kstar_single_iff.mp hrest⟩
  · intro hname
    cases w with
    | nil => cases hname
    | cons c rest =>
      simp only [isAppName, Bool.and_eq_true, List.all_eq_true, hpart] at hname
      exact ⟨[c], ⟨c, rfl, isAlphanum_iff.mp hname.1⟩, rest, mem_kstar_single_iff.mpr hname.2, rfl⟩

namespace Config

variable {fs : FileSystem} {given : Option Path} {document path : Path} {l : Layout}

/-- The file that configures a layout: the given one, whether or not it exists, else the one beside
the document if it exists. -/
inductive Source (fs : FileSystem) (given : Option Path) (document : Path) : Option Path → Prop where
  | given {path : Path} (hgiven : given = some path) : Source fs given document (some path)
  | beside {dir : Path} (hgiven : given = none) (hdir : document.parent? = some dir)
      (hexists : fs.pathExists (dir.join ⟨"scaffold.toml"⟩)) :
      Source fs given document (some (dir.join ⟨"scaffold.toml"⟩))
  | none (hgiven : given = none) (habsent : ∀ dir, document.parent? = some dir →
      fs.pathExists (dir.join ⟨"scaffold.toml"⟩) = false) : Source fs given document none

/-- What is wrong with a file that configures a layout. -/
inductive Faulty (fs : FileSystem) (path : Path) : ConfigFault → Prop where
  | missing (hmissing : fs.pathExists path = false) : Faulty fs path .notFound
  | unreadable {fault : IoFault} (hexists : fs.pathExists path)
      (hread : fs.readText path = .error fault) : Faulty fs path (.unreadable fault)
  | malformed {text : String} (hexists : fs.pathExists path) (hread : fs.readText path = .ok text)
      (htext : ofText? text = none) : Faulty fs path .malformed
  | layout {text : String} {l : Layout} {fault : ConfigFault} (hexists : fs.pathExists path)
      (hread : fs.readText path = .ok text) (htext : ofText? text = some l)
      (hfault : l.fault? = some fault) : Faulty fs path fault

/-- A file that configures a layout. -/
def Holds (fs : FileSystem) (path : Path) (l : Layout) : Prop :=
  fs.pathExists path ∧ ∃ text, fs.readText path = .ok text ∧ ofText? text = some l ∧ l.fault? = none

/-- The layout for a document: that of the file which configures it, or the default if there is
none. -/
inductive InForce (fs : FileSystem) (given : Option Path) (document : Path) : Layout → Prop where
  | file {path : Path} {l : Layout} (hsource : Source fs given document (some path))
      (hholds : Holds fs path l) : InForce fs given document l
  | default (hsource : Source fs given document none) : InForce fs given document defaultLayout

private theorem exists_source (fs : FileSystem) (given : Option Path) (document : Path) :
    ∃ source, Source fs given document source := by
  cases hgiven : given with
  | some path => exact ⟨_, .given rfl⟩
  | none =>
    by_cases hbeside : ∃ dir, document.parent? = some dir ∧ fs.pathExists (dir.join ⟨"scaffold.toml"⟩)
    · obtain ⟨dir, hdir, hexists⟩ := hbeside
      exact ⟨_, .beside rfl hdir hexists⟩
    · refine ⟨_, .none rfl fun dir hdir => ?_⟩
      rw [← Bool.not_eq_true]
      exact fun hexists => hbeside ⟨dir, hdir, hexists⟩

private theorem holds_or_faulty (fs : FileSystem) (path : Path) :
    (∃ l, Holds fs path l) ∨ ∃ fault, Faulty fs path fault := by
  cases hexists : fs.pathExists path with
  | false => exact .inr ⟨_, .missing hexists⟩
  | true =>
    cases hread : fs.readText path with
    | error fault => exact .inr ⟨_, .unreadable hexists hread⟩
    | ok text =>
      cases htext : ofText? text with
      | none => exact .inr ⟨_, .malformed hexists hread htext⟩
      | some l =>
        cases hfault : l.fault? with
        | some fault => exact .inr ⟨_, .layout hexists hread htext hfault⟩
        | none => exact .inl ⟨l, hexists, text, hread, htext, hfault⟩

/-- What a file that has to exist comes to. -/
def required (fs : FileSystem) (path : Path) : Except Failure Layout := do
  match ← load fs path with
  | some l => return l
  | none => throw (.config path .notFound)

theorem Holds.required (h : Holds fs path l) : required fs path = .ok l := by
  obtain ⟨hexists, text, hread, htext, hfault⟩ := h
  simp [Config.required, load, hexists, hread, ofText, htext, hfault, Except.map]

theorem Faulty.required {fault : ConfigFault} (h : Faulty fs path fault) :
    required fs path = .error (.config path fault) := by
  cases h with
  | missing hmissing =>
    simp only [Config.required, load, hmissing]
    rfl
  | unreadable hexists hread => simp [Config.required, load, hexists, hread]
  | malformed hexists hread htext =>
    simp [Config.required, load, hexists, hread, ofText, htext, Except.map]
  | layout hexists hread htext hfault =>
    simp [Config.required, load, hexists, hread, ofText, htext, hfault, Except.map]

/-- A file that exists gives a layout, or it is refused. -/
private theorem load_ne_none (hexists : fs.pathExists path) : load fs path ≠ .ok none := by
  intro hload
  simp only [load, hexists, Bool.not_true, Bool.false_eq_true, if_false] at hload
  split at hload
  · cases hload
  · rename_i text _
    cases htext : ofText path text <;> simp [htext, Except.map] at hload

theorem resolve_of_source (h : Source fs given document (some path)) :
    resolve fs given document = required fs path := by
  cases h with
  | given hgiven =>
    subst hgiven
    rfl
  | @beside dir hgiven hdir hexists =>
    have hname : (Path.mk fileName) = ⟨"scaffold.toml"⟩ := rfl
    simp only [resolve, hgiven, hdir, hname, required]
    cases hload : load fs (dir.join ⟨"scaffold.toml"⟩) with
    | error f => rfl
    | ok found =>
      cases found with
      | none => exact absurd hload (load_ne_none hexists)
      | some l => rfl

theorem resolve_of_no_source (h : Source fs given document none) :
    resolve fs given document = .ok defaultLayout := by
  cases h with
  | none hgiven habsent =>
    have hname : (Path.mk fileName) = ⟨"scaffold.toml"⟩ := rfl
    simp only [resolve, hgiven, hname]
    cases hdir : document.parent? with
    | none => rfl
    | some dir => simp [load, habsent dir hdir]

/-- A layout is in force, or the file that configures it is refused. -/
theorem resolve_cases (fs : FileSystem) (given : Option Path) (document : Path) :
    (∃ l, InForce fs given document l ∧ resolve fs given document = .ok l) ∨
    ∃ path fault, Source fs given document (some path) ∧ Faulty fs path fault ∧
      resolve fs given document = .error (.config path fault) := by
  obtain ⟨source, hsource⟩ := exists_source fs given document
  cases source with
  | none => exact .inl ⟨_, .default hsource, resolve_of_no_source hsource⟩
  | some path =>
    have hresolve := resolve_of_source hsource
    rcases holds_or_faulty fs path with ⟨l, hholds⟩ | ⟨fault, hfaulty⟩
    · exact .inl ⟨l, .file hsource hholds, hresolve.trans hholds.required⟩
    · exact .inr ⟨path, fault, hsource, hfaulty, hresolve.trans hfaulty.required⟩

theorem resolve_eq_ok_iff : resolve fs given document = .ok l ↔ InForce fs given document l := by
  constructor
  · intro hresolve
    rcases resolve_cases fs given document with ⟨found, hforce, hfound⟩ | ⟨_, _, _, _, hfound⟩
    · rw [hresolve] at hfound
      cases hfound
      exact hforce
    · rw [hresolve] at hfound
      cases hfound
  · intro hforce
    cases hforce with
    | file hsource hholds => rw [resolve_of_source hsource, hholds.required]
    | default hsource => exact resolve_of_no_source hsource

theorem resolve_eq_error_iff {f : Failure} : resolve fs given document = .error f ↔
    ∃ path fault, Source fs given document (some path) ∧ Faulty fs path fault ∧
      f = .config path fault := by
  constructor
  · intro hresolve
    rcases resolve_cases fs given document with
      ⟨_, _, hfound⟩ | ⟨path, fault, hsource, hfaulty, hfound⟩
    · rw [hresolve] at hfound
      cases hfound
    · rw [hresolve] at hfound
      exact ⟨path, fault, hsource, hfaulty, Except.error.inj hfound⟩
  · rintro ⟨path, fault, hsource, hfaulty, rfl⟩
    rw [resolve_of_source hsource, hfaulty.required]

end Config

/-- The API that a file describes. -/
def FileSystem.Describes (fs : FileSystem) (path : Path) (api : Api) : Prop :=
  ∃ text t, fs.readText path = .ok text ∧ decodeText (Format.ofPath path) text = .ok t ∧
    Api.ofTree t = .ok api

theorem decodeDocument_eq_ok_iff {path : Path} {format : Format} {text : String} {t : Tree} :
    decodeDocument path format text = .ok t ↔ decodeText format text = .ok t := by
  unfold decodeDocument
  cases decodeText format text <;> simp

theorem decodeDocument_eq_error_iff {path : Path} {format : Format} {text : String} {f : Failure} :
    decodeDocument path format text = .error f ↔
      ∃ fault, decodeText format text = .error fault ∧ f = .decode path format fault := by
  unfold decodeDocument
  cases decodeText format text <;> simp [eq_comm]

theorem FileSystem.loadDocument_of_error {fs : FileSystem} {path : Path} {fault : IoFault}
    (hread : fs.readText path = .error fault) : fs.loadDocument path =
      .error (if fault = .system .notFound then .specNotFound path else .io path fault) := by
  unfold loadDocument
  split
  · rename_i hmissing
    cases hread.symm.trans hmissing
    rfl
  · rename_i other hne hother
    cases hread.symm.trans hother
    rw [if_neg hne]
  · rename_i text htext
    cases hread.symm.trans htext

theorem FileSystem.loadDocument_eq_ok_iff {fs : FileSystem} {path : Path} {t : Tree} :
    fs.loadDocument path = .ok t ↔
      ∃ text, fs.readText path = .ok text ∧ decodeText (Format.ofPath path) text = .ok t := by
  cases hread : fs.readText path with
  | error fault => simp [loadDocument_of_error hread]
  | ok text => simp [loadDocument, hread, decodeDocument_eq_ok_iff]

theorem FileSystem.loadApi_eq_ok_iff {fs : FileSystem} {path : Path} {api : Api} :
    fs.loadApi path = .ok api ↔ fs.Describes path api := by
  rw [loadApi, bind_eq_ok_iff]
  simp only [loadDocument_eq_ok_iff, Describes]
  constructor
  · rintro ⟨t, ⟨text, hread, hdecode⟩, hapi⟩
    exact ⟨text, t, hread, hdecode, hapi⟩
  · rintro ⟨text, t, hread, hdecode, hapi⟩
    exact ⟨t, ⟨text, hread, hdecode⟩, hapi⟩

namespace App

/-- The checks of planning. -/
inductive PlanCheck where
  | name
  | document
  | target
  | configuration
  | reading
  | decoding
  | description
  | endpoints
  | tags
deriving DecidableEq

/-- The order in which they are made. -/
def PlanCheck.order : List PlanCheck :=
  [.name, .document, .target, .configuration, .reading, .decoding, .description, .endpoints, .tags]

/-- A check refuses a request, with a failure. What other checks come to has no part in it. -/
inductive Request.Refuses (r : Request) (fs : FileSystem) : PlanCheck → Failure → Prop where
  | name (hname : r.name.toList ∉ appNames) : r.Refuses fs .name (.invalidAppName r.name)
  | document (hmissing : fs.pathExists r.spec = false) :
      r.Refuses fs .document (.specNotFound r.spec)
  | target (hexists : fs.pathExists r.target) : r.Refuses fs .target (.targetExists r.target)
  | configuration {path : Path} {fault : ConfigFault}
      (hsource : Config.Source fs r.config r.spec (some path))
      (hfaulty : Config.Faulty fs path fault) :
      r.Refuses fs .configuration (.config path fault)
  | vanished (hread : fs.readText r.spec = .error (.system .notFound)) :
      r.Refuses fs .reading (.specNotFound r.spec)
  | unreadable {fault : IoFault} (hread : fs.readText r.spec = .error fault)
      (hfault : fault ≠ .system .notFound) : r.Refuses fs .reading (.io r.spec fault)
  | undecoded {text : String} {fault : DecodeFault} (hread : fs.readText r.spec = .ok text)
      (hdecode : decodeText (Format.ofPath r.spec) text = .error fault) :
      r.Refuses fs .decoding (.decode r.spec (Format.ofPath r.spec) fault)
  | undescribed {text : String} {t : Tree} {f : Failure} (hread : fs.readText r.spec = .ok text)
      (hdecode : decodeText (Format.ofPath r.spec) text = .ok t)
      (hfail : Api.ofTree t = .error f) : r.Refuses fs .description f
  | noEndpoints {api : Api} (hapi : fs.Describes r.spec api) (hnone : api.endpoints = []) :
      r.Refuses fs .endpoints .noEndpoints
  /-- The first group whose name is that of a group before it. -/
  | tagClash {api : Api} {before after : List Group} {first second : Group}
      (hapi : fs.Describes r.spec api) (hgroups : groups api.endpoints = before ++ second :: after)
      (hdistinct : (Emit.bindings before).Nodup) (hfirst : first ∈ before)
      (hsame : tagBinding first.tag = tagBinding second.tag) :
      r.Refuses fs .tags (.invalidDocument "tags"
        (.tagClash first.tag second.tag (tagBinding second.tag)))

/-- The failure of a check. -/
def Request.refusal? (r : Request) (fs : FileSystem) : PlanCheck → Option Failure
  | .name => failure? (checkAppName r.name)
  | .document => if fs.pathExists r.spec then none else some (.specNotFound r.spec)
  | .target => if fs.pathExists r.target then some (.targetExists r.target) else none
  | .configuration => failure? (Config.resolve fs r.config r.spec)
  | .reading =>
    (failure? (fs.readText r.spec)).map fun fault =>
      if fault = .system .notFound then .specNotFound r.spec else .io r.spec fault
  | .decoding =>
    (fs.readText r.spec).toOption.bind fun text =>
      failure? (decodeDocument r.spec (Format.ofPath r.spec) text)
  | .description => (fs.loadDocument r.spec).toOption.bind fun t => failure? (Api.ofTree t)
  | .endpoints =>
    (fs.loadApi r.spec).toOption.bind fun api =>
      if api.endpoints.isEmpty then some .noEndpoints else none
  | .tags =>
    (fs.loadApi r.spec).toOption.bind fun api =>
      failure? (Emit.checkBindings [] (groups api.endpoints))

namespace Request

variable {r : Request} {fs : FileSystem} {f : Failure}

private theorem Refuses.refusal? {check : PlanCheck} (h : r.Refuses fs check f) :
    r.refusal? fs check = some f := by
  cases h with
  | name hname =>
    have hno : ¬ isAppName r.name.toList := mt mem_appNames_iff.mpr hname
    simp [Request.refusal?, checkAppName, hno]
  | document hmissing => simp [Request.refusal?, hmissing]
  | target hexists => simp [Request.refusal?, hexists]
  | configuration hsource hfaulty =>
    rw [Request.refusal?, failure?_eq_some_iff, Config.resolve_eq_error_iff]
    exact ⟨_, _, hsource, hfaulty, rfl⟩
  | vanished hread => simp [Request.refusal?, hread]
  | unreadable hread hfault => simp [Request.refusal?, hread, hfault]
  | undecoded hread hdecode =>
    simp [Request.refusal?, hread, decodeDocument, hdecode, Except.toOption]
  | undescribed hread hdecode hfail =>
    have hload := FileSystem.loadDocument_eq_ok_iff.mpr ⟨_, hread, hdecode⟩
    simp [Request.refusal?, hload, hfail, Except.toOption]
  | noEndpoints hapi hnone =>
    simp [Request.refusal?, FileSystem.loadApi_eq_ok_iff.mpr hapi, hnone, Except.toOption]
  | @tagClash api before after first second hapi hgroups hdistinct hfirst hsame =>
    have hclash := Emit.checkBindings_refuses_iff.mpr
      ⟨before, second, after, hgroups, hdistinct, first, hfirst, hsame, rfl⟩
    simp [Request.refusal?, FileSystem.loadApi_eq_ok_iff.mpr hapi, hclash, Except.toOption]

private theorem refuses_of_refusal? {check : PlanCheck} (h : r.refusal? fs check = some f) :
    r.Refuses fs check f := by
  cases check with
  | name =>
    by_cases hname : isAppName r.name.toList
    · simp [refusal?, checkAppName, hname] at h
    · have hf : Failure.invalidAppName r.name = f := by
        simpa [refusal?, checkAppName, hname] using h
      exact hf ▸ .name (mt mem_appNames_iff.mp hname)
  | document =>
    cases hmissing : fs.pathExists r.spec with
    | true => simp [refusal?, hmissing] at h
    | false =>
      have hf : Failure.specNotFound r.spec = f := by simpa [refusal?, hmissing] using h
      exact hf ▸ .document hmissing
  | target =>
    by_cases hexists : fs.pathExists r.target
    · have hf : Failure.targetExists r.target = f := by simpa [refusal?, hexists] using h
      exact hf ▸ .target hexists
    · simp [refusal?, hexists] at h
  | configuration =>
    rw [refusal?, failure?_eq_some_iff, Config.resolve_eq_error_iff] at h
    obtain ⟨path, fault, hsource, hfaulty, rfl⟩ := h
    exact .configuration hsource hfaulty
  | reading =>
    simp only [refusal?, Option.map_eq_some_iff, failure?_eq_some_iff] at h
    obtain ⟨fault, hread, rfl⟩ := h
    by_cases hfault : fault = .system .notFound
    · rw [if_pos hfault]
      exact .vanished (hfault ▸ hread)
    · rw [if_neg hfault]
      exact .unreadable hread hfault
  | decoding =>
    simp only [refusal?, Option.bind_eq_some_iff, toOption_eq_some_iff, failure?_eq_some_iff,
      decodeDocument_eq_error_iff] at h
    obtain ⟨text, hread, fault, hdecode, rfl⟩ := h
    exact .undecoded hread hdecode
  | description =>
    simp only [refusal?, Option.bind_eq_some_iff, toOption_eq_some_iff, failure?_eq_some_iff,
      FileSystem.loadDocument_eq_ok_iff] at h
    obtain ⟨t, ⟨text, hread, hdecode⟩, hfail⟩ := h
    exact .undescribed hread hdecode hfail
  | endpoints =>
    simp only [refusal?, Option.bind_eq_some_iff, toOption_eq_some_iff,
      FileSystem.loadApi_eq_ok_iff] at h
    obtain ⟨api, hapi, hfail⟩ := h
    by_cases hnone : api.endpoints = []
    · have hf : Failure.noEndpoints = f := by simpa [hnone] using hfail
      exact hf ▸ .noEndpoints hapi hnone
    · simp [hnone] at hfail
  | tags =>
    simp only [refusal?, Option.bind_eq_some_iff, toOption_eq_some_iff, failure?_eq_some_iff,
      FileSystem.loadApi_eq_ok_iff, Emit.checkBindings_refuses_iff] at h
    obtain ⟨api, hapi, before, second, after, hgroups, hdistinct, first, hfirst, hsame, rfl⟩ := h
    exact .tagClash hapi hgroups hdistinct hfirst hsame

theorem refuses_iff {check : PlanCheck} : r.Refuses fs check f ↔ r.refusal? fs check = some f :=
  ⟨Refuses.refusal?, refuses_of_refusal?⟩

theorem failure?_loadDocument (r : Request) (fs : FileSystem) :
    failure? (fs.loadDocument r.spec) =
      (r.refusal? fs .reading).or (r.refusal? fs .decoding) := by
  rw [refusal?, refusal?]
  cases hread : fs.readText r.spec with
  | ok text =>
    rw [FileSystem.loadDocument, hread]
    rfl
  | error fault =>
    rw [FileSystem.loadDocument_of_error hread]
    rfl

theorem failure?_checkApi (api : Api) : failure? (Emit.checkApi api) =
    (if api.endpoints.isEmpty then some .noEndpoints else none).or
      (failure? (Emit.checkBindings [] (groups api.endpoints))) := by
  unfold Emit.checkApi
  split <;> rfl

/-- The checks of what the document holds, in a row. -/
theorem failure?_described (r : Request) (fs : FileSystem) (k : Api → Plan) :
    failure? (do
      let api ← fs.loadApi r.spec
      Emit.checkApi api
      return k api) =
      [.reading, .decoding, .description, .endpoints, .tags].findSome? (r.refusal? fs) := by
  -- Loading the document makes the first three of the checks.
  have hload : failure? (fs.loadApi r.spec) =
      ((r.refusal? fs .reading).or (r.refusal? fs .decoding)).or (r.refusal? fs .description) := by
    rw [FileSystem.loadApi, failure?_andThen, failure?_loadDocument]
    rfl
  have hcheck (api : Api) : failure? (do Emit.checkApi api; return k api) =
      (if api.endpoints.isEmpty then some .noEndpoints else none).or
        (failure? (Emit.checkBindings [] (groups api.endpoints))) := by
    rw [failure?_return, failure?_checkApi]
  simp only [failure?_andThen (fs.loadApi r.spec), hload, hcheck, bind_or, findSome?_cons_or,
    List.findSome?_nil, Option.or_none, Option.or_assoc]
  rfl

/-- A plan fails with the first check that refuses. -/
theorem failure?_plan (r : Request) (fs : FileSystem) :
    failure? (r.plan fs) = PlanCheck.order.findSome? (r.refusal? fs) := by
  have hrest : failure? (do
      let layout ← Config.resolve fs r.config r.spec
      let api ← fs.loadApi r.spec
      Emit.checkApi api
      return (⟨r.name, r.target, r.spec, layout, api, r.templates⟩ : Plan)) =
      [.configuration, .reading, .decoding, .description, .endpoints, .tags].findSome?
        (r.refusal? fs) := by
    rw [findSome?_cons_or]
    exact failure?_bind fun layout => failure?_described r fs fun api =>
      ⟨r.name, r.target, r.spec, layout, api, r.templates⟩
  rw [PlanCheck.order, findSome?_cons_or, findSome?_cons_or, findSome?_cons_or, ← hrest]
  refine failure?_bind fun _ => ?_
  cases hspec : fs.pathExists r.spec with
  | false =>
    simp only [refusal?, hspec]
    rfl
  | true =>
    cases htarget : fs.pathExists r.target with
    | true =>
      simp only [refusal?, hspec, htarget]
      rfl
    | false =>
      simp only [refusal?, hspec, htarget]
      rfl

theorem plan_eq_error_iff : r.plan fs = .error f ↔ ∃ before check after,
    PlanCheck.order = before ++ check :: after ∧
    (∀ earlier ∈ before, ∀ g, ¬ r.Refuses fs earlier g) ∧ r.Refuses fs check f := by
  -- A check has at most one failure, so that none of its own makes it pass.
  have hnone {check : PlanCheck} :
      r.refusal? fs check = none ↔ ∀ g, ¬ r.Refuses fs check g := by
    simp only [refuses_iff, Option.eq_none_iff_forall_ne_some, ne_eq]
  rw [← failure?_eq_some_iff, failure?_plan, List.findSome?_eq_some_iff]
  constructor
  · rintro ⟨before, check, after, horder, hcheck, hbefore⟩
    exact ⟨before, check, after, horder, fun earlier h => hnone.mp (hbefore earlier h),
      refuses_iff.mpr hcheck⟩
  · rintro ⟨before, check, after, horder, hbefore, hcheck⟩
    exact ⟨before, check, after, horder, refuses_iff.mp hcheck,
      fun earlier h => hnone.mpr (hbefore earlier h)⟩

theorem plan_eq_ok_iff {p : Plan} : r.plan fs = .ok p ↔
    (∀ check g, ¬ r.Refuses fs check g) ∧ ∃ layout api,
      Config.InForce fs r.config r.spec layout ∧ fs.Describes r.spec api ∧
      p = ⟨r.name, r.target, r.spec, layout, api, r.templates⟩ := by
  constructor
  · intro hplan
    obtain ⟨layout, api, hp, hlayout, hapi, -⟩ := of_plan hplan
    refine ⟨fun check g hcheck => ?_, layout, api, Config.resolve_eq_ok_iff.mp hlayout,
      FileSystem.loadApi_eq_ok_iff.mp hapi, hp⟩
    have hall : PlanCheck.order.findSome? (r.refusal? fs) = none := by
      rw [← failure?_plan, hplan, failure?_ok]
    have hmem : check ∈ PlanCheck.order := by cases check <;> decide
    have hnone := List.findSome?_eq_none_iff.mp hall check hmem
    rw [refuses_iff.mp hcheck] at hnone
    cases hnone
  · rintro ⟨hpass, layout, api, hlayout, hapi, rfl⟩
    cases hplan : r.plan fs with
    | error f =>
      obtain ⟨_, check, _, _, _, hcheck⟩ := plan_eq_error_iff.mp hplan
      exact absurd hcheck (hpass check f)
    | ok p =>
      obtain ⟨found, read, rfl, hfound, hread, -⟩ := of_plan hplan
      rw [Config.resolve_eq_ok_iff.mpr hlayout] at hfound
      rw [FileSystem.loadApi_eq_ok_iff.mpr hapi] at hread
      cases hfound
      cases hread
      rfl

end Request

end App

end ApiSkeleton
