import ApiSkeleton.Output
import Mathlib.Data.List.Perm.Basic
import Mathlib.Order.Defs.Unbundled

namespace ApiSkeleton

namespace Path

theorem Component.compare_eq_iff {a b : Component} : a.compare b = .eq ↔ a = b := by
  cases a <;> cases b <;> simp [Component.compare, Component.rank]

theorem compareComponents_eq_iff {as bs : List Component} :
    compareComponents as bs = .eq ↔ as = bs := by
  induction as generalizing bs with
  | nil => cases bs <;> simp [compareComponents]
  | cons a rest ih =>
    cases bs with
    | nil => simp [compareComponents]
    | cons b more => simp [compareComponents, Ordering.then_eq_eq, Component.compare_eq_iff, ih]

end Path

/-- The place of a file, which does not depend on how its path is written. -/
def OutputFile.place (f : OutputFile) : List Path.Component := f.path.components

/-- Steps each of which gives a file are those of a list of files. -/
theorem exists_files_of_steps {α : Type} {items : List α} {step : α → Step} {path : α → Path}
    (h : ∀ a ∈ items, ∃ content, step a = .ok ⟨path a, content⟩) :
    ∃ written : List OutputFile,
      items.map step = written.map .ok ∧ written.map (·.path) = items.map path := by
  induction items with
  | nil => exact ⟨[], rfl, rfl⟩
  | cons a rest ih =>
    rw [List.forall_mem_cons] at h
    obtain ⟨content, hfirst⟩ := h.1
    obtain ⟨written, hsteps, hpaths⟩ := ih h.2
    exact ⟨⟨path a, content⟩ :: written, by simp [hfirst, hsteps], by simp [hpaths]⟩

namespace Sink

variable {σ : Type} (sink : Sink σ)

/-- Steps one behind the other are run one behind the other. -/
theorem run_append (first second : List Step) (s : σ) :
    sink.run s (first ++ second) =
      followedBy (sink.run s first) fun t => sink.run t second := by
  induction first generalizing s with
  | nil =>
    cases hrun : sink.run s second with
    | mk final result => cases result <;> simp [run, followedBy, hrun, Except.map]
  | cons step rest ih =>
    cases step with
    | error f => rfl
    | ok file =>
      rw [List.cons_append, run, run]
      rcases sink.write s file with ⟨t, f | _⟩
      · rfl
      · simp only [ih, followedBy]
        rcases sink.run t rest with ⟨u, f | paths⟩
        · rfl
        · cases hrun : sink.run u second with
          | mk final result => cases result <;> simp [hrun, Except.map]

variable {sink}

theorem of_run_cons {s final : σ} {step : Step} {rest : List Step} {paths : List Path}
    (h : sink.run s (step :: rest) = (final, .ok paths)) : ∃ file t more, step = .ok file ∧
      sink.write s file = (t, .ok ()) ∧ sink.run t rest = (final, .ok more) ∧
      paths = file.path :: more := by
  cases step with
  | error f => cases h
  | ok file =>
    rw [run] at h
    rcases hwrite : sink.write s file with ⟨t, f | _⟩
    · simp [hwrite] at h
    · simp only [hwrite] at h
      rcases hrun : sink.run t rest with ⟨u, f | more⟩
      · simp [hrun, Except.map] at h
      · simp only [hrun, Except.map, Prod.mk.injEq, Except.ok.injEq] at h
        exact ⟨file, t, more, rfl, hwrite, h.1 ▸ hrun, h.2.symm⟩

theorem paths_of_run_files {files : List OutputFile} {s final : σ} {paths : List Path}
    (h : sink.run s (files.map .ok) = (final, .ok paths)) : paths = files.map (·.path) := by
  induction files generalizing s paths with
  | nil =>
    cases h
    rfl
  | cons f rest ih =>
    obtain ⟨file, t, more, hfile, -, hrun, rfl⟩ := of_run_cons h
    rw [ih hrun, List.map_cons, Except.ok.inj hfile]

/-- A run that succeeds writes a file for each step. -/
theorem files_of_run {steps : List Step} {s final : σ} {paths : List Path}
    (h : sink.run s steps = (final, .ok paths)) :
    ∃ done : List OutputFile, steps = done.map .ok ∧ paths = done.map (·.path) := by
  induction steps generalizing s paths with
  | nil =>
    cases h
    exact ⟨[], rfl, rfl⟩
  | cons step rest ih =>
    obtain ⟨file, t, more, rfl, -, hrun, rfl⟩ := of_run_cons h
    obtain ⟨done, rfl, rfl⟩ := ih hrun
    exact ⟨file :: done, rfl, rfl⟩

/-- A run that fails has written the files of the steps before one that is a failure, or whose file
is refused. -/
theorem of_run_error {steps : List Step} {s final : σ} {f : Failure}
    (h : sink.run s steps = (final, .error f)) : ∃ (done : List OutputFile) (step : Step)
      (rest : List Step) (t : σ), steps = done.map .ok ++ step :: rest ∧
      sink.run s (done.map .ok) = (t, .ok (done.map (·.path))) ∧
      (step = .error f ∧ final = t ∨
        ∃ file, step = .ok file ∧ sink.write t file = (final, .error f)) := by
  induction steps generalizing s with
  | nil => cases h
  | cons step rest ih =>
    cases step with
    | error g =>
      cases h
      exact ⟨[], .error f, rest, _, rfl, rfl, .inl ⟨rfl, rfl⟩⟩
    | ok file =>
      rw [run] at h
      rcases hwrite : sink.write s file with ⟨t, g | _⟩
      · simp only [hwrite] at h
        cases h
        exact ⟨[], .ok file, rest, s, rfl, rfl, .inr ⟨file, rfl, hwrite⟩⟩
      · simp only [hwrite] at h
        rcases hrun : sink.run t rest with ⟨u, g | paths⟩
        · rw [hrun] at h
          cases h
          obtain ⟨done, step, more, v, rfl, hdone, hlast⟩ := ih hrun
          refine ⟨file :: done, step, more, v, rfl, ?_, hlast⟩
          simp only [List.map_cons, run, hwrite, hdone, Except.map]
        · simp [hrun, Except.map] at h

theorem of_followedBy {first : σ × Except Failure (List Path)}
    {next : σ → σ × Except Failure (List Path)} {final : σ} {paths : List Path}
    (h : followedBy first next = (final, .ok paths)) : ∃ t before rest,
      first = (t, .ok before) ∧ next t = (final, .ok rest) ∧ paths = before ++ rest := by
  obtain ⟨t, f | before⟩ := first
  · cases h
  · rw [followedBy] at h
    simp only at h
    rcases hnext : next t with ⟨u, f | rest⟩
    · simp [hnext, Except.map] at h
    · simp only [hnext, Except.map, Prod.mk.injEq, Except.ok.injEq] at h
      exact ⟨t, before, rest, rfl, h.1 ▸ hnext, h.2.symm⟩

theorem each_cons {α : Type} (act : α → σ → σ × Except Failure (List Path)) (a : α)
    (rest : List α) (s : σ) : each act (a :: rest) s = followedBy (act a s) (each act rest) := rfl

variable {R : σ → σ → Prop} [IsPreorder σ R]

theorem run_relates {steps : List Step}
    (hwrite : ∀ s file, .ok file ∈ steps → R s (sink.write s file).1) (s : σ) :
    R s (sink.run s steps).1 := by
  induction steps generalizing s with
  | nil => exact refl_of R s
  | cons step rest ih =>
    cases step with
    | error f => exact refl_of R s
    | ok file =>
      have hfirst := hwrite s file (List.mem_cons_self ..)
      have hrest := ih fun t f hf => hwrite t f (List.mem_cons_of_mem _ hf)
      rw [run]
      rcases hwritten : sink.write s file with ⟨t, f | _⟩
      · rwa [hwritten] at hfirst
      · rw [hwritten] at hfirst
        exact trans_of R hfirst (hrest t)

theorem each_relates {α : Type} {act : α → σ → σ × Except Failure (List Path)} {items : List α}
    (hact : ∀ a ∈ items, ∀ s, R s (act a s).1) (s : σ) : R s (each act items s).1 := by
  induction items generalizing s with
  | nil => exact refl_of R s
  | cons a rest ih =>
    rw [List.forall_mem_cons] at hact
    have hfirst := hact.1 s
    rw [each]
    rcases hdone : act a s with ⟨t, f | paths⟩
    · rwa [hdone] at hfirst
    · rw [hdone] at hfirst
      exact trans_of R hfirst (ih hact.2 t)

theorem followedBy_relates {first : σ × Except Failure (List Path)}
    {next : σ → σ × Except Failure (List Path)} {s : σ} (hfirst : R s first.1)
    (hnext : ∀ t, R t (next t).1) : R s (followedBy first next).1 := by
  obtain ⟨t, f | paths⟩ := first
  · exact hfirst
  · exact trans_of R hfirst (hnext t)

variable {τ : Type}

/-- The outcome of a run beside a state that it does not touch. -/
def keep (t : τ) (outcome : σ × Except Failure (List Path)) :
    (τ × σ) × Except Failure (List Path) :=
  ((t, outcome.1), outcome.2)

theorem run_beside (sink : Sink σ) (t : τ) (steps : List Step) (s : σ) :
    (sink.beside τ).run (t, s) steps = keep t (sink.run s steps) := by
  induction steps generalizing s with
  | nil => rfl
  | cons step rest ih =>
    cases step with
    | error f => rfl
    | ok file =>
      have hwrite : (sink.beside τ).write (t, s) file =
          ((t, (sink.write s file).1), (sink.write s file).2) := rfl
      rw [run, run, hwrite]
      rcases sink.write s file with ⟨u, f | _⟩
      · rfl
      · simp only [ih]
        rfl

theorem each_beside {α : Type} {t : τ} {act : α → σ → σ × Except Failure (List Path)}
    {actBeside : α → τ × σ → (τ × σ) × Except Failure (List Path)}
    (hact : ∀ a s, actBeside a (t, s) = keep t (act a s)) (items : List α) (s : σ) :
    each actBeside items (t, s) = keep t (each act items s) := by
  induction items generalizing s with
  | nil => rfl
  | cons a rest ih =>
    rw [each, each, hact]
    rcases act a s with ⟨u, f | paths⟩
    · rfl
    · simp only [keep, ih]

theorem followedBy_beside {t : τ} {first : σ × Except Failure (List Path)}
    {next : σ → σ × Except Failure (List Path)}
    {nextBeside : τ × σ → (τ × σ) × Except Failure (List Path)}
    (hnext : ∀ s, nextBeside (t, s) = keep t (next s)) :
    followedBy (keep t first) nextBeside = keep t (followedBy first next) := by
  obtain ⟨s, f | paths⟩ := first
  · rfl
  · simp only [followedBy, keep, hnext]

end Sink

namespace Memory

private theorem insert_perm {file : OutputFile} {m : Memory} (hnew : file.place ∉ m.map (·.place)) :
    (insert file m).Perm (file :: m) := by
  induction m with
  | nil => exact .refl _
  | cons f rest ih =>
    simp only [List.map_cons, List.mem_cons, not_or] at hnew
    rw [insert]
    cases hcompare : Path.compareComponents file.path.components f.path.components with
    | lt => exact .refl _
    | eq => exact absurd (Path.compareComponents_eq_iff.mp hcompare) hnew.1
    | gt => exact ((ih hnew.2).cons f).trans (.swap file f rest)

/-- Files inside the application are all taken. -/
theorem run_files {files : List OutputFile} (hinside : ∀ f ∈ files, f.path.staysInside)
    (m : Memory) : sink.run m (files.map .ok) =
      (files.foldl (fun n f => insert f n) m, .ok (files.map (·.path))) := by
  induction files generalizing m with
  | nil => rfl
  | cons f rest ih =>
    rw [List.forall_mem_cons] at hinside
    have hwrite : sink.write m f = (insert f m, .ok ()) := by
      simp [sink, write, checkInside, hinside.1]
    simp [Sink.run, hwrite, ih hinside.2, Except.map]

/-- Files in different places are kept side by side. -/
theorem foldl_insert_perm {files : List OutputFile} {m : Memory}
    (hplaces : ((m ++ files).map (·.place)).Nodup) :
    (files.foldl (fun n f => insert f n) m).Perm (m ++ files) := by
  induction files generalizing m with
  | nil => simp
  | cons f rest ih =>
    have hfirst : ((f :: (m ++ rest)).map (·.place)).Nodup :=
      (List.perm_middle.map _).nodup hplaces
    have hnew : f.place ∉ m.map (·.place) := by
      intro hmem
      rw [List.map_cons, List.nodup_cons, List.map_append, List.mem_append] at hfirst
      exact hfirst.1 (.inl hmem)
    have hperm : (insert f m ++ rest).Perm (f :: (m ++ rest)) :=
      (insert_perm hnew).append_right rest
    exact (ih ((hperm.map _).nodup_iff.mpr hfirst)).trans (hperm.trans List.perm_middle.symm)

theorem content?_eq_none {m : Memory} {path : Path}
    (h : ∀ f ∈ m, f.path.components ≠ path.components) : m.content? path = none := by
  simpa [content?] using h

/-- Every file that is kept has its content. -/
theorem content?_of_mem {m : Memory} (hplaces : (m.map (·.place)).Nodup) {f : OutputFile}
    (hf : f ∈ m) : m.content? f.path = some f.content := by
  induction m with
  | nil => cases hf
  | cons g rest ih =>
    rw [List.map_cons, List.nodup_cons] at hplaces
    rcases List.mem_cons.mp hf with hfirst | hrest
    · simp [content?, hfirst]
    · have hne : g.path.components ≠ f.path.components := by
        intro heq
        exact hplaces.1 (List.mem_map.mpr ⟨f, hrest, heq.symm⟩)
      have hfound := ih hplaces.2 hrest
      simp only [content?, List.find?_cons, beq_eq_false_iff_ne.mpr hne] at hfound ⊢
      exact hfound

end Memory

end ApiSkeleton
