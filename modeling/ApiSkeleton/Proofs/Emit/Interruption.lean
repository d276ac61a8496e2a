import ApiSkeleton.Proofs.Emit.Generation

namespace ApiSkeleton

namespace Sink

variable {σ : Type} (sink : Sink σ)

/-- A sink that notes every file it is asked to take, those it refuses among them. -/
def noting : Sink (List OutputFile × σ) where
  write := fun (noted, s) file =>
    let (t, result) := sink.write s file
    ((noted ++ [file], t), result)

theorem noting_write (noted : List OutputFile) (s : σ) (file : OutputFile) :
    sink.noting.write (noted, s) file =
      ((noted ++ [file], (sink.write s file).1), (sink.write s file).2) := rfl

theorem limited_write_zero (s : σ) (file : OutputFile) :
    sink.limited.write (0, s) file = ((0, s), .error (.io file.path .diskFull)) := rfl

theorem limited_write_succ (n : Nat) (s : σ) (file : OutputFile) :
    sink.limited.write (n + 1, s) file =
      ((n, (sink.write s file).1), (sink.write s file).2) := rfl

/-- The files that a run asks a sink to take, in order: the last one may be refused. -/
def asked : σ → List Step → List OutputFile
  | _, [] => []
  | _, .error _ :: _ => []
  | s, .ok file :: rest =>
    match sink.write s file with
    | (_, .error _) => [file]
    | (t, .ok ()) => file :: asked t rest

/-- The state of a sink after it was asked to take some files. -/
def after (s : σ) (files : List OutputFile) : σ := files.foldl (fun t f => (sink.write t f).1) s

/-- Taking notes changes nothing else. -/
private theorem run_noting (noted : List OutputFile) (s : σ) (steps : List Step) :
    sink.noting.run (noted, s) steps =
      ((noted ++ sink.asked s steps, (sink.run s steps).1), (sink.run s steps).2) := by
  induction steps generalizing noted s with
  | nil => simp [run, asked]
  | cons step rest ih =>
    cases step with
    | error f => simp [run, asked]
    | ok file =>
      rw [run, run, asked]
      rcases hwrite : sink.write s file with ⟨t, f | _⟩
      · simp [noting_write, hwrite]
      · simp [noting_write, hwrite, ih]

/-- A run that succeeds reports the files that the sink was asked to take. -/
private theorem paths_of_run {s : σ} {steps : List Step} {paths : List Path}
    (hdone : (sink.run s steps).2 = .ok paths) : paths = (sink.asked s steps).map (·.path) := by
  induction steps generalizing s paths with
  | nil =>
    cases hdone
    rfl
  | cons step rest ih =>
    cases step with
    | error f => cases hdone
    | ok file =>
      rw [run] at hdone
      rw [asked]
      rcases hwrite : sink.write s file with ⟨t, f | _⟩
      · simp [hwrite] at hdone
      · rw [hwrite] at hdone
        cases hrest : (sink.run t rest).2 with
        | error f => simp [hrest, Except.map] at hdone
        | ok others =>
          have hpaths : file.path :: others = paths := by simpa [hrest, Except.map] using hdone
          rw [← hpaths, ih hrest, List.map_cons]

/-- With a limit, a run asks for the files within the limit and for one more, if there is one. -/
private theorem asked_limited (n : Nat) (s : σ) (steps : List Step) :
    sink.limited.asked (n, s) steps = (sink.asked s steps).take (n + 1) := by
  induction steps generalizing n s with
  | nil => simp [asked]
  | cons step rest ih =>
    cases step with
    | error f => simp [asked]
    | ok file =>
      rw [asked, asked]
      cases n with
      | zero => rcases sink.write s file with ⟨t, f | _⟩ <;> simp [limited_write_zero]
      | succ n =>
        rcases hwrite : sink.write s file with ⟨t, f | _⟩
        · simp [limited_write_succ, hwrite]
        · simp [limited_write_succ, hwrite, ih]

/-- A limit that is not reached makes no difference. -/
private theorem run_limited_of_le {n : Nat} {s : σ} {steps : List Step}
    (hroom : (sink.asked s steps).length ≤ n) :
    sink.limited.run (n, s) steps =
      ((n - (sink.asked s steps).length, (sink.run s steps).1), (sink.run s steps).2) := by
  induction steps generalizing n s with
  | nil => simp [run, asked]
  | cons step rest ih =>
    cases step with
    | error f => simp [run, asked]
    | ok file =>
      rw [asked] at hroom ⊢
      rw [run, run]
      rcases hwrite : sink.write s file with ⟨t, f | _⟩
      · rw [hwrite] at hroom
        obtain ⟨more, rfl⟩ : ∃ more, n = more + 1 := Nat.exists_eq_add_one.mpr hroom
        simp [limited_write_succ, hwrite]
      · rw [hwrite] at hroom
        simp only [List.length_cons] at hroom
        obtain ⟨more, rfl⟩ : ∃ more, n = more + 1 := Nat.exists_eq_add_one.mpr (by omega)
        have hrest := ih (Nat.le_of_succ_le_succ hroom)
        simp [limited_write_succ, hwrite, hrest]

/-- A limit that is reached ends the run with the file that is refused, and leaves what the files
before it have made of the sink. -/
private theorem run_limited_of_lt {n : Nat} {s : σ} {steps : List Step}
    (hfull : n < (sink.asked s steps).length) :
    ∃ file, (sink.asked s steps)[n]? = some file ∧
      sink.limited.run (n, s) steps =
        ((0, sink.after s ((sink.asked s steps).take n)), .error (.io file.path .diskFull)) := by
  induction steps generalizing n s with
  | nil => cases hfull
  | cons step rest ih =>
    cases step with
    | error f => cases hfull
    | ok file =>
      rw [asked] at hfull ⊢
      rw [run]
      cases n with
      | zero =>
        refine ⟨file, ?_, by simp [limited_write_zero, after]⟩
        rcases sink.write s file with ⟨t, f | _⟩ <;> rfl
      | succ n =>
        rcases hwrite : sink.write s file with ⟨t, f | _⟩
        · simp [hwrite] at hfull
        · rw [hwrite] at hfull
          obtain ⟨refused, hrefused, hrun⟩ := ih (Nat.lt_of_succ_lt_succ hfull)
          refine ⟨refused, by simpa using hrefused, ?_⟩
          simp [limited_write_succ, hwrite, hrun, after, Except.map]

end Sink

namespace Emit

open Model

/-- Generating into memory that takes only some files, for any API and any layout, whether or not
they have passed their checks. If there is a file beyond the limit, then generating fails with its
refusal, asks for no file after it, and leaves the files before it as they were written; if there is
none, the limit makes no difference. A success reports the files that were asked for. The notes that
are taken of these do not change either run. -/
theorem generate_limited (l : Layout) (api : Api) (m : Memory) (n : Nat) :
    let full := generate Memory.sink.noting l api ([], m)
    let asked := full.1.1
    let cut := generate Memory.sink.limited.noting l api ([], (n, m))
    (n < asked.length → ∃ file, asked[n]? = some file ∧
      cut.2 = .error (.io file.path .diskFull) ∧ cut.1.1 = asked.take (n + 1) ∧
      cut.1.2.2 = Memory.sink.after m (asked.take n)) ∧
    (asked.length ≤ n → cut.2 = full.2 ∧ cut.1.1 = asked ∧ cut.1.2.2 = full.1.2) ∧
    (∀ paths, full.2 = .ok paths → paths = asked.map (·.path)) ∧
    generate Memory.sink l api m = (full.1.2, full.2) ∧
    generate Memory.sink.limited l api (n, m) = (cut.1.2, cut.2) := by
  intro full asked cut
  have hfull : full = ((Memory.sink.asked m (steps l api), (generate Memory.sink l api m).1),
      (generate Memory.sink l api m).2) := by
    simp [full, generate, Sink.run_noting]
  have hasked : asked = Memory.sink.asked m (steps l api) := by simp [asked, hfull]
  have hcut : cut = ((asked.take (n + 1), (generate Memory.sink.limited l api (n, m)).1),
      (generate Memory.sink.limited l api (n, m)).2) := by
    simp [cut, generate, Sink.run_noting, Sink.asked_limited, hasked]
  refine ⟨fun hlimit => ?_, fun hroom => ?_, fun paths hdone => ?_, by simp [hfull],
    by simp [hcut]⟩
  · rw [hasked] at hlimit
    obtain ⟨file, hfile, hrun⟩ := Memory.sink.run_limited_of_lt hlimit
    refine ⟨file, by rw [hasked, hfile], ?_, by rw [hcut], ?_⟩
    · simp [hcut, generate, hrun]
    · simp [hcut, generate, hrun, hasked]
  · have hrun := Memory.sink.run_limited_of_le (hasked ▸ hroom)
    have htake : asked.take (n + 1) = asked := List.take_of_length_le (by omega)
    refine ⟨?_, by rw [hcut, htake], ?_⟩
    · simp [hcut, hfull, generate, hrun]
    · simp [hcut, hfull, generate, hrun]
  · rw [hasked]
    exact Memory.sink.paths_of_run (by simpa [hfull, generate] using hdone)

/-- Of eight files three are taken. The router of the first group is refused, and no file after it
is asked for. -/
theorem shop_interrupted :
    let full := generate Memory.sink.noting defaultLayout shop ([], [])
    let cut := generate Memory.sink.limited.noting defaultLayout shop ([], (3, []))
    (∃ paths, full.2 = .ok paths ∧ paths = full.1.1.map (·.path) ∧ paths.length = 8) ∧
    cut.2 = .error (.io (defaultLayout.routerPath "Pets") .diskFull) ∧
    cut.1.1 = full.1.1.take 4 ∧ cut.1.2.2 = Memory.sink.after [] (full.1.1.take 3) := by
  intro full cut
  obtain ⟨hcut, -, hpaths, hfull, -⟩ := generate_limited defaultLayout shop [] 3
  have hdone := (generate_of_checked (Layout.fault?_eq_none_iff.mp generate_shop.1) shop_wellFormed
    (by decide) rfl).1
  rw [hfull] at hdone
  have hasked := hpaths _ hdone
  have hlength : full.1.1.length = 8 := by rw [← List.length_map, ← hasked]; rfl
  obtain ⟨file, hfile, hrefused, htaken, hmemory⟩ :=
    hcut (Nat.lt_of_lt_of_eq (by decide) hlength.symm)
  have hplace : some file.path = some (defaultLayout.routerPath "Pets") := by
    rw [← Option.map_some, ← hfile, ← List.getElem?_map, ← hasked]
    rfl
  rw [Option.some.inj hplace] at hrefused
  exact ⟨⟨_, hdone, hasked, rfl⟩, hrefused, htaken, hmemory⟩

end Emit

end ApiSkeleton
