import ApiSkeleton.Proofs.Output
import Mathlib

namespace ApiSkeleton

namespace Path

theorem Component.compare_lt_iff {a b : Component} : a.compare b = .lt ↔
    a.rank < b.rank ∨ ∃ s t, a = .name s ∧ b = .name t ∧ Ord.compare s t = .lt := by
  cases a <;> cases b <;> simp [Component.compare, Component.rank, Nat.compare_eq_lt]

theorem Component.compare_lt_trans {a b c : Component} (hab : a.compare b = .lt)
    (hbc : b.compare c = .lt) : a.compare c = .lt := by
  rw [compare_lt_iff] at hab hbc ⊢
  rcases hab with hab | ⟨s, t, rfl, rfl, hst⟩
  · rcases hbc with hbc | ⟨t, u, rfl, rfl, -⟩
    · exact .inl (hab.trans hbc)
    · exact .inl hab
  · rcases hbc with hbc | ⟨t', u, ht, rfl, htu⟩
    · exact .inl hbc
    · rw [← Component.name.inj ht] at htu
      exact .inr ⟨s, u, rfl, rfl, Std.TransCmp.lt_trans hst htu⟩

theorem Component.compare_swap (a b : Component) : (a.compare b).swap = b.compare a := by
  cases a <;> cases b <;> simp only [Component.compare, Component.rank] <;>
    exact Std.OrientedCmp.eq_swap.symm

theorem compareComponents_swap (as bs : List Component) :
    (compareComponents as bs).swap = compareComponents bs as := by
  induction as generalizing bs with
  | nil => cases bs <;> rfl
  | cons a rest ih =>
    cases bs with
    | nil => rfl
    | cons b more =>
      rw [compareComponents, compareComponents, Ordering.swap_then, Component.compare_swap, ih]

theorem compareComponents_lt_iff {a b : Component} {as bs : List Component} :
    compareComponents (a :: as) (b :: bs) = .lt ↔
      a.compare b = .lt ∨ a = b ∧ compareComponents as bs = .lt := by
  rw [compareComponents, Ordering.then_eq_lt, Component.compare_eq_iff]

theorem compareComponents_lt_trans {as bs cs : List Component}
    (hab : compareComponents as bs = .lt) (hbc : compareComponents bs cs = .lt) :
    compareComponents as cs = .lt := by
  induction as generalizing bs cs with
  | nil =>
    cases cs with
    | nil => cases bs <;> cases hbc
    | cons c more => rfl
  | cons a rest ih =>
    cases bs with
    | nil => cases hab
    | cons b more =>
      cases cs with
      | nil => cases hbc
      | cons c others =>
        rw [compareComponents_lt_iff] at hab hbc ⊢
        rcases hab with hab | ⟨rfl, hab⟩
        · rcases hbc with hbc | ⟨rfl, -⟩
          · exact .inl (Component.compare_lt_trans hab hbc)
          · exact .inl hab
        · rcases hbc with hbc | ⟨rfl, hbc⟩
          · exact .inl hbc
          · exact .inr ⟨rfl, ih hab hbc⟩

end Path

/-- A file comes before another one in the order of their places. -/
def OutputFile.Before (f g : OutputFile) : Prop :=
  Path.compareComponents f.place g.place = .lt

theorem OutputFile.Before.ne {f g : OutputFile} (h : f.Before g) : f.place ≠ g.place := by
  intro heq
  rw [OutputFile.Before, Path.compareComponents_eq_iff.mpr heq] at h
  cases h

theorem OutputFile.Before.trans {f g k : OutputFile} (h : f.Before g) (h' : g.Before k) :
    f.Before k :=
  Path.compareComponents_lt_trans h h'

/-- Tries to write files one after the other, also behind one that is refused, and gives those that
were taken. -/
def Sink.attempt {σ : Type} (sink : Sink σ) : σ → List OutputFile → σ × List OutputFile
  | s, [] => (s, [])
  | s, file :: rest =>
    match sink.write s file with
    | (t, .ok ()) =>
      let (final, taken) := sink.attempt t rest
      (final, file :: taken)
    | (t, .error _) => sink.attempt t rest

namespace Memory

/-- A file is taken unless its path leaves, and is put in its place then. -/
private theorem attempt_eq (m : Memory) (files : List OutputFile) :
    sink.attempt m files = ((files.filter (·.path.staysInside)).foldl (fun n f => insert f n) m,
      files.filter (·.path.staysInside)) := by
  induction files generalizing m with
  | nil => rfl
  | cons f rest ih =>
    cases hinside : f.path.staysInside with
    | true =>
      have hwrite : sink.write m f = (insert f m, .ok ()) := by
        simp [sink, write, checkInside, hinside]
      simp [Sink.attempt, hwrite, ih, hinside]
    | false =>
      have hwrite : sink.write m f = (m, .error (.io f.path .outsideRoot)) := by
        simp [sink, write, checkInside, hinside]
      simp [Sink.attempt, hwrite, ih, hinside]

/-- The files are in the strict order of their places. -/
def Sorted (m : Memory) : Prop := m.Pairwise OutputFile.Before

private theorem Sorted.nodup_places {m : Memory} (h : m.Sorted) : (m.map (·.place)).Nodup :=
  List.pairwise_map.mpr (h.imp OutputFile.Before.ne)

theorem place_of_mem_insert {file f : OutputFile} {m : Memory} (hf : f ∈ insert file m) :
    f.place = file.place ∨ f ∈ m := by
  induction m with
  | nil => exact .inl (congrArg OutputFile.place (List.mem_singleton.mp hf))
  | cons g rest ih =>
    rw [insert] at hf
    cases hcompare : Path.compareComponents file.path.components g.path.components with
    | lt =>
      simp only [hcompare] at hf
      rcases List.mem_cons.mp hf with rfl | hold
      · exact .inl rfl
      · exact .inr hold
    | eq =>
      simp only [hcompare] at hf
      rcases List.mem_cons.mp hf with rfl | hold
      · exact .inl (Path.compareComponents_eq_iff.mp hcompare).symm
      · exact .inr (List.mem_cons_of_mem g hold)
    | gt =>
      simp only [hcompare] at hf
      rcases List.mem_cons.mp hf with rfl | hrest
      · exact .inr (List.mem_cons_self ..)
      · exact (ih hrest).imp_right (List.mem_cons_of_mem g)

private theorem Sorted.insert {m : Memory} (h : m.Sorted) (file : OutputFile) :
    (Memory.insert file m).Sorted := by
  induction m with
  | nil => exact List.pairwise_singleton ..
  | cons g rest ih =>
    obtain ⟨hfirst, hrest⟩ := List.pairwise_cons.mp h
    rw [Memory.insert]
    cases hcompare : Path.compareComponents file.path.components g.path.components with
    | lt =>
      have hbefore : file.Before g := hcompare
      refine List.pairwise_cons.mpr ⟨fun k hk => ?_, h⟩
      rcases List.mem_cons.mp hk with rfl | hk
      · exact hbefore
      · exact hbefore.trans (hfirst k hk)
    | eq => exact List.pairwise_cons.mpr ⟨hfirst, hrest⟩
    | gt =>
      have hafter : g.Before file := by
        rw [OutputFile.Before, ← Path.compareComponents_swap]
        exact congrArg Ordering.swap hcompare
      refine List.pairwise_cons.mpr ⟨fun k hk => ?_, ih hrest⟩
      rcases place_of_mem_insert hk with hplace | hold
      · rw [OutputFile.Before, hplace]
        exact hafter
      · exact hfirst k hold

/-- What is kept for a place. -/
def entryAt? (m : Memory) (place : List Path.Component) : Option OutputFile :=
  m.find? (·.place == place)

theorem content?_eq_entryAt? (m : Memory) (path : Path) :
    m.content? path = (m.entryAt? path.components).map (·.content) := rfl

/-- Nothing is kept for a place that comes before all others. -/
private theorem entryAt?_eq_none_of_before {m : Memory} {file : OutputFile}
    (h : ∀ f ∈ m, file.Before f) :
    m.entryAt? file.place = none := by
  rw [entryAt?, List.find?_eq_none]
  intro f hf heq
  exact (h f hf).ne (eq_of_beq heq).symm

/-- A file that is put gives its place new content, and the path only if there was none. -/
theorem entryAt?_insert {m : Memory} (h : m.Sorted) (file : OutputFile)
    (place : List Path.Component) : (insert file m).entryAt? place =
      if file.place = place then
        some ⟨((m.entryAt? place).map (·.path)).getD file.path, file.content⟩
      else m.entryAt? place := by
  induction m with
  | nil =>
    by_cases hplace : file.place = place
    · simp [insert, entryAt?, hplace]
    · simp [insert, entryAt?, hplace]
  | cons g rest ih =>
    obtain ⟨hfirst, hrest⟩ := List.pairwise_cons.mp h
    rw [insert]
    cases hcompare : Path.compareComponents file.path.components g.path.components with
    | lt =>
      -- The place is new, as all that is kept comes behind it.
      have hnone : entryAt? (g :: rest) file.place = none := by
        refine entryAt?_eq_none_of_before fun f hf => ?_
        have hbefore : file.Before g := hcompare
        rcases List.mem_cons.mp hf with rfl | hf
        · exact hbefore
        · exact hbefore.trans (hfirst f hf)
      by_cases hplace : file.place = place
      · subst hplace
        simp only [hnone, if_true, Option.map_none, Option.getD_none]
        simp [entryAt?]
      · simp only [hplace, if_false]
        simp [entryAt?, List.find?_cons, hplace]
    | eq =>
      have hsame : file.place = g.place := Path.compareComponents_eq_iff.mp hcompare
      have hkept : OutputFile.place ⟨g.path, file.content⟩ = g.place := rfl
      by_cases hplace : file.place = place
      · simp [entryAt?, hkept, ← hsame, hplace]
      · simp [entryAt?, hkept, ← hsame, hplace]
    | gt =>
      have hne : g.place ≠ file.place := by
        intro heq
        rw [← OutputFile.place, ← OutputFile.place, heq,
          Path.compareComponents_eq_iff.mpr rfl] at hcompare
        cases hcompare
      simp only [entryAt?, List.find?_cons] at ih ⊢
      by_cases hg : g.place = place
      · simp [hg, hg ▸ hne.symm]
      · simpa [beq_eq_false_iff_ne.mpr hg] using ih hrest

theorem content?_cons (f : OutputFile) (rest : Memory) (path : Path) :
    content? (f :: rest) path =
      if f.place = path.components then some f.content else rest.content? path := by
  rw [content?_eq_entryAt?, entryAt?, List.find?_cons]
  by_cases hplace : f.place = path.components
  · rw [if_pos hplace, beq_iff_eq.mpr hplace]
    rfl
  · rw [if_neg hplace, beq_eq_false_iff_ne.mpr hplace]
    rfl

theorem content?_insert (file : OutputFile) (m : Memory) (path : Path) :
    (insert file m).content? path =
      if file.place = path.components then some file.content else m.content? path := by
  induction m with
  | nil => exact content?_cons file [] path
  | cons g rest ih =>
    rw [insert]
    cases hcompare : Path.compareComponents file.path.components g.path.components with
    | lt => exact content?_cons file (g :: rest) path
    | eq =>
      have hsame : file.place = g.place := Path.compareComponents_eq_iff.mp hcompare
      have hkept : OutputFile.place ⟨g.path, file.content⟩ = g.place := rfl
      simp only [content?_cons, hkept, hsame]
      split <;> rfl
    | gt =>
      have hne : file.place ≠ g.place := by
        intro heq
        rw [← OutputFile.place, ← OutputFile.place,
          Path.compareComponents_eq_iff.mpr heq] at hcompare
        cases hcompare
      simp only [content?_cons, ih]
      by_cases hg : g.place = path.components
      · rw [if_pos hg, if_neg (hg ▸ hne), if_pos hg]
      · rw [if_neg hg, if_neg hg]

/-- The first file written to a place. -/
def firstWrite? (files : List OutputFile) (place : List Path.Component) : Option OutputFile :=
  files.find? (·.place == place)

/-- The last file written to a place. -/
def lastWrite? (files : List OutputFile) (place : List Path.Component) : Option OutputFile :=
  files.reverse.find? (·.place == place)

theorem firstWrite?_concat (files : List OutputFile) (f : OutputFile)
    (place : List Path.Component) : firstWrite? (files ++ [f]) place =
      (firstWrite? files place).or (if f.place = place then some f else none) := by
  rw [firstWrite?, firstWrite?, List.find?_append]
  by_cases hf : f.place = place <;> simp [hf]

theorem lastWrite?_concat (files : List OutputFile) (f : OutputFile)
    (place : List Path.Component) : lastWrite? (files ++ [f]) place =
      if f.place = place then some f else lastWrite? files place := by
  rw [lastWrite?, lastWrite?, List.reverse_append]
  by_cases hf : f.place = place <;> simp [hf]

theorem place_of_lastWrite? {files : List OutputFile} {place : List Path.Component}
    {last : OutputFile} (h : lastWrite? files place = some last) :
    last ∈ files ∧ last.place = place :=
  ⟨List.mem_reverse.mp (List.mem_of_find?_eq_some h), by simpa using List.find?_some h⟩

theorem firstWrite?_eq_none_iff {files : List OutputFile} {place : List Path.Component} :
    firstWrite? files place = none ↔ ∀ f ∈ files, f.place ≠ place := by
  simp [firstWrite?]

theorem lastWrite?_eq_none_iff {files : List OutputFile} {place : List Path.Component} :
    lastWrite? files place = none ↔ ∀ f ∈ files, f.place ≠ place := by
  simp [lastWrite?]

theorem lastWrite?_cons (f : OutputFile) (rest : List OutputFile) (place : List Path.Component) :
    lastWrite? (f :: rest) place =
      (lastWrite? rest place).or (if f.place = place then some f else none) := by
  rw [lastWrite?, lastWrite?, List.reverse_cons, List.find?_append]
  by_cases hf : f.place = place <;> simp [hf]

/-- Once some files were written, each path has the content of the last of them that went there, or
what it had before. -/
theorem content?_of_run {files : List OutputFile} {m final : Memory} {paths : List Path}
    (h : sink.run m (files.map .ok) = (final, .ok paths)) (path : Path) : final.content? path =
      ((lastWrite? files path.components).map (·.content)).or (m.content? path) := by
  induction files generalizing m paths with
  | nil =>
    cases h
    simp [lastWrite?]
  | cons f rest ih =>
    obtain ⟨file, written, more, hfile, hwrite, hrun, -⟩ := Sink.of_run_cons h
    cases hfile
    have hwritten : insert f m = written := by
      change write m f = _ at hwrite
      rw [write] at hwrite
      split at hwrite
      · cases hwrite
      · exact (Prod.mk.inj hwrite).1
    rw [ih hrun, ← hwritten, content?_insert, lastWrite?_cons]
    by_cases hplace : f.place = path.components
    · cases lastWrite? rest path.components <;> simp [hplace]
    · simp [hplace]

/-- What is kept of some files: they are in order, and there is one for each place, under its first
path and with its last content. -/
structure Keeps (m : Memory) (files : List OutputFile) : Prop where
  sorted : m.Sorted
  entry : ∀ place, m.entryAt? place = (firstWrite? files place).bind fun first =>
    (lastWrite? files place).map fun last => ⟨first.path, last.content⟩

theorem keeps_nil : Keeps [] [] := ⟨List.Pairwise.nil, fun _ => rfl⟩

/-- One more file is put. -/
private theorem Keeps.insert {m : Memory} {done : List OutputFile} (h : m.Keeps done)
    (f : OutputFile) :
    (Memory.insert f m).Keeps (done ++ [f]) := by
  refine ⟨h.sorted.insert f, fun place => ?_⟩
  rw [entryAt?_insert h.sorted, h.entry, firstWrite?_concat, lastWrite?_concat]
  by_cases hplace : f.place = place
  · rw [if_pos hplace, if_pos hplace, if_pos hplace]
    cases hfirst : firstWrite? done place with
    | none => simp
    | some first =>
      obtain ⟨last, hlast⟩ : ∃ last, lastWrite? done place = some last := by
        refine Option.ne_none_iff_exists'.mp fun hnone => ?_
        rw [lastWrite?_eq_none_iff, ← firstWrite?_eq_none_iff, hfirst] at hnone
        cases hnone
      simp [hlast]
  · rw [if_neg hplace, if_neg hplace, if_neg hplace, Option.or_none]

theorem Keeps.foldl_insert {m : Memory} {done : List OutputFile} (h : m.Keeps done)
    (files : List OutputFile) :
    (files.foldl (fun n f => Memory.insert f n) m).Keeps (done ++ files) := by
  induction files generalizing m done with
  | nil => simpa using h
  | cons f rest ih => simpa using ih (h.insert f)

/-- What files kept in memory have been taken from. -/
theorem keeps_of_attempt {files taken : List OutputFile} {m : Memory}
    (h : sink.attempt [] files = (m, taken)) :
    m.Keeps taken ∧ taken = files.filter (·.path.staysInside) := by
  rw [attempt_eq, Prod.mk.injEq] at h
  obtain ⟨rfl, rfl⟩ := h
  exact ⟨keeps_nil.foldl_insert _, rfl⟩

variable {m : Memory} {files : List OutputFile}

theorem Keeps.content?_eq (h : m.Keeps files) (path : Path) :
    m.content? path = (lastWrite? files path.components).map (·.content) := by
  rw [content?_eq_entryAt?, h.entry]
  cases hfirst : firstWrite? files path.components with
  | none =>
    rw [lastWrite?_eq_none_iff.mpr (firstWrite?_eq_none_iff.mp hfirst)]
    rfl
  | some first => cases lastWrite? files path.components <;> rfl

/-- A file that is kept is the one of its place. -/
private theorem Sorted.entryAt?_of_mem (h : m.Sorted) {f : OutputFile} (hf : f ∈ m) :
    m.entryAt? f.place = some f := by
  induction m with
  | nil => cases hf
  | cons g rest ih =>
    obtain ⟨hfirst, hrest⟩ := List.pairwise_cons.mp h
    rcases List.mem_cons.mp hf with rfl | hf
    · simp [entryAt?]
    · rw [entryAt?, List.find?_cons, beq_eq_false_iff_ne.mpr (hfirst f hf).ne]
      exact ih hrest hf

theorem mem_of_entryAt? {place : List Path.Component} {f : OutputFile}
    (h : m.entryAt? place = some f) : f ∈ m ∧ f.place = place :=
  ⟨List.mem_of_find?_eq_some h, by simpa using List.find?_some h⟩

theorem Keeps.exists_writes (h : m.Keeps files) {f : OutputFile} (hf : f ∈ m) :
    ∃ first last, firstWrite? files f.place = some first ∧ lastWrite? files f.place = some last ∧
      f = ⟨first.path, last.content⟩ := by
  have hentry := h.sorted.entryAt?_of_mem hf
  rw [h.entry] at hentry
  cases hfirst : firstWrite? files f.place with
  | none => simp [hfirst] at hentry
  | some first =>
    cases hlast : lastWrite? files f.place with
    | none => simp [hfirst, hlast] at hentry
    | some last =>
      refine ⟨first, last, rfl, rfl, ?_⟩
      simpa [hfirst, hlast, eq_comm] using hentry

/-- The places that are kept are those that were written. -/
private theorem Keeps.toFinset_places (h : m.Keeps files) :
    (m.map (·.place)).toFinset = (files.map (·.place)).toFinset := by
  ext place
  simp only [List.mem_toFinset, List.mem_map]
  constructor
  · rintro ⟨f, hf, rfl⟩
    obtain ⟨-, last, -, hlast, -⟩ := h.exists_writes hf
    exact ⟨last, place_of_lastWrite? hlast⟩
  · rintro ⟨f, hf, rfl⟩
    cases hentry : m.entryAt? f.place with
    | some kept => exact ⟨kept, mem_of_entryAt? hentry⟩
    | none =>
      have hcontent := h.content?_eq f.path
      rw [content?_eq_entryAt?, ← OutputFile.place, hentry] at hcontent
      have hnone : lastWrite? files f.place = none := by simpa using hcontent.symm
      exact absurd rfl (lastWrite?_eq_none_iff.mp hnone f hf)

theorem Keeps.length_eq (h : m.Keeps files) :
    m.length = (files.map (·.place)).toFinset.card := by
  rw [← h.toFinset_places, List.toFinset_card_of_nodup h.sorted.nodup_places, List.length_map]

theorem text?_eq_none_iff {path : Path} : m.text? path = none ↔
    m.content? path = none ∨ ∃ content, m.content? path = some content ∧ ¬ content.IsValidUTF8 := by
  rw [text?]
  cases m.content? path with
  | none => simp
  | some content => simp [String.fromUTF8?]

end Memory

end ApiSkeleton
