import ApiSkeleton.Proofs.FileSystem.Confinement
import ApiSkeleton.Proofs.Output.Memory

namespace ApiSkeleton

open ApiSkeleton.Path (Component)

namespace Path

/-- A dot can only be the first step. -/
theorem components_eq_names {p : Path} (hplain : ∀ c ∈ p.components, c.isPlain)
    (hdot : p.components.head? ≠ some .current) : p.components = p.names.map .name := by
  have hinner := innerComponents_of_plain hplain
  have hsteps := components_eq p
  cases hsegments : segments p.text.toList with
  | nil => exact absurd hsegments (segments_ne_nil _)
  | cons first more =>
    rw [hsegments] at hinner hsteps
    rw [leadingComponents] at hsteps
    by_cases hroot : first = []
    · by_cases hmore : more = []
      · simp [hroot, hmore, innerComponents] at hinner hsteps
        rw [hsteps, hinner, List.map_nil]
      · have hmem : .root ∈ p.components := by simp [hsteps, hroot, hmore]
        cases hplain _ hmem
    · by_cases hcurrent : first = ['.']
      · exact absurd (by simp [hsteps, hcurrent]) hdot
      · simp only [hroot, hcurrent, if_false] at hsteps
        rw [hsteps, hinner]

end Path

namespace FileSystem

variable {fs final after : FileSystem} {root : Path}

theorem lastContent?_cons (f : OutputFile) (rest : List OutputFile) (names : List String) :
    lastContent? (f :: rest) names =
      (lastContent? rest names).or (if f.path.names = names then some f.content else none) := by
  rw [lastContent?, lastContent?, List.reverse_cons, List.find?_append]
  by_cases hf : f.path.names = names
  · cases rest.reverse.find? (fun g => g.path.names == names) <;> simp [hf]
  · simp [hf]

/-- What a file system has in the places of files once one was written. -/
private theorem file_of_writeBelow {file : OutputFile}
    (h : writeBelow root fs file = (after, .ok ())) :
    after.current = fs.current ∧ ∀ q content, after.at? q = some (.file content) ↔
      if q = placeBelow root fs.current file.path then content = file.content
      else fs.at? q = some (.file content) := by
  obtain ⟨-, hfound, -⟩ := found_of_writeBelow h
  have honly := changesOnly_writeBelow root fs file
  rw [h] at honly
  refine ⟨honly.current, fun q content => ?_⟩
  by_cases hq : q = placeBelow root fs.current file.path
  · rw [if_pos hq, hq, hfound]
    simp [eq_comm]
  · rw [if_neg hq]
    exact honly.same q content fun hwritten => hq hwritten.1

/-- Once some files were written, each place below the root has the last of them that went there, or
what it had before. -/
theorem file_of_run {files : List OutputFile} {paths : List Path}
    (h : (sinkBelow root).run fs (files.map .ok) = (final, .ok paths)) :
    ∀ names content, final.at? (root.landing fs.current ++ names) = some (.file content) ↔
      lastContent? files names = some content ∨ lastContent? files names = none ∧
        fs.at? (root.landing fs.current ++ names) = some (.file content) := by
  induction files generalizing fs paths with
  | nil =>
    cases h
    simp [lastContent?]
  | cons f rest ih =>
    obtain ⟨file, written, more, hfile, hwrite, hrun, -⟩ := Sink.of_run_cons h
    cases hfile
    change writeBelow root fs f = (written, .ok ()) at hwrite
    obtain ⟨hcurrent, hwritten⟩ := file_of_writeBelow hwrite
    intro names content
    have hrest := ih hrun names content
    rw [hcurrent] at hrest
    rw [hrest, hwritten, lastContent?_cons, placeBelow]
    cases hlast : lastContent? rest names with
    | some last => simp
    | none =>
      by_cases hnames : f.path.names = names
      · simp [hnames, eq_comm]
      · simp [hnames, Ne.symm hnames]

/-- Nothing is below a place where there is nothing. -/
private theorem IsTree.at?_below_of_none {base names : List String} (h : fs.IsTree)
    (hbase : fs.at? base = none) : fs.at? (base ++ names) = none := by
  by_cases hnames : names = []
  · rwa [hnames, List.append_nil]
  · by_contra hfound
    rw [h.directory_above ⟨names, hnames, rfl⟩ hfound] at hbase
    cases hbase

end FileSystem

namespace Memory

/-- What files kept in memory show of the writes that were taken. -/
structure Shows (m : Memory) (taken : List OutputFile) : Prop where
  content : ∀ path, m.content? path = (lastWrite? taken path.components).map (·.content)
  length : m.length = (taken.map (·.path.components)).toFinset.card
  sorted : m.Pairwise fun f g =>
    Path.compareComponents f.path.components g.path.components = .lt
  spelling : ∀ f ∈ m, ∃ first, firstWrite? taken f.path.components = some first ∧
    f.path = first.path
  text : ∀ path, m.text? path = none ↔ m.content? path = none ∨
    ∃ content, m.content? path = some content ∧ ¬ content.IsValidUTF8

private theorem Keeps.shows {m : Memory} {taken : List OutputFile} (h : m.Keeps taken) :
    m.Shows taken where
  content := h.content?_eq
  length := h.length_eq
  sorted := h.sorted
  spelling f hf := by
    obtain ⟨first, last, hfirst, -, heq⟩ := h.exists_writes hf
    exact ⟨first, hfirst, heq ▸ rfl⟩
  text _ := text?_eq_none_iff

/-- Without dots in front, the last file written to a place is the last one written for its
names. -/
private theorem lastContent?_eq_lastWrite? {taken : List OutputFile}
    (hsteps : ∀ f ∈ taken, f.path.components = f.path.names.map .name) (names : List String) :
    FileSystem.lastContent? taken names =
      (lastWrite? taken (names.map .name)).map (·.content) := by
  rw [FileSystem.lastContent?, lastWrite?]
  congr 1
  refine List.find?_congr fun f hf => ?_
  have hinjective : Function.Injective Component.name := fun _ _ => Component.name.inj
  rw [OutputFile.place, hsteps f (List.mem_reverse.mp hf), Bool.eq_iff_iff, beq_iff_eq, beq_iff_eq]
  exact (List.map_injective_iff.mpr hinjective).eq_iff.symm

/-- The files in memory as the last content of each place. -/
theorem Keeps.exists_mem_iff {m : Memory} {taken : List OutputFile} (h : m.Keeps taken)
    (hsteps : ∀ f ∈ taken, f.path.components = f.path.names.map .name) (names : List String)
    (content : ByteArray) : (∃ f ∈ m, f.path.names = names ∧ f.content = content) ↔
      (lastWrite? taken (names.map .name)).map (·.content) = some content := by
  have hkept : ∀ f ∈ m, f.place = f.path.names.map .name := by
    intro f hf
    obtain ⟨first, last, hfirst, -, heq⟩ := h.exists_writes hf
    have hmem : first ∈ taken := List.mem_of_find?_eq_some hfirst
    have hpath : f.path = first.path := by rw [heq]
    rw [OutputFile.place, hpath]
    exact hsteps first hmem
  constructor
  · rintro ⟨f, hf, rfl, rfl⟩
    obtain ⟨first, last, -, hlast, heq⟩ := h.exists_writes hf
    rw [← hkept f hf, hlast, Option.map_some, congrArg OutputFile.content heq]
  · intro hcontent
    obtain ⟨last, hlast, rfl⟩ := Option.map_eq_some_iff.mp hcontent
    obtain ⟨hmem, hplace⟩ := place_of_lastWrite? hlast
    have hentry := h.entry (names.map .name)
    cases hfirst : firstWrite? taken (names.map .name) with
    | none => exact absurd hplace (firstWrite?_eq_none_iff.mp hfirst last hmem)
    | some first =>
      rw [hfirst, hlast, Option.bind_some, Option.map_some] at hentry
      obtain ⟨hf, hplaced⟩ := mem_of_entryAt? hentry
      refine ⟨_, hf, ?_, rfl⟩
      have hinjective : Function.Injective Component.name := fun _ _ => Component.name.inj
      exact List.map_injective_iff.mpr hinjective ((hkept _ hf).symm.trans hplaced)

/-- Both sinks as maps, whatever is written in which order. In memory, a path has the content of the
last file taken in its place, if there is one; there are as many files as places, in the strict
order of their places, each under the path that its place was first written under; and a path has no
text exactly if it has no content or one that is not UTF-8. If no path begins with a dot, the same
writes below a root where there was nothing, with none of them failing, leave below the root the
files in memory, and no others. -/
theorem sinks_agree (files : List OutputFile) {m : Memory} {taken : List OutputFile}
    (hattempt : sink.attempt [] files = (m, taken)) :
    taken = files.filter (·.path.staysInside) ∧ m.Shows taken ∧
    ∀ root fs final, fs.IsTree → fs.at? (root.landing fs.current) = none →
      (∀ f ∈ taken, f.path.components.head? ≠ some .current) →
      (FileSystem.sinkBelow root).run fs (taken.map .ok) =
        (final, .ok (taken.map (·.path))) →
      ∀ names content,
        final.at? (root.landing fs.current ++ names) = some (.file content) ↔
          ∃ f ∈ m, f.path.names = names ∧ f.content = content := by
  obtain ⟨hkeeps, htaken⟩ := keeps_of_attempt hattempt
  refine ⟨htaken, hkeeps.shows, fun root fs final htree habsent hdots hrun names content => ?_⟩
  have hsteps : ∀ f ∈ taken, f.path.components = f.path.names.map .name := by
    intro f hf
    rw [htaken, List.mem_filter] at hf
    exact Path.components_eq_names (Path.staysInside_iff.mp hf.2).2
      (hdots f (htaken ▸ List.mem_filter.mpr hf))
  rw [hkeeps.exists_mem_iff hsteps, ← lastContent?_eq_lastWrite? hsteps,
    FileSystem.file_of_run hrun, htree.at?_below_of_none habsent]
  simp

/-- Files with paths that are written in different ways, one of which leaves. -/
def mixedWrites : List OutputFile :=
  [⟨⟨"b//x"⟩, "1".toUTF8⟩, ⟨⟨"../b/x"⟩, "2".toUTF8⟩, ⟨⟨"a"⟩, "3".toUTF8⟩, ⟨⟨"b/./x"⟩, "4".toUTF8⟩]

/-- What the writes come to, in memory and below a directory that is missing. -/
theorem mixedWrites_agree : ∃ m taken final, sink.attempt [] mixedWrites = (m, taken) ∧
    taken.map (·.path.text) = ["b//x", "a", "b/./x"] ∧
    m.map (·.path.text) = ["a", "b//x"] ∧ m.content? ⟨"b/x"⟩ = some "4".toUTF8 ∧
    (FileSystem.sinkBelow ⟨"out/app"⟩).run ⟨[], []⟩ (taken.map .ok) =
      (final, .ok (taken.map (·.path))) ∧
    final.at? ["out", "app", "b", "x"] = some (.file "4".toUTF8) := by
  have htree : (FileSystem.mk [] []).IsTree := FileSystem.isTree_of_entries rfl (by simp)
  obtain ⟨-, hshows, hfiles⟩ := sinks_agree mixedWrites rfl
  have hcontent : Memory.content? _ ⟨"b/x"⟩ = some "4".toUTF8 := (hshows.content ⟨"b/x"⟩).trans rfl
  refine ⟨_, _, _, rfl, rfl, rfl, hcontent, rfl, ?_⟩
  refine (hfiles ⟨"out/app"⟩ _ _ htree rfl (by decide) rfl ["b", "x"] _).mpr ?_
  exact ⟨⟨⟨"b//x"⟩, "4".toUTF8⟩, List.mem_cons_of_mem _ (List.mem_singleton_self _), rfl, rfl⟩

end Memory

end ApiSkeleton
