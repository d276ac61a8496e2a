import ApiSkeleton.Output

namespace ApiSkeleton.Path

theorem segments_ne_nil (cs : List Char) : segments cs ≠ [] := by
  cases cs with
  | nil => simp [segments]
  | cons c rest =>
    unfold segments
    by_cases hc : c = '/'
    · simp [hc]
    · simp only [hc, if_false]
      cases segments rest <;> simp

theorem segments_slash (cs : List Char) : segments ('/' :: cs) = [] :: segments cs := by
  simp [segments]

theorem segments_cons {c : Char} (hc : c ≠ '/') (cs : List Char) :
    ∃ s more, segments cs = s :: more ∧ segments (c :: cs) = (c :: s) :: more := by
  obtain ⟨s, more, hcs⟩ := List.exists_cons_of_ne_nil (segments_ne_nil cs)
  exact ⟨s, more, hcs, by simp [segments, hc, hcs]⟩

/-- A slash ends one segment and begins the next. -/
theorem segments_append_slash (as bs : List Char) :
    segments (as ++ '/' :: bs) = segments as ++ segments bs := by
  induction as with
  | nil => exact segments_slash bs
  | cons a rest ih =>
    rw [List.cons_append]
    by_cases ha : a = '/'
    · rw [ha, segments_slash, segments_slash, ih, List.cons_append]
    · obtain ⟨s, more, hrest, hcons⟩ := segments_cons ha rest
      obtain ⟨t, others, hall, hcons'⟩ := segments_cons ha (rest ++ '/' :: bs)
      rw [ih, hrest, List.cons_append, List.cons.injEq] at hall
      rw [hcons, hcons', ← hall.1, ← hall.2, List.cons_append]

theorem segments_of_no_slash {cs : List Char} (h : '/' ∉ cs) : segments cs = [cs] := by
  induction cs with
  | nil => rfl
  | cons c rest ih =>
    simp only [List.mem_cons, not_or] at h
    simp [segments, Ne.symm h.1, ih h.2]

theorem segments_eq_singleton_nil_iff {cs : List Char} : segments cs = [[]] ↔ cs = [] := by
  cases cs with
  | nil => simp [segments]
  | cons c rest =>
    by_cases hc : c = '/'
    · simp [hc, segments_slash, segments_ne_nil rest]
    · obtain ⟨s, more, _, hcons⟩ := segments_cons hc rest
      simp [hcons]

theorem innerComponents_append (as bs : List (List Char)) :
    innerComponents (as ++ bs) = innerComponents as ++ innerComponents bs := by
  induction as with
  | nil => rfl
  | cons s more ih =>
    rw [List.cons_append, innerComponents, innerComponents]
    split
    · exact ih
    · split <;> simp [ih]

/-- The steps of segments that stand at the beginning of a path. -/
def leadingComponents : List (List Char) → List Component
  | [] => []
  | first :: more =>
    if first = [] then
      if more = [] then [] else .root :: innerComponents more
    else if first = ['.'] then .current :: innerComponents more
    else innerComponents (first :: more)

theorem components_eq (p : Path) : p.components = leadingComponents (segments p.text.toList) := by
  unfold components leadingComponents
  cases segments p.text.toList <;> rfl

/-- Further segments only add steps, unless there is nothing but an empty segment before them. -/
theorem leadingComponents_append {as : List (List Char)} (hsome : as ≠ []) (hstart : as ≠ [[]])
    (bs : List (List Char)) :
    leadingComponents (as ++ bs) = leadingComponents as ++ innerComponents bs := by
  cases as with
  | nil => exact absurd rfl hsome
  | cons first more =>
    rw [List.cons_append, leadingComponents, leadingComponents]
    by_cases hfirst : first = []
    · have hmore : more ≠ [] := by
        rintro rfl
        exact hstart (by rw [hfirst])
      simp [hfirst, hmore, innerComponents_append]
    · by_cases hdot : first = ['.']
      · simp [hdot, innerComponents_append]
      · simp only [hfirst, hdot, if_false]
        rw [← List.cons_append, innerComponents_append]

/-- A slash at the end adds no step, but makes the root out of nothing. -/
theorem leadingComponents_append_nil {as bs : List (List Char)} (hsome : as ≠ []) (hbs : bs ≠ []) :
    leadingComponents (as ++ bs) = leadingComponents (as ++ [[]]) ++ innerComponents bs := by
  by_cases hstart : as = [[]]
  · simp [hstart, leadingComponents, hbs, innerComponents]
  · rw [leadingComponents_append hsome hstart, leadingComponents_append hsome hstart]
    simp [innerComponents]

/-- The steps of a path behind another one are those of both. -/
theorem components_join {p q : Path} (hp : p.text ≠ "") (hq : ¬ q.isAbsolute) :
    (p.join q).components = p.components ++ innerComponents (segments q.text.toList) := by
  have hnonempty : p.text.toList ≠ [] := by simpa using hp
  simp only [components_eq, join, hq, hp, Bool.false_eq_true, if_false, false_or]
  by_cases hlast : p.text.toList.getLast? = some '/'
  · obtain ⟨cs, hcs⟩ := List.getLast?_eq_some_iff.mp hlast
    have hend : segments p.text.toList = segments cs ++ [[]] := by
      rw [hcs, segments_append_slash]
      rfl
    have hjoined : segments (p.text ++ q.text).toList = segments cs ++ segments q.text.toList := by
      rw [String.toList_append, hcs, List.append_assoc, List.singleton_append,
        segments_append_slash]
    simp only [hlast, if_true]
    rw [hjoined, hend,
      leadingComponents_append_nil (segments_ne_nil cs) (segments_ne_nil q.text.toList)]
  · have hjoined : segments (p.text ++ "/" ++ q.text).toList =
        segments p.text.toList ++ segments q.text.toList := by
      rw [String.toList_append, String.toList_append, List.append_assoc]
      exact segments_append_slash _ _
    simp only [hlast, if_false]
    rw [hjoined, leadingComponents_append (segments_ne_nil _)
      (fun h => hnonempty (segments_eq_singleton_nil_iff.mp h))]

theorem join_text_ne {p q : Path} (hp : p.text ≠ "") (hq : ¬ q.isAbsolute) :
    (p.join q).text ≠ "" := by
  simp only [join, hq, Bool.false_eq_true, if_false]
  split <;> simp [hp]

theorem staysInside_iff {p : Path} :
    p.staysInside ↔ p.components ≠ [] ∧ ∀ c ∈ p.components, c.isPlain := by
  simp [staysInside]

/-- A path from the root has the root as its first step. -/
private theorem root_mem_components {p : Path} (h : p.isAbsolute) : .root ∈ p.components := by
  unfold isAbsolute at h
  rw [components_eq]
  cases hp : p.text.toList with
  | nil => simp [hp] at h
  | cons c rest =>
    have hc : c = '/' := by simpa [hp] using h
    rw [hc, segments_slash]
    simp [leadingComponents, segments_ne_nil rest]

theorem not_isAbsolute_of_plain {p : Path} (h : ∀ c ∈ p.components, c.isPlain) :
    ¬ p.isAbsolute := by
  intro habsolute
  exact absurd (h _ (root_mem_components habsolute)) (by simp [Component.isPlain])

/-- Steps in the middle of a path are among those that it has by itself. -/
theorem mem_components_of_inner {p : Path} {c : Component}
    (hc : c ∈ innerComponents (segments p.text.toList)) : c ∈ p.components := by
  rw [components_eq]
  cases hs : segments p.text.toList with
  | nil => exact absurd hs (segments_ne_nil _)
  | cons first more =>
    rw [hs] at hc
    rw [leadingComponents]
    by_cases hfirst : first = []
    · simp only [hfirst, innerComponents, true_or, if_true] at hc
      have hmore : more ≠ [] := by
        rintro rfl
        simp [innerComponents] at hc
      simp [hfirst, hmore, hc]
    · by_cases hdot : first = ['.']
      · simp only [hdot, innerComponents, or_true, if_true] at hc
        simp [hdot, hc]
      · simpa [hfirst, hdot] using hc

/-- A path with any text leads somewhere. -/
theorem components_ne_nil {p : Path} (hp : p.text ≠ "") : p.components ≠ [] := by
  have hnonempty : p.text.toList ≠ [] := by simpa using hp
  rw [components_eq]
  cases hs : segments p.text.toList with
  | nil => exact absurd hs (segments_ne_nil _)
  | cons first more =>
    rw [leadingComponents]
    by_cases hfirst : first = []
    · have hmore : more ≠ [] := by
        rintro rfl
        exact hnonempty (segments_eq_singleton_nil_iff.mp (by rw [hs, hfirst]))
      simp [hfirst, hmore]
    · by_cases hdot : first = ['.']
      · simp [hdot]
      · simp only [hfirst, hdot, if_false, innerComponents, or_self]
        split <;> simp

/-- A path with a text, all steps of which stay inside. -/
structure IsPlain (p : Path) : Prop where
  text_ne : p.text ≠ ""
  steps : ∀ c ∈ p.components, c.isPlain

theorem IsPlain.staysInside {p : Path} (h : p.IsPlain) : p.staysInside :=
  staysInside_iff.mpr ⟨components_ne_nil h.text_ne, h.steps⟩

/-- What lies inside by itself lies inside below a directory that does. -/
theorem IsPlain.join {dir p : Path} (hdir : dir.IsPlain) (hp : p.IsPlain) :
    (dir.join p).IsPlain := by
  have hrelative := not_isAbsolute_of_plain hp.steps
  refine ⟨join_text_ne hdir.text_ne hrelative, ?_⟩
  rw [components_join hdir.text_ne hrelative]
  intro c hc
  rcases List.mem_append.mp hc with hc | hc
  · exact hdir.steps c hc
  · exact hp.steps c (mem_components_of_inner hc)

/-- A text that names a file: no separator, and more than one of the names for directories. -/
def IsFileName (name : String) : Prop :=
  '/' ∉ name.toList ∧ name.toList ≠ [] ∧ name.toList ≠ ['.'] ∧ name.toList ≠ ['.', '.']

theorem innerComponents_fileName {name : String} (h : IsFileName name) :
    innerComponents (segments name.toList) = [.name name] := by
  obtain ⟨hslash, hempty, hdot, hdots⟩ := h
  simp only [segments_of_no_slash hslash, innerComponents, hempty, hdot, hdots, or_self, if_false,
    String.ofList_toList]

theorem not_isAbsolute_fileName {name : String} (h : IsFileName name) :
    ¬ (Path.mk name).isAbsolute := by
  intro habsolute
  unfold isAbsolute at habsolute
  exact h.1 (List.mem_of_mem_head? (by simpa using habsolute))

/-- A file in a directory is one step below it. -/
theorem components_join_file {dir : Path} (hdir : dir.text ≠ "") {name : String}
    (h : IsFileName name) : (dir.join ⟨name⟩).components = dir.components ++ [.name name] := by
  rw [components_join hdir (not_isAbsolute_fileName h), innerComponents_fileName h]

/-- The file name does not depend on how a path is written. -/
theorem fileName?_congr {p q : Path} (h : p.components = q.components) :
    p.fileName? = q.fileName? := by
  unfold fileName?
  rw [h]

theorem fileName?_of_components {p : Path} {around : List Component} {name : String}
    (h : p.components = around ++ [.name name]) : p.fileName? = some name := by
  rw [fileName?, h, List.getLast?_concat]

end ApiSkeleton.Path
