import ApiSkeleton.FileSystem
import ApiSkeleton.Proofs.Path
import Mathlib.Data.List.TakeWhile

namespace ApiSkeleton.Path

theorem joinSegments_cons {s : List Char} {more : List (List Char)} (hmore : more ≠ []) :
    joinSegments (s :: more) = s ++ '/' :: joinSegments more := by
  cases more with
  | nil => exact absurd rfl hmore
  | cons t rest => rfl

theorem joinSegments_segments (cs : List Char) : joinSegments (segments cs) = cs := by
  induction cs with
  | nil => rfl
  | cons c rest ih =>
    by_cases hc : c = '/'
    · rw [hc, segments_slash, joinSegments_cons (segments_ne_nil rest), ih, List.nil_append]
    · obtain ⟨s, more, hrest, hcons⟩ := segments_cons hc rest
      rw [hrest] at ih
      rw [hcons, ← ih]
      cases more <;> rfl

theorem slash_notMem_segments {cs s : List Char} (hs : s ∈ segments cs) : '/' ∉ s := by
  induction cs generalizing s with
  | nil => simp_all [segments]
  | cons c rest ih =>
    by_cases hc : c = '/'
    · rw [hc, segments_slash, List.mem_cons] at hs
      rcases hs with hs | hs
      · simp [hs]
      · exact ih hs
    · obtain ⟨t, more, hrest, hcons⟩ := segments_cons hc rest
      rw [hrest] at ih
      rw [hcons, List.mem_cons] at hs
      rcases hs with hs | hs
      · rw [hs, List.mem_cons, not_or]
        exact ⟨Ne.symm hc, ih (List.mem_cons_self ..)⟩
      · exact ih (List.mem_cons_of_mem _ hs)

theorem segments_joinSegments {ss : List (List Char)} (hsome : ss ≠ [])
    (hslash : ∀ s ∈ ss, '/' ∉ s) : segments (joinSegments ss) = ss := by
  induction ss with
  | nil => exact absurd rfl hsome
  | cons s more ih =>
    rw [List.forall_mem_cons] at hslash
    cases more with
    | nil => exact segments_of_no_slash hslash.1
    | cons t rest =>
      rw [joinSegments_cons (by simp), segments_append_slash, segments_of_no_slash hslash.1,
        ih (by simp) hslash.2, List.singleton_append]

/-- The first segments are the beginning of a text, and less of it if they are not all. -/
private theorem joinSegments_begins {ss more : List (List Char)} (hmore : more ≠ []) :
    ∃ rest, joinSegments (ss ++ more) = joinSegments ss ++ rest ∧
      (ss ≠ [] → ∃ others, rest = '/' :: others) := by
  induction ss with
  | nil => exact ⟨_, rfl, fun h => absurd rfl h⟩
  | cons s tail ih =>
    obtain ⟨rest, hrest, hslash⟩ := ih
    rw [List.cons_append, joinSegments_cons (by simp [hmore]), hrest]
    cases tail with
    | nil => exact ⟨'/' :: rest, by simp [joinSegments], fun _ => ⟨_, rfl⟩⟩
    | cons t others =>
      obtain ⟨after, hafter⟩ := hslash (by simp)
      refine ⟨rest, ?_, fun _ => ⟨after, hafter⟩⟩
      rw [joinSegments_cons (s := s) (by simp)]
      simp

/-- A segment that is no step. -/
def IsIdle (s : List Char) : Prop := s = [] ∨ s = ['.']

theorem innerComponents_idle {ss : List (List Char)} (h : ∀ s ∈ ss, IsIdle s) :
    innerComponents ss = [] := by
  induction ss with
  | nil => rfl
  | cons s more ih =>
    rw [List.forall_mem_cons] at h
    unfold IsIdle at h
    rw [innerComponents, if_pos h.1, ih h.2]

/-- The step of a segment that is one. -/
def stepOf (s : List Char) : Component :=
  if s = ['.', '.'] then .parent else .name (String.ofList s)

theorem innerComponents_step {s : List Char} (hs : ¬ IsIdle s) :
    innerComponents [s] = [stepOf s] := by
  unfold IsIdle at hs
  rw [innerComponents, if_neg hs, stepOf]
  split <;> rfl

private theorem mem_takeWhile_idle {ss : List (List Char)} {s : List Char}
    (hs : s ∈ ss.takeWhile fun s => s == [] || s == ['.']) : IsIdle s := by
  simpa [IsIdle] using List.mem_takeWhile_imp hs

theorem dropIdle_eq (ss : List (List Char)) :
    ∃ idle, ss = idle ++ dropIdle ss ∧ (∀ s ∈ idle, IsIdle s) ∧
      ∀ s ∈ (dropIdle ss).head?, ¬ IsIdle s := by
  refine ⟨ss.takeWhile fun s => s == [] || s == ['.'], ?_, fun s => mem_takeWhile_idle, ?_⟩
  · exact (List.takeWhile_append_dropWhile ..).symm
  · intro s hs
    have hhead := List.head?_dropWhile_not (fun s : List Char => s == [] || s == ['.']) ss
    rw [← dropIdle, Option.mem_def.mp hs] at hhead
    simpa [IsIdle] using hhead

/-- What the segments without their last step are. -/
theorem dropLast?_eq_some {body kept : List (List Char)} (h : dropLast? body = some kept) :
    ∃ last tail, body = kept ++ tail ∧ tail ≠ [] ∧
      innerComponents body = innerComponents kept ++ [stepOf last] ∧
      ∀ s ∈ kept.getLast?, ¬ IsIdle s := by
  unfold dropLast? at h
  obtain ⟨idle, hbody, hidle, hlast⟩ := dropIdle_eq body.reverse
  cases hdrop : dropIdle body.reverse with
  | nil => simp [hdrop] at h
  | cons last before =>
    rw [hdrop] at h hbody hlast
    obtain ⟨gap, hbefore, hgap, hkept⟩ := dropIdle_eq before
    have hkeep : (dropIdle before).reverse = kept := by simpa using h
    have hall : body = kept ++ (gap.reverse ++ last :: idle.reverse) := by
      rw [← List.reverse_reverse body, hbody, hbefore, ← hkeep]
      simp
    refine ⟨last, _, hall, by simp, ?_, ?_⟩
    · have hstep : ¬ IsIdle last := hlast last rfl
      have hbetween : innerComponents gap.reverse = [] := innerComponents_idle (by simpa using hgap)
      have hafter : innerComponents idle.reverse = [] := innerComponents_idle (by simpa using hidle)
      rw [hall, innerComponents_append, innerComponents_append, ← List.singleton_append,
        innerComponents_append, innerComponents_step hstep, hbetween, hafter]
      simp
    · rw [← hkeep, List.getLast?_reverse]
      exact hkept

theorem dropLast?_eq_none {body : List (List Char)} (h : dropLast? body = none) :
    innerComponents body = [] := by
  unfold dropLast? at h
  obtain ⟨idle, hbody, hidle, _⟩ := dropIdle_eq body.reverse
  cases hdrop : dropIdle body.reverse with
  | nil =>
    refine innerComponents_idle fun s hs => hidle s ?_
    rw [hdrop, List.append_nil] at hbody
    rw [← hbody, List.mem_reverse]
    exact hs
  | cons last before => simp [hdrop] at h

private theorem dropIdle_of_step {ss : List (List Char)} (h : ∀ s ∈ ss.head?, ¬ IsIdle s) :
    dropIdle ss = ss := by
  cases ss with
  | nil => rfl
  | cons s more =>
    have hs : ¬ IsIdle s := h s rfl
    unfold IsIdle at hs
    rw [not_or] at hs
    rw [dropIdle, List.dropWhile_cons_of_neg]
    simp [hs]

theorem dropLast?_concat {body : List (List Char)} {name : List Char} (hname : ¬ IsIdle name)
    (hbody : ∀ s ∈ body.getLast?, ¬ IsIdle s) : dropLast? (body ++ [name]) = some body := by
  have hall : dropIdle (name :: body.reverse) = name :: body.reverse :=
    dropIdle_of_step (by simpa using hname)
  have hkept : dropIdle body.reverse = body.reverse :=
    dropIdle_of_step (by rwa [List.head?_reverse])
  rw [dropLast?, List.reverse_append, List.reverse_singleton, List.singleton_append, hall]
  simp [hkept]

/-- What the path around another one is: it has the steps before the last one, its text is a
beginning of the other text, and it does not end in a dot that is no step. -/
structure IsAround (up p : Path) (around : List Component) : Prop where
  components : up.components = around
  text : ∃ rest, rest ≠ [] ∧ p.text.toList = up.text.toList ++ rest
  last : ∀ s, around.getLast? = some (.name s) →
    (segments up.text.toList).getLast?.getD [] ≠ ['.']

/-- The text of the first of some segments, as a path. -/
theorem isAround_of_segments {p : Path} {kept tail : List (List Char)} {around : List Component}
    (hsegments : segments p.text.toList = kept ++ tail) (hkept : kept ≠ []) (htail : tail ≠ [])
    (haround : leadingComponents kept = around)
    (hlast : ∀ s, around.getLast? = some (.name s) → kept.getLast?.getD [] ≠ ['.']) :
    IsAround ⟨String.ofList (joinSegments kept)⟩ p around := by
  have hslash : ∀ s ∈ kept, '/' ∉ s := fun s hs =>
    slash_notMem_segments (hsegments ▸ List.mem_append_left _ hs)
  have hback : segments (joinSegments kept) = kept := segments_joinSegments hkept hslash
  obtain ⟨rest, hrest, hbegin⟩ := @joinSegments_begins kept tail htail
  obtain ⟨others, hothers⟩ := hbegin hkept
  refine ⟨?_, ⟨rest, by simp [hothers], ?_⟩, ?_⟩
  · rw [components_eq, String.toList_ofList, hback, haround]
  · rw [String.toList_ofList, ← hrest, ← hsegments, joinSegments_segments]
  · rw [String.toList_ofList, hback]
    exact hlast

theorem getLast?_ne_dot {ss : List (List Char)} (h : ∀ s ∈ ss.getLast?, ¬ IsIdle s) :
    ss.getLast?.getD [] ≠ ['.'] := by
  cases hlast : ss.getLast? with
  | none => simp
  | some s =>
    intro hdot
    exact h s hlast (.inr hdot)

private theorem isAround_of_root {p : Path} {more : List (List Char)} {around : List Component}
    {s : String} (hsegments : segments p.text.toList = [] :: more)
    (h : .root :: innerComponents more = around ++ [.name s]) :
    ∃ up, (dropLast? more).map (fun body => ⟨String.ofList ('/' :: joinSegments body)⟩) = some up ∧
      IsAround up p around := by
  cases hdrop : dropLast? more with
  | none =>
    rw [dropLast?_eq_none hdrop] at h
    cases around <;> simp at h
  | some kept =>
    obtain ⟨last, tail, hmore, htail, hinner, hidle⟩ := dropLast?_eq_some hdrop
    refine ⟨⟨String.ofList ('/' :: joinSegments kept)⟩, rfl, ?_⟩
    rw [hinner, ← List.cons_append] at h
    obtain ⟨haround, _⟩ := List.append_inj' h rfl
    by_cases hkept : kept = []
    · have htext : p.text.toList = '/' :: joinSegments more := by
        rw [← joinSegments_segments p.text.toList, hsegments]
        rw [joinSegments_cons (by rw [hmore]; simp [htail]), List.nil_append]
      refine ⟨?_, ⟨joinSegments more, ?_, by rw [htext, hkept]; simp [joinSegments]⟩, ?_⟩
      · rw [← haround, hkept]
        decide
      · intro hempty
        have hnone : segments (joinSegments more) = more :=
          segments_joinSegments (by rw [hmore]; simp [htail]) fun s hs =>
            slash_notMem_segments (hsegments ▸ List.mem_cons_of_mem _ hs)
        rw [← hnone, hempty] at hinner
        simp [segments, innerComponents] at hinner
      · intro s hs
        simp [← haround, hkept, innerComponents] at hs
    · have hjoin : '/' :: joinSegments kept = joinSegments ([] :: kept) := by
        rw [joinSegments_cons hkept, List.nil_append]
      rw [hjoin]
      refine isAround_of_segments (by rw [hsegments, hmore, List.cons_append]) (by simp) htail
        (by simp [leadingComponents, hkept, ← haround]) fun s _ => ?_
      rw [List.getLast?_cons_of_ne_nil hkept]
      exact getLast?_ne_dot hidle

private theorem isAround_of_current {p : Path} {more : List (List Char)} {around : List Component}
    {s : String} (hsegments : segments p.text.toList = ['.'] :: more)
    (h : .current :: innerComponents more = around ++ [.name s]) :
    ∃ up, (match dropLast? more with
        | some body => some (Path.mk (String.ofList (joinSegments (['.'] :: body))))
        | none => some ⟨""⟩) = some up ∧ IsAround up p around := by
  cases hdrop : dropLast? more with
  | none =>
    rw [dropLast?_eq_none hdrop] at h
    cases around <;> simp at h
  | some kept =>
    obtain ⟨last, tail, hmore, htail, hinner, hidle⟩ := dropLast?_eq_some hdrop
    refine ⟨_, rfl, ?_⟩
    rw [hinner, ← List.cons_append] at h
    obtain ⟨haround, _⟩ := List.append_inj' h rfl
    refine isAround_of_segments (by rw [hsegments, hmore, List.cons_append]) (by simp) htail
      (by simp [leadingComponents, ← haround]) fun s hs => ?_
    by_cases hkept : kept = []
    · simp [← haround, hkept, innerComponents] at hs
    · rw [List.getLast?_cons_of_ne_nil hkept]
      exact getLast?_ne_dot hidle

private theorem isAround_of_name {p : Path} {first : List Char} {more : List (List Char)}
    {around : List Component} {s : String} (hsegments : segments p.text.toList = first :: more)
    (hfirst : ¬ IsIdle first) (h : innerComponents (first :: more) = around ++ [.name s]) :
    ∃ up, (dropLast? (first :: more)).map
        (fun body => Path.mk (String.ofList (joinSegments body))) = some up ∧
      IsAround up p around := by
  cases hdrop : dropLast? (first :: more) with
  | none =>
    rw [dropLast?_eq_none hdrop] at h
    cases around <;> simp at h
  | some kept =>
    obtain ⟨last, tail, hbody, htail, hinner, hidle⟩ := dropLast?_eq_some hdrop
    refine ⟨_, rfl, ?_⟩
    rw [hinner] at h
    obtain ⟨haround, _⟩ := List.append_inj' h rfl
    cases kept with
    | nil =>
      have hnonempty : p.text.toList ≠ [] := by
        intro hempty
        rw [hempty] at hsegments
        simp only [segments, List.cons.injEq] at hsegments
        exact hfirst (.inl hsegments.1.symm)
      exact ⟨by rw [← haround]; rfl, ⟨p.text.toList, hnonempty, rfl⟩,
        by simp [← haround, innerComponents]⟩
    | cons head others =>
      have hhead : head = first := by
        rw [List.cons_append, List.cons.injEq] at hbody
        exact hbody.1.symm
      have hstart : leadingComponents (head :: others) = innerComponents (head :: others) := by
        unfold IsIdle at hfirst
        rw [not_or] at hfirst
        simp [leadingComponents, hhead, hfirst]
      exact isAround_of_segments (by rw [hsegments, hbody]) (by simp) htail (hstart.trans haround)
        fun s _ => getLast?_ne_dot hidle

/-- A path whose last step is a name has a path around it. -/
theorem exists_parent {p : Path} {around : List Component} {s : String}
    (h : p.components = around ++ [.name s]) :
    ∃ up, p.parent? = some up ∧ IsAround up p around := by
  rw [components_eq] at h
  unfold parent?
  cases hsegments : segments p.text.toList with
  | nil => exact absurd hsegments (segments_ne_nil _)
  | cons first more =>
    rw [hsegments, leadingComponents] at h
    by_cases hroot : first = []
    · subst first
      by_cases hmore : more = []
      · simp [hmore] at h
      · simp only [hmore, if_true, if_false] at h ⊢
        exact isAround_of_root hsegments h
    · by_cases hdot : first = ['.']
      · subst first
        simp only [List.cons_ne_self, if_true, if_false] at h ⊢
        exact isAround_of_current hsegments h
      · simp only [hroot, hdot, if_false] at h ⊢
        exact isAround_of_name hsegments (by simp [IsIdle, hroot, hdot]) h

/-- The path around a file in a directory is the directory as it is written, if that ends in a
step. -/
theorem parent?_join_file {dir : Path} {name : String} (hname : IsFileName name)
    (hlast : ∀ s ∈ (segments dir.text.toList).getLast?, ¬ IsIdle s) :
    (dir.join ⟨name⟩).parent? = some dir := by
  have hstep : ¬ IsIdle name.toList := by
    rintro (hempty | hdot)
    · exact hname.2.1 hempty
    · exact hname.2.2.1 hdot
  have hsome : dir.text ≠ "" := by
    intro hempty
    rw [hempty] at hlast
    exact hlast [] rfl (.inl rfl)
  have hslash : dir.text.toList.getLast? ≠ some '/' := by
    intro hend
    obtain ⟨cs, hcs⟩ := List.getLast?_eq_some_iff.mp hend
    rw [hcs, segments_append_slash] at hlast
    exact hlast [] (by simp [segments]) (.inl rfl)
  have hjoined : segments (dir.join ⟨name⟩).text.toList =
      segments dir.text.toList ++ [name.toList] := by
    have htext : (dir.join ⟨name⟩).text.toList = dir.text.toList ++ '/' :: name.toList := by
      simp [join, not_isAbsolute_fileName hname, hsome, hslash]
    rw [htext, segments_append_slash, segments_of_no_slash hname.1]
  have hback := joinSegments_segments dir.text.toList
  unfold parent?
  rw [hjoined]
  cases hdir : segments dir.text.toList with
  | nil => exact absurd hdir (segments_ne_nil _)
  | cons first more =>
    rw [hdir] at hlast hback
    have hmore : IsIdle first → more ≠ [] := by
      rintro hidle rfl
      exact hlast first rfl hidle
    rw [List.cons_append]
    by_cases hroot : first = []
    · have hsteps := hmore (.inl hroot)
      rw [List.getLast?_cons_of_ne_nil hsteps] at hlast
      rw [joinSegments_cons hsteps, hroot, List.nil_append] at hback
      simp only [hroot, if_true, dropLast?_concat hstep hlast, Option.map_some, hback,
        String.ofList_toList]
    · by_cases hdot : first = ['.']
      · have hsteps := hmore (.inr hdot)
        rw [List.getLast?_cons_of_ne_nil hsteps] at hlast
        rw [hdot] at hback
        simp only [hdot, List.cons_ne_self, if_true, if_false, dropLast?_concat hstep hlast, hback,
          String.ofList_toList]
      · have hdrop := dropLast?_concat hstep hlast
        rw [List.cons_append] at hdrop
        simp only [hroot, hdot, if_false, hdrop, Option.map_some, hback, String.ofList_toList]

end ApiSkeleton.Path
