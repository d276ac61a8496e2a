import ApiSkeleton.Proofs.Path.Landing

namespace ApiSkeleton.Path

variable {p root : Path} {names : List String} {name : String}

private theorem mem_of_mem_segments {cs s : List Char} (hs : s ∈ segments cs) {c : Char}
    (hc : c ∈ s) :
    c ∈ cs := by
  induction cs generalizing s with
  | nil =>
    rw [segments, List.mem_singleton] at hs
    rw [hs] at hc
    cases hc
  | cons d rest ih =>
    by_cases hd : d = '/'
    · rw [hd, segments_slash, List.mem_cons] at hs
      rcases hs with rfl | hs
      · cases hc
      · exact List.mem_cons_of_mem _ (ih hs hc)
    · obtain ⟨t, more, hrest, hcons⟩ := segments_cons hd rest
      rw [hcons, List.mem_cons] at hs
      rcases hs with rfl | hs
      · rcases List.mem_cons.mp hc with rfl | hc
        · exact List.mem_cons_self ..
        · exact List.mem_cons_of_mem _ (ih (hrest ▸ List.mem_cons_self ..) hc)
      · exact List.mem_cons_of_mem _ (ih (hrest ▸ List.mem_cons_of_mem _ hs) hc)

private theorem segment_of_name_mem {ss : List (List Char)} (h : .name name ∈ innerComponents ss) :
    name.toList ∈ ss ∧ ¬ IsIdle name.toList ∧ name.toList ≠ ['.', '.'] := by
  induction ss with
  | nil => cases h
  | cons s more ih =>
    have hmore (h : Component.name name ∈ innerComponents more) :=
      (ih h).imp_left (List.mem_cons_of_mem s)
    rw [innerComponents] at h
    by_cases hidle : s = [] ∨ s = ['.']
    · rw [if_pos hidle] at h
      exact hmore h
    · rw [if_neg hidle] at h
      by_cases hparent : s = ['.', '.']
      · rw [if_pos hparent] at h
        exact hmore (List.mem_of_ne_of_mem (by simp) h)
      · rw [if_neg hparent] at h
        rcases List.mem_cons.mp h with heq | h
        · rw [Component.name.inj heq, String.toList_ofList]
          exact ⟨List.mem_cons_self .., hidle, hparent⟩
        · exact hmore h

/-- A name on a path is one of a file, and is part of the text. -/
theorem isFileName_of_mem_components (h : .name name ∈ p.components) :
    IsFileName name ∧ ∀ c ∈ name.toList, c ∈ p.text.toList := by
  have hinner : .name name ∈ innerComponents (segments p.text.toList) := by
    rw [components_eq] at h
    cases hsegments : segments p.text.toList with
    | nil =>
      rw [hsegments] at h
      cases h
    | cons first more =>
      have hnames := filterMap_name?_leadingComponents (first :: more)
      rw [hsegments] at h
      have hmem : name ∈ (leadingComponents (first :: more)).filterMap (·.name?) :=
        List.mem_filterMap.mpr ⟨_, h, rfl⟩
      rw [hnames, List.mem_filterMap] at hmem
      obtain ⟨c, hc, hname⟩ := hmem
      cases c with
      | name s =>
        cases hname
        exact hc
      | root | current | parent => cases hname
  obtain ⟨hsegment, hidle, hparent⟩ := segment_of_name_mem hinner
  rw [IsIdle, not_or] at hidle
  exact ⟨⟨slash_notMem_segments hsegment, hidle.1, hidle.2, hparent⟩,
    fun c hc => mem_of_mem_segments hsegment hc⟩

/-- The path that goes down from another one by names. -/
def descend (root : Path) (names : List String) : Path :=
  names.foldl (fun path name => path.join ⟨name⟩) root

@[simp] theorem descend_nil : root.descend [] = root := rfl

theorem descend_concat : root.descend (names ++ [name]) = (root.descend names).join ⟨name⟩ := by
  simp [descend]

theorem descend_text_ne (hroot : root.text ≠ "") (hnames : ∀ name ∈ names, IsFileName name) :
    (root.descend names).text ≠ "" := by
  induction names using List.reverseRecOn with
  | nil => exact hroot
  | append_singleton above name ih =>
    rw [List.forall_mem_append, List.forall_mem_singleton] at hnames
    rw [descend_concat]
    exact join_text_ne (ih hnames.1) (not_isAbsolute_fileName hnames.2)

theorem components_descend (hroot : root.text ≠ "") (hnames : ∀ name ∈ names, IsFileName name) :
    (root.descend names).components = root.components ++ names.map .name := by
  induction names using List.reverseRecOn with
  | nil => simp
  | append_singleton above name ih =>
    rw [List.forall_mem_append, List.forall_mem_singleton] at hnames
    rw [descend_concat, components_join_file (descend_text_ne hroot hnames.1) hnames.2,
      ih hnames.1, List.map_append, List.append_assoc]
    rfl

/-- All that a path going down is made of comes from the directory and the names. -/
theorem mem_descend {c : Char} (hnames : ∀ name ∈ names, IsFileName name)
    (hc : c ∈ (root.descend names).text.toList) :
    c ∈ root.text.toList ∨ c = '/' ∨ ∃ name ∈ names, c ∈ name.toList := by
  induction names using List.reverseRecOn with
  | nil => exact .inl hc
  | append_singleton above name ih =>
    rw [List.forall_mem_append, List.forall_mem_singleton] at hnames
    have habove (h : c ∈ (root.descend above).text.toList) :
        c ∈ root.text.toList ∨ c = '/' ∨ ∃ last ∈ above ++ [name], c ∈ last.toList := by
      rcases ih hnames.1 h with hroot | hslash | ⟨last, hlast, hmem⟩
      · exact .inl hroot
      · exact .inr (.inl hslash)
      · exact .inr (.inr ⟨last, List.mem_append_left _ hlast, hmem⟩)
    have hlast (h : c ∈ name.toList) : ∃ last ∈ above ++ [name], c ∈ last.toList :=
      ⟨name, List.mem_append_right _ (List.mem_singleton_self _), h⟩
    rw [descend_concat, join, if_neg (not_isAbsolute_fileName hnames.2)] at hc
    split at hc
    · rw [String.toList_append, List.mem_append] at hc
      exact hc.elim habove fun h => .inr (.inr (hlast h))
    · simp only [String.toList_append, List.mem_append] at hc
      rcases hc with (hc | hc) | hc
      · exact habove hc
      · exact .inr (.inl (by simpa using hc))
      · exact .inr (.inr (hlast hc))

/-- Every name makes the path longer. -/
theorem utf8ByteSize_descend_lt (hname : IsFileName name) :
    (root.descend names).text.utf8ByteSize <
      (root.descend (names ++ [name])).text.utf8ByteSize := by
  have hsome : 0 < name.utf8ByteSize := by
    refine Nat.pos_of_ne_zero fun hzero => hname.2.1 ?_
    rw [String.utf8ByteSize_eq_zero_iff.mp hzero]
    rfl
  rw [descend_concat, join, if_neg (not_isAbsolute_fileName hname)]
  split <;> simp only [String.utf8ByteSize_append] <;> omega

/-- The path of a file that lies somewhere below a directory. -/
theorem asksDirectory_descend (hroot : root.text ≠ "") (hnames : ∀ name ∈ names, IsFileName name)
    (hsome : names ≠ []) : FileSystem.asksDirectory (root.descend names) = false := by
  obtain ⟨above, name, rfl⟩ := (List.eq_nil_or_concat' names).resolve_left hsome
  rw [List.forall_mem_append, List.forall_mem_singleton] at hnames
  rw [descend_concat]
  exact (isFile_of_fileName hnames.2).asksDirectory_join (descend_text_ne hroot hnames.1)

end ApiSkeleton.Path
