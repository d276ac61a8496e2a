import ApiSkeleton.App.Place
import ApiSkeleton.Proofs.Path.File
import Mathlib.Data.List.Infix

namespace ApiSkeleton

namespace App

variable {above : List String} {name : String}

/-- The name of a file by the names that lead to it. -/
def relativeName (names : List String) : String := "/".intercalate names

/-- What stands before the names of the files in a directory. -/
def leading (names : List String) : String := String.join (names.map (· ++ "/"))

@[simp] theorem leading_nil : leading [] = "" := rfl

theorem leading_concat : leading (above ++ [name]) = leading above ++ name ++ "/" := by
  simp [leading, String.append_assoc]

theorem relativeName_concat : relativeName (above ++ [name]) = leading above ++ name := by
  induction above with
  | nil => simp [relativeName]
  | cons first rest ih =>
    rw [relativeName, List.cons_append, String.intercalate_cons_of_ne_nil (by simp), ← relativeName,
      ih]
    simp [leading, String.append_assoc]

theorem mem_leading {c : Char} (h : c ∈ (leading above).toList) :
    c = '/' ∨ ∃ s ∈ above, c ∈ s.toList := by
  induction above using List.reverseRecOn with
  | nil => cases h
  | append_singleton rest last ih =>
    rw [leading_concat, String.toList_append, String.toList_append] at h
    rcases List.mem_append.mp h with h | hslash
    · rcases List.mem_append.mp h with hrest | hlast
      · exact (ih hrest).imp_right fun ⟨s, hs, hc⟩ => ⟨s, List.mem_append_left _ hs, hc⟩
      · exact .inr ⟨last, List.mem_append_right _ (List.mem_singleton_self _), hlast⟩
    · exact .inl (List.mem_singleton.mp hslash)

/-- A name in which backslashes count as slashes. -/
def slashed (name : String) : String :=
  String.ofList (name.toList.map fun c => if c = '\\' then '/' else c)

theorem slashed_eq_self (h : '\\' ∉ name.toList) : slashed name = name := by
  have hmap : name.toList.map (fun c => if c = '\\' then '/' else c) = name.toList.map id := by
    refine List.map_congr_left fun c hc => if_neg ?_
    rintro rfl
    exact h hc
  rw [slashed, hmap, List.map_id, String.ofList_toList]

private theorem getLast?_leading (above : List String) : (leading above).toList.getLast? = none ∨
    (leading above).toList.getLast? = some '/' := by
  cases above using List.reverseRecOn with
  | nil => exact .inl rfl
  | append_singleton rest last =>
    right
    rw [leading_concat]
    simp

theorem isTemplate_iff : isTemplate name ↔ templateSuffix.toList <:+ name.toList :=
  List.isSuffixOf_iff_suffix

/-- A text is found in an image under its characters if these come from themselves alone. -/
private theorem map_eq_iff_of_fixed {f : Char → Char} {mark cs : List Char}
    (h : ∀ c ∈ mark, ∀ d, f d = c ↔ d = c) : cs.map f = mark ↔ cs = mark := by
  induction mark generalizing cs with
  | nil => simp
  | cons c rest ih =>
    rw [List.forall_mem_cons] at h
    cases cs with
    | nil => simp
    | cons d more => simp [h.1 d, ih h.2]

/-- It does not matter for templates which way the slashes lean. -/
theorem isTemplate_slashed (name : String) : isTemplate (slashed name) = isTemplate name := by
  have hmark : '/' ∉ templateSuffix.toList ∧ '\\' ∉ templateSuffix.toList := by decide
  have hfixed : ∀ c ∈ templateSuffix.toList, ∀ d : Char,
      (if d = '\\' then '/' else d) = c ↔ d = c := by
    intro c hc d
    have hplain : c ≠ '/' ∧ c ≠ '\\' :=
      ⟨fun h => absurd (h ▸ hc) hmark.1, fun h => absurd (h ▸ hc) hmark.2⟩
    by_cases hd : d = '\\'
    · simp [hd, hplain.1.symm, hplain.2.symm]
    · rw [if_neg hd]
  rw [Bool.eq_iff_iff, isTemplate_iff, isTemplate_iff, slashed, String.toList_ofList,
    List.suffix_iff_eq_drop, List.suffix_iff_eq_drop, List.length_map, ← List.map_drop, eq_comm,
    map_eq_iff_of_fixed hfixed, eq_comm]

/-- The mark stands at the end of the name of a file, wherever the file lies. -/
theorem isTemplate_relativeName (above : List String) (name : String) :
    isTemplate (relativeName (above ++ [name])) = isTemplate name := by
  have hslash : '/' ∉ templateSuffix.toList := by decide
  rw [Bool.eq_iff_iff, isTemplate_iff, isTemplate_iff, relativeName_concat, String.toList_append]
  refine ⟨fun h => ?_, fun h => h.trans (List.suffix_append ..)⟩
  rcases List.suffix_or_suffix_of_suffix h (List.suffix_append _ name.toList) with
    hshort | ⟨rest, hrest⟩
  · exact hshort
  · rw [← hrest, List.suffix_append_self_iff] at h
    rw [← hrest] at hslash ⊢
    -- A longer mark would reach over the slash in front of the name.
    cases rest using List.reverseRecOn with
    | nil => exact List.suffix_rfl
    | append_singleton front last =>
      obtain ⟨start, hstart⟩ := h
      have hlast : (leading above).toList.getLast? = some last := by
        rw [← hstart, ← List.append_assoc, List.getLast?_concat]
      rcases getLast?_leading above with hnone | hsome
      · rw [hnone] at hlast
        cases hlast
      · rw [hsome] at hlast
        cases hlast
        simp at hslash

@[simp] theorem baseName_append (kept : String) : baseName (kept ++ templateSuffix) = kept := by
  have hmark : templateSuffix.toList.isSuffixOf? (kept ++ templateSuffix).toList =
      some kept.toList := by
    rw [List.isSuffixOf?_eq_some_iff_append_eq, String.toList_append]
  rw [baseName, hmark]
  exact String.ofList_toList

theorem baseName_of_plain (h : isTemplate name = false) : baseName name = name := by
  unfold baseName
  cases hmark : templateSuffix.toList.isSuffixOf? name.toList with
  | none => rfl
  | some cs =>
    rw [List.isSuffixOf?_eq_some_iff_append_eq] at hmark
    rw [Bool.eq_false_iff, ne_eq, isTemplate_iff] at h
    exact absurd ⟨cs, hmark⟩ h

/-- One mark is dropped if there is one. -/
theorem baseName_spec (name : String) :
    name = baseName name ++ templateSuffix ∨ isTemplate name = false ∧ baseName name = name := by
  cases hplain : isTemplate name with
  | false => exact .inr ⟨rfl, baseName_of_plain hplain⟩
  | true =>
    obtain ⟨cs, hcs⟩ := isTemplate_iff.mp hplain
    have hname : name = String.ofList cs ++ templateSuffix := by
      rw [← String.toList_inj, String.toList_append, String.toList_ofList, hcs]
    rw [hname, baseName_append]
    exact .inl rfl

private theorem baseName_relativeName (above : List String) (name : String) :
    baseName (relativeName (above ++ [name])) = relativeName (above ++ [baseName name]) := by
  rw [relativeName_concat, relativeName_concat]
  rcases baseName_spec name with hname | ⟨hplain, hname⟩
  · rw [hname, ← String.append_assoc, baseName_append, baseName_append]
  · have hsame := isTemplate_relativeName above name
    rw [hplain, relativeName_concat] at hsame
    rw [hname, baseName_of_plain hsame]

private theorem segments_relativeName (habove : ∀ s ∈ above, '/' ∉ s.toList)
    (hname : '/' ∉ name.toList) :
    Path.segments (relativeName (above ++ [name])).toList =
      above.map String.toList ++ [name.toList] := by
  induction above with
  | nil => simpa [relativeName] using Path.segments_of_no_slash hname
  | cons first rest ih =>
    rw [List.forall_mem_cons] at habove
    have hsplit : (relativeName (first :: rest ++ [name])).toList =
        first.toList ++ '/' :: (relativeName (rest ++ [name])).toList := by
      rw [relativeName, List.cons_append, String.intercalate_cons_of_ne_nil (by simp)]
      simp [relativeName]
    rw [hsplit, Path.segments_append_slash, Path.segments_of_no_slash habove.1, ih habove.2,
      List.singleton_append, List.map_cons, List.cons_append]

/-- A directory in front of the name of a file is followed by a name. -/
private theorem not_isAbsolute_below {directory : String} {rest : Path}
    (habove : ∀ s ∈ above, '/' ∉ s.toList ∧ s.toList ≠ []) (hname : '/' ∉ name.toList)
    (h : below? (directory ++ "/") (relativeName (above ++ [name])) = some rest) :
    relativeName (above ++ [name]) = directory ++ "/" ++ rest.text ∧ ¬ rest.isAbsolute := by
  rw [below?, Option.map_eq_some_iff] at h
  obtain ⟨cs, hcs, rfl⟩ := h
  rw [List.isPrefixOf?_eq_some_iff_append_eq] at hcs
  refine ⟨by rw [← String.toList_inj, ← hcs]; simp, fun habsolute => ?_⟩
  have hslash : ∃ more, cs = '/' :: more := by
    cases cs with
    | nil => simp [Path.isAbsolute] at habsolute
    | cons c more =>
      simp only [Path.isAbsolute, String.toList_ofList, List.head?_cons, beq_iff_eq,
        Option.some.injEq] at habsolute
      exact ⟨more, by rw [habsolute]⟩
  obtain ⟨more, rfl⟩ := hslash
  -- Two slashes in a row would leave an empty name between them.
  have hsegments := segments_relativeName (fun s hs => (habove s hs).1) hname
  rw [← hcs] at hsegments
  simp only [String.toList_append, String.reduceToList, List.append_assoc, List.singleton_append,
    Path.segments_append_slash, Path.segments_slash] at hsegments
  obtain ⟨front, last, hmore⟩ :=
    (List.eq_nil_or_concat' (Path.segments more)).resolve_left (Path.segments_ne_nil more)
  rw [hmore, ← List.cons_append, ← List.append_assoc] at hsegments
  have hempty : [] ∈ above.map String.toList := by
    rw [← (List.append_inj' hsegments rfl).1]
    simp
  obtain ⟨s, hs, hnil⟩ := List.mem_map.mp hempty
  exact (habove s hs).2 hnil

end App

open App

/-- Directories and names as the default layout takes them apart. -/
private theorem text_default_below {above : List String} {name : String}
    (habove : ∀ s ∈ above, '/' ∉ s.toList ∧ s.toList ≠ []) (hname : '/' ∉ name.toList) :
    (match below? "src/db/" (relativeName (above ++ [name])) with
      | some rest => ((Path.mk "src").join ⟨"db"⟩).join rest
      | none =>
        match below? "src/" (relativeName (above ++ [name])) with
        | some rest => (Path.mk "src").join rest
        | none => ⟨relativeName (above ++ [name])⟩).text = relativeName (above ++ [name]) := by
  have hjoin {directory : String} {rest : Path} (hsome : directory ≠ "")
      (hlast : directory.toList.getLast? ≠ some '/')
      (h : below? (directory ++ "/") (relativeName (above ++ [name])) = some rest) :
      ((Path.mk directory).join rest).text = relativeName (above ++ [name]) := by
    obtain ⟨hwhole, hrelative⟩ := not_isAbsolute_below habove hname h
    rw [Path.join, if_neg hrelative, if_neg (by simp [hsome, hlast]), hwhole]
  split
  · rename_i rest hrest
    exact @hjoin "src/db" rest (by decide) (by decide) hrest
  · split
    · rename_i rest hrest
      exact @hjoin "src" rest (by decide) (by decide) hrest
    · rfl

/-- In the default layout, a file goes where it lies: its name only loses one mark of templates, and
a `gitignore` at the top gets its dot back. -/
theorem text_place_default {above : List String} {name : String}
    (habove : ∀ s ∈ above, '/' ∉ s.toList ∧ s.toList ≠ []) (hname : '/' ∉ name.toList) :
    (defaultLayout.place (relativeName (above ++ [name]))).text = relativeName
      (above ++ [if above = [] ∧ baseName name = "gitignore" then ".gitignore"
        else baseName name]) := by
  have hkept : '/' ∉ (baseName name).toList := by
    rcases baseName_spec name with hmark | ⟨-, hplain⟩
    · rw [hmark, String.toList_append, List.mem_append, not_or] at hname
      exact hname.1
    · rwa [hplain]
  have hrenamed : (if relativeName (above ++ [baseName name]) = "gitignore" then ".gitignore"
      else relativeName (above ++ [baseName name])) = relativeName
        (above ++ [if above = [] ∧ baseName name = "gitignore" then ".gitignore"
          else baseName name]) := by
    rcases List.eq_nil_or_concat' above with rfl | ⟨front, last, rfl⟩
    · simp only [List.nil_append, relativeName, String.intercalate_singleton, true_and]
    · have hother : relativeName (front ++ [last] ++ [baseName name]) ≠ "gitignore" := by
        intro heq
        have hslash : '/' ∈ "gitignore".toList := by
          rw [← heq, relativeName_concat, leading_concat]
          simp
        exact absurd hslash (by decide)
      have hsome : front ++ [last] ≠ [] := by simp
      rw [if_neg hother, if_neg fun h => hsome h.1]
  have hlast : '/' ∉ (if above = [] ∧ baseName name = "gitignore" then ".gitignore"
      else baseName name).toList := by
    split
    · decide
    · exact hkept
  delta Layout.place
  simp only [baseName_relativeName, hrenamed]
  exact text_default_below habove hlast

end ApiSkeleton
