import Mathlib
import ApiSkeleton.Text.Case

namespace ApiSkeleton.Text

theorem isUpper_iff {c : Char} : c.isUpper ↔ 65 ≤ c.toNat ∧ c.toNat ≤ 90 := by
  simp [Char.isUpper, UInt32.le_iff_toNat_le, ← Char.toNat_val]

private theorem isUpper_eq_false_of_lt {c : Char} (h : 90 < c.toNat) : c.isUpper = false := by
  rw [Bool.eq_false_iff, ne_eq, isUpper_iff]
  omega

private theorem isUpper_ofNat_of_lt {n : Nat} (h : 90 < n) : (Char.ofNat n).isUpper = false := by
  rw [Bool.eq_false_iff, ne_eq, isUpper_iff, Char.toNat_ofNat]
  split <;> omega

/-- A run never maps a character to a capital letter of ASCII or to one before. -/
def CaseRun.AvoidsCapitals (r : CaseRun) : Prop := 90 < (r.first : Int) + r.shift

instance (r : CaseRun) : Decidable r.AvoidsCapitals := inferInstanceAs (Decidable (_ < _))

private theorem lowerRuns_avoidCapitals : ∀ r ∈ lowerRuns, r.AvoidsCapitals := by
  decide +kernel

private theorem lowerExpansions_avoidCapitals :
    ∀ entry ∈ lowerExpansions, ∀ code ∈ entry.2, (Char.ofNat code).isUpper = false := by
  decide

/-- The lower-case form of a character, by where it comes from. -/
inductive LowerForm (c : Char) : List Char → Prop where
  | ascii (hascii : c.toNat < 128) : LowerForm c [c.toLower]
  | expansion {entry : Nat × List Nat} (hfar : 128 ≤ c.toNat) (hentry : entry ∈ lowerExpansions) :
      LowerForm c (entry.2.map Char.ofNat)
  | run {r : CaseRun} (hfar : 128 ≤ c.toNat) (hrun : r ∈ lowerRuns) (hfirst : r.first ≤ c.toNat)
      (hlast : c.toNat ≤ r.last) : LowerForm c [Char.ofNat ((c.toNat : Int) + r.shift).toNat]
  | same (hfar : 128 ≤ c.toNat) : LowerForm c [c]

theorem lowerForm (c : Char) : LowerForm c (lowerChar c) := by
  unfold lowerChar
  by_cases hascii : c.toNat < 128
  · rw [if_pos hascii]
    exact .ascii hascii
  · have hfar : 128 ≤ c.toNat := by omega
    rw [if_neg hascii, mapped]
    cases hexpansion : lowerExpansions.find? (·.1 == c.toNat) with
    | some entry => exact .expansion hfar (List.mem_of_find?_eq_some hexpansion)
    | none =>
      cases hrun : lowerRuns.find? (·.covers c.toNat) with
      | some r =>
        have hcovers : r.covers c.toNat := by simpa using List.find?_some hrun
        simp only [CaseRun.covers, Bool.and_eq_true, decide_eq_true_eq] at hcovers
        exact .run hfar (List.mem_of_find?_eq_some hrun) hcovers.1.1 hcovers.1.2
      | none => exact .same hfar

private theorem isUpper_of_mem_lowerChar {c d : Char} (hd : d ∈ lowerChar c) :
    d.isUpper = false := by
  have hform := lowerForm c
  generalize lowerChar c = form at hform hd
  cases hform with
  | ascii hascii => rw [List.mem_singleton.mp hd, Char.isUpper_toLower_eq_false]
  | expansion hfar hentry =>
    obtain ⟨code, hcode, rfl⟩ := List.mem_map.mp hd
    exact lowerExpansions_avoidCapitals _ hentry code hcode
  | run hfar hrun hfirst hlast =>
    have havoids := lowerRuns_avoidCapitals _ hrun
    unfold CaseRun.AvoidsCapitals at havoids
    rw [List.mem_singleton.mp hd]
    exact isUpper_ofNat_of_lt (by omega)
  | same hfar => exact isUpper_eq_false_of_lt (by rw [List.mem_singleton.mp hd]; omega)

private theorem isUpper_of_mem_lowerAfter {before cs : List Char} {d : Char}
    (hd : d ∈ lowerAfter before cs) : d.isUpper = false := by
  induction cs generalizing before with
  | nil => cases hd
  | cons c rest ih =>
    rw [lowerAfter, List.mem_append] at hd
    rcases hd with hd | hd
    · by_cases hsigma : c = 'Σ'
      · rw [if_pos hsigma] at hd
        have hsmall : d = 'ς' ∨ d = 'σ' := by
          split at hd
          · exact .inl (List.mem_singleton.mp hd)
          · exact .inr (List.mem_singleton.mp hd)
        rcases hsmall with rfl | rfl <;> decide
      · rw [if_neg hsigma] at hd
        exact isUpper_of_mem_lowerChar hd
    · exact ih hd

/-- A lower-cased text holds no capital letter of ASCII. -/
theorem isUpper_of_mem_lowercase {s : String} {d : Char} (hd : d ∈ (lowercase s).toList) :
    d.isUpper = false :=
  isUpper_of_mem_lowerAfter (by simpa [lowercase] using hd)

private theorem lowerAfter_of_ascii {before cs : List Char} (h : ∀ c ∈ cs, c.toNat < 128) :
    lowerAfter before cs = cs.map Char.toLower := by
  induction cs generalizing before with
  | nil => rfl
  | cons c rest ih =>
    obtain ⟨hascii, hrest⟩ := List.forall_mem_cons.mp h
    have hsigma : c ≠ 'Σ' := by
      rintro rfl
      exact absurd hascii (by decide)
    rw [lowerAfter, if_neg hsigma, lowerChar, if_pos hascii, ih hrest, List.singleton_append,
      List.map_cons]

/-- Of a text of ASCII characters nothing but the letters is lower-cased. -/
theorem lowercase_of_ascii {s : String} (h : ∀ c ∈ s.toList, c.toNat < 128) :
    lowercase s = asciiLowercase s := by
  rw [lowercase, lowerAfter_of_ascii h, asciiLowercase]

/-- Lower-casing the ASCII letters changes nothing where there are no capitals. -/
theorem asciiLowercase_eq_self {s : String} (h : ∀ c ∈ s.toList, c.isUpper = false) :
    asciiLowercase s = s := by
  have hsame : s.toList.map Char.toLower = s.toList := by
    rw [List.map_congr_left fun c hc =>
      Char.toLower_eq_of_not_isUpper (Bool.eq_false_iff.mp (h c hc)), List.map_id']
  rw [asciiLowercase, hsame, String.ofList_toList]

/-- Lower-casing changes nothing in a text of ASCII characters without capitals. -/
theorem lowercase_eq_self {s : String} (h : ∀ c ∈ s.toList, c.toNat < 128 ∧ c.isUpper = false) :
    lowercase s = s := by
  rw [lowercase_of_ascii fun c hc => (h c hc).1, asciiLowercase_eq_self fun c hc => (h c hc).2]

theorem asciiLowercase_append (s t : String) :
    asciiLowercase (s ++ t) = asciiLowercase s ++ asciiLowercase t := by
  simp [asciiLowercase]

end ApiSkeleton.Text
