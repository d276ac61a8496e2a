import ApiSkeleton.FileSystem
import ApiSkeleton.Proofs.Outcome
import Mathlib.Tactic.SplitIfs

namespace ApiSkeleton.FileSystem

variable {fs : FileSystem}

@[simp] theorem at?_root : fs.at? [] = some .directory := rfl

@[simp] theorem current_put (place : List String) (entry : Entry) :
    (fs.put place entry).current = fs.current := rfl

theorem find?_put (entries : List (List String × Entry)) (place q : List String) (entry : Entry) :
    ((put.go place entry entries).find? (·.1 == q)).map (·.2) =
      if q = place then some entry else (entries.find? (·.1 == q)).map (·.2) := by
  induction entries with
  | nil =>
    by_cases hq : q = place
    · simp [put.go, hq]
    · simp [put.go, hq, Ne.symm hq]
  | cons first rest ih =>
    obtain ⟨p, e⟩ := first
    rw [put.go]
    by_cases hp : p = place
    · by_cases hq : q = place
      · simp [hp, hq]
      · simp [hp, hq, beq_eq_false_iff_ne.mpr (Ne.symm hq)]
    · rw [if_neg hp, List.find?_cons, List.find?_cons]
      by_cases hpq : p = q
      · have hne : q ≠ place := hpq ▸ hp
        simp [hpq, hne]
      · simpa [beq_eq_false_iff_ne.mpr hpq] using ih

/-- What is put at a place is found there, and all else is as before. -/
theorem at?_put {place : List String} (hplace : place ≠ []) (entry : Entry) (q : List String) :
    (fs.put place entry).at? q = if q = place then some entry else fs.at? q := by
  by_cases hq : q = []
  · simp [hq, Ne.symm hplace]
  · rw [at?, at?, if_neg hq, if_neg hq]
    exact find?_put fs.entries place q entry

/-- Nothing is left at a place that was removed or below it, but for the way to the directory that
paths start from; everything else stays. -/
theorem at?_remove {path : Path} {place : List String} (hplace : fs.resolve path = .ok place)
    {q : List String} (hq : q ≠ []) : (fs.remove path).at? q =
      if place <+: q ∧ ¬ q <+: fs.current then none else fs.at? q := by
  have hremove : (fs.remove path).entries =
      fs.entries.filter fun e => !place.isPrefixOf e.1 || e.1.isPrefixOf fs.current := by
    rw [remove, hplace]
  rw [at?, at?, if_neg hq, if_neg hq, hremove, List.find?_filter]
  by_cases hgone : place <+: q ∧ ¬ q <+: fs.current
  · rw [if_pos hgone, Option.map_eq_none_iff, List.find?_eq_none]
    intro e _
    simp only [decide_eq_true_eq, beq_iff_eq, not_and]
    rintro hkept rfl
    simp [hgone.2, List.isPrefixOf_iff_prefix.mpr hgone.1] at hkept
  · rw [if_neg hgone]
    congr 2
    funext e
    by_cases he : e.1 = q
    · have hkept : place <+: e.1 → e.1 <+: fs.current := by simpa [he] using hgone
      simpa [he, Bool.eq_false_iff] using Decidable.not_or_of_imp hkept
    · simp [he]

/-- The place that one step leads to. -/
def stepFrom (fs : FileSystem) (place : List String) (c : Path.Component) :
    Except SystemFault (List String) :=
  match fs.at? place with
  | none => .error .notFound
  | some (.file _) => .error .notADirectory
  | some .directory =>
    match c with
    | .root => .ok []
    | .current => .ok place
    | .parent => .ok place.dropLast
    | .name s => if maxName < s.utf8ByteSize then .error .nameTooLong else .ok (place ++ [s])

theorem follow_cons (place : List String) (c : Path.Component) (rest : List Path.Component) :
    fs.follow place (c :: rest) = fs.stepFrom place c >>= fun q => fs.follow q rest := by
  rw [follow.eq_def, stepFrom.eq_def]
  rcases fs.at? place with _ | _ | content
  · rfl
  · cases c with
    | root | current | parent => rfl
    | name s =>
      simp only
      split <;> rfl
  · rfl

theorem follow_append (place : List String) (first second : List Path.Component) :
    fs.follow place (first ++ second) =
      fs.follow place first >>= fun q => fs.follow q second := by
  induction first generalizing place with
  | nil => rfl
  | cons c rest ih =>
    rw [List.cons_append, follow_cons, follow_cons]
    cases fs.stepFrom place c with
    | error fault => rfl
    | ok q => exact ih q

private theorem stepFrom_name {place : List String} {name : String}
    (hdirectory : fs.at? place = some .directory) (hshort : name.utf8ByteSize ≤ maxName) :
    fs.stepFrom place (.name name) = .ok (place ++ [name]) := by
  simp [stepFrom, hdirectory, Nat.not_lt.mpr hshort]

/-- A step is missing only if there is nothing at the place that it starts from. -/
theorem stepFrom_eq_notFound_iff {place : List String} {c : Path.Component} :
    fs.stepFrom place c = .error .notFound ↔ fs.at? place = none := by
  unfold stepFrom
  cases fs.at? place with
  | none => simp
  | some entry =>
    cases entry with
    | file content => simp
    | directory =>
      cases c with
      | root | current | parent => simp
      | name s =>
        simp only
        split <;> simp

/-- Names are followed through directories. -/
theorem follow_names {place names : List String}
    (hshort : ∀ name ∈ names, name.utf8ByteSize ≤ maxName)
    (hdirectories : ∀ above below, names = above ++ below → below ≠ [] →
      fs.at? (place ++ above) = some .directory) :
    fs.follow place (names.map .name) = .ok (place ++ names) := by
  induction names generalizing place with
  | nil => simp [follow]
  | cons name rest ih =>
    rw [List.forall_mem_cons] at hshort
    have hhere : fs.at? place = some .directory := by
      simpa using hdirectories [] (name :: rest) rfl (by simp)
    have hrest : fs.follow (place ++ [name]) (rest.map .name) = .ok (place ++ [name] ++ rest) := by
      refine ih hshort.2 fun above below hsplit hbelow => ?_
      rw [List.append_assoc]
      exact hdirectories (name :: above) below (by rw [hsplit]; rfl) hbelow
    rw [List.map_cons, follow_cons, stepFrom_name hhere hshort.1, ok_bind, hrest]
    simp

/-- The first thing on the way that is no directory decides how following names fails. -/
theorem follow_names_fails {place names above below : List String}
    (hshort : ∀ name ∈ names, name.utf8ByteSize ≤ maxName) (hsplit : names = above ++ below)
    (hbelow : below ≠ [])
    (hdirectories : ∀ before after, above = before ++ after → after ≠ [] →
      fs.at? (place ++ before) = some .directory) :
    (fs.at? (place ++ above) = none → fs.follow place (names.map .name) = .error .notFound) ∧
    (∀ content, fs.at? (place ++ above) = some (.file content) →
      fs.follow place (names.map .name) = .error .notADirectory) := by
  have habove : ∀ name ∈ above, name.utf8ByteSize ≤ maxName := fun name hname =>
    hshort name (hsplit ▸ List.mem_append_left _ hname)
  obtain ⟨name, rest, hrest⟩ := List.exists_cons_of_ne_nil hbelow
  rw [hsplit, List.map_append, follow_append, follow_names habove hdirectories, ok_bind, hrest,
    List.map_cons, follow_cons]
  constructor
  · intro hnone
    simp [stepFrom, hnone]
  · intro content hfile
    simp [stepFrom, hfile]

/-- Directories stay directories, and files stay files. -/
structure KeepsKinds (before after : FileSystem) : Prop where
  current : after.current = before.current
  directory : ∀ place, before.at? place = some .directory → after.at? place = some .directory
  file : ∀ place content, before.at? place = some (.file content) →
    ∃ now, after.at? place = some (.file now)

namespace KeepsKinds

variable {before after : FileSystem}

/-- Only what is missing can become anything else. -/
private theorem stepFrom (h : KeepsKinds before after) {place : List String} {c : Path.Component}
    (hfound : before.stepFrom place c ≠ .error .notFound) :
    after.stepFrom place c = before.stepFrom place c := by
  unfold FileSystem.stepFrom at hfound ⊢
  cases hat : before.at? place with
  | none => simp [hat] at hfound
  | some entry =>
    cases entry with
    | directory => rw [h.directory place hat]
    | file content =>
      obtain ⟨now, hnow⟩ := h.file place content hat
      rw [hnow]

theorem follow (h : KeepsKinds before after) {place : List String} {cs : List Path.Component}
    (hfound : before.follow place cs ≠ .error .notFound) :
    after.follow place cs = before.follow place cs := by
  induction cs generalizing place with
  | nil => rfl
  | cons c rest ih =>
    rw [follow_cons] at hfound
    rw [follow_cons, follow_cons]
    cases hstep : before.stepFrom place c with
    | error fault =>
      rw [hstep] at hfound
      rw [h.stepFrom (by rw [hstep]; exact hfound), hstep]
      rfl
    | ok q =>
      rw [hstep] at hfound
      rw [h.stepFrom (by simp [hstep]), hstep]
      exact ih hfound

/-- A path leads where it led, or fails as it failed, unless something was missing. -/
theorem resolve (h : KeepsKinds before after) {path : Path}
    (hfound : before.resolve path ≠ .error .notFound) :
    after.resolve path = before.resolve path := by
  unfold FileSystem.resolve at hfound ⊢
  rw [h.current]
  split_ifs at hfound ⊢
  · rfl
  · rfl
  · rfl
  · exact h.follow hfound

end KeepsKinds

/-- Whatever there was before is still at its place. -/
structure Extends (fs before : FileSystem) : Prop where
  current : fs.current = before.current
  entries : ∀ place entry, before.at? place = some entry → fs.at? place = some entry

namespace Extends

variable {before middle : FileSystem}

theorem refl (fs : FileSystem) : fs.Extends fs := ⟨rfl, fun _ _ h => h⟩

theorem trans (h : fs.Extends middle) (h' : middle.Extends before) : fs.Extends before :=
  ⟨h.current.trans h'.current, fun _ _ hat => h.entries _ _ (h'.entries _ _ hat)⟩

theorem put {place : List String} (hnew : fs.at? place = none) (entry : Entry) :
    (fs.put place entry).Extends fs := by
  have hplace : place ≠ [] := by
    rintro rfl
    cases hnew
  refine ⟨rfl, fun q found hq => ?_⟩
  rw [at?_put hplace, if_neg, hq]
  rintro rfl
  rw [hnew] at hq
  cases hq

theorem keepsKinds (h : fs.Extends before) : KeepsKinds before fs :=
  ⟨h.current, fun place => h.entries place .directory,
    fun place content hat => ⟨content, h.entries place _ hat⟩⟩

theorem resolve (h : fs.Extends before) {path : Path} {q : List String}
    (hq : before.resolve path = .ok q) : fs.resolve path = .ok q := by
  rw [h.keepsKinds.resolve (by simp [hq]), hq]

theorem look (h : fs.Extends before) {path : Path} {entry : Entry}
    (hlook : before.look path = .ok entry) : fs.look path = .ok entry := by
  obtain ⟨q, hq, hfound⟩ := bind_eq_ok_iff.mp hlook
  rw [FileSystem.look, h.resolve hq, ok_bind]
  cases hat : before.at? q with
  | none => simp [hat] at hfound
  | some found =>
    rw [hat] at hfound
    rw [h.entries _ _ hat]
    exact hfound

theorem read (h : fs.Extends before) {path : Path} {content : ByteArray}
    (hread : before.read path = .ok content) : fs.read path = .ok content := by
  obtain ⟨entry, hlook, hfound⟩ := bind_eq_ok_iff.mp hread
  rw [FileSystem.read, h.look hlook, ok_bind]
  exact hfound

end Extends

/-- Removing something adds nothing. -/
theorem extends_remove (path : Path) : fs.Extends (fs.remove path) := by
  cases hplace : fs.resolve path with
  | error fault =>
    have hkept : fs.remove path = fs := by rw [remove, hplace]
    rw [hkept]
    exact .refl fs
  | ok place =>
    refine ⟨by rw [remove, hplace], fun q entry hq => ?_⟩
    by_cases hroot : q = []
    · rw [hroot] at hq ⊢
      exact hq
    · rw [at?_remove hplace hroot] at hq
      split_ifs at hq
      exact hq

end ApiSkeleton.FileSystem
