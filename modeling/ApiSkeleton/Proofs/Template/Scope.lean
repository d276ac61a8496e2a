import ApiSkeleton.Proofs.Members
import ApiSkeleton.Template.Render

namespace ApiSkeleton.Template

theorem Value.same_text (a b : String) : (Value.text a).same (.text b) = (a == b) := by
  simp [Value.same, Value.pair?]

theorem Value.get?_ofFields (fields : List (String × Value)) (name : String) :
    Value.get? (fields.map fun (k, v) => (Value.text k, v)) (.text name) =
      findMember? fields name := by
  induction fields with
  | nil => rfl
  | cons entry rest ih =>
    obtain ⟨k, v⟩ := entry
    unfold Value.get? at ih ⊢
    by_cases hkey : k = name
    · simp [findMember?, same_text, hkey]
    · simpa [findMember?, same_text, hkey] using ih

namespace Scope

/-- A name of the context, where nothing is assigned yet. -/
theorem find?_ofContext {fields : List (String × Value)} {name : String} {v : Value}
    (hfield : findMember? fields name = some v) (hdefined : v ≠ .undefined) :
    (ofContext (.ofFields fields)).find? name = some v := by
  unfold find? ofContext
  simp only [Scope.lookup?, findMember?, Value.ofFields, Value.get?_ofFields, hfield]
  cases v <;> simp_all

/-- A name that neither the template nor the context has, such as that of a function. -/
theorem find?_ofContext_none {fields : List (String × Value)} {name : String}
    (hfield : findMember? fields name = none) :
    (ofContext (.ofFields fields)).find? name = none := by
  simp [find?, ofContext, Scope.lookup?, findMember?, Value.ofFields, Value.get?_ofFields, hfield]

@[simp] theorem find?_set_self (s : Scope) (name : String) (v : Value) :
    (s.set name v).find? name = some v := by
  unfold find? set
  cases s.frames with
  | nil => simp [lookup?, findMember?]
  | cons f rest => simp [lookup?]

@[simp] theorem find?_set_of_ne (s : Scope) {name other : String} (v : Value)
    (hne : name ≠ other) : (s.set name v).find? other = s.find? other := by
  unfold find? set
  cases s.frames with
  | nil => simp [lookup?, findMember?, hne]
  | cons f rest => simp [lookup?, findMember?_putMember_of_ne _ v hne]

/-- A scope of a loop that was entered from `s` and has assigned at most the given names. -/
def InLoop (s : Scope) (names : List String) (t : Scope) : Prop :=
  ∃ locals loop, t = ⟨⟨locals, some loop⟩ :: s.frames, s.context⟩ ∧
    ∀ name ∉ names, findMember? locals name = none

theorem InLoop.enter (s : Scope) (names : List String) (loop : Value) :
    InLoop s names (s.enter (some loop)) :=
  ⟨[], loop, rfl, fun _ _ => rfl⟩

theorem InLoop.setLoop {s t : Scope} {names : List String} (h : InLoop s names t) (loop : Value) :
    InLoop s names (t.setLoop loop) := by
  obtain ⟨locals, _, rfl, hlocals⟩ := h
  exact ⟨locals, loop, rfl, hlocals⟩

theorem InLoop.set {s t : Scope} {names : List String} (h : InLoop s names t) {name : String}
    (hname : name ∈ names) (v : Value) : InLoop s names (t.set name v) := by
  obtain ⟨locals, loop, rfl, hlocals⟩ := h
  refine ⟨putMember locals name v, loop, rfl, fun other hother => ?_⟩
  have hne : name ≠ other := by
    rintro rfl
    exact hother hname
  rw [findMember?_putMember_of_ne _ _ hne, hlocals other hother]

/-- What a loop has not assigned is seen as before. -/
theorem InLoop.find? {s t : Scope} {names : List String} (h : InLoop s names t) {name : String}
    (hname : name ∉ names) (hloop : name ≠ "loop") : t.find? name = s.find? name := by
  obtain ⟨locals, loop, rfl, hlocals⟩ := h
  simp [Scope.find?, lookup?, hlocals name hname, hloop]

theorem InLoop.find?_loop {s t : Scope} {names : List String} (h : InLoop s names t)
    (hloop : "loop" ∉ names) (v : Value) : (t.setLoop v).find? "loop" = some v := by
  obtain ⟨locals, loop, rfl, hlocals⟩ := h
  simp [Scope.find?, Scope.setLoop, lookup?, hlocals "loop" hloop]

end Scope

end ApiSkeleton.Template
