import ApiSkeleton.Proofs.Outcome
import ApiSkeleton.Proofs.Template.Scope

namespace ApiSkeleton.Template

attribute [simp] Expr.eval evalAll evalKeywords

@[simp] theorem Value.member_ofFields (fields : List (String × Value)) (name : String) :
    (Value.ofFields fields).member name = .ok ((findMember? fields name).getD .undefined) := by
  simp [Value.ofFields, Value.member, Value.get?_ofFields]

@[simp] theorem Value.printed_text (s : String) : (Value.text s).printed = s := rfl

@[simp] theorem Value.printed_bool (b : Bool) : (Value.bool b).printed = boolText b := by
  simp [printed, inspected]

@[simp] theorem Value.isTrue_none : Value.none.isTrue = false := rfl

@[simp] theorem Value.isTrue_bool (b : Bool) : (Value.bool b).isTrue = b := rfl

@[simp] theorem Value.isTrue_list (items : List Value) :
    (Value.list items).isTrue = !items.isEmpty := rfl

@[simp] theorem Value.isTrue_ofFields (fields : List (String × Value)) :
    (Value.ofFields fields).isTrue = !fields.isEmpty := by
  cases fields <;> rfl

/-- A filter on texts takes any value by the text that it prints as. -/
theorem applyFilter_of_textFilter? {name : String} {f : String → String}
    (hfilter : textFilter? name = some f) (v : Value) :
    applyFilter name v ⟨[], []⟩ = .ok (.text (f v.printed)) := by
  simp [applyFilter, hfilter, Arguments.toList]

@[simp] theorem applyFilter_camelCase (v : Value) :
    applyFilter "camel_case" v ⟨[], []⟩ = .ok (.text (Text.camelCase v.printed)) :=
  applyFilter_of_textFilter? rfl v

@[simp] theorem applyFilter_pascalCase (v : Value) :
    applyFilter "pascal_case" v ⟨[], []⟩ = .ok (.text (Text.pascalCase v.printed)) :=
  applyFilter_of_textFilter? rfl v

@[simp] theorem applyFilter_snakeCase (v : Value) :
    applyFilter "snake_case" v ⟨[], []⟩ = .ok (.text (Text.snakeCase v.printed)) :=
  applyFilter_of_textFilter? rfl v

@[simp] theorem applyFilter_lowercase (v : Value) :
    applyFilter "lowercase" v ⟨[], []⟩ = .ok (.text (Text.lowercase v.printed)) :=
  applyFilter_of_textFilter? rfl v

@[simp] theorem applyFilter_identifier (v : Value) :
    applyFilter "identifier" v ⟨[], []⟩ = .ok (.text (Text.identifier v.printed)) :=
  applyFilter_of_textFilter? rfl v

@[simp] theorem applyFilter_quoted (v : Value) :
    applyFilter "ts_string" v ⟨[], []⟩ = .ok (.text (Text.quoted v.printed)) :=
  applyFilter_of_textFilter? rfl v

@[simp] theorem applyFilter_propertyKey (v : Value) :
    applyFilter "ts_key" v ⟨[], []⟩ = .ok (.text (Text.propertyKey v.printed)) :=
  applyFilter_of_textFilter? rfl v

@[simp] theorem runAll_nil (s : Scope) : runAll [] s = .ok ("", s) := rfl

@[simp] theorem runAll_cons (t : Statement) (rest : List Statement) (s : Scope) :
    runAll (t :: rest) s = (do
      let (out, after) ← t.run s
      let (more, final) ← runAll rest after
      return (out ++ more, final)) := rfl

/-- Statements one behind the other give their texts one behind the other. -/
theorem runAll_append (first second : List Statement) {s t u : Scope} {a b : String}
    (hfirst : runAll first s = .ok (a, t)) (hsecond : runAll second t = .ok (b, u)) :
    runAll (first ++ second) s = .ok (a ++ b, u) := by
  induction first generalizing s a with
  | nil =>
    cases hfirst
    simpa using hsecond
  | cons statement rest ih =>
    simp only [runAll_cons, bind_eq_ok_iff, pure_eq_ok, Except.ok.injEq, Prod.mk.injEq] at hfirst
    obtain ⟨⟨out, after⟩, hout, ⟨more, final⟩, hmore, rfl, rfl⟩ := hfirst
    simp [hout, ih hmore, String.append_assoc]

/-- Statements that give a text and assign nothing do so together. -/
theorem runAll_of_each {statements : List Statement} {s : Scope}
    (h : ∀ t ∈ statements, ∃ out, t.run s = .ok (out, s)) :
    ∃ out, runAll statements s = .ok (out, s) := by
  induction statements with
  | nil => exact ⟨"", rfl⟩
  | cons t rest ih =>
    rw [List.forall_mem_cons] at h
    obtain ⟨first, hfirst⟩ := h.1
    obtain ⟨others, hothers⟩ := ih h.2
    exact ⟨first ++ others, by simp [hfirst, hothers]⟩

@[simp] theorem run_text (out : String) (s : Scope) : (Statement.text out).run s = .ok (out, s) :=
  rfl

@[simp] theorem run_print (e : Expr) (s : Scope) :
    (Statement.print e).run s = (do return ((← e.eval s).printed, s)) := rfl

@[simp] theorem run_set (name : String) (e : Expr) (s : Scope) :
    (Statement.set (.name name) e).run s = (do return ("", s.set name (← e.eval s))) := by
  simp only [Statement.run, Scope.assign]
  cases e.eval s <;> rfl

theorem run_branch (condition : Expr) (yes no : List Statement) (s : Scope) :
    (Statement.branch condition yes no).run s = (do
      if (← condition.eval s).isTrue then runAll yes s else runAll no s) := rfl

@[simp] theorem run_when_text (condition : Expr) (out : String) (s : Scope) :
    (Statement.when condition [.text out]).run s = (do
      let v ← condition.eval s
      return (if v.isTrue then out else "", s)) := by
  rw [run_branch]
  cases condition.eval s with
  | error fault => rfl
  | ok v => by_cases hv : v.isTrue <;> simp [hv]

variable {α : Type}

/-- A loop without a condition goes through all its items. -/
private theorem chosen_all {target : Target} {vs : List Value} (s : Scope)
    (hassign : ∀ v ∈ vs, ∀ t, Succeeds (Scope.assign target v t)) :
    chosen target (.literal (.bool true)) vs s = .ok vs := by
  induction vs generalizing s with
  | nil => rfl
  | cons v rest ih =>
    obtain ⟨t, ht⟩ := hassign v (by simp) s
    have hrest := ih t fun w hw => hassign w (List.mem_cons_of_mem v hw)
    simp [chosen, ht, hrest, Value.isTrue]

/-- The invariant of a loop is that only the given names are assigned in its frame. If every item
    gives its line and keeps that, so does the whole loop, from any position on. -/
private theorem runLoop_lines {s : Scope} {names : List String} {target : Target}
    {body : List Statement}
    {depth : Nat} {all : List α} {value : α → Value} {line : Nat → α → String}
    (hstep : ∀ i x t before after, all[i]? = some x → s.InLoop names t →
      ∃ entered final,
        Scope.assign target (value x) (t.setLoop (loopValue depth all.length i before after)) =
          .ok entered ∧
        runAll body entered = .ok (line i x, final) ∧ s.InLoop names final)
    (rest : List α) {position : Nat} (hrest : all.drop position = rest) (before : Value)
    {t : Scope} (ht : s.InLoop names t) :
    ∃ final, runLoop target depth all.length (runAll body) position before (rest.map value) t =
      .ok (String.join (rest.mapIdx fun i x => line (position + i) x), final) := by
  induction rest generalizing position before t with
  | nil => exact ⟨t, rfl⟩
  | cons x rest ih =>
    have hx : all[position]? = some x := by
      rw [← List.head?_drop, hrest, List.head?_cons]
    have hnext : all.drop (position + 1) = rest := by
      rw [← List.tail_drop, hrest, List.tail_cons]
    obtain ⟨entered, middle, hentered, hbody, hmiddle⟩ :=
      hstep position x t before ((rest.map value).headD .undefined) hx ht
    obtain ⟨final, hfinal⟩ := ih hnext (value x) hmiddle
    refine ⟨final, ?_⟩
    simp only [List.map_cons, runLoop, hentered, ok_bind, hbody, hfinal, pure_eq_ok]
    simp [List.mapIdx_cons, String.join_cons, Nat.add_assoc, Nat.add_comm 1]

theorem run_loop_lines {s : Scope} {target : Target} {items : Expr} {body : List Statement}
    (names : List String) (all : List α) (value : α → Value) (line : Nat → α → String)
    (hitems : items.eval s = .ok (.list (all.map value)))
    (hassign : ∀ x t, Succeeds (Scope.assign target (value x) t))
    (hstep : ∀ i x t before after, all[i]? = some x → s.InLoop names t →
      ∃ entered final,
        Scope.assign target (value x)
          (t.setLoop (loopValue (s.frames.length - 1) all.length i before after)) = .ok entered ∧
        runAll body entered = .ok (line i x, final) ∧ s.InLoop names final) :
    (Statement.each target items body).run s = .ok (String.join (all.mapIdx line), s) := by
  have hchosen : chosen target (.literal (.bool true)) (all.map value) (s.enter none) =
      .ok (all.map value) := by
    refine chosen_all _ fun v hv t => ?_
    obtain ⟨x, _, rfl⟩ := List.mem_map.mp hv
    exact hassign x t
  simp only [Statement.run, hitems, ok_bind, Value.items, hchosen]
  cases all with
  | nil => simp
  | cons x rest =>
    have hstart : (x :: rest).drop 0 = x :: rest := rfl
    obtain ⟨final, hfinal⟩ := runLoop_lines hstep (x :: rest) hstart .undefined
      (Scope.InLoop.enter s names .undefined)
    simp only [List.map_cons, List.isEmpty_cons, Bool.false_eq_true, if_false, List.length_cons,
      List.length_map] at hfinal ⊢
    rw [hfinal]
    simp

/-- A loop over named items: in the body the name stands for the item, and `loop` for its
    position. -/
theorem run_each_lines {s : Scope} {name : String} {items : Expr} {body : List Statement}
    (names : List String) (all : List α) (value : α → Value) (line : Nat → α → String)
    (hitems : items.eval s = .ok (.list (all.map value)))
    (hname : name ∈ names) (hloop : "loop" ∉ names)
    (hbody : ∀ i x t before after, all[i]? = some x → s.InLoop names t →
      t.find? name = some (value x) →
      t.find? "loop" = some (loopValue (s.frames.length - 1) all.length i before after) →
      ∃ final, runAll body t = .ok (line i x, final) ∧ s.InLoop names final) :
    (Statement.each (.name name) items body).run s = .ok (String.join (all.mapIdx line), s) := by
  have hne : name ≠ "loop" := by
    rintro rfl
    exact hloop hname
  refine run_loop_lines names all value line hitems (fun x t => ⟨_, rfl⟩) ?_
  intro i x t before after hx ht
  have hinside := (ht.setLoop (loopValue (s.frames.length - 1) all.length i before after)).set
    hname (value x)
  obtain ⟨final, hfinal, hkept⟩ := hbody i x _ before after hx hinside (Scope.find?_set_self _ _ _)
    (by rw [Scope.find?_set_of_ne _ _ hne, ht.find?_loop hloop])
  exact ⟨_, final, rfl, hfinal, hkept⟩

theorem mapIdx_line (all : List α) (line : α → String) :
    (all.mapIdx fun _ => line) = all.map line :=
  List.mapIdx_eq_iff.mpr (by simp)

/-- A loop whose lines do not depend on positions. -/
theorem run_each {s : Scope} {name : String} {items : Expr} {body : List Statement}
    (names : List String) (all : List α) (value : α → Value) (line : α → String)
    (hitems : items.eval s = .ok (.list (all.map value)))
    (hname : name ∈ names) (hloop : "loop" ∉ names)
    (hbody : ∀ x ∈ all, ∀ t, s.InLoop names t → t.find? name = some (value x) →
      ∃ final, runAll body t = .ok (line x, final) ∧ s.InLoop names final) :
    (Statement.each (.name name) items body).run s = .ok (String.join (all.map line), s) := by
  rw [run_each_lines names all value (fun _ => line) hitems hname hloop
    fun i x t _ _ hx ht hitem _ => hbody x (List.mem_of_getElem? hx) t ht hitem]
  rw [mapIdx_line]

end ApiSkeleton.Template
