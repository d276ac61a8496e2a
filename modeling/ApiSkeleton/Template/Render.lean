import ApiSkeleton.Template.Helper

namespace ApiSkeleton.Template

/-- The names of one loop, or of the template itself. -/
structure Frame where
  locals : List (String × Value)
  /-- What `loop` stands for. -/
  loop : Option Value

/-- The names in reach, innermost loop first. Those that a template sets are seen before those of
    the context. -/
structure Scope where
  frames : List Frame
  context : Value

namespace Scope

/-- The scope in which a template starts. -/
def ofContext (context : Value) : Scope := ⟨[⟨[], none⟩], context⟩

/-- The value of a name in the loops around a place. -/
def lookup? (name : String) : List Frame → Option Value
  | [] => none
  | f :: rest =>
    match findMember? f.locals name with
    | some v => some v
    | none =>
      match f.loop, name == "loop" with
      | some v, true => some v
      | _, _ => lookup? name rest

/-- The value of a name, if it is a name of a loop, of the template or of the context. -/
def find? (s : Scope) (name : String) : Option Value :=
  match lookup? name s.frames with
  | some v => some v
  | none =>
    match s.context with
    | .map entries =>
      match Value.get? entries (.text name) with
      | some .undefined => none
      | found => found
    | _ => none

/-- Gives a name a value in the innermost loop. -/
def set (s : Scope) (name : String) (v : Value) : Scope :=
  match s.frames with
  | [] => ⟨[⟨[(name, v)], none⟩], s.context⟩
  | f :: rest => ⟨{ f with locals := putMember f.locals name v } :: rest, s.context⟩

/-- Enters a loop. -/
def enter (s : Scope) (loop : Option Value) : Scope := ⟨⟨[], loop⟩ :: s.frames, s.context⟩

/-- Changes what `loop` stands for in the innermost loop. -/
def setLoop (s : Scope) (loop : Value) : Scope :=
  match s.frames with
  | [] => s
  | f :: rest => ⟨{ f with loop := some loop } :: rest, s.context⟩

mutual
/-- Assigns a value; the items of a list go to as many targets. -/
def assign : Target → Value → Scope → Except Fault Scope
  | .name name, v, s => .ok (s.set name v)
  | .tuple targets, .list items, s => assignAll targets items s
  | .tuple _, _, _ => .error .cannotUnpack

def assignAll : List Target → List Value → Scope → Except Fault Scope
  | [], [], s => .ok s
  | t :: ts, v :: vs, s => do assignAll ts vs (← assign t v s)
  | _, _, _ => .error .cannotUnpack
end

end Scope

mutual
/-- The value of an expression. -/
def Expr.eval (s : Scope) : Expr → Except Fault Value
  | .literal v => .ok v
  | .name name => .ok ((s.find? name).getD .undefined)
  | .member e name => do (← e.eval s).member name
  | .item e index => do
    let v ← e.eval s
    v.item (← index.eval s)
  | .list items => do return .list (← evalAll s items)
  | .map entries => do return .map (← evalEntries s [] entries)
  | .not e => do return .bool !(← e.eval s).isTrue
  | .neg e => do (← e.eval s).neg
  | .and a b => do
    let v ← a.eval s
    if v.isTrue then b.eval s else .ok v
  | .or a b => do
    let v ← a.eval s
    if v.isTrue then .ok v else b.eval s
  | .binary op a b => do
    let v ← a.eval s
    Value.apply op v (← b.eval s)
  | .choice condition yes no => do
    let v ← condition.eval s
    if v.isTrue then yes.eval s else no.eval s
  | .filter name e arguments keywords => do
    let v ← e.eval s
    let positional ← evalAll s arguments
    applyFilter name v ⟨positional, ← evalKeywords s keywords⟩
  | .call (.name name) arguments keywords => do
    let positional ← evalAll s arguments
    let named ← evalKeywords s keywords
    match s.find? name with
    | some _ => .error .notCallable
    | none => applyFunction name ⟨positional, named⟩
  | .call callee arguments _ => do
    let _ ← callee.eval s
    let _ ← evalAll s arguments
    .error .notCallable

def evalAll (s : Scope) : List Expr → Except Fault (List Value)
  | [] => .ok []
  | e :: rest => do
    let v ← e.eval s
    return v :: (← evalAll s rest)

def evalEntries (s : Scope) (done : List (Value × Value)) :
    List (Expr × Expr) → Except Fault (List (Value × Value))
  | [] => .ok done
  | (k, e) :: rest => do
    let key ← k.eval s
    evalEntries s (Value.putEntry done key (← e.eval s)) rest

def evalKeywords (s : Scope) : List (String × Expr) → Except Fault (List (String × Value))
  | [] => .ok []
  | (name, e) :: rest => do
    let v ← e.eval s
    return (name, v) :: (← evalKeywords s rest)
end

/-- What `loop` stands for while a loop is at the item with the given position. -/
def loopValue (depth length position : Nat) (before after : Value) : Value :=
  .ofFields [("index0", .int position), ("index", .int (position + 1)), ("length", .int length),
    ("revindex", .int (length - position : Nat)),
    ("revindex0", .int (length - position - 1 : Nat)), ("first", .bool (position == 0)),
    ("last", .bool (position + 1 == length)), ("depth", .int (depth + 1)),
    ("depth0", .int depth), ("previtem", before), ("nextitem", after)]

/-- Goes through the items of a loop, from the given position on. -/
def runLoop (target : Target) (depth length : Nat) (body : Scope → Except Fault (String × Scope))
    (position : Nat) (before : Value) : List Value → Scope → Except Fault (String × Scope)
  | [], s => .ok ("", s)
  | v :: rest, s => do
    let here := loopValue depth length position before (rest.headD .undefined)
    let entered ← Scope.assign target v (s.setLoop here)
    let (out, after) ← body entered
    let (more, final) ← runLoop target depth length body (position + 1) v rest after
    return (out ++ more, final)

/-- The items that fulfil the condition of a loop, each tried with the target set to it. -/
def chosen (target : Target) (condition : Expr) : List Value → Scope → Except Fault (List Value)
  | [], _ => .ok []
  | v :: rest, s => do
    let inner ← Scope.assign target v s
    let keep ← condition.eval inner
    let more ← chosen target condition rest inner
    return if keep.isTrue then v :: more else more

mutual
/-- The text of a statement, and the scope after it. -/
def Statement.run : Statement → Scope → Except Fault (String × Scope)
  | .text t, s => .ok (t, s)
  | .print e, s => do return ((← e.eval s).printed, s)
  | .set target e, s => do return ("", ← Scope.assign target (← e.eval s) s)
  | .branch condition yes no, s => do
    let v ← condition.eval s
    if v.isTrue then runAll yes s else runAll no s
  | .loop target items condition body otherwise, s => do
    let all ← (← items.eval s).items
    let kept ← chosen target condition all (s.enter none)
    if kept.isEmpty then runAll otherwise s
    else
      let depth := s.frames.length - 1
      let (out, _) ← runLoop target depth kept.length (runAll body) 0 .undefined kept
        (s.enter (some .undefined))
      return (out, s)

def runAll : List Statement → Scope → Except Fault (String × Scope)
  | [], s => .ok ("", s)
  | t :: rest, s => do
    let (out, after) ← t.run s
    let (more, final) ← runAll rest after
    return (out ++ more, final)
end

/-- The text of a template in a context. -/
def render (template : List Statement) (context : Value) : Except Fault String := do
  return (← runAll template (Scope.ofContext context)).1

end ApiSkeleton.Template
