import ApiSkeleton.Proofs.Emit.Handlers

namespace ApiSkeleton.Emit

open Template Model

variable {e : Endpoint}

/-- The name of the first parameter of an endpoint that its path carries. -/
def firstPathName (e : Endpoint) : Option String :=
  (e.parameters.find? (·.location = .path)).map (·.name)

theorem head?_parametersIn (e : Endpoint) (location : Location) :
    (e.parametersIn location).head? = e.parameters.find? (·.location = location) :=
  List.head?_filter

private theorem idParameter_eq (e : Endpoint) : idParameter e = (firstPathName e).getD "id" := by
  rw [idParameter, head?_parametersIn, firstPathName]

theorem firstPathName_eq_none_iff :
    firstPathName e = none ↔ ∀ p ∈ e.parameters, p.location ≠ .path := by
  simp [firstPathName]

/-- Parameters that are carried elsewhere may stand before it. -/
theorem firstPathName_eq_some_iff {name : String} : firstPathName e = some name ↔
    ∃ before p after, e.parameters = before ++ p :: after ∧
      (∀ other ∈ before, other.location ≠ .path) ∧ p.location = .path ∧ p.name = name := by
  simp only [firstPathName, Option.map_eq_some_iff, List.find?_eq_some_iff_append,
    decide_eq_true_eq, Bool.not_eq_eq_eq_not, Bool.not_true, decide_eq_false_iff_not]
  constructor
  · rintro ⟨p, ⟨hpath, before, after, hsplit, hbefore⟩, hname⟩
    exact ⟨before, p, after, hsplit, hbefore, hpath, hname⟩
  · rintro ⟨before, p, after, hsplit, hbefore, hpath, hname⟩
    exact ⟨p, ⟨hpath, before, after, hsplit, hbefore⟩, hname⟩

/-- What a stub does with the items of its table. -/
inductive StubAction where
  | fetchOne (id : String)
  | fetchAll
  | insert
  | update (id : String)
  | delete (id : String)
  | notImplemented
deriving DecidableEq

/-- What the stub of a method does, given the name of the first path parameter if there is one. -/
def StubAction.of : Method → Option String → StubAction
  | .get, some name => .fetchOne name
  | .get, none => .fetchAll
  | .post, _ => .insert
  | .patch, name => .update (name.getD "id")
  | .delete, name => .delete (name.getD "id")
  | _, _ => .notImplemented

/-- The lines that do it. -/
def StubAction.text (table : String) : StubAction → String
  | .fetchOne id => fetchOneText table id
  | .fetchAll => fetchAllText table
  | .insert => insertText table
  | .update id => updateText table id
  | .delete id => deleteText table id
  | .notImplemented => "  return c.json(\x7b message: \"Not implemented\" \x7d, 501);\n"

/-- The method decides, and only fetching looks at whether there is a path parameter. -/
structure StubAction.Follows (action : StubAction) (method : Method) (name : Option String) :
    Prop where
  fetchOne : ∀ id, action = .fetchOne id ↔ method = .get ∧ name = some id
  fetchAll : action = .fetchAll ↔ method = .get ∧ name = none
  insert : action = .insert ↔ method = .post
  update : ∀ id, action = .update id ↔ method = .patch ∧ id = name.getD "id"
  delete : ∀ id, action = .delete id ↔ method = .delete ∧ id = name.getD "id"
  notImplemented : action = .notImplemented ↔ method ∉ [.get, .post, .patch, .delete]

private theorem StubAction.follows_of (method : Method) (name : Option String) :
    (StubAction.of method name).Follows method name := by
  cases method with
  | get => cases name <;> constructor <;> simp [StubAction.of]
  | _ => constructor <;> simp [StubAction.of, eq_comm]

private theorem stubBody_eq_action (table : String) (e : Endpoint) :
    stubBody table e = (StubAction.of e.method (firstPathName e)).text table := by
  rw [stubBody, idParameter_eq]
  cases e.method with
  | get =>
    have hempty : (e.parametersIn .path).isEmpty = (firstPathName e).isNone := by
      rw [firstPathName, ← head?_parametersIn]
      cases e.parametersIn .path <;> rfl
    cases hname : firstPathName e <;> simp [StubAction.of, StubAction.text, hempty, hname]
  | _ => rfl

/-- A stub, from all that it is made from. -/
def stub (table operationId : String) (method : Method) (name : Option String) : String :=
  "\nexport const " ++ Text.camelCase operationId ++ ": AppRouteHandler<" ++
    Text.pascalCase operationId ++ "Route> = async (c) => \x7b\n" ++
    (StubAction.of method name).text table ++ "\x7d;\n"

theorem stubText_eq (table : String) (e : Endpoint) :
    stubText table e = stub table e.operationId e.method (firstPathName e) := by
  unfold stubText stub
  rw [stubBody_eq_action]

/-- How the stub of an endpoint comes about. -/
structure StubMade (table : String) (e : Endpoint) : Prop where
  /-- Whatever the name of an identifier stands for when a round of the loop begins, the stub is that
  of the endpoint of this round. -/
  alone : ∀ (s : Scope) (left : Value), s.find? "ep" = some (endpointValue e) →
    s.find? "table" = some (.text table) → s.find? "eq" = none →
    ∃ final, runAll stubTemplate (s.set "id_param" left) =
      .ok (stub table e.operationId e.method (firstPathName e), final)
  action : (StubAction.of e.method (firstPathName e)).Follows e.method (firstPathName e)
  parameter : ∀ name, firstPathName e = some name ↔
    ∃ before p after, e.parameters = before ++ p :: after ∧
      (∀ other ∈ before, other.location ≠ .path) ∧ p.location = .path ∧ p.name = name
  noParameter : firstPathName e = none ↔ ∀ p ∈ e.parameters, p.location ≠ .path

theorem stubMade (table : String) (e : Endpoint) : StubMade table e := by
  constructor
  case alone =>
    intro s left hep htable heq
    have hseen {name : String} (hname : "id_param" ≠ name) :
        (s.set "id_param" left).find? name = s.find? name := Scope.find?_set_of_ne s left hname
    have hrun := runAll_stubTemplate ((hseen (by simp)).trans hep) ((hseen (by simp)).trans htable)
      ((hseen (by simp)).trans heq)
    rw [stubText_eq] at hrun
    exact ⟨_, hrun⟩
  case action => exact StubAction.follows_of _ _
  case parameter => exact fun name => firstPathName_eq_some_iff
  case noParameter => exact firstPathName_eq_none_iff

/-- The handlers of any group under any layout. After the header and the types of the routes, one for
each endpoint in order, there is one stub for each endpoint in the same order. It is made from the
table, the identifier of the operation, the method and the name of the first path parameter: `GET`
fetches the item of that name, or all items if there is none, `POST` inserts, `PATCH` and `DELETE`
change the item of that name, or of the name `id`, and all other methods answer that nothing is
implemented. No stub depends on what the endpoints before it have left behind. -/
theorem handlers_made_of_stubs (l : Layout) (g : Group) :
    ModuleKind.handlers.render (handlersContext l g) = .ok
      (handlersHeader l g.tag ++
        ("import type \x7b\n" ++
          String.join (g.endpoints.map fun e => "  " ++ Text.pascalCase e.operationId ++ "Route,\n") ++
          "\x7d from \"./" ++ Layout.routesModule g.tag ++ "\";\n") ++
        String.join (g.endpoints.map fun e =>
          stub (tagBinding g.tag) e.operationId e.method (firstPathName e))) ∧
    ∀ e ∈ g.endpoints, StubMade (tagBinding g.tag) e := by
  refine ⟨?_, fun e _ => stubMade (tagBinding g.tag) e⟩
  have hstubs : g.endpoints.map (stubText (tagBinding g.tag)) = g.endpoints.map fun e =>
      stub (tagBinding g.tag) e.operationId e.method (firstPathName e) :=
    List.map_congr_left fun e _ => stubText_eq (tagBinding g.tag) e
  have htypes : (g.endpoints.map fun e => "  " ++ Text.pascalCase e.operationId ++ "Route,\n") =
      g.endpoints.map routeTypeText := rfl
  rw [render_handlers, handlersText, hstubs, htypes]
  simp only [String.append_assoc]

end ApiSkeleton.Emit
