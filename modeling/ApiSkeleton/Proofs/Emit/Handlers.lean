import ApiSkeleton.Emit.Modules
import ApiSkeleton.Proofs.Emit.Text
import ApiSkeleton.Proofs.Template.Run

namespace ApiSkeleton.Emit

open Template Model

variable {s : Scope} {e : Endpoint}

/-- What a stub sees: its endpoint, the table and the name of the identifier. -/
structure StubScope (s : Scope) (table : String) (e : Endpoint) : Prop where
  ep : s.find? "ep" = some (endpointValue e)
  table : s.find? "table" = some (.text table)
  id : s.find? "id_param" = some (.text (idParameter e))
  eq : s.find? "eq" = none

private theorem eval_methodIs (hep : s.find? "ep" = some (endpointValue e))
    (heq : s.find? "eq" = none)
    (name : String) : (methodIs name).eval s = .ok (.bool (e.method.name == name)) := by
  simp [methodIs, hep, heq, endpointValue, findMember?, applyFunction, Arguments.toList,
    Arguments.Argument.value, Value.same_text]

private theorem eval_pathParameters (hep : s.find? "ep" = some (endpointValue e)) :
    (Expr.of "ep" "path_params").eval s = .ok (parameterValues (e.parametersIn .path)) := by
  simp [hep, endpointValue, findMember?]

/-- The name of the first path parameter, or `id`. -/
private theorem eval_idParameter (hep : s.find? "ep" = some (endpointValue e)) :
    (Expr.choice (.of "ep" "path_params") (.member (.item (.of "ep" "path_params")
      (.literal (.int 0))) "name") (.literal (.text "id"))).eval s =
      .ok (.text (idParameter e)) := by
  cases hparams : e.parametersIn .path with
  | nil => simp [hep, endpointValue, findMember?, parameterValues, hparams, idParameter]
  | cons p rest =>
    simp [hep, endpointValue, findMember?, parameterValues, parameterValue, hparams, idParameter,
      Value.item, Value.asPosition?, Value.elementAt?]

theorem runAll_fetchOneTemplate {table : String} (h : StubScope s table e) :
    runAll fetchOneTemplate s = .ok (fetchOneText table (idParameter e), s) := by
  unfold fetchOneText
  simp [-String.reduceAppend, fetchOneTemplate, h.table, h.id, String.append_assoc]

theorem runAll_fetchAllTemplate {table : String} (h : StubScope s table e) :
    runAll fetchAllTemplate s = .ok (fetchAllText table, s) := by
  unfold fetchAllText
  simp [-String.reduceAppend, fetchAllTemplate, h.table, String.append_assoc]

theorem runAll_insertTemplate {table : String} (h : StubScope s table e) :
    runAll insertTemplate s = .ok (insertText table, s) := by
  unfold insertText
  simp [-String.reduceAppend, insertTemplate, h.table, String.append_assoc]

theorem runAll_updateTemplate {table : String} (h : StubScope s table e) :
    runAll updateTemplate s = .ok (updateText table (idParameter e), s) := by
  unfold updateText
  simp [-String.reduceAppend, updateTemplate, h.table, h.id, String.append_assoc]

theorem runAll_deleteTemplate {table : String} (h : StubScope s table e) :
    runAll deleteTemplate s = .ok (deleteText table (idParameter e), s) := by
  unfold deleteText
  simp [-String.reduceAppend, deleteTemplate, h.table, h.id, String.append_assoc]

theorem run_stubBodyTemplate {table : String} (h : StubScope s table e) :
    stubBodyTemplate.run s = .ok (stubBody table e, s) := by
  have hmethod := eval_methodIs h.ep h.eq
  have hparams := eval_pathParameters h.ep
  have hone := runAll_fetchOneTemplate h
  have hall := runAll_fetchAllTemplate h
  have hinsert := runAll_insertTemplate h
  have hupdate := runAll_updateTemplate h
  have hdelete := runAll_deleteTemplate h
  cases hm : e.method with
  | get =>
    cases hps : e.parametersIn .path with
    | nil =>
      simp [stubBodyTemplate, run_branch, hmethod, hm, Method.name, h.ep, endpointValue,
        findMember?, parameterValues, hps, hall, stubBody]
    | cons p rest =>
      simp [stubBodyTemplate, run_branch, hmethod, hm, Method.name, h.ep, endpointValue,
        findMember?, parameterValues, hps, hone, stubBody]
  | _ =>
    simp [stubBodyTemplate, run_branch, hmethod, hm, Method.name, hinsert, hupdate, hdelete,
      stubBody]

/-- One stub. It assigns nothing but the name of the identifier. -/
theorem runAll_stubTemplate {table : String} (hep : s.find? "ep" = some (endpointValue e))
    (htable : s.find? "table" = some (.text table)) (heq : s.find? "eq" = none) :
    runAll stubTemplate s =
      .ok (stubText table e, s.set "id_param" (.text (idParameter e))) := by
  let named := s.set "id_param" (.text (idParameter e))
  have hep' : named.find? "ep" = some (endpointValue e) := by
    rw [Scope.find?_set_of_ne _ _ (by simp), hep]
  have hstub : StubScope named table e := {
    ep := hep'
    table := by rw [Scope.find?_set_of_ne _ _ (by simp), htable]
    id := Scope.find?_set_self _ _ _
    eq := by rw [Scope.find?_set_of_ne _ _ (by simp), heq] }
  have hbody := run_stubBodyTemplate hstub
  have hset : s.set "id_param" (.text (idParameter e)) = named := rfl
  unfold stubText
  rw [stubTemplate, runAll_cons, run_set, eval_idParameter hep, ok_bind, hset]
  simp [hep', endpointValue, findMember?, hbody, String.append_assoc]

/-- The handlers of a group can always be rendered. -/
theorem render_handlers (l : Layout) (g : Group) :
    ModuleKind.handlers.render (handlersContext l g) = .ok (handlersText l g) := by
  let s := Scope.ofContext (handlersContext l g)
  have htable : s.find? "table" = some (.text (tagBinding g.tag)) :=
    Scope.find?_ofContext rfl (by simp)
  have hroot : s.find? "src_root" = some (.text l.sourceRootImport) :=
    Scope.find?_ofContext rfl (by simp)
  have hdb : s.find? "db_module" = some (.text l.dbModule) := Scope.find?_ofContext rfl (by simp)
  have hroutes : s.find? "routes_module" = some (.text (Layout.routesModule g.tag)) :=
    Scope.find?_ofContext rfl (by simp)
  have hendpoints : s.find? "endpoints" = some (endpointValues g) :=
    Scope.find?_ofContext rfl (by simp [endpointValues])
  have heq : s.find? "eq" = none := Scope.find?_ofContext_none rfl
  have hitems : (Expr.name "endpoints").eval s = .ok (.list (g.endpoints.map endpointValue)) := by
    simp [hendpoints, endpointValues]
  have htypes : (Statement.each (.name "ep") (.name "endpoints")
      [.text "  ", .print (.via (.of "ep" "operation_id") "pascal_case"), .text "Route,\n"]).run s =
      .ok (String.join (g.endpoints.map routeTypeText), s) := by
    refine run_each ["ep"] g.endpoints endpointValue routeTypeText hitems (by simp) (by simp) ?_
    intro e _ t ht hep
    exact ⟨t, by simp [hep, endpointValue, findMember?, routeTypeText, String.append_assoc], ht⟩
  have hstubs : (Statement.each (.name "ep") (.name "endpoints") stubTemplate).run s =
      .ok (String.join (g.endpoints.map (stubText (tagBinding g.tag))), s) := by
    refine run_each ["ep", "id_param"] g.endpoints endpointValue (stubText (tagBinding g.tag))
      hitems (by simp) (by simp) ?_
    intro e _ t ht hep
    have hstub := runAll_stubTemplate hep (by rw [ht.find? (by simp) (by simp), htable])
      (by rw [ht.find? (by simp) (by simp), heq])
    exact ⟨_, hstub, ht.set (by simp) _⟩
  have hrun : runAll handlersTemplate s = .ok (handlersText l g, s) := by
    unfold handlersText handlersHeader
    simp [-String.reduceAppend, handlersTemplate, htable, hroot, hdb, hroutes, htypes, hstubs,
      String.append_assoc]
  simp [ModuleKind.render, ModuleKind.template, render, s, hrun]

end ApiSkeleton.Emit
