import ApiSkeleton.Emit.Modules
import ApiSkeleton.Proofs.Emit.Text
import ApiSkeleton.Proofs.Model.WellFormed

namespace ApiSkeleton.Emit

open Template Model

variable {s : Scope} {e : Endpoint}

theorem run_parametersTemplate (label parameters : String) {key : Expr}
    (keyText : String → String) {ps : List Parameter}
    (hep : s.find? "ep" = some (endpointValue e))
    (hvalidator : s.find? "validator" = none)
    (hparameters : (endpointValue e).member parameters = .ok (parameterValues ps))
    (hkey : ∀ t p, t.find? "param" = some (parameterValue p) →
      key.eval t = .ok (.text (keyText p.name)))
    (hps : ∀ p ∈ ps, ∀ t ∈ p.schema, t.WellFormed) :
    (parametersTemplate label parameters key).run s = .ok (parametersText label keyText ps, s) := by
  have hitems : (Expr.of "ep" parameters).eval s = .ok (.list (ps.map parameterValue)) := by
    simp [hep, hparameters, parameterValues]
  have hline : ∀ p ∈ ps, ∀ t, s.InLoop ["param"] t → t.find? "param" = some (parameterValue p) →
      runAll [.text "      ", .print key, .text ": ",
        .print (.call (.name "validator") [(.of "param" "schema")] []),
        .when (.not (.of "param" "required")) [.text ".optional()"], .text ",\n"] t =
        .ok (parameterText keyText p, t) := by
    intro p hp t ht hparam
    have hfree : t.find? "validator" = none := by
      rw [ht.find? (by simp) (by simp), hvalidator]
    have hschema := validatorOf_optionalTree (hps p hp)
    cases hrequired : p.required <;>
      simp [hkey t p hparam, hparam, hrequired, hfree, parameterValue, findMember?, applyFunction,
        Arguments.toList, Arguments.Argument.value, hschema, parameterText, String.append_assoc]
  have hloop := run_each ["param"] ps parameterValue (parameterText keyText) hitems (by simp)
    (by simp) fun p hp t ht hparam => ⟨t, hline p hp t ht hparam, ht⟩
  rw [parametersTemplate, run_branch, hitems, ok_bind]
  cases ps with
  | nil => simp [parametersText]
  | cons p rest => simp [parametersText, hloop, String.append_assoc]

theorem run_mediaTemplate {forms : Expr} {ms : List Media}
    (hvalidator : s.find? "validator" = none)
    (hforms : forms.eval s = .ok (.list (ms.map mediaValue)))
    (hms : ∀ m ∈ ms, ∀ t ∈ m.schema, t.WellFormed) :
    (mediaTemplate forms).run s = .ok (String.join (ms.map mediaText), s) := by
  refine run_each ["media"] ms mediaValue mediaText hforms (by simp) (by simp) ?_
  intro m hm t ht hmedia
  have hfree : t.find? "validator" = none := by
    rw [ht.find? (by simp) (by simp), hvalidator]
  have hschema := validatorOf_optionalTree (hms m hm)
  refine ⟨t, ?_, ht⟩
  simp [hmedia, hfree, mediaValue, findMember?, applyFunction, Arguments.toList,
    Arguments.Argument.value, hschema, mediaText, String.append_assoc]

theorem run_bodyTemplate (hep : s.find? "ep" = some (endpointValue e))
    (hvalidator : s.find? "validator" = none) (he : e.WellFormed) :
    bodyTemplate.run s = .ok ((e.requestBody.map bodyText).getD "", s) := by
  have hbody : (Expr.of "ep" "request_body").eval s =
      .ok ((e.requestBody.map bodyValue).getD .none) := by
    simp [hep, endpointValue, findMember?]
  rw [bodyTemplate, run_branch, hbody, ok_bind]
  cases hb : e.requestBody with
  | none => simp
  | some b =>
    have hforms : (Expr.member (.of "ep" "request_body") "content").eval s =
        .ok (.list (b.content.map mediaValue)) := by
      simp [hep, endpointValue, findMember?, hb, bodyValue]
    have hmedia := run_mediaTemplate hvalidator hforms (he.requestBody b hb)
    unfold bodyText
    simp [hep, endpointValue, findMember?, hb, bodyValue, hmedia, String.append_assoc]

/-- What a request has to hold is left out only if it has neither parameters nor a body. -/
theorem run_requestTemplate (hep : s.find? "ep" = some (endpointValue e))
    (hvalidator : s.find? "validator" = none) (he : e.WellFormed) :
    requestTemplate.run s = .ok (requestText e, s) := by
  have hpart (location : Location) : ∀ p ∈ e.parametersIn location, ∀ t ∈ p.schema,
      t.WellFormed := fun p hp => he.parameters p (List.mem_filter.mp hp).1
  have hname : ∀ t p, t.find? "param" = some (parameterValue p) →
      (Expr.via (.of "param" "name") "ts_key").eval t = .ok (.text (Text.propertyKey p.name)) := by
    intro t p hp
    simp [hp, parameterValue, findMember?]
  have hlowered : ∀ t p, t.find? "param" = some (parameterValue p) →
      (Expr.via (.via (.of "param" "name") "lowercase") "ts_key").eval t =
        .ok (.text (headerKey p.name)) := by
    intro t p hp
    simp [hp, parameterValue, findMember?, headerKey]
  have hparams := run_parametersTemplate "params" "path_params" Text.propertyKey hep hvalidator rfl
    hname (hpart .path)
  have hquery := run_parametersTemplate "query" "query_params" Text.propertyKey hep hvalidator rfl
    hname (hpart .query)
  have hheaders := run_parametersTemplate "headers" "header_params" headerKey hep hvalidator rfl
    hlowered (hpart .header)
  have hbody := run_bodyTemplate hep hvalidator he
  rw [requestTemplate, run_branch]
  cases hparameters : e.parameters with
  | nil =>
    cases hb : e.requestBody with
    | none => simp [hep, endpointValue, findMember?, hparameters, hb, parameterValues, requestText]
    | some b =>
      simp [hep, endpointValue, findMember?, hparameters, hb, parameterValues, requestText,
        bodyValue, hparams, hquery, hheaders, hbody, String.append_assoc]
  | cons p rest =>
    simp [hep, endpointValue, findMember?, hparameters, parameterValues, requestText, hparams,
      hquery, hheaders, hbody, String.append_assoc]

theorem run_responseContentTemplate {r : Response}
    (hresponse : s.find? "response" = some (responseValue r))
    (hvalidator : s.find? "validator" = none)
    (hms : ∀ m ∈ r.content.getD [], ∀ t ∈ m.schema, t.WellFormed) :
    responseContentTemplate.run s = .ok (responseContentText r.content, s) := by
  rw [responseContentTemplate, run_branch]
  cases hcontent : r.content with
  | none => simp [hresponse, responseValue, findMember?, hcontent, responseContentText]
  | some ms =>
    have hforms : (Expr.of "response" "content").eval s = .ok (.list (ms.map mediaValue)) := by
      simp [hresponse, responseValue, findMember?, hcontent]
    rw [hforms, ok_bind]
    have hmedia := run_mediaTemplate hvalidator hforms (by simpa [hcontent] using hms)
    cases ms with
    | nil => simp [responseContentText]
    | cons m rest => simp [responseContentText, hmedia, String.append_assoc]

theorem run_responsesTemplate (hep : s.find? "ep" = some (endpointValue e))
    (hvalidator : s.find? "validator" = none) (hstatus : s.find? "status_code" = none)
    (he : e.WellFormed) :
    responsesTemplate.run s = .ok (String.join (e.responses.map responseText), s) := by
  have hitems : (Expr.of "ep" "responses").eval s =
      .ok (.list (e.responses.map responseValue)) := by
    simp [hep, endpointValue, findMember?]
  refine run_each ["response"] e.responses responseValue responseText hitems (by simp) (by simp) ?_
  intro r hr t ht hresponse
  have hfree : t.find? "status_code" = none := by
    rw [ht.find? (by simp) (by simp), hstatus]
  have hcontent := run_responseContentTemplate hresponse
    (by rw [ht.find? (by simp) (by simp), hvalidator]) (he.responses r hr)
  refine ⟨t, ?_, ht⟩
  simp [hresponse, hfree, responseValue, findMember?, applyFunction, Arguments.toList,
    Arguments.Argument.text, hcontent, responseText, String.append_assoc]

/-- One route with its type. It assigns nothing but the name of the route. -/
theorem runAll_routeTemplate (hep : s.find? "ep" = some (endpointValue e))
    (hvalidator : s.find? "validator" = none) (hstatus : s.find? "status_code" = none)
    (he : e.WellFormed) :
    runAll routeTemplate s =
      .ok (routeText e, s.set "route" (.text (Text.camelCase e.operationId))) := by
  let named := s.set "route" (.text (Text.camelCase e.operationId))
  have hep' : named.find? "ep" = some (endpointValue e) := by
    rw [Scope.find?_set_of_ne _ _ (by simp), hep]
  have hvalidator' : named.find? "validator" = none := by
    rw [Scope.find?_set_of_ne _ _ (by simp), hvalidator]
  have hstatus' : named.find? "status_code" = none := by
    rw [Scope.find?_set_of_ne _ _ (by simp), hstatus]
  have hrequest := run_requestTemplate hep' hvalidator' he
  have hresponses := run_responsesTemplate hep' hvalidator' hstatus' he
  have hset : s.set "route" (.text (Text.camelCase e.operationId)) = named := rfl
  have hroute : named.find? "route" = some (.text (Text.camelCase e.operationId)) :=
    Scope.find?_set_self _ _ _
  have hopen : " = createRoute(\x7b\n  path: " = " = createRoute(" ++ "\x7b\n  path: " := rfl
  unfold routeText routeBody
  simp [routeTemplate, hep, hep', hset, hroute, endpointValue, findMember?, hrequest, hresponses,
    String.append_assoc]
  rw [hopen, String.append_assoc]

/-- The routes of a group can be rendered, and their module is the header and one block for every
endpoint. -/
theorem render_routes {g : Group} (hg : ∀ e ∈ g.endpoints, e.WellFormed) :
    ModuleKind.routes.render (routesContext g) = .ok (routesText g) := by
  let s := Scope.ofContext (routesContext g)
  have htag : s.find? "tag" = some (.text g.tag) := Scope.find?_ofContext rfl (by simp)
  have hendpoints : s.find? "endpoints" = some (endpointValues g) :=
    Scope.find?_ofContext rfl (by simp [endpointValues])
  have hvalidator : s.find? "validator" = none := Scope.find?_ofContext_none rfl
  have hstatus : s.find? "status_code" = none := Scope.find?_ofContext_none rfl
  have hitems : (Expr.name "endpoints").eval s = .ok (.list (g.endpoints.map endpointValue)) := by
    simp [hendpoints, endpointValues]
  have hloop : (Statement.each (.name "ep") (.name "endpoints") routeTemplate).run s =
      .ok (String.join (g.endpoints.map routeText), s) := by
    refine run_each ["ep", "route"] g.endpoints endpointValue routeText hitems (by simp)
      (by simp) ?_
    intro e he t ht hep
    have hroute := runAll_routeTemplate hep (by rw [ht.find? (by simp) (by simp), hvalidator])
      (by rw [ht.find? (by simp) (by simp), hstatus]) (hg e he)
    exact ⟨_, hroute, ht.set (by simp) _⟩
  have hrun : runAll routesTemplate s = .ok (routesText g, s) := by
    unfold routesText routesHeader
    simp [-String.reduceAppend, routesTemplate, htag, hloop, String.append_assoc]
  simp [ModuleKind.render, ModuleKind.template, render, s, hrun]

end ApiSkeleton.Emit
