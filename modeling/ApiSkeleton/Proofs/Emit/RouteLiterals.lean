import ApiSkeleton.Proofs.Emit.Expression
import ApiSkeleton.Proofs.Emit.Reads

namespace ApiSkeleton.Emit

open Model

variable {e : Endpoint}

/-- What stands under a key: nothing, where the key is a name in scope as well, an expression, or an
object with members of its own. -/
inductive Literal where
  | shorthand
  | expression (text : String)
  | object (opening : String) (members : List (String × Literal)) (closing : String)

def indentation (depth : Nat) : String := String.join (List.replicate depth "  ")

mutual
/-- What follows a key at some depth. -/
def Literal.text (depth : Nat) : Literal → String
  | .shorthand => ""
  | .expression text => ": " ++ text
  | .object opening members closing =>
    ": " ++ (opening ++ "\n" ++ membersText (depth + 1) members ++ indentation depth ++ closing)

/-- Members at some depth, one below the other. -/
def membersText (depth : Nat) : List (String × Literal) → String
  | [] => ""
  | (key, value) :: rest =>
    indentation depth ++ key ++ value.text depth ++ ",\n" ++ membersText depth rest
end

def memberText (depth : Nat) (m : String × Literal) : String :=
  indentation depth ++ m.1 ++ m.2.text depth ++ ",\n"

theorem membersText_eq (depth : Nat) (members : List (String × Literal)) :
    membersText depth members = String.join (members.map (memberText depth)) := by
  induction members with
  | nil => rfl
  | cons m rest ih =>
    obtain ⟨key, value⟩ := m
    simp only [List.map_cons, String.join_cons, membersText, ih, memberText]

theorem memberText_expression (depth : Nat) (key text : String) :
    memberText depth (key, .expression text) = indentation depth ++ key ++ ": " ++ text ++ ",\n" := by
  simp only [memberText, Literal.text, String.append_assoc]

theorem memberText_shorthand (depth : Nat) (key : String) :
    memberText depth (key, .shorthand) = indentation depth ++ key ++ ",\n" := by
  simp only [memberText, Literal.text, String.append_empty]

theorem memberText_object (depth : Nat) (key opening closing : String)
    (members : List (String × Literal)) :
    memberText depth (key, .object opening members closing) =
      indentation depth ++ key ++ ": " ++ opening ++ "\n" ++
        String.join (members.map (memberText (depth + 1))) ++ indentation depth ++ closing ++
        ",\n" := by
  simp only [memberText, Literal.text, membersText_eq, String.append_assoc]

/-- The key of a parameter, which has no letter case in a header. -/
def parameterKey (p : Parameter) : String :=
  if p.location = .header then Text.propertyKey (Text.lowercase p.name)
  else Text.propertyKey p.name

/-- A parameter among those that are carried at its place. -/
def parameterMember (p : Parameter) : String × Literal :=
  (parameterKey p,
    .expression (validatorText p.schema ++ if p.required then "" else ".optional()"))

/-- One form of a body. -/
def mediaMember (m : Media) : String × Literal :=
  (Text.quoted m.mediaType, .expression ("\x7b schema: " ++ validatorText m.schema ++ " \x7d"))

/-- The label under which a route declares the parameters that are carried at a place. -/
def locationLabel : Location → String
  | .path => "params"
  | .query => "query"
  | .header => "headers"

/-- The parameters that are carried at a place, left out if there are none. -/
def parametersMember (e : Endpoint) (location : Location) : List (String × Literal) :=
  if (e.parametersIn location).isEmpty then []
  else
    [(locationLabel location,
      .object "z.object(\x7b" ((e.parametersIn location).map parameterMember) "\x7d)")]

def bodyLiteral (b : RequestBody) : Literal :=
  .object "\x7b"
    [("content", .object "\x7b" (b.content.map mediaMember) "\x7d"),
     ("required", .expression (Template.Value.boolText b.required))] "\x7d"

/-- What a route declares of a request. -/
def requestMembers (e : Endpoint) : List (String × Literal) :=
  parametersMember e .path ++ parametersMember e .query ++ parametersMember e .header ++
    (e.requestBody.map fun b => ("body", bodyLiteral b)).toList

/-- The members of a response: its forms are left out if there are none. -/
def responseMembers (r : Response) : List (String × Literal) :=
  ("description", .expression (Text.quoted r.description)) ::
    if (r.content.getD []).isEmpty then []
    else [("content", .object "\x7b" ((r.content.getD []).map mediaMember) "\x7d")]

/-- A response under the key of its status. -/
def responseMember (r : Response) : String × Literal :=
  ("[" ++ statusKey r.status ++ "]", .object "\x7b" (responseMembers r) "\x7d")

def responsesLiteral (e : Endpoint) : Literal :=
  .object "\x7b" (e.responses.map responseMember) "\x7d"

/-- What the call that creates a route is given. -/
def routeMembers (e : Endpoint) : List (String × Literal) :=
  [("path", .expression (Text.quoted e.path)),
   ("method", .expression (Text.quoted (Text.lowercase e.method.name))),
   ("tags", .shorthand)] ++
  (if (requestMembers e).isEmpty then [] else [("request", .object "\x7b" (requestMembers e) "\x7d")]) ++
  [("responses", responsesLiteral e)]

theorem memberText_parameter {p : Parameter} {key : String → String}
    (hkey : key p.name = parameterKey p) : memberText 3 (parameterMember p) = parameterText key p := by
  rw [← String.toList_inj]
  simp [parameterText, parameterMember, memberText_expression, indentation, hkey]

theorem memberText_media (m : Media) : memberText 4 (mediaMember m) = mediaText m := by
  rw [← String.toList_inj]
  simp [mediaText, mediaMember, memberText_expression, indentation]

theorem memberText_parameters {location : Location} {key : String → String}
    (hkey : ∀ p ∈ e.parametersIn location, key p.name = parameterKey p) :
    (parametersMember e location).map (fun m => (m.1, memberText 2 m)) =
      parametersEntry (locationLabel location) key (e.parametersIn location) := by
  have hlines : (e.parametersIn location).map (fun p => memberText 3 (parameterMember p)) =
      (e.parametersIn location).map (parameterText key) :=
    List.map_congr_left fun p hp => memberText_parameter (hkey p hp)
  rw [parametersMember, parametersEntry]
  by_cases hnone : (e.parametersIn location).isEmpty
  · simp only [if_pos hnone, List.map_nil]
  · simp only [if_neg hnone, List.map_cons, List.map_nil, memberText_object, parametersText,
      List.map_map, Function.comp_def, hlines]
    congr 2
    rw [← String.toList_inj]
    simp [indentation]

theorem memberText_body (b : RequestBody) : memberText 2 ("body", bodyLiteral b) = bodyText b := by
  have hforms : b.content.map (fun m => memberText 4 (mediaMember m)) = b.content.map mediaText :=
    List.map_congr_left fun m _ => memberText_media m
  unfold bodyText
  rw [← String.toList_inj]
  simp [bodyLiteral, memberText_object, memberText_expression, indentation, hforms,
    Function.comp_def]

theorem memberText_response (r : Response) :
    memberText 2 (responseMember r) = responseText r := by
  have hforms : (r.content.getD []).map (fun m => memberText 4 (mediaMember m)) =
      (r.content.getD []).map mediaText :=
    List.map_congr_left fun m _ => memberText_media m
  unfold responseText responseContentText
  rw [← String.toList_inj]
  by_cases hnone : (r.content.getD []).isEmpty <;>
    simp [responseMember, responseMembers, memberText_object, memberText_expression, indentation,
      hforms, hnone, Function.comp_def]

/-- The entries of a request are the members that it is printed from. -/
theorem requestEntries_eq (e : Endpoint) :
    requestEntries e = (requestMembers e).map fun m => (m.1, memberText 2 m) := by
  have hplace {location : Location} {p : Parameter} (hp : p ∈ e.parametersIn location) :
      p.location = location := by
    simpa using (List.mem_filter.mp hp).2
  have hpath := @memberText_parameters e .path Text.propertyKey fun p hp => by
    simp [parameterKey, hplace hp]
  have hquery := @memberText_parameters e .query Text.propertyKey fun p hp => by
    simp [parameterKey, hplace hp]
  have hheader := @memberText_parameters e .header headerKey fun p hp => by
    simp [parameterKey, headerKey, hplace hp]
  have hbody : (e.requestBody.map fun b => ("body", bodyLiteral b)).toList.map
      (fun m => (m.1, memberText 2 m)) = (e.requestBody.map fun b => ("body", bodyText b)).toList := by
    cases e.requestBody <;> simp [memberText_body]
  simp only [requestEntries, requestMembers, List.map_append, hpath, hquery, hheader, hbody,
    locationLabel]

theorem memberText_responses (e : Endpoint) :
    memberText 1 ("responses", responsesLiteral e) =
      "  responses: \x7b\n" ++ String.join (e.responses.map responseText) ++ "  \x7d,\n" := by
  have hlines : e.responses.map (fun r => memberText 2 (responseMember r)) =
      e.responses.map responseText :=
    List.map_congr_left fun r _ => memberText_response r
  rw [← String.toList_inj]
  simp [responsesLiteral, memberText_object, indentation, hlines, Function.comp_def]

theorem memberText_request (e : Endpoint) :
    memberText 1 ("request", .object "\x7b" (requestMembers e) "\x7d") =
      "  request: \x7b\n" ++ String.join ((requestEntries e).map (·.2)) ++ "  \x7d,\n" := by
  rw [← String.toList_inj]
  simp [memberText_object, indentation, requestEntries_eq, Function.comp_def]

/-- The members of a route are printed as the template prints them. -/
private theorem routeBody_eq (e : Endpoint) :
    routeBody e = "\x7b\n" ++ membersText 1 (routeMembers e) ++ "\x7d" := by
  unfold routeBody
  rw [requestText_eq, ← String.toList_inj]
  by_cases hnone : requestMembers e = [] <;>
    simp [membersText_eq, routeMembers, memberText_expression, memberText_shorthand,
      memberText_responses, memberText_request, indentation, hnone, requestEntries_eq]

/-- The block of a route: its declaration and its type. -/
def routeBlock (e : Endpoint) : String :=
  "\nexport const " ++ Text.camelCase e.operationId ++ " = createRoute(" ++
    ("\x7b\n" ++ membersText 1 (routeMembers e) ++ "\x7d") ++ ");\n\nexport type " ++
    Text.pascalCase e.operationId ++ "Route = typeof " ++ Text.camelCase e.operationId ++ ";\n"

theorem routeText_eq (e : Endpoint) : routeText e = routeBlock e := by
  unfold routeText routeBlock
  rw [routeBody_eq]

/-- The members of an object. -/
def Literal.members : Literal → List (String × Literal)
  | .object _ members _ => members
  | _ => []

/-- Every parameter is carried at one of the places, and only there. -/
private theorem parametersIn_perm (e : Endpoint) :
    (e.parametersIn .path ++ e.parametersIn .query ++ e.parametersIn .header).Perm e.parameters := by
  unfold Endpoint.parametersIn
  induction e.parameters with
  | nil => exact .nil
  | cons p rest ih =>
    cases hlocation : p.location with
    | path => simpa [hlocation] using ih
    | query => simpa [hlocation] using List.perm_middle.trans (.cons p (by simpa using ih))
    | header =>
      simpa [hlocation, ← List.append_assoc] using List.perm_middle.trans (.cons p ih)

/-- What the request of a route declares. -/
structure RequestDeclared (e : Endpoint) (entries : List (String × Literal)) : Prop where
  nonempty : entries ≠ []
  labels : (entries.map (·.1)).Sublist ["params", "query", "headers", "body"]
  /-- The parameters that are carried at a place, in order, unless there are none. -/
  parameters : ∀ location, findMember? entries (locationLabel location) =
    if e.parametersIn location = [] then none
    else
      some (.object "z.object(\x7b" ((e.parametersIn location).map parameterMember) "\x7d)")
  /-- No parameter is left out, and none is declared at two places. -/
  once : ([Location.path, .query, .header].flatMap fun location =>
    ((findMember? entries (locationLabel location)).map Literal.members).getD []).Perm
      (e.parameters.map parameterMember)
  body : findMember? entries "body" = e.requestBody.map bodyLiteral

private theorem findMember?_parametersMember (e : Endpoint) (location : Location) (label : String) :
    findMember? (parametersMember e location) label =
      if locationLabel location = label ∧ e.parametersIn location ≠ [] then
        some (.object "z.object(\x7b" ((e.parametersIn location).map parameterMember) "\x7d)")
      else none := by
  by_cases hnone : e.parametersIn location = [] <;>
    by_cases hlabel : locationLabel location = label <;>
      simp [parametersMember, findMember?, hnone, hlabel]

theorem requestMembers_eq_nil_iff :
    requestMembers e = [] ↔ e.parameters = [] ∧ e.requestBody = none := by
  have hplace (location : Location) :
      parametersMember e location = [] ↔ e.parametersIn location = [] := by
    simp [parametersMember]
  simp only [requestMembers, List.append_eq_nil_iff, hplace, parameters_eq_nil_iff,
    Option.toList_eq_nil_iff, Option.map_eq_none_iff, and_assoc]

theorem requestDeclared (hsome : requestMembers e ≠ []) :
    RequestDeclared e (requestMembers e) := by
  -- The entries of the other places have other labels, and so has the body.
  have hparameters (location : Location) :
      findMember? (requestMembers e) (locationLabel location) =
        if e.parametersIn location = [] then none
        else
          some (.object "z.object(\x7b" ((e.parametersIn location).map parameterMember) "\x7d)") := by
    have hbody : findMember? (e.requestBody.map fun b => ("body", bodyLiteral b)).toList
        (locationLabel location) = none := by
      cases e.requestBody <;> cases location <;> simp [findMember?, locationLabel]
    simp only [requestMembers, findMember?_append, findMember?_parametersMember, hbody]
    by_cases hnone : e.parametersIn location = [] <;>
      cases location <;> simp [locationLabel, hnone]
  constructor
  case nonempty => exact hsome
  case labels =>
    have hplace (location : Location) :
        ((parametersMember e location).map (·.1)).Sublist [locationLabel location] := by
      by_cases hnone : e.parametersIn location = [] <;> simp [parametersMember, hnone]
    have hbody : ((e.requestBody.map fun b => ("body", bodyLiteral b)).toList.map (·.1)).Sublist
        ["body"] := by
      cases e.requestBody <;> simp
    simpa [requestMembers, locationLabel] using
      (((hplace .path).append (hplace .query)).append (hplace .header)).append hbody
  case parameters => exact hparameters
  case once =>
    have hmembers (location : Location) :
        ((findMember? (requestMembers e) (locationLabel location)).map Literal.members).getD [] =
          (e.parametersIn location).map parameterMember := by
      rw [hparameters]
      by_cases hnone : e.parametersIn location = [] <;> simp [hnone, Literal.members]
    simpa [hmembers] using (parametersIn_perm e).map parameterMember
  case body =>
    have hplace (location : Location) : locationLabel location ≠ "body" := by
      cases location <;> simp [locationLabel]
    simp only [requestMembers, findMember?_append, findMember?_parametersMember, hplace, false_and,
      if_false, Option.none_or]
    cases e.requestBody <;> simp [findMember?]

/-- What a route declares. -/
structure RouteDeclared (e : Endpoint) : Prop where
  /-- Whatever an earlier round of the loop has called its route, the block is that of the endpoint
  of this round. -/
  alone : ∀ (s : Template.Scope) (left : Template.Value),
    s.find? "ep" = some (endpointValue e) → s.find? "validator" = none →
    s.find? "status_code" = none →
    ∃ final, Template.runAll routeTemplate (s.set "route" left) = .ok (routeBlock e, final)
  keys : (routeMembers e).map (·.1) = ["path", "method", "tags"] ++
    (if e.parameters = [] ∧ e.requestBody = none then [] else ["request"]) ++ ["responses"]
  path : findMember? (routeMembers e) "path" = some (.expression (Text.quoted e.path))
  method : findMember? (routeMembers e) "method" =
    some (.expression (Text.quoted (Text.lowercase e.method.name)))
  tags : findMember? (routeMembers e) "tags" = some .shorthand
  request : ∀ declared, findMember? (routeMembers e) "request" = some declared →
    ∃ entries, declared = .object "\x7b" entries "\x7d" ∧ RequestDeclared e entries
  responses : findMember? (routeMembers e) "responses" =
    some (.object "\x7b" (e.responses.map responseMember) "\x7d")
  content : ∀ r ∈ e.responses, findMember? (responseMembers r) "content" =
    if r.content.getD [] = [] then none
    else some (.object "\x7b" ((r.content.getD []).map mediaMember) "\x7d")
  /-- Responses with distinct statuses have distinct keys. -/
  statuses : ((e.responses.map responseMember).map (·.1)).Nodup ↔ (e.responses.map (·.status)).Nodup

private theorem nodup_responseKeys_iff (responses : List Response) :
    ((responses.map responseMember).map (·.1)).Nodup ↔ (responses.map (·.status)).Nodup := by
  have hkeys : (responses.map responseMember).map (·.1) =
      (responses.map (·.status)).map fun status => "[" ++ statusKey status ++ "]" := by
    simp [responseMember]
  have hinjective : Function.Injective fun status => "[" ++ statusKey status ++ "]" := by
    intro a b hsame
    rw [String.append_left_inj, String.append_right_inj] at hsame
    exact statusKey_injective hsame
  rw [hkeys, List.nodup_map_iff hinjective]

theorem routeDeclared (he : e.WellFormed) : RouteDeclared e := by
  constructor
  case alone =>
    intro s left hep hvalidator hstatus
    have hseen {name : String} (hname : "route" ≠ name) :
        (s.set "route" left).find? name = s.find? name :=
      Template.Scope.find?_set_of_ne s left hname
    have hrun := runAll_routeTemplate ((hseen (by simp)).trans hep)
      ((hseen (by simp)).trans hvalidator) ((hseen (by simp)).trans hstatus) he
    rw [routeText_eq] at hrun
    exact ⟨_, hrun⟩
  case keys =>
    by_cases hnone : e.parameters = [] ∧ e.requestBody = none
    · simp [routeMembers, requestMembers_eq_nil_iff.mpr hnone, hnone]
    · simp [routeMembers, mt requestMembers_eq_nil_iff.mp hnone, hnone]
  case path => simp [routeMembers, findMember?]
  case method => simp [routeMembers, findMember?]
  case tags => simp [routeMembers, findMember?]
  case request =>
    intro declared hdeclared
    by_cases hnone : requestMembers e = []
    · simp [routeMembers, findMember?, hnone] at hdeclared
    · have hrequest : findMember? (routeMembers e) "request" =
          some (.object "\x7b" (requestMembers e) "\x7d") := by
        simp [routeMembers, findMember?, hnone]
      refine ⟨requestMembers e, Option.some.inj (hdeclared.symm.trans hrequest), ?_⟩
      exact requestDeclared hnone
  case responses =>
    by_cases hnone : requestMembers e = [] <;>
      simp [routeMembers, findMember?, hnone, responsesLiteral]
  case content =>
    intro r _
    by_cases hnone : r.content.getD [] = [] <;> simp [responseMembers, findMember?, hnone]
  case statuses => exact nodup_responseKeys_iff e.responses

/-- The routes of any group: a header that declares the tag, and one block for each endpoint in
order, which depends on that endpoint alone. A route declares its path and its method. It declares a
request if there are parameters or a body, and then each parameter once, under the label of the place
that carries it. Its responses follow in order, under keys that tell them apart. -/
theorem routes_made_of_declarations {g : Group} (hg : ∀ e ∈ g.endpoints, e.WellFormed) :
    ModuleKind.routes.render (routesContext g) = .ok
      ("import \x7b createRoute, z \x7d from \"@hono/zod-openapi\";\n" ++
        "import * as HttpStatusCodes from \"stoker/http-status-codes\";\n\n" ++
        "const tags = [" ++ Text.quoted g.tag ++ "];\n" ++
        String.join (g.endpoints.map routeBlock)) ∧
    ∀ e ∈ g.endpoints, RouteDeclared e := by
  refine ⟨?_, fun e he => routeDeclared (hg e he)⟩
  have hblocks : g.endpoints.map routeText = g.endpoints.map routeBlock :=
    List.map_congr_left fun e _ => routeText_eq e
  rw [render_routes hg, routesText, hblocks]
  rfl

/-- A group whose first route declares something at every place, and whose second one nothing. -/
def tracedPets : Group :=
  ⟨"Pets",
    [⟨"/pets/\x7bid\x7d", .put, "putPet", ["Pets"],
      [⟨"X-Trace", .header, true, some (.object [("type", .text "integer")])⟩,
       ⟨"id", .path, true, some (.object [("type", .text "string")])⟩,
       ⟨"labels", .query, false,
         some (.object [("type", .text "array"), ("items", .object [("type", .text "string")])])⟩],
      some ⟨true, [⟨"application/json", none⟩]⟩,
      [⟨"200", "OK", some [⟨"application/json", none⟩]⟩, ⟨"404", "", some []⟩,
       ⟨"default", "", none⟩]⟩,
     ⟨"/pets", .get, "listPets", ["Pets"], [], none, []⟩]⟩

theorem tracedPets_declared : (∀ e ∈ tracedPets.endpoints, e.WellFormed) ∧
    ∃ put list, tracedPets.endpoints = [put, list] ∧ RouteDeclared put ∧ RouteDeclared list ∧
      findMember? (routeMembers put) "request" = some (.object "\x7b"
        [("params", .object "z.object(\x7b" [("id", .expression "z.string()")] "\x7d)"),
         ("query", .object "z.object(\x7b"
           [("labels", .expression "z.array(z.string()).optional()")] "\x7d)"),
         ("headers", .object "z.object(\x7b"
           [("\"x-trace\"", .expression "z.number().int()")] "\x7d)"),
         ("body", .object "\x7b"
           [("content", .object "\x7b"
              [("\"application/json\"", .expression "\x7b schema: z.unknown() \x7d")] "\x7d"),
            ("required", .expression "True")] "\x7d")] "\x7d") ∧
      (put.responses.map responseMember).map (·.1) =
        ["[HttpStatusCodes.OK]", "[HttpStatusCodes.NOT_FOUND]", "[\"default\"]"] ∧
      findMember? (routeMembers list) "request" = none := by
  have hgroup : ∀ e ∈ tracedPets.endpoints, e.WellFormed := by
    intro e he
    fin_cases he <;> constructor <;>
      simp [Parameter.WellFormed, Media.WellFormed, Response.WellFormed, Tree.wellFormed_object_iff,
        Tree.WellFormed.text]
  have hroutes := (routes_made_of_declarations hgroup).2
  exact ⟨hgroup, _, _, rfl, hroutes _ (List.mem_cons_self ..),
    hroutes _ (List.mem_cons_of_mem _ (List.mem_cons_self ..)), rfl, rfl, rfl⟩

end ApiSkeleton.Emit
