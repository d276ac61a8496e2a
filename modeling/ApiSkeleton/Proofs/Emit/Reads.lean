import ApiSkeleton.Proofs.Emit.Agreement
import ApiSkeleton.Proofs.Text.Declarable

namespace ApiSkeleton.Emit

open Model

variable {l : Layout} {api : Api} {e : Endpoint}

/-- The uses of a request in a text: for each place where it stands, what follows it up to the end
of a call. -/
def requestUses : List Char → List String
  | [] => []
  | c :: rest =>
    if ['c', '.', 'r', 'e', 'q'].isPrefixOf (c :: rest) then
      String.ofList ((rest.drop 4).takeWhile (· ≠ ')')) :: requestUses rest
    else requestUses rest

/-- A text that uses no request, whatever follows it. -/
def Quiet (s : String) : Prop := ∀ rest, requestUses (s.toList ++ rest) = requestUses rest

/-- Whether a text goes on after a name without asking the name for a request. -/
def mayFollow (s : String) : Bool :=
  match s.toList with
  | c :: d :: _ => c != '.' || d != 'r'
  | _ => false

theorem requestUses_name {name : List Char} (hname : '.' ∉ name) {rest : List Char}
    (hrest : ¬ ['.', 'r', 'e', 'q'] <+: rest) :
    requestUses (name ++ rest) = requestUses rest := by
  induction name with
  | nil => rfl
  | cons c more ih =>
    rw [List.mem_cons, not_or] at hname
    have hmarker : ['c', '.', 'r', 'e', 'q'].isPrefixOf (c :: (more ++ rest)) = false := by
      rw [← Bool.not_eq_true, List.isPrefixOf_iff_prefix, List.cons_prefix_cons]
      rintro ⟨-, hpoint⟩
      cases more with
      | nil => exact hrest hpoint
      | cons d others =>
        have hfirst := (List.cons_prefix_cons.mp hpoint).1
        exact hname.2 (hfirst ▸ List.mem_cons_self ..)
    rw [List.cons_append, requestUses, hmarker, if_neg Bool.false_ne_true, ih hname.2]

theorem not_prefix_of_mayFollow {s : String} (hs : mayFollow s) (rest : List Char) :
    ¬ ['.', 'r', 'e', 'q'] <+: s.toList ++ rest := by
  unfold mayFollow at hs
  split at hs
  · rename_i c d more hchars
    rw [hchars]
    intro hpoint
    obtain ⟨hc, hnext⟩ := List.cons_prefix_cons.mp hpoint
    obtain ⟨hd, -⟩ := List.cons_prefix_cons.mp hnext
    simp [← hc, ← hd] at hs
  · cases hs

namespace Quiet

variable {s t : String}

theorem append (hs : Quiet s) (ht : Quiet t) : Quiet (s ++ t) := by
  intro rest
  rw [String.toList_append, List.append_assoc, hs, ht]

/-- A name without a point may stand in such a text. -/
theorem name (hs : Quiet s) {name : String} (hname : '.' ∉ name.toList) (ht : Quiet t)
    (hnext : mayFollow t) : Quiet (s ++ name ++ t) := by
  intro rest
  rw [String.toList_append, String.toList_append, List.append_assoc, List.append_assoc, hs,
    requestUses_name hname (not_prefix_of_mayFollow hnext rest), ht]

theorem requestUses_eq_nil (hs : Quiet s) : requestUses s.toList = [] := by
  have hall := hs []
  rwa [List.append_nil] at hall

end Quiet

/-- What a stub takes from a request: the parameter of a name, and the body under a name that the
stub gives it. -/
structure Reads where
  parameter : Option String
  body : Option String

/-- The lines that take it. -/
def Reads.text (r : Reads) : String :=
  (r.parameter.map fun name =>
    "  const \x7b " ++ name ++ " \x7d = c.req.valid(\"param\");\n").getD "" ++
    (r.body.map fun name => "  const " ++ name ++ " = c.req.valid(\"json\");\n").getD ""

/-- What the stub of an endpoint takes. -/
def reads (e : Endpoint) : Reads :=
  match e.method with
  | .get =>
    if (e.parametersIn .path).isEmpty then ⟨none, none⟩ else ⟨some (idParameter e), none⟩
  | .post => ⟨none, some "body"⟩
  | .patch => ⟨some (idParameter e), some "updates"⟩
  | .delete => ⟨some (idParameter e), none⟩
  | _ => ⟨none, none⟩

/-- What it uses of the request. -/
def Reads.uses (r : Reads) : List String :=
  (r.parameter.map fun _ => ".valid(\"param\"").toList ++
    (r.body.map fun _ => ".valid(\"json\"").toList

/-- The answer where there is no item. -/
def notFoundText (condition : String) : String :=
  "  if (" ++ condition ++ ") \x7b\n" ++
    "    return c.json(\x7b message: HttpStatusPhrases.NOT_FOUND \x7d, " ++
    "HttpStatusCodes.NOT_FOUND);\n" ++
    "  \x7d\n"

/-- What a stub does with what it has taken. -/
def stubWork (table : String) (e : Endpoint) : String :=
  match e.method with
  | .get =>
    if (e.parametersIn .path).isEmpty then fetchAllText table
    else
      "  const item = await db.query." ++ table ++ ".findFirst(\x7b\n" ++
        "    where: eq(" ++ table ++ ".id, " ++ idParameter e ++ "),\n" ++
        "  \x7d);\n" ++ notFoundText "!item" ++
        "  return c.json(item, HttpStatusCodes.OK);\n"
  | .post =>
    "  const [inserted] = await db.insert(" ++ table ++ ").values(body).returning();\n" ++
      "  return c.json(inserted, HttpStatusCodes.CREATED);\n"
  | .patch =>
    "  const [updated] = await db\n" ++
      "    .update(" ++ table ++ ")\n" ++
      "    .set(updates)\n" ++
      "    .where(eq(" ++ table ++ ".id, " ++ idParameter e ++ "))\n" ++
      "    .returning();\n" ++ notFoundText "!updated" ++
      "  return c.json(updated, HttpStatusCodes.OK);\n"
  | .delete =>
    "  const result = await db.delete(" ++ table ++ ").where(eq(" ++ table ++ ".id, " ++
      idParameter e ++ "));\n" ++ notFoundText "result.rowsAffected === 0" ++
      "  return c.body(null, HttpStatusCodes.NO_CONTENT);\n"
  | _ => "  return c.json(\x7b message: \"Not implemented\" \x7d, 501);\n"

/-- A stub begins with its reads. -/
theorem stubBody_eq (table : String) (e : Endpoint) :
    stubBody table e = (reads e).text ++ stubWork table e := by
  have hitem : "  if (!item) \x7b\n" = "  if (" ++ ("!item" ++ ") \x7b\n") := by simp
  have hupdated : "  if (!updated) \x7b\n" = "  if (" ++ ("!updated" ++ ") \x7b\n") := by simp
  have hresult : "  if (result.rowsAffected === 0) \x7b\n" =
      "  if (" ++ ("result.rowsAffected === 0" ++ ") \x7b\n") := by simp
  have hbody : "  const body = c.req.valid(\"json\");\n" =
      "  const " ++ ("body" ++ " = c.req.valid(\"json\");\n") := by simp
  have hupdates : "  const updates = c.req.valid(\"json\");\n" =
      "  const " ++ ("updates" ++ " = c.req.valid(\"json\");\n") := by simp
  unfold stubBody reads stubWork
  cases e.method with
  | get =>
    cases hparams : (e.parametersIn .path).isEmpty with
    | true => simp [Reads.text]
    | false =>
      simp only [Reads.text, Bool.false_eq_true, if_false, Option.map_some, Option.map_none,
        Option.getD_some, Option.getD_none, String.append_empty]
      unfold fetchOneText notFoundText
      rw [hitem]
      simp only [String.append_assoc]
  | post =>
    simp only [Reads.text, Option.map_some, Option.map_none, Option.getD_some, Option.getD_none,
      String.empty_append]
    unfold insertText
    rw [hbody]
    simp only [String.append_assoc]
  | patch =>
    simp only [Reads.text, Option.map_some, Option.getD_some]
    unfold updateText notFoundText
    rw [hupdates, hupdated]
    simp only [String.append_assoc]
  | delete =>
    simp only [Reads.text, Option.map_some, Option.map_none, Option.getD_some, Option.getD_none,
      String.append_empty]
    unfold deleteText notFoundText
    rw [hresult]
    simp only [String.append_assoc]
  | _ => simp [Reads.text]

private theorem requestUses_reads (r : Reads) (hparameter : ∀ name ∈ r.parameter, '.' ∉ name.toList)
    (hbody : ∀ name ∈ r.body, '.' ∉ name.toList) (rest : List Char) :
    requestUses (r.text.toList ++ rest) = r.uses ++ requestUses rest := by
  have hname {opening name closing : String} {use : String} (hopening : Quiet opening)
      (hpoint : '.' ∉ name.toList) (hnext : mayFollow closing)
      (hclosing : ∀ after, requestUses (closing.toList ++ after) = use :: requestUses after)
      (after : List Char) :
      requestUses ((opening ++ name ++ closing).toList ++ after) = use :: requestUses after := by
    rw [String.toList_append, String.toList_append, List.append_assoc, List.append_assoc, hopening,
      requestUses_name hpoint (not_prefix_of_mayFollow hnext after), hclosing]
  obtain ⟨parameter, body⟩ := r
  have hlast : requestUses (((body.map fun name =>
      "  const " ++ name ++ " = c.req.valid(\"json\");\n").getD "").toList ++ rest) =
      (body.map fun _ => ".valid(\"json\"").toList ++ requestUses rest := by
    cases body with
    | none => rfl
    | some name => exact hname (fun _ => rfl) (hbody name rfl) rfl (fun _ => rfl) rest
  rw [Reads.text, Reads.uses, String.toList_append, List.append_assoc, List.append_assoc, ← hlast]
  cases parameter with
  | none => rfl
  | some name => exact hname (fun _ => rfl) (hparameter name rfl) rfl (fun _ => rfl) _

private theorem quiet_notFoundText {condition : String} (h : Quiet condition) :
    Quiet (notFoundText condition) := by
  have hopen : Quiet "  if (" := fun _ => rfl
  have hthen : Quiet ") \x7b\n" := fun _ => rfl
  have hanswer : Quiet "    return c.json(\x7b message: HttpStatusPhrases.NOT_FOUND \x7d, " :=
    fun _ => rfl
  have hstatus : Quiet "HttpStatusCodes.NOT_FOUND);\n" := fun _ => rfl
  have hclose : Quiet "  \x7d\n" := fun _ => rfl
  exact (((hopen.append h).append hthen).append hanswer).append hstatus |>.append hclose

/-- What comes after the reads uses no request. -/
private theorem quiet_stubWork {table : String} (htable : '.' ∉ table.toList)
    (hname : ∀ name ∈ (reads e).parameter, '.' ∉ name.toList) : Quiet (stubWork table e) := by
  have hid : Quiet ".id, " := fun _ => rfl
  unfold reads at hname
  unfold stubWork
  cases hmethod : e.method with
  | get =>
    cases hpath : (e.parametersIn .path).isEmpty with
    | true =>
      have hquery : Quiet "  const items = await db.query." := fun _ => rfl
      have hfind : Quiet ".findMany();\n" := fun _ => rfl
      have hanswer : Quiet "  return c.json(items, HttpStatusCodes.OK);\n" := fun _ => rfl
      exact (hquery.name htable hfind rfl).append hanswer
    | false =>
      have hfirst : '.' ∉ (idParameter e).toList := hname _ (by simp [hmethod, hpath])
      have hquery : Quiet "  const item = await db.query." := fun _ => rfl
      have hfind : Quiet ".findFirst(\x7b\n" := fun _ => rfl
      have hwhere : Quiet "    where: eq(" := fun _ => rfl
      have hend : Quiet "),\n" := fun _ => rfl
      have hclose : Quiet "  \x7d);\n" := fun _ => rfl
      have hnone : Quiet (notFoundText "!item") := quiet_notFoundText fun _ => rfl
      have hanswer : Quiet "  return c.json(item, HttpStatusCodes.OK);\n" := fun _ => rfl
      exact ((((((hquery.name htable hfind rfl).append hwhere).name htable hid rfl).name hfirst hend
        rfl).append hclose).append hnone).append hanswer
  | post =>
    have hinsert : Quiet "  const [inserted] = await db.insert(" := fun _ => rfl
    have hvalues : Quiet ").values(body).returning();\n" := fun _ => rfl
    have hanswer : Quiet "  return c.json(inserted, HttpStatusCodes.CREATED);\n" := fun _ => rfl
    exact (hinsert.name htable hvalues rfl).append hanswer
  | patch =>
    have hfirst : '.' ∉ (idParameter e).toList := hname _ (by simp [hmethod])
    have hstart : Quiet "  const [updated] = await db\n" := fun _ => rfl
    have hupdate : Quiet "    .update(" := fun _ => rfl
    have hline : Quiet ")\n" := fun _ => rfl
    have hset : Quiet "    .set(updates)\n" := fun _ => rfl
    have hwhere : Quiet "    .where(eq(" := fun _ => rfl
    have hend : Quiet "))\n" := fun _ => rfl
    have hreturning : Quiet "    .returning();\n" := fun _ => rfl
    have hnone : Quiet (notFoundText "!updated") := quiet_notFoundText fun _ => rfl
    have hanswer : Quiet "  return c.json(updated, HttpStatusCodes.OK);\n" := fun _ => rfl
    exact (((((hstart.append hupdate).name htable hline rfl).append hset).append hwhere).name htable
      hid rfl).name hfirst hend rfl |>.append hreturning |>.append hnone |>.append hanswer
  | delete =>
    have hfirst : '.' ∉ (idParameter e).toList := hname _ (by simp [hmethod])
    have hdelete : Quiet "  const result = await db.delete(" := fun _ => rfl
    have hwhere : Quiet ").where(eq(" := fun _ => rfl
    have hend : Quiet "));\n" := fun _ => rfl
    have hnone : Quiet (notFoundText "result.rowsAffected === 0") := quiet_notFoundText fun _ => rfl
    have hanswer : Quiet "  return c.body(null, HttpStatusCodes.NO_CONTENT);\n" := fun _ => rfl
    exact (((hdelete.name htable hwhere rfl).name htable hid rfl).name hfirst hend rfl).append hnone
      |>.append hanswer
  | _ =>
    have hanswer : Quiet "  return c.json(\x7b message: \"Not implemented\" \x7d, 501);\n" :=
      fun _ => rfl
    exact hanswer

theorem stubText_eq_reads (table : String) (e : Endpoint) :
    stubText table e = "\nexport const " ++ Text.camelCase e.operationId ++ ": AppRouteHandler<" ++
      Text.pascalCase e.operationId ++ "Route> = async (c) => \x7b\n" ++
      ((reads e).text ++ stubWork table e) ++ "\x7d;\n" := by
  unfold stubText
  rw [stubBody_eq]

/-- The names that a stub takes over from the document. -/
def stubNames (e : Endpoint) : List String :=
  Text.camelCase e.operationId :: Text.pascalCase e.operationId :: (reads e).parameter.toList

/-- Whatever a stub reads, it is the parameter that the endpoint is identified by. -/
theorem parameter_reads {name : String} (hname : name ∈ (reads e).parameter) :
    name = idParameter e ∧
      (e.parametersIn .path = [] → e.method = .patch ∨ e.method = .delete) := by
  unfold reads at hname
  cases hmethod : e.method with
  | get =>
    cases hpath : e.parametersIn .path with
    | nil => simp [hmethod, hpath] at hname
    | cons p rest =>
      have heq : idParameter e = name := by simpa [hmethod, hpath] using hname
      exact ⟨heq.symm, fun hnone => nomatch hnone⟩
  | patch | delete =>
    have heq : idParameter e = name := by simpa [hmethod] using hname
    exact ⟨heq.symm, by simp⟩
  | _ => simp [hmethod] at hname

private theorem parameter_reads_iff : (reads e).parameter.isSome ↔
    e.method = .patch ∨ e.method = .delete ∨ e.method = .get ∧ e.parametersIn .path ≠ [] := by
  unfold reads
  cases e.method with
  | get => by_cases hpath : e.parametersIn .path = [] <;> simp [hpath]
  | _ => simp

private theorem body_reads_iff :
    (reads e).body.isSome ↔ e.method = .post ∨ e.method = .patch := by
  unfold reads
  cases e.method with
  | get => by_cases hpath : e.parametersIn .path = [] <;> simp [hpath]
  | _ => simp

private theorem body_reads {name : String} (hname : name ∈ (reads e).body) :
    name = "body" ∨ name = "updates" := by
  unfold reads at hname
  cases hmethod : e.method with
  | get => by_cases hpath : e.parametersIn .path = [] <;> simp [hmethod, hpath] at hname
  | post | patch => simp_all
  | _ => simp [hmethod] at hname

/-- Where names hold no point, a stub uses the request for its reads, and for nothing else. -/
theorem requestUses_stubText {table : String} (htable : '.' ∉ table.toList)
    (hnames : ∀ name ∈ stubNames e, '.' ∉ name.toList) :
    requestUses (stubText table e).toList = (reads e).uses := by
  simp only [stubNames, List.forall_mem_cons, Option.mem_toList] at hnames
  obtain ⟨hconstant, htype, hparameter⟩ := hnames
  have hbody : ∀ name ∈ (reads e).body, '.' ∉ name.toList := by
    intro name hname
    rcases body_reads hname with rfl | rfl <;> decide
  have hexport : Quiet "\nexport const " := fun _ => rfl
  have hhandler : Quiet ": AppRouteHandler<" := fun _ => rfl
  have hroute : Quiet "Route> = async (c) => \x7b\n" := fun _ => rfl
  have hend : Quiet "\x7d;\n" := fun _ => rfl
  have hheader := (hexport.name hconstant hhandler rfl).name htype hroute rfl
  have hwork := (quiet_stubWork htable hparameter).append hend
  have htext : stubText table e = "\nexport const " ++ Text.camelCase e.operationId ++
      ": AppRouteHandler<" ++ Text.pascalCase e.operationId ++ "Route> = async (c) => \x7b\n" ++
      ((reads e).text ++ (stubWork table e ++ "\x7d;\n")) := by
    rw [stubText_eq_reads]
    simp only [String.append_assoc]
  rw [htext, String.toList_append, hheader, String.toList_append,
    requestUses_reads _ hparameter hbody, hwork.requestUses_eq_nil, List.append_nil]

/-- The validators of parameters as an entry of a request, if there are any. -/
def parametersEntry (label : String) (key : String → String) (ps : List Parameter) :
    List (String × String) :=
  if ps.isEmpty then [] else [(label, parametersText label key ps)]

/-- The entries of the request that a route declares, each under its label. -/
def requestEntries (e : Endpoint) : List (String × String) :=
  parametersEntry "params" Text.propertyKey (e.parametersIn .path) ++
    parametersEntry "query" Text.propertyKey (e.parametersIn .query) ++
    parametersEntry "headers" headerKey (e.parametersIn .header) ++
    (e.requestBody.map fun b => ("body", bodyText b)).toList

/-- The labels of what a route declares. -/
def declared (e : Endpoint) : List String := (requestEntries e).map (·.1)

private theorem join_parametersEntry (label : String) (key : String → String)
    (ps : List Parameter) :
    String.join ((parametersEntry label key ps).map (·.2)) = parametersText label key ps := by
  cases ps <;> simp [parametersEntry, parametersText]

private theorem parametersEntry_eq_nil_iff {label : String} {key : String → String}
    {ps : List Parameter} : parametersEntry label key ps = [] ↔ ps = [] := by
  cases ps <;> simp [parametersEntry]

/-- Every parameter is carried at one of the places that a route knows. -/
theorem parameters_eq_nil_iff : e.parameters = [] ↔
    e.parametersIn .path = [] ∧ e.parametersIn .query = [] ∧ e.parametersIn .header = [] := by
  simp only [Endpoint.parametersIn, List.filter_eq_nil_iff, decide_eq_true_eq, ← forall_and]
  constructor
  · intro hnone p
    simp [hnone]
  · intro hnone
    refine List.eq_nil_iff_forall_not_mem.mpr fun p hp => ?_
    obtain ⟨hpath, hquery, hheader⟩ := hnone p hp
    cases hlocation : p.location with
    | path => exact hpath hlocation
    | query => exact hquery hlocation
    | header => exact hheader hlocation

/-- The request of a route consists of its entries, and is left out if there are none. -/
theorem requestText_eq (e : Endpoint) : requestText e =
    if requestEntries e = [] then ""
    else "  request: \x7b\n" ++ String.join ((requestEntries e).map (·.2)) ++ "  \x7d,\n" := by
  have hnone : requestEntries e = [] ↔ e.parameters.isEmpty ∧ e.requestBody.isNone := by
    simp only [requestEntries, List.append_eq_nil_iff, parametersEntry_eq_nil_iff,
      List.isEmpty_iff, parameters_eq_nil_iff, Option.toList_eq_nil_iff, Option.map_eq_none_iff,
      Option.isNone_iff_eq_none, and_assoc]
  have hbody : String.join ((e.requestBody.map fun b => ("body", bodyText b)).toList.map (·.2)) =
      (e.requestBody.map bodyText).getD "" := by
    cases e.requestBody <;> simp
  rw [requestText]
  by_cases hempty : requestEntries e = []
  · rw [if_pos (hnone.mp hempty), if_pos hempty]
  · rw [if_neg (fun h => hempty (hnone.mpr h)), if_neg hempty, requestEntries]
    simp only [List.map_append, String.join_append, join_parametersEntry, hbody,
      String.append_assoc]

theorem mem_parametersEntry_iff {label : String} {key : String → String} {ps : List Parameter}
    {entry : String × String} : entry ∈ parametersEntry label key ps ↔
      ps ≠ [] ∧ entry = (label, parametersText label key ps) := by
  cases ps <;> simp [parametersEntry]

/-- An entry begins with its label. -/
private theorem labelled_of_mem_requestEntries {entry : String × String}
    (h : entry ∈ requestEntries e) :
    ∃ rest, entry.2 = "    " ++ entry.1 ++ ": " ++ rest := by
  have hobject {label : String} {key : String → String} {ps : List Parameter} (hps : ps ≠ []) :
      ∃ rest, parametersText label key ps = "    " ++ label ++ ": " ++ rest := by
    have hopen : ": z.object(\x7b\n" = ": " ++ "z.object(\x7b\n" := by simp
    refine ⟨"z.object(\x7b\n" ++ String.join (ps.map (parameterText key)) ++ "    \x7d),\n", ?_⟩
    rw [parametersText, if_neg (by simpa using hps), hopen]
    simp only [String.append_assoc]
  have hbody (b : RequestBody) : ∃ rest, bodyText b = "    " ++ "body" ++ ": " ++ rest := by
    have hopen : "    body: \x7b\n      content: \x7b\n" =
        "    " ++ "body" ++ ": " ++ "\x7b\n      content: \x7b\n" := by simp
    unfold bodyText
    rw [hopen]
    simp only [String.append_assoc]
    exact ⟨_, rfl⟩
  simp only [requestEntries, List.mem_append, mem_parametersEntry_iff, Option.mem_toList,
    Option.map_eq_some_iff] at h
  rcases h with ((⟨hps, rfl⟩ | ⟨hps, rfl⟩) | ⟨hps, rfl⟩) | ⟨b, -, rfl⟩
  · exact hobject hps
  · exact hobject hps
  · exact hobject hps
  · exact hbody b

private theorem params_mem_declared_iff : "params" ∈ declared e ↔ e.parametersIn .path ≠ [] := by
  simp [declared, requestEntries, mem_parametersEntry_iff]

private theorem body_mem_declared_iff : "body" ∈ declared e ↔ e.requestBody.isSome := by
  simp [declared, requestEntries, mem_parametersEntry_iff, Option.isSome_iff_exists]

/-- How what the stub of an endpoint reads is declared by its route. -/
structure ReadsDeclared (table : String) (e : Endpoint) : Prop where
  /-- The stub begins with its reads. -/
  stub : stubText table e = "\nexport const " ++ Text.camelCase e.operationId ++
    ": AppRouteHandler<" ++ Text.pascalCase e.operationId ++ "Route> = async (c) => \x7b\n" ++
    ((reads e).text ++ stubWork table e) ++ "\x7d;\n"
  /-- Unless a name from the document brings in more, the stub uses the request for these reads, and
  for nothing else. -/
  uses : (∀ name ∈ stubNames e, '.' ∉ name.toList) →
    requestUses (stubText table e).toList = (reads e).uses
  /-- The route declares its entries, and nothing else of the request. -/
  route : routeText e = "\nexport const " ++ Text.camelCase e.operationId ++ " = createRoute(" ++
    ("\x7b\n  path: " ++ Text.quoted e.path ++ ",\n  method: " ++
      Text.quoted (Text.lowercase e.method.name) ++ ",\n  tags,\n" ++
      (if requestEntries e = [] then ""
        else "  request: \x7b\n" ++ String.join ((requestEntries e).map (·.2)) ++ "  \x7d,\n") ++
      "  responses: \x7b\n" ++ String.join (e.responses.map responseText) ++ "  \x7d,\n\x7d") ++
    ");\n\nexport type " ++ Text.pascalCase e.operationId ++ "Route = typeof " ++
    Text.camelCase e.operationId ++ ";\n"
  entries : ∀ entry ∈ requestEntries e, ∃ rest, entry.2 = "    " ++ entry.1 ++ ": " ++ rest
  /-- The method decides what is read, and only for `GET` it matters whether there are path
  parameters. -/
  chosen : ((reads e).parameter.isSome ↔
      e.method = .patch ∨ e.method = .delete ∨ e.method = .get ∧ e.parametersIn .path ≠ []) ∧
    ((reads e).body.isSome ↔ e.method = .post ∨ e.method = .patch)
  /-- Where there are path parameters, the first one is read, and all are declared. -/
  parameter : ∀ name ∈ (reads e).parameter, ∀ p rest, e.parametersIn .path = p :: rest →
    p.name = name ∧ ("params", "    params: z.object(\x7b\n" ++
      String.join ((p :: rest).map (parameterText Text.propertyKey)) ++ "    \x7d),\n") ∈
      requestEntries e
  /-- Where there is none, only stubs that change an item read one, by the name of a placeholder. -/
  placeholder : ∀ name ∈ (reads e).parameter, e.parametersIn .path = [] →
    (e.method = .patch ∨ e.method = .delete) ∧ name = "id" ∧ "params" ∉ declared e
  /-- A body is declared if the operation has one. -/
  body : "body" ∈ declared e ↔ e.requestBody.isSome

private theorem point_notMem_tagBinding (tag : String) : '.' ∉ (tagBinding tag).toList := by
  intro hpoint
  have hname : Text.isName (tagBinding tag).toList := (Text.isDeclarable_identifier (tagStem tag)).1
  cases hchars : (tagBinding tag).toList with
  | nil => simp [hchars] at hpoint
  | cons c rest =>
    rw [hchars, Text.isName, Bool.and_eq_true, Text.isNameStart_iff] at hname
    have hparts : ∀ d ∈ c :: rest, Text.isNamePart d :=
      List.forall_mem_cons.mpr ⟨hname.1.1, List.all_eq_true.mp hname.2⟩
    rw [hchars] at hpoint
    exact absurd (hparts _ hpoint) (by decide)

theorem readsDeclared {table : String} (htable : '.' ∉ table.toList) (e : Endpoint) :
    ReadsDeclared table e := by
  constructor
  case stub => exact stubText_eq_reads table e
  case uses => exact requestUses_stubText htable
  case route =>
    unfold routeText routeBody
    rw [requestText_eq]
  case entries => exact fun entry => labelled_of_mem_requestEntries
  case chosen => exact ⟨parameter_reads_iff, body_reads_iff⟩
  case parameter =>
    intro name hname p rest hpath
    refine ⟨?_, ?_⟩
    · rw [(parameter_reads hname).1, idParameter, hpath]
      rfl
    · have hentry : parametersText "params" Text.propertyKey (p :: rest) =
          "    params: z.object(\x7b\n" ++
            String.join ((p :: rest).map (parameterText Text.propertyKey)) ++ "    \x7d),\n" := by
        simp [parametersText]
      rw [← hentry]
      simp [requestEntries, mem_parametersEntry_iff, hpath]
  case placeholder =>
    intro name hname hpath
    obtain ⟨hid, hmethod⟩ := parameter_reads hname
    refine ⟨hmethod hpath, ?_, ?_⟩
    · rw [hid, idParameter, hpath]
      rfl
    · rw [params_mem_declared_iff, not_not]
      exact hpath
  case body => exact body_mem_declared_iff

/-- The routes and the handlers of a group are generated: one declaration and one stub for each of
its endpoints, in the same order. -/
structure GroupWritten (l : Layout) (api : Api) (g : Group) : Prop where
  routes : .ok ⟨l.routesPath g.tag,
    (routesHeader g.tag ++ String.join (g.endpoints.map routeText)).toUTF8⟩ ∈ steps l api
  handlers : .ok ⟨l.handlersPath g.tag,
    (handlersHeader l g.tag ++ "import type \x7b\n" ++
      String.join (g.endpoints.map routeTypeText) ++ "\x7d from \"./" ++
      Layout.routesModule g.tag ++ "\";\n" ++
      String.join (g.endpoints.map (stubText (tagBinding g.tag)))).toUTF8⟩ ∈ steps l api

theorem groupWritten (hapi : api.WellFormed) (hcheck : checkApi api = .ok ()) (l : Layout)
    {g : Group} (hg : g ∈ groups api.endpoints) : GroupWritten l api g := by
  have hmem {f : OutputFile} (hf : f ∈ groupFiles l g) : .ok f ∈ steps l api := by
    rw [steps_of_checked hapi hcheck]
    exact List.mem_map_of_mem
      (List.mem_cons_of_mem _ (List.mem_append_left _ (List.mem_flatMap.mpr ⟨g, hg, hf⟩)))
  have hroutes := @hmem ⟨l.routesPath g.tag, (routesText g).toUTF8⟩ (by simp [groupFiles])
  have hhandlers := @hmem ⟨l.handlersPath g.tag, (handlersText l g).toUTF8⟩ (by simp [groupFiles])
  exact ⟨hroutes, hhandlers⟩

/-- What the handlers of a generated API read is declared by its routes, as far as the operations
declare it. The handlers of a group have one stub for each of its endpoints, and the routes have one
declaration for each, in the same order. As long as the names that a stub takes over hold no point,
it uses the request for what it reads at its beginning, and for nothing else. If an endpoint has
path parameters, its stub reads none but the first, and its route declares them; if it has none,
only stubs that change an item read one, by the name `id`, which is not declared then. Stubs that
store something read a body, and it is declared if the operation has one. -/
theorem stubs_read_what_routes_declare {document : Tree} (hdocument : document.WellFormed)
    (hapi : Api.ofTree document = .ok api) (hcheck : checkApi api = .ok ()) (l : Layout) :
    ∀ g ∈ groups api.endpoints, GroupWritten l api g ∧
      ∀ e ∈ g.endpoints, ReadsDeclared (tagBinding g.tag) e := fun g hg =>
  ⟨groupWritten (wellFormed_ofTree hdocument hapi) hcheck l hg,
    fun e _ => readsDeclared (point_notMem_tagBinding g.tag) e⟩

/-- A document whose operation has all that its stub reads. -/
def patchedPets : Tree :=
  .object
    [("info", .object []),
     ("paths", .object
       [("/pets/\x7bid\x7d", .object
          [("parameters", .list [.object [("name", .text "id"), ("in", .text "path")]]),
           ("patch", .object
             [("operationId", .text "updatePet"), ("tags", .list [.text "Pets"]),
              ("requestBody", .object [])])])])]

theorem patchedPets_declared : patchedPets.WellFormed ∧
    ∃ api, Api.ofTree patchedPets = .ok api ∧ checkApi api = .ok () ∧
      ∃ e, groups api.endpoints = [⟨"Pets", [e]⟩] ∧ ReadsDeclared (tagBinding "Pets") e ∧
        reads e = ⟨some "id", some "updates"⟩ ∧ declared e = ["params", "body"] ∧
        requestUses (stubText (tagBinding "Pets") e).toList =
          [".valid(\"param\"", ".valid(\"json\""] := by
  have hdocument : patchedPets.WellFormed := by
    simp [patchedPets, Tree.wellFormed_object_iff, Tree.wellFormed_list_iff, Tree.WellFormed.text]
  let update : Endpoint := ⟨"/pets/\x7bid\x7d", .patch, "updatePet", ["Pets"],
    [⟨"id", .path, true, none⟩], some ⟨false, []⟩, []⟩
  have hgroup := stubs_read_what_routes_declare hdocument rfl rfl defaultLayout
    ⟨"Pets", [update]⟩ (List.mem_singleton_self _)
  have hdeclared := hgroup.2 update (List.mem_singleton_self _)
  exact ⟨hdocument, _, rfl, rfl, update, rfl, hdeclared, rfl, rfl, hdeclared.uses (by decide)⟩

/-- A document whose operations declare nothing that their stubs read. -/
def barePets : Tree :=
  .object
    [("info", .object []),
     ("paths", .object
       [("/pets", .object
          [("post", .object [("operationId", .text "createPet"), ("tags", .list [.text "Pets"])]),
           ("delete", .object
             [("operationId", .text "deletePets"), ("tags", .list [.text "Pets"])])])])]

/-- The stubs read a body and a parameter, and the requests of the routes are left out. -/
theorem barePets_reads_undeclared :
    ∃ api create delete, Api.ofTree barePets = .ok api ∧ checkApi api = .ok () ∧
      groups api.endpoints = [⟨"Pets", [create, delete]⟩] ∧
      stubBody "pets" create =
        "  const body = c.req.valid(\"json\");\n" ++ stubWork "pets" create ∧
      requestText create = "" ∧
      stubBody "pets" delete =
        "  const \x7b id \x7d = c.req.valid(\"param\");\n" ++ stubWork "pets" delete ∧
      requestText delete = "" := by
  refine ⟨_, ⟨"/pets", .post, "createPet", ["Pets"], [], none, []⟩,
    ⟨"/pets", .delete, "deletePets", ["Pets"], [], none, []⟩, rfl, rfl, rfl, ?_, rfl, ?_, rfl⟩
  · rw [stubBody_eq]
    rfl
  · rw [stubBody_eq]
    rfl

end ApiSkeleton.Emit
