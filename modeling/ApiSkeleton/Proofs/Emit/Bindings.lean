import ApiSkeleton.Proofs.App.Imports
import ApiSkeleton.Proofs.Emit.Generation
import ApiSkeleton.Proofs.Text.Identifier

namespace ApiSkeleton

open Text (IsPlainWord IsDeclarable)

/-- The stem of a tag is a word of letters only if the lower-case form of the tag is. -/
private theorem tagStem_eq_iff {tag w : String} (hw : IsPlainWord w.toList) (hne : w ≠ "")
    (hdefault : w ≠ Model.defaultTag) : tagStem tag = w ↔ Text.lowercase tag = w := by
  have hkept : ∀ c ∈ w.toList, (c.isAlphanum || c == '-' || c == '_') = true := fun c hc => by
    simp [Char.isAlphanum, (hw c hc).1]
  have hstem : (Text.lowercase tag).toList.map stemChar = w.toList ↔ Text.lowercase tag = w := by
    rw [← String.toList_inj]
    exact (Text.map_replaced_eq_iff hw.underscore_notMem).trans (and_iff_left hkept)
  unfold tagStem
  cases hempty : ((Text.lowercase tag).toList.map stemChar).isEmpty with
  | true =>
    have hnone : (Text.lowercase tag).toList.map stemChar ≠ w.toList := by
      rw [List.isEmpty_iff.mp hempty]
      exact fun h => hne (by simpa using h.symm)
    simp [hempty, Ne.symm hdefault, ← hstem, hnone]
  | false =>
    rw [← hstem, ← String.toList_inj]
    simp [hempty]

/-- A word that can be declared is the name of the tags that have its letters, in either case. -/
private theorem tagBinding_eq_iff {tag w : String} (hw : IsPlainWord w.toList)
    (hname : IsDeclarable w) :
    tagBinding tag = w ↔ Text.asciiLowercase tag = w := by
  have hne : w ≠ "" := by
    rintro rfl
    exact absurd hname.1 (by decide)
  have hdefault : w ≠ Model.defaultTag := by
    rintro rfl
    exact absurd hname.2 (by decide)
  rw [tagBinding, Text.identifier_eq_iff hw.underscore_notMem, and_iff_left hname,
    tagStem_eq_iff hw hne hdefault, Text.lowercase_eq_iff hw]

/-- The name of a tag has no capitals. -/
private theorem tagBinding_ne_of_isUpper {tag w : String} {c : Char} (hc : c ∈ w.toList)
    (hupper : c.isUpper) : tagBinding tag ≠ w := by
  rintro rfl
  rcases Text.mem_identifier hc with hstem | rfl
  · exact absurd hupper (by simp [(isStemChar_of_mem_tagStem hstem).2.2])
  · exact absurd hupper (by decide)

namespace Emit

open Model

variable {l : Layout} {api : Api} {gs : List Group}

/-- What an import brings into a module. -/
inductive Clause where
  | default (name : String)
  | named (name : String)
  | all (name : String)
  /-- Types leave nothing behind that a value could clash with. -/
  | type (name : String)
  | types (names : List String)

def Clause.text : Clause → String
  | .default name => name
  | .named name => "\x7b " ++ name ++ " \x7d"
  | .all name => "* as " ++ name
  | .type name => "type \x7b " ++ name ++ " \x7d"
  | .types names =>
    "type \x7b\n" ++ String.join (names.map fun name => "  " ++ name ++ ",\n") ++ "\x7d"

/-- The name that a clause gives to a value. -/
def Clause.value? : Clause → Option String
  | .default name | .named name | .all name => some name
  | .type _ | .types _ => none

/-- A part of a module: an import, a constant that it exports, or an empty line. -/
inductive Part where
  | import (clause : Clause) (specifier : String)
  | constant (name definition : String)
  | blank

def Part.text : Part → String
  | .import clause specifier => importLine clause.text specifier
  | .constant name definition => "\nexport const " ++ name ++ definition
  | .blank => "\n"

/-- The value that a part imports. -/
def Part.imported? : Part → Option String
  | .import clause _ => clause.value?
  | .constant .. | .blank => none

/-- The value that a part declares. -/
def Part.value? : Part → Option String
  | .constant name _ => some name
  | .import clause _ => clause.value?
  | .blank => none

/-- A module with its parts. -/
def moduleText (parts : List Part) : String := String.join (parts.map Part.text)

/-- The values that share the scope of a module. -/
def values (parts : List Part) : List String := parts.filterMap Part.value?

def importedValues (parts : List Part) : List String := parts.filterMap Part.imported?

/-- The name of the list of all routers. -/
def routersName : String := "routers"

def routeIndexParts (gs : List Group) : List Part :=
  gs.map (fun g => .import (.default (tagBinding g.tag)) ("./" ++ Layout.routerModule g.tag)) ++
    [.constant routersName
      (" = [\n" ++ String.join (gs.map fun g => "  " ++ tagBinding g.tag ++ ",\n") ++
        "] as const;\n")]

private theorem routeIndexText_eq (gs : List Group) :
    routeIndexText gs = moduleText (routeIndexParts gs) := by
  have himports : gs.map routerImportText = gs.map (Part.text ∘ fun g : Group =>
      .import (.default (tagBinding g.tag)) ("./" ++ Layout.routerModule g.tag)) :=
    List.map_congr_left fun g _ => by
      rw [← String.toList_inj]
      simp [routerImportText, Part.text, importLine, Clause.text]
  have hentries : gs.map routerEntryText = gs.map fun g => "  " ++ tagBinding g.tag ++ ",\n" := rfl
  unfold routeIndexText moduleText routeIndexParts
  rw [List.map_append, List.map_map, ← himports, ← hentries, ← String.toList_inj]
  simp [Part.text, routersName]

private theorem values_routeIndexParts (gs : List Group) :
    values (routeIndexParts gs) = bindings gs ++ [routersName] := by
  simp [values, routeIndexParts, bindings, Part.value?, Clause.value?, Function.comp_def]

/-- The values that handlers import beside their table. -/
def handlersNames : List String := ["eq", "HttpStatusCodes", "HttpStatusPhrases", "db"]

/-- A stub, under its name. -/
def stubPart (table : String) (e : Endpoint) : Part :=
  .constant (Text.camelCase e.operationId)
    (": AppRouteHandler<" ++ Text.pascalCase e.operationId ++ "Route> = async (c) => \x7b\n" ++
      stubBody table e ++ "\x7d;\n")

def handlersParts (l : Layout) (g : Group) : List Part :=
  [.import (.named "eq") "drizzle-orm",
   .import (.all "HttpStatusCodes") "stoker/http-status-codes",
   .import (.all "HttpStatusPhrases") "stoker/http-status-phrases",
   .blank,
   .import (.type "AppRouteHandler") (l.sourceRootImport ++ "lib/types"),
   .import (.default "db") l.dbModule,
   .import (.named (tagBinding g.tag)) (l.dbModule ++ "/schema"),
   .blank,
   .import (.types (g.endpoints.map fun e => Text.pascalCase e.operationId ++ "Route"))
     ("./" ++ Layout.routesModule g.tag)] ++
  g.endpoints.map (stubPart (tagBinding g.tag))

private theorem text_stubPart (table : String) (e : Endpoint) :
    (stubPart table e).text = stubText table e := by
  unfold stubPart stubText
  simp only [Part.text, String.append_assoc]

private theorem handlersText_eq (l : Layout) (g : Group) :
    handlersText l g = moduleText (handlersParts l g) := by
  have hpackages : "import \x7b eq \x7d from \"drizzle-orm\";\n" ++
      "import * as HttpStatusCodes from \"stoker/http-status-codes\";\n" ++
      "import * as HttpStatusPhrases from \"stoker/http-status-phrases\";\n\n" =
      moduleText [.import (.named "eq") "drizzle-orm",
        .import (.all "HttpStatusCodes") "stoker/http-status-codes",
        .import (.all "HttpStatusPhrases") "stoker/http-status-phrases", .blank] := by
    simp [moduleText, Part.text, importLine, Clause.text]
  have htype : (Part.import (.type "AppRouteHandler") (l.sourceRootImport ++ "lib/types")).text =
      "import type \x7b AppRouteHandler \x7d from \"" ++ l.sourceRootImport ++ "lib/types\";\n" := by
    rw [← String.toList_inj]
    simp [Part.text, importLine, Clause.text]
  have hdb : (Part.import (.default "db") l.dbModule).text =
      "import db from \"" ++ l.dbModule ++ "\";\n" := by
    simp [Part.text, importLine, Clause.text]
  have htable : (Part.import (.named (tagBinding g.tag)) (l.dbModule ++ "/schema")).text =
      "import \x7b " ++ tagBinding g.tag ++ " \x7d from \"" ++ l.dbModule ++ "/schema\";\n" := by
    rw [← String.toList_inj]
    simp [Part.text, importLine, Clause.text]
  have htypes : (Part.import (.types (g.endpoints.map fun e => Text.pascalCase e.operationId ++ "Route"))
      ("./" ++ Layout.routesModule g.tag)).text =
      "import type \x7b\n" ++ String.join (g.endpoints.map routeTypeText) ++ "\x7d from \"./" ++
        Layout.routesModule g.tag ++ "\";\n" := by
    have hlines : g.endpoints.map routeTypeText =
        g.endpoints.map fun e => "  " ++ (Text.pascalCase e.operationId ++ "Route") ++ ",\n" :=
      List.map_congr_left fun e _ => by
        rw [← String.toList_inj]
        simp [routeTypeText]
    rw [hlines, ← String.toList_inj]
    simp [Part.text, importLine, Clause.text, Function.comp_def]
  have hstubs : g.endpoints.map (stubText (tagBinding g.tag)) =
      (g.endpoints.map (stubPart (tagBinding g.tag))).map Part.text := by
    rw [List.map_map]
    exact List.map_congr_left fun e _ => (text_stubPart (tagBinding g.tag) e).symm
  have hblank : "/schema\";\n\n" = "/schema\";\n" ++ Part.blank.text := by simp [Part.text]
  unfold handlersText handlersHeader handlersParts
  rw [hpackages, hblank, hstubs]
  simp only [moduleText, List.cons_append, List.nil_append, List.map_cons, List.map_nil,
    String.join_cons, String.join_nil, String.append_assoc, String.append_empty, htype, hdb, htable,
    htypes]

private theorem importedValues_handlersParts (l : Layout) (g : Group) :
    importedValues (handlersParts l g) = handlersNames ++ [tagBinding g.tag] := by
  simp [importedValues, handlersParts, handlersNames, List.filterMap_cons, Part.imported?,
    Clause.value?, stubPart, Function.comp_def]

/-- What is in scope in the list of the routers, and when a name is in it twice. -/
structure RouteIndexScope (gs : List Group) : Prop where
  render : ModuleKind.routeIndex.render (routeIndexContext gs) =
    .ok (moduleText (routeIndexParts gs))
  values : values (routeIndexParts gs) = bindings gs ++ ["routers"]
  distinct : (Emit.values (routeIndexParts gs)).Nodup ↔
    ∀ g ∈ gs, Text.asciiLowercase g.tag ≠ "routers"

/-- What is imported in the handlers of a group, and when the table has the name of something else. -/
structure HandlersScope (l : Layout) (g : Group) : Prop where
  render : ModuleKind.handlers.render (handlersContext l g) = .ok (moduleText (handlersParts l g))
  imported : importedValues (handlersParts l g) = handlersNames ++ [tagBinding g.tag]
  distinct : tagBinding g.tag ∉ handlersNames ↔ Text.asciiLowercase g.tag ∉ ["eq", "db"]

theorem tagBinding_ne_iff {tag w : String} (hw : IsPlainWord w.toList) (hname : IsDeclarable w) :
    tagBinding tag ≠ w ↔ Text.asciiLowercase tag ≠ w := not_congr (tagBinding_eq_iff hw hname)

theorem routeIndexScope (hdistinct : (bindings gs).Nodup) : RouteIndexScope gs := by
  have hrouters : routersName ∉ bindings gs ↔ ∀ g ∈ gs, Text.asciiLowercase g.tag ≠ "routers" := by
    simp only [bindings, List.mem_map, not_exists, not_and]
    exact forall₂_congr fun g _ => tagBinding_ne_iff (by decide) (by decide)
  constructor
  case render => rw [render_routeIndex, routeIndexText_eq]
  case values => exact values_routeIndexParts gs
  case distinct =>
    rw [values_routeIndexParts, List.nodup_append_comm, List.singleton_append, List.nodup_cons,
      and_iff_left hdistinct, hrouters]

theorem handlersScope (l : Layout) (g : Group) : HandlersScope l g := by
  constructor
  case render => rw [render_handlers, handlersText_eq]
  case imported => exact importedValues_handlersParts l g
  case distinct =>
    -- The names of packages have capitals, which no tag can supply.
    have hcodes : tagBinding g.tag ≠ "HttpStatusCodes" :=
      tagBinding_ne_of_isUpper (c := 'H') (by simp) (by decide)
    have hphrases : tagBinding g.tag ≠ "HttpStatusPhrases" :=
      tagBinding_ne_of_isUpper (c := 'H') (by simp) (by decide)
    have heq := @tagBinding_ne_iff g.tag "eq" (by decide) (by decide)
    have hdb := @tagBinding_ne_iff g.tag "db" (by decide) (by decide)
    simp only [handlersNames, List.mem_cons, List.not_mem_nil, or_false, not_or, hcodes, hphrases,
      not_false_iff, true_and]
    exact and_congr heq hdb

/-- Where the check of the tags has passed, the names in the list of the routers are distinct unless
a tag reads `routers`, and the table that handlers import has a name of its own unless the tag reads
`eq` or `db`, in capitals or not. No other tag has a name that a template fixes. -/
theorem checked_names_distinct_iff (hcheck : checkBindings [] (groups api.endpoints) = .ok ()) :
    RouteIndexScope (groups api.endpoints) ∧
      ∀ l, ∀ g ∈ groups api.endpoints, HandlersScope l g :=
  ⟨routeIndexScope (checkBindings_eq_ok_iff.mp hcheck).1, fun l g _ => handlersScope l g⟩

/-- A document with two operations, each under a tag of its own. -/
def twoTags (first second : String) : Tree :=
  .object
    [("info", .object []),
     ("paths", .object
       [("/first", .object
          [("get", .object [("operationId", .text "first"), ("tags", .list [.text first])])]),
        ("/second", .object
          [("get", .object [("operationId", .text "second"), ("tags", .list [.text second])])])])]

theorem twoTags_apart : ∃ api, Api.ofTree (twoTags "Pets" "Delete") = .ok api ∧
    checkBindings [] (groups api.endpoints) = .ok () ∧
    bindings (groups api.endpoints) = ["pets", "delete_"] ∧
    (values (routeIndexParts (groups api.endpoints))).Nodup ∧
    ∀ g ∈ groups api.endpoints, tagBinding g.tag ∉ handlersNames := by
  let api : Api :=
    ⟨[⟨"/first", .get, "first", ["Pets"], [], none, []⟩,
      ⟨"/second", .get, "second", ["Delete"], [], none, []⟩], [], ⟨"", "", none⟩⟩
  obtain ⟨hindex, hhandlers⟩ := @checked_names_distinct_iff api rfl
  exact ⟨api, rfl, rfl, rfl, hindex.distinct.mpr (by decide), fun g hg =>
    (hhandlers defaultLayout g hg).distinct.mpr (by revert g; decide)⟩

/-- Tags that pass every check, the first of which has the name of the list, and the second that of
the database. -/
theorem twoTags_clash : ∃ api, Api.ofTree (twoTags "Routers" "DB") = .ok api ∧
    checkApi api = .ok () ∧ checkBindings [] (groups api.endpoints) = .ok () ∧
    (groups api.endpoints).map (·.tag) = ["Routers", "DB"] ∧
    ¬ (values (routeIndexParts (groups api.endpoints))).Nodup ∧
    ∃ g ∈ groups api.endpoints, tagBinding g.tag ∈ handlersNames :=
  ⟨_, rfl, rfl, rfl, rfl, by decide, by decide⟩

end Emit

end ApiSkeleton
