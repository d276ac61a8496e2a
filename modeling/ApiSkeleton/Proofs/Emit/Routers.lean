import ApiSkeleton.Emit.Modules
import ApiSkeleton.Proofs.Emit.Text
import ApiSkeleton.Proofs.Template.Run

namespace ApiSkeleton.Emit

open Template Model

/-- The router of a group can always be rendered. -/
theorem render_router (l : Layout) (g : Group) :
    ModuleKind.router.render (routerContext l g) = .ok (routerText l g) := by
  let s := Scope.ofContext (routerContext l g)
  have hroot : s.find? "src_root" = some (.text l.sourceRootImport) :=
    Scope.find?_ofContext rfl (by simp)
  have hhandlers : s.find? "handlers_module" = some (.text (Layout.handlersModule g.tag)) :=
    Scope.find?_ofContext rfl (by simp)
  have hroutes : s.find? "routes_module" = some (.text (Layout.routesModule g.tag)) :=
    Scope.find?_ofContext rfl (by simp)
  have hendpoints : s.find? "endpoints" = some (endpointValues g) :=
    Scope.find?_ofContext rfl (by simp [endpointValues])
  have hitems : (Expr.name "endpoints").eval s = .ok (.list (g.endpoints.map endpointValue)) := by
    simp [hendpoints, endpointValues]
  have hloop : (Statement.each (.name "ep") (.name "endpoints")
      [.text "  .openapi(routes.", .print (.via (.of "ep" "operation_id") "camel_case"),
        .text ", handlers.", .print (.via (.of "ep" "operation_id") "camel_case"), .text ")",
        .when (.of "loop" "last") [.text ";"], .text "\n"]).run s =
      .ok (String.join (g.endpoints.mapIdx (joinText g.endpoints.length)), s) := by
    refine run_each_lines ["ep"] g.endpoints endpointValue (joinText g.endpoints.length) hitems
      (by simp) (by simp) ?_
    intro i e t before after _ ht hep hloop
    refine ⟨t, ?_, ht⟩
    unfold joinText
    simp [hep, hloop, endpointValue, loopValue, findMember?, String.append_assoc]
  have hrun : runAll routerTemplate s = .ok (routerText l g, s) := by
    unfold routerText routerImports
    simp [routerTemplate, hroot, hhandlers, hroutes, hloop, String.append_assoc]
  simp [ModuleKind.render, ModuleKind.template, render, s, hrun]

/-- The list of the routers of all groups can always be rendered. -/
theorem render_routeIndex (gs : List Group) :
    ModuleKind.routeIndex.render (routeIndexContext gs) = .ok (routeIndexText gs) := by
  let value (g : Group) : Value := .ofFields [("binding", .text (tagBinding g.tag)),
    ("module", .text (Layout.routerModule g.tag))]
  let s := Scope.ofContext (routeIndexContext gs)
  have hgroups : s.find? "groups" = some (.list (gs.map value)) :=
    Scope.find?_ofContext rfl (by simp)
  have hitems : (Expr.name "groups").eval s = .ok (.list (gs.map value)) := by simp [hgroups]
  have himports : (Statement.each (.name "group") (.name "groups")
      [.text "import ", .print (.of "group" "binding"), .text " from \"./",
        .print (.of "group" "module"), .text "\";\n"]).run s =
      .ok (String.join (gs.map routerImportText), s) := by
    refine run_each ["group"] gs value routerImportText hitems (by simp) (by simp) ?_
    intro g _ t ht hgroup
    exact ⟨t, by simp [hgroup, value, findMember?, routerImportText, String.append_assoc], ht⟩
  have hentries : (Statement.each (.name "group") (.name "groups")
      [.text "  ", .print (.of "group" "binding"), .text ",\n"]).run s =
      .ok (String.join (gs.map routerEntryText), s) := by
    refine run_each ["group"] gs value routerEntryText hitems (by simp) (by simp) ?_
    intro g _ t ht hgroup
    exact ⟨t, by simp [hgroup, value, findMember?, routerEntryText, String.append_assoc], ht⟩
  have hrun : runAll routeIndexTemplate s = .ok (routeIndexText gs, s) := by
    unfold routeIndexText
    simp [routeIndexTemplate, himports, hentries, String.append_assoc]
  simp [ModuleKind.render, ModuleKind.template, render, s, hrun]

end ApiSkeleton.Emit
