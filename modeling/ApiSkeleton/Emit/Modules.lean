import ApiSkeleton.Emit.Context
import ApiSkeleton.Emit.Templates
import ApiSkeleton.Output
import ApiSkeleton.Template.Render

namespace ApiSkeleton.Emit

open Template (Value)
open Model

/-- The text of a module. -/
def ModuleKind.render (kind : ModuleKind) (context : Value) : Except Failure String :=
  match Template.render kind.template context with
  | .ok s => .ok s
  | .error fault => .error (.render kind.name fault)

/-- Refuses groups whose modules would have one name. `seen` holds the names before, each with its
    tag. -/
def checkBindings (seen : List (String × String)) : List Group → Except Failure Unit
  | [] => .ok ()
  | g :: rest =>
    let binding := tagBinding g.tag
    match findMember? seen binding with
    | some first => .error (.invalidDocument "tags" (.tagClash first g.tag binding))
    | none => checkBindings ((binding, g.tag) :: seen) rest

/-- Refuses an API without endpoints, or with tags that clash. -/
def checkApi (api : Api) : Except Failure Unit :=
  if api.endpoints.isEmpty then .error .noEndpoints else checkBindings [] (groups api.endpoints)

/-- The modules of a group. -/
def groupSteps (l : Layout) (g : Group) : List Step :=
  [Step.ofText (l.routesPath g.tag) (ModuleKind.routes.render (routesContext g)),
   Step.ofText (l.handlersPath g.tag) (ModuleKind.handlers.render (handlersContext l g)),
   Step.ofText (l.routerPath g.tag) (ModuleKind.router.render (routerContext l g))]

/-- The modules of an API that has passed the checks: the storage schema, then for every group its
    routes, handlers and router, and the list of all routers at the end. -/
def moduleSteps (l : Layout) (api : Api) : List Step :=
  let gs := groups api.endpoints
  Step.ofText l.schemaPath (ModuleKind.schema.render (schemaContext api))
    :: gs.flatMap (groupSteps l)
    ++ [Step.ofText l.routeIndexPath (ModuleKind.routeIndex.render (routeIndexContext gs))]

/-- Everything that is generated for an API, or the one step that fails at once. -/
def steps (l : Layout) (api : Api) : List Step :=
  match checkApi api with
  | .error f => [.error f]
  | .ok () => moduleSteps l api

/-- Generates the modules of an API. -/
def generate {σ : Type} (sink : Sink σ) (l : Layout) (api : Api) (s : σ) :
    σ × Except Failure (List Path) :=
  sink.run s (steps l api)

end ApiSkeleton.Emit
