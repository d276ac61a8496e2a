import ApiSkeleton.Failure
import ApiSkeleton.Template.Value

namespace ApiSkeleton.Template

/-- What renders templates that are given as texts. A template has a name, by which an engine may
    tell what is wrong with it. -/
class Engine where
  render : (name source : String) → Value → Except Fault String

/-- The text of a template that is given as a text; a failure names it. -/
def renderText [Engine] (name source : String) (context : Value) : Except Failure String :=
  match Engine.render name source context with
  | .ok s => .ok s
  | .error fault => .error (.render name fault)

end ApiSkeleton.Template
