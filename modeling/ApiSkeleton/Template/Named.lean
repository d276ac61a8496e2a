import ApiSkeleton.Template.Engine
import ApiSkeleton.Template.Reader
import ApiSkeleton.Template.Render

namespace ApiSkeleton.Template

/-- The engine of this library. It reads the part of the language that `Reader` describes, with the
    filters and functions of `Helper`; a template that uses more of it is refused. -/
instance : Engine where
  render _ source context :=
    match ofText? source with
    | none => .error .malformed
    | some template => render template context

end ApiSkeleton.Template
