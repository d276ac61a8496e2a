import ApiSkeleton.Path
import ApiSkeleton.Text.Case

namespace ApiSkeleton

inductive Format where
  | json
  | yaml
deriving DecidableEq, Inhabited

namespace Format

def name : Format → String
  | .json => "json"
  | .yaml => "yaml"

/-- The extensions `yaml` and `yml` mean YAML in any case of letters, everything else JSON. -/
def ofPath (path : Path) : Format :=
  match path.extension?.map Text.asciiLowercase with
  | some "yaml" | some "yml" => .yaml
  | _ => .json

end Format

end ApiSkeleton
