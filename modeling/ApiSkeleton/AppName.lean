import ApiSkeleton.Failure

namespace ApiSkeleton

/-- Whether the characters are letters, digits, hyphens and underscores, the first one a letter or a
    digit. -/
def isAppName : List Char → Bool
  | [] => false
  | c :: rest => c.isAlphanum && rest.all fun d => d.isAlphanum || d == '_' || d == '-'

/-- Refuses what is no name of an application. -/
def checkAppName (name : String) : Except Failure Unit :=
  if isAppName name.toList then .ok () else .error (.invalidAppName name)

end ApiSkeleton
