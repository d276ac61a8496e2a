import ApiSkeleton.Template.Statement
import ApiSkeleton.Tree.Format

namespace ApiSkeleton

/-- What the file system refuses. -/
inductive SystemFault where
  | notFound
  | notADirectory
  | isADirectory
  | exists
  | nameTooLong
  /-- A name that holds the character that ends names. -/
  | nulInName
deriving DecidableEq, Inhabited

/-- Why a file cannot be read or written. -/
inductive IoFault where
  | system (fault : SystemFault)
  | notText
  | outsideRoot
  | noTemplateDirectory
  | diskFull
deriving DecidableEq, Inhabited

/-- Why a text is no document. -/
inductive DecodeFault where
  | malformed
  /-- A key that cannot become a text, shown in full. -/
  | mappingKey (shown : String)
  | nonFinite (x : Binary64)
deriving DecidableEq, Inhabited

/-- What is wrong with a place in a document. -/
inductive DocumentFault where
  | rootNotMapping
  | missingInfo
  | notMapping
  | pathItemNotMapping
  | operationNotMapping
  | tagsNotList
  | tagNotText
  | parametersNotList
  | parameterNotMapping
  | parameterWithoutName
  | parameterWithoutLocation
  | unknownLocation (location : String)
  | bodyNotMapping
  | mediaTypesNotMapping
  | responsesNotMapping
  | responseNotMapping
  /-- Two tags whose files would have one name. -/
  | tagClash (first second binding : String)
deriving DecidableEq, Inhabited

/-- Why a configuration cannot be used. -/
inductive ConfigFault where
  | malformed
  | unreadable (fault : IoFault)
  | notFound
  | extension (value : String)
  | directory (key value : String)
deriving DecidableEq, Inhabited

/-- Why a run ends early. -/
inductive Failure where
  | unsupportedReference (reference location : String)
  | targetExists (path : Path)
  | specNotFound (path : Path)
  | invalidAppName (name : String)
  | noEndpoints
  | decode (path : Path) (format : Format) (fault : DecodeFault)
  | invalidDocument (location : String) (fault : DocumentFault)
  | render (template : String) (fault : Template.Fault)
  | config (path : Path) (fault : ConfigFault)
  | io (path : Path) (fault : IoFault)
deriving Inhabited

def SystemFault.message : SystemFault → String
  | .notFound => "No such file or directory (os error 2)"
  | .exists => "File exists (os error 17)"
  | .notADirectory => "Not a directory (os error 20)"
  | .isADirectory => "Is a directory (os error 21)"
  | .nameTooLong => "File name too long (os error 36)"
  | .nulInName => "file name contained an unexpected NUL byte"

def Template.Fault.message : Template.Fault → String
  | .malformed => "the template cannot be read"
  | .unknownFilter name => "unknown filter '" ++ name ++ "'"
  | .unknownFunction name => "unknown function '" ++ name ++ "'"
  | .notCallable => "the value cannot be called"
  | .wrongArguments => "wrong arguments"
  | .undefinedPart => "an undefined value has no parts"
  | .notIterable => "the value cannot be looped over"
  | .cannotUnpack => "the value cannot be unpacked"
  | .invalidOperation => "the operation is not defined for these values"
  | .notRepresentable => "the value is not representable in a document"
  | .other message => message

/-- How faults are told whose words a caller may want to choose. -/
structure Wording where
  malformedDocument : String
  malformedConfig : String
  unreadableConfig : IoFault → String
  template : Template.Fault → String
  system : SystemFault → String
  logDirective : String

def IoFault.message (system : SystemFault → String) : IoFault → String
  | .system fault => system fault
  | .notText => "stream did not contain valid UTF-8"
  | .outsideRoot => "output path must stay inside the application directory"
  | .noTemplateDirectory => "template directory not found"
  | .diskFull => "disk full"

/-- The words of this library. -/
def Wording.plain : Wording where
  malformedDocument := "the text is malformed"
  malformedConfig := "TOML parse error"
  unreadableConfig := IoFault.message SystemFault.message
  template := Template.Fault.message
  system := SystemFault.message
  logDirective := "invalid filter directive"

def DecodeFault.message (w : Wording) : DecodeFault → String
  | .malformed => w.malformedDocument
  | .mappingKey shown => "unsupported mapping key " ++ shown
  | .nonFinite x =>
    "non-finite number " ++ Decimal.plainStyle.render x ++ " cannot be represented"

def DocumentFault.message : DocumentFault → String
  | .rootNotMapping => "document root must be a mapping"
  | .missingInfo => "missing info block"
  | .notMapping => "expected a mapping"
  | .pathItemNotMapping => "path item must be a mapping"
  | .operationNotMapping => "operation must be a mapping"
  | .tagsNotList => "expected a list of strings"
  | .tagNotText => "tag must be a string"
  | .parametersNotList => "expected a list of parameters"
  | .parameterNotMapping => "parameter must be a mapping"
  | .parameterWithoutName => "parameter is missing 'name'"
  | .parameterWithoutLocation => "parameter is missing 'in'"
  | .unknownLocation location => "unknown parameter location '" ++ location ++ "'"
  | .bodyNotMapping => "request body must be a mapping"
  | .mediaTypesNotMapping => "expected a mapping of media types"
  | .responsesNotMapping => "expected a mapping of status codes"
  | .responseNotMapping => "response must be a mapping"
  | .tagClash first second binding =>
    "tags '" ++ first ++ "' and '" ++ second ++ "' both map to the output name '" ++ binding ++ "'"

def ConfigFault.message (w : Wording) : ConfigFault → String
  | .malformed => w.malformedConfig
  | .unreadable fault => w.unreadableConfig fault
  | .notFound => "file not found"
  | .extension value => "output.extension must be a bare extension, got '" ++ value ++ "'"
  | .directory key value =>
    "output." ++ key ++ " must be a relative path inside the app, got '" ++ value ++ "'"

/-- What a failure is told as. -/
def Failure.message (w : Wording) : Failure → String
  | .unsupportedReference reference location =>
    "unsupported reference '" ++ reference ++ "' at " ++ location
      ++ ": inline the definition instead"
  | .targetExists path => "target directory " ++ path.text ++ " already exists"
  | .specNotFound path => "spec file " ++ path.text ++ " does not exist"
  | .invalidAppName name =>
    "invalid app name '" ++ name
      ++ "': use letters, digits, '-' and '_' (must start with a letter or digit)"
  | .noEndpoints => "the spec declares no endpoints to scaffold"
  | .decode path format fault =>
    "failed to decode " ++ path.text ++ " as " ++ format.name ++ ": " ++ fault.message w
  | .invalidDocument location fault =>
    "invalid OpenAPI document at " ++ location ++ ": " ++ fault.message
  | .render template fault => "failed to render template '" ++ template ++ "': " ++ w.template fault
  | .config path fault => "invalid configuration " ++ path.text ++ ": " ++ fault.message w
  | .io path fault => "I/O error on " ++ path.text ++ ": " ++ fault.message w.system

/-- A failure with the cause behind it, where it has one of its own. -/
def Failure.report (w : Wording) (f : Failure) : String :=
  match f with
  | .io _ fault => f.message w ++ ": " ++ fault.message w.system
  | _ => f.message w

end ApiSkeleton
