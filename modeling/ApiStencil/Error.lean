import ApiStencil.Template.Failure

/-!
Why an operation of the library fails, and the text of each failure.
-/

namespace ApiStencil

open Json

/-- What is wrong with a file or directory. -/
inductive FileFault where
  | notFound
  | isDirectory
  | notDirectory
  | alreadyThere
  /-- The content is not the encoding of a text. -/
  | notText
  /-- Any other fault, by its text. -/
  | other (text : String)
deriving DecidableEq, Repr

namespace FileFault

/-- The text of a fault. -/
def message : FileFault → String
  | .notFound => "No such file or directory (os error 2)"
  | .isDirectory => "Is a directory (os error 21)"
  | .notDirectory => "Not a directory (os error 20)"
  | .alreadyThere => "File exists (os error 17)"
  | .notText => "stream did not contain valid UTF-8"
  | .other text => text

end FileFault

/-- What is wrong with data that is well formed. -/
inductive DataFault where
  /-- The shape of the data, at the field of a record if it is not the whole. -/
  | shape (place : Option String) (e : ShapeError)
  /-- A path is no text and cannot be written. -/
  | pathNotText
deriving DecidableEq, Repr

namespace DataFault

/-- The text of a fault. -/
def message : DataFault → String
  | .shape none e => e.message
  | .shape (some place) e => place ++ ": " ++ e.message
  | .pathNotText => "path contains invalid UTF-8 characters"

end DataFault

/-- Why an operation fails. -/
inductive Error where
  | io (fault : FileFault)
  | yaml (fault : DataFault)
  /-- The text is not exactly one YAML document. -/
  | yamlForm
  | json (fault : DataFault)
  /-- The text is no JSON. -/
  | jsonForm
  /-- The environment of a template, such as its accumulators, cannot be used. -/
  | template (text : String)
  | engine (failure : Failure)
  /-- The source of a template is no template. -/
  | templateForm
  | config (text : String)
  | unsupportedStatusCode (code : String)
  | invalidLocation (tag : String)
deriving DecidableEq

namespace Error

/-- The error that the accumulator of a kind cannot be used. -/
def ofPoisoned (p : Scope.Poisoned) : Error := .template (Failure.poisonedText p.kind)

/-- The text of an error; nothing is said about texts that do not parse. -/
def message? : Error → Option String
  | .io fault => some ("I/O error: " ++ fault.message)
  | .yaml fault => some ("YAML parsing error: " ++ fault.message)
  | .json fault => some ("JSON parsing error: " ++ fault.message)
  | .template text => some ("Template error: " ++ text)
  | .engine failure => some ("Template engine error: " ++ failure.message)
  | .config text => some ("Configuration error: " ++ text)
  | .unsupportedStatusCode code => some (Failure.unsupportedText code)
  | .invalidLocation tag => some ("Invalid parameter location: " ++ tag)
  | .yamlForm | .jsonForm | .templateForm => none

end Error

end ApiStencil
