import ApiStencil.Accumulator.Scope
import ApiStencil.Json.Shape

/-!
Why a render fails.  A failure has a text of its own and may have a cause, which is a failure again
or a fault of the data that a filter was given.
-/

namespace ApiStencil

open Json

/-- What a filter expects of the value or argument that it is given. -/
inductive Expectation where
  | array
  | textOrTexts
  | texts
  | textKeys
  | namedRecords
  | textArgument (argument : String)
  | response
deriving DecidableEq, Repr

namespace Expectation

/-- An expectation in words. -/
def text : Expectation → String
  | .array => "an array"
  | .textOrTexts => "a string or an array of strings"
  | .texts => "strings"
  | .textKeys => "string keys"
  | .namedRecords => "objects with a string `name`"
  | .textArgument argument => s!"a string `{argument}`"
  | .response => "\x7bstatusCode, payloadType\x7d"

end Expectation

/-- Why a render fails. -/
inductive Failure where
  /-- The context is not an object. -/
  | contextNotObject
  | templateNotFound (name : String)
  /-- Rendering a template fails. -/
  | rendering (template : String) (cause : Failure)
  | variableNotFound (path template : String)
  /-- A path with brackets leads nowhere; the second text is the path with its brackets resolved. -/
  | indexNotFound (path resolved template : String)
  /-- A name in brackets has no value. -/
  | indexUnknown (path : String) (cause : Failure)
  /-- A name in brackets is neither a string nor a number. -/
  | indexNotScalar (index path : String)
  | filterNotFound (name : String)
  | functionNotFound (name : String)
  | filterCall (name : String) (cause : Failure)
  | functionCall (name : String) (cause : Failure)
  /-- A loop runs over what is neither a variable nor a call nor an array. -/
  | notContainer (shown : String)
  /-- A value of a type that has no items. -/
  | notIterable (container : String)
  /-- A list or string where the loop wants keys. -/
  | noKeys (container : String)
  /-- An object where the loop wants no keys. -/
  | keyMissing (container : String)
  | includeNotFound (name : String)
  | includesTooDeep
  /-- A joined operand is neither a string nor a number. -/
  | notJoinable (operand : String)
  | notBoolean (function : String)
  | defaultWithoutValue
  /-- A built-in filter is given a value of another type. -/
  | wrongValue (filter shown expected : String)
  /-- A built-in filter is given an argument of another type. -/
  | wrongArgument (filter argument shown expected : String)
  | noLength
  /-- A filter is given a value or an argument of the wrong shape. -/
  | expects (filter : String) (what : Expectation)
  /-- A filter is given a value that does not decode. -/
  | undecodable (filter : String) (what : Expectation) (cause : DecodeError)
  | argumentMissing (filter argument : String)
  /-- A response has no wrapper and none is made up for it. -/
  | unsupportedStatus (filter code : String)
  /-- The accumulator of an entry cannot be used. -/
  | accumulatorPoisoned (entry : String) (kind : FlagKind)
  /-- A failure that is only known by its text. -/
  | other (text : String)
deriving DecidableEq, Repr

namespace Failure

/-- The text for the lock of an accumulator that is spoilt. -/
def poisonedText (kind : FlagKind) : String := s!"{kind.text} accumulator lock poisoned"

/-- The text for a status code without a wrapper. -/
def unsupportedText (code : String) : String := s!"Unsupported response status code: {code}"

/-- The text of a failure, without those of its causes. -/
def message : Failure → String
  | .contextNotObject =>
    "Creating a Context from a Value/Serialize requires it being a JSON object"
  | .templateNotFound name => s!"Template '{name}' not found"
  | .rendering template _ => s!"Failed to render '{template}'"
  | .variableNotFound path template =>
    s!"Variable `{path}` not found in context while rendering '{template}'"
  | .indexNotFound path resolved template =>
    s!"Variable `{path}` not found in context while rendering '{template}': "
      ++ s!"the evaluated version was `{resolved}`. Maybe the index is out of bounds?"
  | .indexUnknown path cause => s!"Variable {path} can not be evaluated because: " ++ cause.message
  | .indexNotScalar index path =>
    s!"Only variables evaluating to String or Number can be used as index (`{index}` of `{path}`)"
  | .filterNotFound name => s!"Filter '{name}' not found"
  | .functionNotFound name => s!"Function '{name}' not found"
  | .filterCall name _ => s!"Filter call '{name}' failed"
  | .functionCall name _ => s!"Function call '{name}' failed"
  | .notContainer shown =>
    "Forloop containers have to be an ident or a function call "
      ++ s!"(tried to iterate on '{shown}')"
  | .notIterable container =>
    s!"Tried to iterate on a container (`{container}`) that has a unsupported type"
  | .noKeys container =>
    s!"Tried to iterate using key value on variable `{container}`, "
      ++ "but it isn't an object/map"
  | .keyMissing container =>
    s!"Tried to iterate using key value on variable `{container}`, but it is missing a key"
  | .includeNotFound name => s!"Template '[{name}]' not found"
  | .includesTooDeep => "Includes are nested too deeply"
  | .notJoinable operand =>
    s!"Tried to concat a value that is not a string or a number from {operand}"
  | .notBoolean function =>
    s!"Function `{function}` was used in a logic expression but is not returning a boolean"
  | .defaultWithoutValue => "The `default` filter requires a `value` argument."
  | .wrongValue filter shown expected =>
    s!"Filter `{filter}` was called on an incorrect value: got `{shown}` but expected a {expected}"
  | .wrongArgument filter argument shown expected =>
    s!"Filter `{filter}` received an incorrect type for arg `{argument}`: "
      ++ s!"got `{shown}` but expected a {expected}"
  | .noLength =>
    "Filter `length` was used on a value that isn't an array, an object, or a string."
  | .expects filter what => s!"{filter} filter expects {what.text}"
  | .undecodable filter what _ => s!"{filter} filter expects {what.text}"
  | .argumentMissing filter argument => s!"{filter} filter requires a `{argument}` argument"
  | .unsupportedStatus filter _ => s!"{filter} filter failed"
  | .accumulatorPoisoned entry _ => s!"{entry} failed"
  | .other text => text

/-- The texts of the causes of a failure, the nearest first. -/
def causes : Failure → List String
  | .rendering _ cause => cause.message :: cause.causes
  | .filterCall _ cause => cause.message :: cause.causes
  | .functionCall _ cause => cause.message :: cause.causes
  | .undecodable _ _ (.shape e) => [e.message]
  | .unsupportedStatus _ code => [unsupportedText code]
  | .accumulatorPoisoned _ kind => ["Template error: " ++ poisonedText kind]
  | _ => []

end Failure

end ApiStencil
