import ApiStencil.Api.Identifiers
import ApiStencil.Api.Parameter
import ApiStencil.Api.Response
import ApiStencil.Json.Lookup
import ApiStencil.Template.Tools

/-!
Filters on the records of an API description.  They keep nothing between calls.  Absent input gives
an empty or absent result; input of another shape is a failure that says what the filter expects.
-/

namespace ApiStencil.Filters

open Json

/-! ### Values and arguments -/

/-- The items of an array; null is an absent array. -/
def optionalArray (filter : String) : Value → Except Failure (Option (List Value))
  | .null => .ok none
  | .arr items => .ok (some items)
  | _ => .error (.expects filter .array)

/-- An argument that has to be there. -/
def requiredArgument (filter argument : String) (args : Arguments) : Except Failure Value :=
  match args.lookup argument with
  | some v => .ok v
  | none => .error (.argumentMissing filter argument)

/-- An argument that has to be a string. -/
def textArgument (filter argument : String) (args : Arguments) : Except Failure String := do
  match ← requiredArgument filter argument args with
  | .str s => .ok s
  | _ => .error (.expects filter (.textArgument argument))

/-- The identifiers that a string or an array of strings gives; null gives none. -/
def identifiersOf (filter : String) (v : Value) : Except Failure (Option Identifiers) :=
  match v with
  | .null => .ok none
  | .str _ | .arr _ =>
    match decodeValue Identifiers.decode v with
    | .ok identifiers => .ok (some identifiers)
    | .error e => .error (.undecodable filter .texts e)
  | _ => .error (.expects filter .textOrTexts)

/-! ### The filters -/

/-- The name of the filter that makes a destructured argument. -/
def toFnArgsName : String := "toFnArgs"

/-- The name of the filter that keeps the parameters at a location. -/
def paramInName : String := "paramIn"

/-- The name of the filter that keeps the parameters at other locations. -/
def paramNotInName : String := "paramNotIn"

/-- The name of the filter that takes optionality markers off. -/
def stripQuestionMarkName : String := "stripQuestionMark"

/-- The name of the filter that keeps optionality markers only. -/
def setOptionalSymbolName : String := "setOptionalSymbol"

/-- The name of the filter that finds a record by a field. -/
def parameterEqualName : String := "parameterEqual"

/-- The name of the filter that gives the wrapper type of a response. -/
def responseTypeName : String := "openapiResponseToTSCommonsResponse"

/-- The name of a record. -/
def nameOf (record : Value) : Except Failure String :=
  match record.get? "name" with
  | some (.str s) => .ok s
  | _ => .error (.expects toFnArgsName .namedRecords)

/-- The destructured argument for the names of records. -/
def toFnArgs : Filter := Filter.ofPure fun v _ => do
  match ← optionalArray toFnArgsName v with
  | none => .ok (.str (Parameter.arguments none))
  | some records => do
    let names ← records.mapM nameOf
    .ok (.str (Parameter.arguments (some names)))

/-- The records at the location that the argument names; no record is at an unknown location. -/
def paramIn : Filter := Filter.ofPure fun v args => do
  let records ← optionalArray paramInName v
  let tag ← textArgument paramInName "location" args
  match Location.ofTag? tag with
  | none => .ok (.arr [])
  | some location => .ok (.arr (Parameter.atLocation Location.ofRecord? location records))

/-- The records that are not at the location that the argument names. -/
def paramNotIn : Filter := Filter.ofPure fun v args => do
  let records ← optionalArray paramNotInName v
  let tag ← textArgument paramNotInName "location" args
  match Location.ofTag? tag with
  | none => .ok (.arr (records.getD []))
  | some location => .ok (.arr (Parameter.notAtLocation Location.ofRecord? location records))

/-- Identifiers as the result of a filter. -/
def identifiersValue (identifiers : Option Identifiers) : Value :=
  match identifiers with
  | some identifiers => identifiers.toJson
  | none => .null

/-- Identifiers without their optionality markers. -/
def stripQuestionMark : Filter := Filter.ofPure fun v _ => do
  let subject ← identifiersOf stripQuestionMarkName v
  .ok (identifiersValue (Identifiers.strip subject))

/-- The optionality markers of identifiers. -/
def setOptionalSymbol : Filter := Filter.ofPure fun v _ => do
  let subject ← identifiersOf setOptionalSymbolName v
  .ok (identifiersValue (Identifiers.symbols subject))

/-- The first record whose field agrees with a value, or null. -/
def parameterEqual : Filter := Filter.ofPure fun v args => do
  let field ← textArgument parameterEqualName "field" args
  let wanted ← requiredArgument parameterEqualName "value" args
  let records ← optionalArray parameterEqualName v
  .ok ((Value.findByField (records.getD []) field wanted).getD .null)

/-- What is reported when the wrapper of a response is asked for. -/
def responseEvents (r : Response) : List Event :=
  if r.wrapper.isImplemented then [] else [.unmappedStatus r.statusCode]

/-- The wrapper type of a response.  In strict mode it is a failure that there is none. -/
def responseType (strict : Bool) : Filter where
  run v _ :=
    match decodeValue Response.decode v with
    | .error e => throw (.undecodable responseTypeName .response e)
    | .ok r => do
      Action.report (responseEvents r)
      if strict then
        match r.wrapperOrCode with
        | .ok wrapper => pure (.str wrapper.text)
        | .error code => throw (.unsupportedStatus responseTypeName code)
      else pure (.str r.wrapper.text)
  safe := true

end ApiStencil.Filters
