import ApiStencil.Json.Draft
import ApiStencil.Text.Quoted

/-!
Decoding records from JSON: what can be wrong with the shape of a value, and the readers for the
kinds of members that records have.  Every reader takes a draft, so one definition serves values
and texts; `Source` says which of the two the draft comes from, for the few points where the two
differ.
-/

namespace ApiStencil.Json

/-- What was found where something else was expected. -/
inductive Found where
  | integer (i : Int)
  /-- A whole number beyond 64 bits. -/
  | wide (i : Int)
  | float (digits : String)
  | boolean (b : Bool)
  | string (s : String)
  /-- Nothing, under the name that the format has for it. -/
  | nothing (name : String)
  | sequence
  | map
deriving DecidableEq, Repr

namespace Found

/-- The description of what was found. -/
def message : Found → String
  | .integer i => s!"integer `{i}`"
  | .wide i => s!"integer `{i}` as " ++ (if i < 0 then "i128" else "u128")
  | .float digits => s!"floating point `{digits}`"
  | .boolean b => s!"boolean `{b}`"
  | .string s => s!"string {Text.quoted s}"
  | .nothing name => name
  | .sequence => "sequence"
  | .map => "map"

end Found

/-- What is wrong with the shape of a value. -/
inductive ShapeError where
  | missingField (name : String)
  | duplicateField (name : String)
  | unknownVariant (name : String) (known : List String)
  | wrongType (found : Found) (expected : String)
  | wrongValue (found : Found) (expected : String)
  | wrongLength (length : Nat) (expected : String)
  | notOneMember
  | noMatch (choice : String)
deriving DecidableEq, Repr

namespace ShapeError

/-- The text of a shape error. -/
def message : ShapeError → String
  | .missingField name => s!"missing field `{name}`"
  | .duplicateField name => s!"duplicate field `{name}`"
  | .unknownVariant name known =>
    s!"unknown variant `{name}`, expected one of "
      ++ ", ".intercalate (known.map fun k => s!"`{k}`")
  | .wrongType found expected => s!"invalid type: {found.message}, expected {expected}"
  | .wrongValue found expected => s!"invalid value: {found.message}, expected {expected}"
  | .wrongLength length expected => s!"invalid length {length}, expected {expected}"
  | .notOneMember => "invalid value: map, expected map with a single key"
  | .noMatch choice => s!"data did not match any variant of untagged enum {choice}"

end ShapeError

/-- Why a record could not be decoded: its shape is wrong, or the text is no JSON. -/
inductive DecodeError where
  | shape (error : ShapeError)
  | notJson
deriving DecidableEq, Repr

/-- Whether a draft comes from a value or straight from a text. -/
inductive Source where
  | value
  | text
deriving DecidableEq, Repr

/-- The result of decoding. -/
abbrev Decoded (α : Type) := Except DecodeError α

namespace Decoded

/-- Failure with a shape error. -/
def wrong {α : Type} (e : ShapeError) : Decoded α := .error (.shape e)

end Decoded

namespace Draft

/-- What stands here, for messages; nothing can be said of what is not JSON. -/
def found : Draft → Decoded Found
  | .null => .ok (.nothing "null")
  | .bool b => .ok (.boolean b)
  | .num (.whole i _) => .ok (.integer i)
  | .num (.float x) => .ok (.float (Layout.data.write x))
  | .str s => .ok (.string s)
  | .arr _ _ => .ok .sequence
  | .obj _ _ => .ok .map
  | .unreadable => .error .notJson
  | .broken => .error .notJson

/-- Fails because something else was expected here. -/
def mismatch {α : Type} (expected : String) (d : Draft) : Decoded α := do
  let found ← d.found
  .wrong (.wrongType found expected)

/-- A string member. -/
def asText (expected : String) : Draft → Decoded String
  | .str s => .ok s
  | d => d.mismatch expected

/-- A member that is a string or null. -/
def asTextOrNull (expected : String) : Draft → Decoded (Option String)
  | .null => .ok none
  | .str s => .ok (some s)
  | d => d.mismatch expected

/-- A boolean member. -/
def asBool : Draft → Decoded Bool
  | .bool b => .ok b
  | d => d.mismatch "a boolean"

/-- A member that is not looked at, but must be well formed. -/
def skip (d : Draft) : Decoded Unit :=
  if d.wellFormed then .ok () else .error .notJson

/-- Fails because the value has none of the forms of a choice.  A text has to be JSON all the way
through the value before its form is judged. -/
def noForm {α : Type} (choice : String) (source : Source) (depth : Nat) (d : Draft) : Decoded α :=
  let readable := match source with
    | .value => true
    | .text => (d.value? depth).isSome
  if readable then .wrong (.noMatch choice) else .error .notJson

/-! ### Records -/

/-- How a record is decoded: its fields in order, what one member adds to the fields read so far,
and the record that a set of fields makes. -/
structure RecordShape (Fields Record : Type) where
  /-- The name of the record in messages. -/
  name : String
  /-- The names of the fields in order of declaration. -/
  fields : List String
  /-- The state before the first member. -/
  start : Fields
  /-- Takes in one member; members of unknown names are skipped. -/
  member : Source → Fields → String → Draft → Decoded Fields
  /-- The record, or the number of the first field that is missing. -/
  finish : Fields → Except Nat Record

namespace RecordShape

variable {Fields Record : Type}

/-- The description of the record as an array. -/
def arrayText (shape : RecordShape Fields Record) : String :=
  s!"struct {shape.name} with {shape.fields.length} elements"

/-- Decodes a record from its members in order. -/
def ofMembers (shape : RecordShape Fields Record) (source : Source)
    (members : List (String × Draft)) (closed : Bool) : Decoded Record := do
  let fields ← members.foldlM (fun fields (key, d) => shape.member source fields key d) shape.start
  if !closed then .error .notJson
  else match shape.finish fields with
    | .ok record => .ok record
    | .error missing => .wrong (.missingField (shape.fields.getD missing ""))

/-- Decodes a record from an array of its fields in order of declaration. -/
def ofItems (shape : RecordShape Fields Record) (source : Source) (items : List Draft)
    (closed : Bool) : Decoded Record := do
  let fields ← (shape.fields.zip items).foldlM
    (fun fields (key, d) => shape.member source fields key d) shape.start
  if items.length < shape.fields.length ∧ !closed then .error .notJson
  else match shape.finish fields with
    | .error missing => .wrong (.wrongLength missing shape.arrayText)
    | .ok record =>
      if items.length ≤ shape.fields.length then
        if closed then .ok record else .error .notJson
      else match source with
        | .value => .wrong (.wrongLength items.length "fewer elements in array")
        | .text => .error .notJson

/-- **Decodes a record** from an object with its members or an array with its fields. -/
def decode (shape : RecordShape Fields Record) (source : Source) : Draft → Decoded Record
  | .obj members closed => shape.ofMembers source members closed
  | .arr items closed => shape.ofItems source items closed
  | d => d.mismatch s!"struct {shape.name}"

end RecordShape

/-- Reads a field that may occur once: fails if it was read before. -/
def once {α β : Type} (name : String) (before : Option α) (read : Decoded α) (add : α → β) :
    Decoded β :=
  if before.isSome then .wrong (.duplicateField name) else read.map add

end Draft

/-- Decodes a whole text: the first problem of shape or form wins, and last of all nothing but
blanks may come after the value. -/
def decodeText {α : Type} (decode : Source → Draft → Decoded α) (text : String) : Decoded α := do
  let (draft, complete) := Draft.ofText text
  let record ← decode .text draft
  if complete then .ok record else .error .notJson

/-- Decodes a value. -/
def decodeValue {α : Type} (decode : Source → Draft → Decoded α) (v : Value) : Decoded α :=
  decode .value (Draft.ofValue v)

end ApiStencil.Json
