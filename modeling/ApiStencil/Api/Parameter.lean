import ApiStencil.Api.Location

/-!
Parameters of operations: the record, its JSON forms, choosing parameters by location, and the
destructured argument that a function takes for them.
-/

namespace ApiStencil

open Json

/-- A parameter of an operation. -/
structure Parameter where
  /-- The identifier, which may end in a marker that says the parameter is optional. -/
  name : String
  location : Location
  required : Bool
  description : Option String
deriving DecidableEq, Repr

namespace Parameter

/-- A parameter that is not required and has no description. -/
def ofName (name : String) (location : Location) : Parameter := ⟨name, location, false, none⟩

/-- The members of a parameter read so far. -/
structure Fields where
  name : Option String
  location : Option Location
  required : Option Bool
  description : Option (Option String)

/-- How a parameter is decoded.  The location goes by two names. -/
def shape : Draft.RecordShape Fields Parameter where
  name := "Parameter"
  fields := ["name", "in", "required", "description"]
  start := ⟨none, none, none, none⟩
  member source fields key d :=
    match key with
    | "name" => Draft.once "name" fields.name (d.asText "a string") fun s =>
      { fields with name := some s }
    | "in" | "location" => Draft.once "in" fields.location (Location.decode source d) fun l =>
      { fields with location := some l }
    | "required" => Draft.once "required" fields.required d.asBool fun b =>
      { fields with required := some b }
    | "description" => Draft.once "description" fields.description (d.asTextOrNull "a string") fun s =>
      { fields with description := some s }
    | _ => d.skip.map fun _ => fields
  finish fields :=
    match fields.name, fields.location with
    | none, _ => .error 0
    | _, none => .error 1
    | some name, some location =>
      .ok ⟨name, location, fields.required.getD false, fields.description.getD none⟩

/-- Decodes a parameter. -/
def decode : Source → Draft → Decoded Parameter := shape.decode

/-- A parameter as JSON: the description only if there is one. -/
def toJson (p : Parameter) : Value :=
  .obj ([("name", .str p.name), ("in", p.location.toJson), ("required", .bool p.required)]
    ++ match p.description with
      | some text => [("description", .str text)]
      | none => [])

/-! ### Choosing by location -/

/-- The records at a location, in their order; an absent list has none. -/
def atLocation {α : Type} (locate : α → Option Location) (location : Location)
    (records : Option (List α)) : List α :=
  (records.getD []).filter fun r => locate r = some location

/-- The records at no or another location, in their order; an absent list has none. -/
def notAtLocation {α : Type} (locate : α → Option Location) (location : Location)
    (records : Option (List α)) : List α :=
  (records.getD []).filter fun r => locate r ≠ some location

/-! ### Arguments -/

/-- The destructured argument for these names, which stand in it as they are; an absent list makes
an empty argument list. -/
def arguments : Option (List String) → String
  | none => "()"
  | some names => "(\x7b" ++ ", ".intercalate names ++ "\x7d)"

/-- The destructured argument for the names of records. -/
def argumentsFor {α : Type} (name : α → String) (records : Option (List α)) : String :=
  arguments (records.map (List.map name))

end Parameter

end ApiStencil
