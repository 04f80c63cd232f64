import ApiStencil.Json.Shape

/-!
Identifiers with an optionality marker: a question mark at the end of a name says that what it
names is optional.  The name and the marker are split off for one identifier or for each of a list.
-/

namespace ApiStencil

open Json

/-- The marker of an optional identifier. -/
def optionalityMarker : Char := '?'

/-- The identifier without its marker; only one marker is taken off. -/
def stripMarker (name : String) : String :=
  if name.toList.getLast? = some optionalityMarker then String.ofList name.toList.dropLast else name

/-- The marker of the identifier, or nothing if it has none. -/
def markerOf (name : String) : String :=
  if name.toList.getLast? = some optionalityMarker then "?" else ""

/-- One identifier or a list of identifiers. -/
inductive Identifiers where
  | single (name : String)
  | many (names : List String)
deriving DecidableEq, Repr

namespace Identifiers

/-- Applies a function to every identifier. -/
def map (f : String → String) : Identifiers → Identifiers
  | .single name => .single (f name)
  | .many names => .many (names.map f)

/-- Whether there is no identifier at all: the empty name counts as absent, the empty list does
not. -/
def isAbsent : Identifiers → Bool
  | .single name => name.isEmpty
  | .many _ => false

/-- Applies a function to every identifier of a subject that is there. -/
def mapPresent (f : String → String) (subject : Option Identifiers) : Option Identifiers :=
  (subject.filter fun s => !s.isAbsent).map (map f)

/-- The identifiers without their markers; nothing for an absent subject. -/
def strip : Option Identifiers → Option Identifiers := mapPresent stripMarker

/-- The markers of the identifiers; nothing for an absent subject. -/
def symbols : Option Identifiers → Option Identifiers := mapPresent markerOf

/-- Identifiers as JSON. -/
def toJson : Identifiers → Value
  | .single name => .str name
  | .many names => .arr (names.map .str)

/-- The string of a draft, if it is one. -/
def nameOf? : Draft → Option String
  | .str s => some s
  | _ => none

/-- Decodes a string or an array of strings. -/
def decode (source : Source) (d : Draft) : Decoded Identifiers :=
  let other := d.noForm "Identifiers" source Draft.maxDepth
  match d with
  | .str name => .ok (.single name)
  | .arr items true =>
    match items.mapM nameOf? with
    | some names => .ok (.many names)
    | none => other
  | _ => other

end Identifiers

end ApiStencil
