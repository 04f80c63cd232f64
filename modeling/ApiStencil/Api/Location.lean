import ApiStencil.Json.Shape

/-!
Where a parameter of an operation is passed: the six locations, their tags, and the location that a
parameter record carries.
-/

namespace ApiStencil

open Json

/-- Where a parameter is passed. -/
inductive Location where
  | path
  | query
  | header
  | cookie
  | body
  | formData
deriving DecidableEq, Repr

namespace Location

/-- All locations in order. -/
def all : List Location := [.path, .query, .header, .cookie, .body, .formData]

/-- The tag of a location. -/
def tag : Location → String
  | .path => "path"
  | .query => "query"
  | .header => "header"
  | .cookie => "cookie"
  | .body => "body"
  | .formData => "formData"

/-- The location with exactly this tag. -/
def ofTag? (tag : String) : Option Location := all.find? fun l => l.tag = tag

theorem ofTag?_tag (l : Location) : ofTag? l.tag = some l := by
  cases l <;> decide

/-- Only the tag of a location reads as that location. -/
theorem eq_tag_of_ofTag? {s : String} {l : Location} (h : ofTag? s = some l) : s = l.tag := by
  have h := List.find?_some h
  exact (of_decide_eq_true h).symm

/-- A location as JSON. -/
def toJson (l : Location) : Value := .str l.tag

/-- The location with a tag, or the error that there is none. -/
def ofVariant (tag : String) : Decoded Location :=
  match ofTag? tag with
  | some l => .ok l
  | none => .wrong (.unknownVariant tag (all.map Location.tag))

/-- Accepts the null that stands for the absent content of a location. -/
def noContent : Draft → Decoded Unit
  | .null => .ok ()
  | d => d.mismatch "unit"

/-- **Decodes a location**: its tag, or an object whose one member has the tag as its key and null
as its value.  In a text only the first member of an object has a shape; what is neither a string
nor an object, or has other than one member, is no JSON of a location. -/
def decode : Source → Draft → Decoded Location
  | _, .str tag => ofVariant tag
  | .value, .obj [(tag, content)] _ => do
    let l ← ofVariant tag
    noContent content
    .ok l
  | .value, .obj _ _ => .wrong .notOneMember
  | .value, d => d.mismatch "string or map"
  | .text, .obj ((tag, content) :: others) closed => do
    let l ← ofVariant tag
    noContent content
    if others.isEmpty ∧ closed then .ok l else .error .notJson
  | .text, _ => .error .notJson

/-- The location of a raw record: that of its member `in`, or of its member `location` if there is
no member `in`; nothing unless that is the tag of a location. -/
def ofRecord? (record : Value) : Option Location :=
  ((record.get? "in").or (record.get? "location")).bind Value.asText? >>= ofTag?

end Location

end ApiStencil
