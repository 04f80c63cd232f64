import ApiStencil.Json.Shape
import ApiStencil.Text.Blank

/-!
Responses of operations: a status code as text with the type of the payload, and the wrapper type
that stands for the response in generated code.
-/

namespace ApiStencil

open Json

/-- A response of an operation. -/
structure Response where
  statusCode : String
  payloadType : Option String
deriving DecidableEq, Repr

/-- The wrapper type of a response. -/
inductive Wrapper where
  | successJson (payload : String)
  | redirectToResource (payload : String)
  | accepted (payload : String)
  | notImplemented
deriving DecidableEq, Repr

namespace Wrapper

/-- What is written for a response that has no wrapper. -/
def sentinel : String := "NotImplemented"

/-- A wrapper type as generated code writes it. -/
def text : Wrapper → String
  | .successJson payload => "IResponseSuccessJson<" ++ payload ++ ">"
  | .redirectToResource payload =>
    "IResponseSuccessRedirectToResource<" ++ payload ++ ", " ++ payload ++ ">"
  | .accepted payload => "ResponseSuccessAccepted<" ++ payload ++ ">"
  | .notImplemented => sentinel

/-- Whether the response has a wrapper. -/
def isImplemented : Wrapper → Bool
  | .notImplemented => false
  | _ => true

end Wrapper

namespace Response

/-- The payload type of a response that declares none. -/
def undefinedPayload : String := "undefined"

/-- The payload type. -/
def payload (r : Response) : String := r.payloadType.getD undefinedPayload

/-- The status code that a text writes: after trimming, a decimal literal whose nearest binary64
number is a whole number from 0 to 65535. -/
def statusOfText? (text : String) : Option Nat := do
  let literal ← Literal.ofChars? (Text.trim text.toList)
  let x ← literal.toBinary64?
  let i ← x.toInt?
  if 0 ≤ i ∧ i ≤ 65535 then some i.toNat else none

/-- The numeric status code, if the text writes one. -/
def status? (r : Response) : Option Nat := statusOfText? r.statusCode

/-- The wrapper for a response, by its numeric status code. -/
def wrapper (r : Response) : Wrapper :=
  match r.status? with
  | some 200 => .successJson r.payload
  | some 201 => .redirectToResource r.payload
  | some 202 => .accepted r.payload
  | _ => .notImplemented

/-- The wrapper for a response where one has to be there; otherwise the code that has none. -/
def wrapperOrCode (r : Response) : Except String Wrapper :=
  let wrapper := r.wrapper
  if wrapper.isImplemented then .ok wrapper else .error r.statusCode

/-! ### JSON forms -/

/-- The members of a response read so far. -/
structure Fields where
  statusCode : Option String
  payloadType : Option (Option String)

/-- The text of a status code: a string as it is, a number as it is written, nothing for null. -/
def codeText (source : Source) : Draft → Decoded String
  | .str s => .ok s
  | .num n => .ok n.write
  | .null => .ok ""
  | d => d.noForm "StatusCodeRepr" source (Draft.maxDepth - 1)

/-- How a response is decoded.  Both members go by two names, and both may be missing. -/
def shape : Draft.RecordShape Fields Response where
  name := "ResponseDescriptor"
  fields := ["statusCode", "payloadType"]
  start := ⟨none, none⟩
  member source fields key d :=
    match key with
    | "statusCode" | "e1" => Draft.once "statusCode" fields.statusCode (codeText source d) fun s =>
      { fields with statusCode := some s }
    | "payloadType" | "e2" =>
      Draft.once "payloadType" fields.payloadType (d.asTextOrNull "a string") fun s =>
        { fields with payloadType := some s }
    | _ => d.skip.map fun _ => fields
  finish fields := .ok ⟨fields.statusCode.getD "", fields.payloadType.getD none⟩

/-- Decodes a response. -/
def decode : Source → Draft → Decoded Response := shape.decode

/-- A response as JSON. -/
def toJson (r : Response) : Value :=
  .obj [("statusCode", .str r.statusCode),
    ("payloadType", match r.payloadType with
      | some s => .str s
      | none => .null)]

end Response

end ApiStencil
