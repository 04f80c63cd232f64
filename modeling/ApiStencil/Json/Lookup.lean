import ApiStencil.Json.Value

/-!
Looking up a record by a field.  Values agree within one JSON type only; numbers agree by value.
-/

namespace ApiStencil.Json.Value

mutual

/-- Whether two values agree: numbers by numeric agreement, other scalars exactly, arrays item by
item, objects key by key. -/
def agrees : Value → Value → Bool
  | .null, .null => true
  | .bool a, .bool b => a == b
  | .num a, .num b => a.agrees b
  | .str a, .str b => a == b
  | .arr as, .arr bs => agreesItems as bs
  | .obj as, .obj bs => as.length == bs.length && agreesMembers as bs
  | _, _ => false

/-- Whether two lists have the same length and agreeing items. -/
def agreesItems : List Value → List Value → Bool
  | [], [] => true
  | a :: as, b :: bs => agrees a b && agreesItems as bs
  | _, _ => false

/-- Whether every member on the left agrees with the member of its key on the right. -/
def agreesMembers : List (String × Value) → List (String × Value) → Bool
  | [], _ => true
  | (key, a) :: as, bs =>
    (match bs.lookup key with
      | some b => agrees a b
      | none => false) && agreesMembers as bs

end

/-- Whether a record has a field whose value agrees with the one wanted. -/
def hasField (field : String) (wanted : Value) (record : Value) : Bool :=
  match record.get? field with
  | some candidate => candidate.agrees wanted
  | none => false

/-- The first record with a field whose value agrees with the one wanted. -/
def findByField (records : List Value) (field : String) (wanted : Value) : Option Value :=
  records.find? (hasField field wanted)

end ApiStencil.Json.Value
