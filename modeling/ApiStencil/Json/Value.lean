import ApiStencil.Json.Number

/-!
JSON values.  An object is a list of members; objects read from a text have their keys in ascending
order of code points, each key once (`Value.Ordered`).
-/

namespace ApiStencil.Json

/-- A JSON value. -/
inductive Value where
  | null
  | bool (b : Bool)
  | num (n : Number)
  | str (s : String)
  | arr (items : List Value)
  | obj (members : List (String × Value))

namespace Value

/-- Puts a member into an ascending member list, in place of one with the same key. -/
def putMember {α : Type} (key : String) (value : α) : List (String × α) → List (String × α)
  | [] => [(key, value)]
  | (k, v) :: rest =>
    if key < k then (key, value) :: (k, v) :: rest
    else if key = k then (key, value) :: rest
    else (k, v) :: putMember key value rest

/-- Members in ascending order of keys, the last one of each key. -/
def ascending {α : Type} (members : List (String × α)) : List (String × α) :=
  members.foldl (fun done (key, value) => putMember key value done) []

/-- The object with these members, the last one of each key. -/
def ofMembers (members : List (String × Value)) : Value := .obj (ascending members)

/-- A member of an object; other values have none. -/
def get? (key : String) : Value → Option Value
  | .obj members => members.lookup key
  | _ => none

/-- The text of a string value. -/
def asText? : Value → Option String
  | .str s => some s
  | _ => none

/-- A whole number as a value, if it fits in 64 bits. -/
def ofInt? (i : Int) : Option Value := (Number.ofInt? i).map .num

/-! ### Ordered objects -/

mutual

/-- Every object in the value has strictly ascending keys. -/
def Ordered : Value → Prop
  | .arr items => OrderedItems items
  | .obj members => members.Pairwise (fun a b => a.1 < b.1) ∧ OrderedMembers members
  | _ => True

/-- Every object in the list has strictly ascending keys. -/
def OrderedItems : List Value → Prop
  | [] => True
  | v :: rest => Ordered v ∧ OrderedItems rest

/-- Every object among the member values has strictly ascending keys. -/
def OrderedMembers : List (String × Value) → Prop
  | [] => True
  | (_, v) :: rest => Ordered v ∧ OrderedMembers rest

end

/-! ### Equality of values -/

mutual

/-- Whether two values are equal: numbers of one type by value, arrays and objects in order. -/
def same : Value → Value → Bool
  | .null, .null => true
  | .bool a, .bool b => a == b
  | .num a, .num b => a.same b
  | .str a, .str b => a == b
  | .arr a, .arr b => sameItems a b
  | .obj a, .obj b => sameMembers a b
  | _, _ => false

/-- Whether two lists hold equal values. -/
def sameItems : List Value → List Value → Bool
  | [], [] => true
  | a :: as, b :: bs => same a b && sameItems as bs
  | _, _ => false

/-- Whether two member lists hold equal values under equal keys. -/
def sameMembers : List (String × Value) → List (String × Value) → Bool
  | [], [] => true
  | (k, a) :: as, (l, b) :: bs => k == l && same a b && sameMembers as bs
  | _, _ => false

end

end Value

end ApiStencil.Json
