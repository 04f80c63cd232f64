import ApiStencil.Json.Print
import ApiStencil.Template.Action
import ApiStencil.Template.Catalog
import ApiStencil.Template.Output
import ApiStencil.Text.Upper

/-!
Filters and functions, and the filters that every engine has.
-/

namespace ApiStencil

open Json

/-- Arguments by name. -/
abbrev Arguments := List (String × Value)

/-- A filter: what it makes of a value, and whether its text is never escaped. -/
structure Filter where
  run : Value → Arguments → Action Value
  safe : Bool

/-- A function: what it makes of its arguments, and whether its text is never escaped. -/
structure Function where
  run : Arguments → Action Value
  safe : Bool

namespace Filter

/-- A filter that changes nothing but its value and whose text is escaped. -/
def ofPure (run : Value → Arguments → Except Failure Value) : Filter :=
  ⟨fun v args => liftM (run v args), false⟩

/-! ### Built-in filters -/

/-- Fails because a built-in filter got a value of another type. -/
def wrongValue {α : Type} (filter expected : String) (v : Value) : Except Failure α :=
  .error (.wrongValue filter v.write expected)

/-- The upper case of a string. -/
def upper : Filter := ofPure fun v _ =>
  match v with
  | .str s => .ok (.str (Text.upper s))
  | v => wrongValue "upper" "String" v

/-- The first item of an array, or the empty string if there is none. -/
def first : Filter := ofPure fun v _ =>
  match v with
  | .arr items => .ok (items.head?.getD (.str ""))
  | v => wrongValue "first" "Vec<Value>" v

/-- The last item of an array, or the empty string if there is none. -/
def last : Filter := ofPure fun v _ =>
  match v with
  | .arr items => .ok (items.getLast?.getD (.str ""))
  | v => wrongValue "last" "Vec<Value>" v

/-- The number of items, members or characters. -/
def length : Filter := ofPure fun v _ =>
  let counted (n : Nat) : Except Failure Value := .ok ((Value.ofInt? n).getD .null)
  match v with
  | .arr items => counted items.length
  | .obj members => counted members.length
  | .str s => counted s.length
  | _ => .error .noLength

/-- A separator with written line breaks and tabs as such. -/
def separator : List Char → List Char
  | '\\' :: 'n' :: rest => '\n' :: separator rest
  | '\\' :: 't' :: rest => '\t' :: separator rest
  | c :: rest => c :: separator rest
  | [] => []

/-- The items of an array as text, with a separator between them. -/
def join : Filter := ofPure fun v args =>
  match v with
  | .arr items => do
    let sep ← match args.lookup "sep" with
      | none => .ok ""
      | some (.str s) => .ok (String.ofList (separator s.toList))
      | some other => .error (.wrongArgument "truncate" "sep" other.write "String")
    .ok (.str (sep.intercalate (Value.shownItems items)))
  | v => wrongValue "join" "Vec<Value>" v

/-- The filters of every engine: those built-in ones that templates for API descriptions use. -/
def builtIn : Catalog Filter :=
  Catalog.ofList [("upper", upper), ("first", first), ("last", last), ("length", length),
    ("join", join)]

end Filter

end ApiStencil
