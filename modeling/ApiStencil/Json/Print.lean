import ApiStencil.Json.Value

/-!
Writing JSON text: on one line without blanks, or with one member or item a line and two blanks per
level.
-/

namespace ApiStencil.Json

/-- A hexadecimal digit, lower case. -/
def hexDigit (n : Nat) : Char := if n < 10 then Char.ofNat (48 + n) else Char.ofNat (87 + n)

/-- A character inside a string: quotes, backslashes and control characters are escaped. -/
def escapeChar (c : Char) : List Char :=
  if c = '"' then ['\\', '"']
  else if c = '\\' then ['\\', '\\']
  else if c = '\n' then ['\\', 'n']
  else if c = '\r' then ['\\', 'r']
  else if c = '\t' then ['\\', 't']
  else if c = '\x08' then ['\\', 'b']
  else if c = '\x0c' then ['\\', 'f']
  else if c.toNat < 0x20 then ['\\', 'u', '0', '0', hexDigit (c.toNat / 16), hexDigit (c.toNat % 16)]
  else [c]

/-- A string in quotes. -/
def escapeText (s : String) : String :=
  String.ofList ('"' :: s.toList.flatMap escapeChar ++ ['"'])

namespace Value

mutual

/-- A value on one line. -/
def write : Value → String
  | .null => "null"
  | .bool b => if b then "true" else "false"
  | .num n => n.write
  | .str s => escapeText s
  | .arr items => "[" ++ ",".intercalate (writeItems items) ++ "]"
  | .obj members => "\x7b" ++ ",".intercalate (writeMembers members) ++ "\x7d"

/-- The items of an array on one line each. -/
def writeItems : List Value → List String
  | [] => []
  | v :: rest => write v :: writeItems rest

/-- The members of an object on one line each. -/
def writeMembers : List (String × Value) → List String
  | [] => []
  | (key, v) :: rest => (escapeText key ++ ":" ++ write v) :: writeMembers rest

end

/-- Lines between brackets, one entry a line, indented by two blanks more than the brackets. -/
def block (opening closing : String) (indent : String) (entries : List String) : String :=
  if entries.isEmpty then opening ++ closing
  else
    let inner := "\n" ++ indent ++ "  "
    opening ++ inner ++ ("," ++ inner).intercalate entries ++ "\n" ++ indent ++ closing

mutual

/-- A value over several lines. -/
def pretty (indent : String) : Value → String
  | .arr items => block "[" "]" indent (prettyItems (indent ++ "  ") items)
  | .obj members => block "\x7b" "\x7d" indent (prettyMembers (indent ++ "  ") members)
  | v => write v

/-- The items of an array over several lines. -/
def prettyItems (indent : String) : List Value → List String
  | [] => []
  | v :: rest => pretty indent v :: prettyItems indent rest

/-- The members of an object over several lines. -/
def prettyMembers (indent : String) : List (String × Value) → List String
  | [] => []
  | (key, v) :: rest => (escapeText key ++ ": " ++ pretty indent v) :: prettyMembers indent rest

end

end Value

end ApiStencil.Json
