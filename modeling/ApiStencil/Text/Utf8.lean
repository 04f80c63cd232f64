/-!
Bytes as text.  Bytes that are not the encoding of a text can still be shown: every longest start
of an encoded character, or else every single byte, is shown as the replacement character.
-/

namespace ApiStencil.Text

/-- The text that the bytes encode, if they encode one. -/
def ofBytes? (bytes : ByteArray) : Option String := String.fromUTF8? bytes

/-- How an encoded character goes on after its first byte: the least and the greatest second byte,
and how many bytes come after the second one. -/
def continuation? (b : Nat) : Option (Nat × Nat × Nat) :=
  if 0xC2 ≤ b ∧ b ≤ 0xDF then some (0x80, 0xBF, 0)
  else if b = 0xE0 then some (0xA0, 0xBF, 1)
  else if b = 0xED then some (0x80, 0x9F, 1)
  else if 0xE1 ≤ b ∧ b ≤ 0xEF then some (0x80, 0xBF, 1)
  else if b = 0xF0 then some (0x90, 0xBF, 2)
  else if 0xF1 ≤ b ∧ b ≤ 0xF3 then some (0x80, 0xBF, 2)
  else if b = 0xF4 then some (0x80, 0x8F, 2)
  else none

/-- Whether a byte can stand at the third or fourth place of an encoded character. -/
def isTail (b : Nat) : Bool := 0x80 ≤ b && b ≤ 0xBF

/-- The character shown in place of bytes that encode none. -/
def replacement : Char := '\uFFFD'

/-- The first character to show, and how many bytes after the first one it takes. -/
def shownFirst (b : Nat) (rest : List Nat) : Char × Nat :=
  if b < 0x80 then (Char.ofNat b, 0)
  else match continuation? b, rest with
    | some (least, greatest, more), second :: others =>
      if second < least ∨ greatest < second then (replacement, 0)
      else
        let tails := (others.take more).takeWhile isTail
        if tails.length < more then (replacement, 1 + tails.length)
        else
          let lead := match more with
            | 0 => b - 0xC0
            | 1 => b - 0xE0
            | _ => b - 0xF0
          let code := (second :: tails).foldl (fun n t => 64 * n + (t - 0x80)) lead
          (Char.ofNat code, 1 + more)
    | _, _ => (replacement, 0)

/-- The characters to show for a list of bytes. -/
def shownBytes : List Nat → List Char
  | [] => []
  | b :: rest =>
    let (c, taken) := shownFirst b rest
    c :: shownBytes (rest.drop taken)
termination_by bytes => bytes.length
decreasing_by simp only [List.length_drop, List.length_cons]; omega

/-- The text to show for bytes that may not encode one. -/
def showBytes (bytes : ByteArray) : String :=
  match ofBytes? bytes with
  | some s => s
  | none => String.ofList (shownBytes (bytes.toList.map UInt8.toNat))

end ApiStencil.Text
