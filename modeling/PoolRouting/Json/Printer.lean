import PoolRouting.Json
import PoolRouting.Binary64.Shortest

/-!
Writing JSON. The indented form puts every item and field on a line of its own, two spaces deeper
than its container, and keeps characters outside ASCII as they are.
-/

namespace PoolRouting.Json

def hexDigit (value : Nat) : Char := Nat.digitChar value

/-- Quotes, backslashes and control characters are escaped; nothing else is. -/
def escapedChar (c : Char) : List Char :=
  if c = '"' then ['\\', '"']
  else if c = '\\' then ['\\', '\\']
  else if c = '\n' then ['\\', 'n']
  else if c = '\r' then ['\\', 'r']
  else if c = '\t' then ['\\', 't']
  else if c = '\x08' then ['\\', 'b']
  else if c = '\x0c' then ['\\', 'f']
  else if c.toNat < 0x20 then
    ['\\', 'u', '0', '0', hexDigit (c.toNat / 16), hexDigit (c.toNat % 16)]
  else [c]

def quoted (text : String) : String :=
  String.ofList ('"' :: (text.toList.flatMap escapedChar ++ ['"']))

def indentation (depth : Nat) : String := String.ofList ('\n' :: List.replicate (2 * depth) ' ')

/-- A container: its parts on lines of their own, or nothing between the brackets. -/
def bracketed (opening closing : String) (depth : Nat) (parts : List String) : String :=
  if parts.isEmpty then opening ++ closing
  else
    opening ++ ",".intercalate (parts.map fun part => indentation (depth + 1) ++ part) ++
      indentation depth ++ closing

/-- One digit before the point, and the rest behind it if there is a rest. -/
def leadingPoint : List Char → List Char
  | [] => []
  | [digit] => [digit]
  | digit :: rest => digit :: '.' :: rest

/-- Numbers from 10^-5 on and below 10^16 are written positionally, all others with an exponent. -/
def scaledChars (value : Binary64.Scaled) : List Char :=
  let digits := Nat.toDigits 10 value.digits
  let magnitude := digits.length + value.place
  if -5 < magnitude ∧ magnitude ≤ 16 then
    let chars := value.chars
    if chars.contains '.' then chars else chars ++ ['.', '0']
  else leadingPoint digits ++ 'e' :: (toString (magnitude - 1)).toList

/-- A double keeps a point or an exponent, so that it is read back as a double; of two equally near
numerals the one with an even last digit is written. -/
def doubleText (negative : Bool) (rank : Nat) : String :=
  let chars := if rank = 0 then ['0', '.', '0'] else scaledChars (Binary64.shortest .even rank)
  String.ofList (if negative then '-' :: chars else chars)

example : scaledChars ⟨17, -6⟩ = "0.000017".toList := by decide +kernel
example : scaledChars ⟨17, 20⟩ = "1.7e21".toList := by decide +kernel

-- Only values that denote something are written; the others have no text of their own.
/-- The written form, each part of a container on a line of its own. -/
def indented (depth : Nat) : Json → String
  | .null => "null"
  | .bool value => if value then "true" else "false"
  | .integer value => toString value
  | .double negative rank => doubleText negative rank
  | .unreadable => "null"
  | .string text => quoted text
  | .array items => bracketed "[" "]" depth (indentedItems (depth + 1) items)
  | .object fields => bracketed "\x7b" "\x7d" depth (indentedFields (depth + 1) fields)
where
  indentedItems (depth : Nat) : List Json → List String
    | [] => []
    | item :: rest => indented depth item :: indentedItems depth rest
  indentedFields (depth : Nat) : List (String × Json) → List String
    | [] => []
    | (key, value) :: rest =>
      (quoted key ++ ": " ++ indented depth value) :: indentedFields depth rest

/-- The same value on one line without spaces. -/
def compact : Json → String
  | .null => "null"
  | .bool value => if value then "true" else "false"
  | .integer value => toString value
  | .double negative rank => doubleText negative rank
  | .unreadable => "null"
  | .string text => quoted text
  | .array items => "[" ++ ",".intercalate (compactItems items) ++ "]"
  | .object fields => "\x7b" ++ ",".intercalate (compactFields fields) ++ "\x7d"
where
  compactItems : List Json → List String
    | [] => []
    | item :: rest => compact item :: compactItems rest
  compactFields : List (String × Json) → List String
    | [] => []
    | (key, value) :: rest => (quoted key ++ ":" ++ compact value) :: compactFields rest

end PoolRouting.Json
