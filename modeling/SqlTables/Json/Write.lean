import SqlTables.Json.Value
import SqlTables.Text.Shortest

/-!
# Writing JSON

Values are written over several lines: each element and each member on a line of its own,
indented by two blanks per level. Empty arrays and objects stay on one line.
-/

namespace SqlTables.Json

def hexDigit (value : Nat) : Char :=
  if value < 10 then Char.ofNat ('0'.toNat + value) else Char.ofNat ('a'.toNat + (value - 10))

def writeChar (c : Char) : List Char :=
  match c with
  | '\x22' => ['\\', '\x22']
  | '\\' => ['\\', '\\']
  | '\n' => ['\\', 'n']
  | '\r' => ['\\', 'r']
  | '\t' => ['\\', 't']
  | '\x08' => ['\\', 'b']
  | '\x0c' => ['\\', 'f']
  | _ =>
    if c.toNat < 0x20 then ['\\', 'u', '0', '0', hexDigit (c.toNat / 16), hexDigit (c.toNat % 16)]
    else [c]

def writeString (text : String) : String :=
  "\"" ++ String.ofList (text.toList.flatMap writeChar) ++ "\""

def writeNumber : JsonNumber → String
  | .natural value => toString value
  | .negative magnitude => "-" ++ toString magnitude
  | .real value => Text.writeReal value

def newLine (level : Nat) : String :=
  "\n" ++ String.ofList (List.replicate (2 * level) ' ')

mutual

/-- Write a value whose first line stands on a level. -/
def write (level : Nat) : Json → String
  | .null => "null"
  | .bool value => if value then "true" else "false"
  | .number value => writeNumber value
  | .string value => writeString value
  | .array [] => "[]"
  | .array (item :: items) =>
    "[" ++ newLine (level + 1) ++ item.write (level + 1) ++ writeItems (level + 1) items
      ++ newLine level ++ "]"
  | .object [] => "\x7b\x7d"
  | .object ((key, value) :: members) =>
    "\x7b" ++ newLine (level + 1) ++ writeString key ++ ": " ++ value.write (level + 1)
      ++ writeMembers (level + 1) members ++ newLine level ++ "\x7d"

def writeItems (level : Nat) : List Json → String
  | [] => ""
  | item :: items => "," ++ newLine level ++ item.write level ++ writeItems level items

def writeMembers (level : Nat) : List (String × Json) → String
  | [] => ""
  | (key, value) :: members =>
    "," ++ newLine level ++ writeString key ++ ": " ++ value.write level
      ++ writeMembers level members

end

def pretty (value : Json) : String :=
  value.write 0

end SqlTables.Json
