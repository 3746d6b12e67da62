import SqlTables.Json.Read
import SqlTables.Name.Mapping
import SqlTables.Text.Shortest

/-!
# Mappings in JSON

A mapping is an object whose values are strings. Anything else is an error that names what was
found.
-/

namespace SqlTables.Json

/-- Characters beyond ASCII that leave no mark of their own. -/
def isInvisible (c : Char) : Bool :=
  let code := c.toNat
  (0x7F ≤ code && code ≤ 0x9F) || code == 0xAD || (0x200B ≤ code && code ≤ 0x200F)
    || (0x2028 ≤ code && code ≤ 0x202E) || (0x2060 ≤ code && code ≤ 0x206F)
    || (0xE000 ≤ code && code ≤ 0xF8FF) || code == 0xFEFF

def quoteChar (c : Char) : List Char :=
  match c with
  | '\x22' => ['\\', '\x22']
  | '\\' => ['\\', '\\']
  | '\n' => ['\\', 'n']
  | '\r' => ['\\', 'r']
  | '\t' => ['\\', 't']
  | '\x00' => ['\\', '0']
  | _ =>
    if c.toNat < 0x20 || isInvisible c then
      ['\\', 'u', '\x7b'] ++ Nat.toDigits 16 c.toNat ++ ['\x7d']
    else
      [c]

def quote (text : String) : String :=
  "\"" ++ String.ofList (text.toList.flatMap quoteChar) ++ "\""

def describeNumber : JsonNumber → String
  | .natural value => "integer \x60" ++ toString value ++ "\x60"
  | .negative magnitude => "integer \x60-" ++ toString magnitude ++ "\x60"
  | .real value => "floating point \x60" ++ Text.writeReal value ++ "\x60"

namespace Read

def wrongType {α : Type} (wanted : String) : Read α := do
  match ← peek with
  | some 'n' =>
    skip
    word ['u', 'l', 'l']
    fail (.wrongType "null" wanted)
  | some 't' =>
    skip
    word ['r', 'u', 'e']
    fail (.wrongType "boolean \x60true\x60" wanted)
  | some 'f' =>
    skip
    word ['a', 'l', 's', 'e']
    fail (.wrongType "boolean \x60false\x60" wanted)
  | some '\x22' =>
    skip
    let text ← string
    fail (.wrongType ("string " ++ quote text) wanted)
  | some '[' => fail (.wrongType "sequence" wanted)
  | some '\x7b' => fail (.wrongType "map" wanted)
  | some c =>
    if c = '-' ∨ c.isDigit then
      let value ← signedNumber c
      fail (.wrongType (describeNumber value) wanted)
    else
      failHere .expectedValue
  | none => failHere .expectedValue

def stringValue : Read String := do
  match ← skipSpace with
  | none => failHere .endInValue
  | some '\x22' =>
    skip
    string
  | some _ => wrongType "a string"

def stringMembers : Read (List (String × String)) := do
  match ← skipSpace with
  | none => failHere .endInValue
  | some '\x7b' =>
    skip
    members stringValue
  | some _ => wrongType "a map"

end Read

/-- The mapping that a JSON text holds; the last member of a key wins. -/
def readMapping (text : String) : Except ReadError Mapping := do
  let (pairs, _) ← (do
    let pairs ← Read.stringMembers
    Read.finish
    return pairs : Read (List (String × String))).run ⟨0, text.toList⟩
  return Mapping.ofList pairs

end SqlTables.Json
