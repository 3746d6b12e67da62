import SqlTables.Json.Value
import SqlTables.Text.Bytes

/-!
# Reading JSON

A reader goes through a text from left to right and counts bytes. An error tells what is wrong
and up to which byte the text was looked at; the message gives that place as a line and a column,
both in bytes. Values may be nested up to a fixed depth.
-/

namespace SqlTables.Json

inductive Flaw where
  | endInValue
  | endInString
  | endInArray
  | endInObject
  | expectedValue
  | expectedWord
  | expectedColon
  | expectedArrayEnd
  | expectedObjectEnd
  | keyNotString
  | controlCharacter
  | badEscape
  | loneSurrogate
  | cutEscape
  | badNumber
  | hugeNumber
  | trailingComma
  | trailingText
  | tooDeep
  /-- A value of another type than the expected one. -/
  | wrongType (found expected : String)
deriving DecidableEq, Repr

def Flaw.message : Flaw → String
  | endInValue => "EOF while parsing a value"
  | endInString => "EOF while parsing a string"
  | endInArray => "EOF while parsing a list"
  | endInObject => "EOF while parsing an object"
  | expectedValue => "expected value"
  | expectedWord => "expected ident"
  | expectedColon => "expected \x60:\x60"
  | expectedArrayEnd => "expected \x60,\x60 or \x60]\x60"
  | expectedObjectEnd => "expected \x60,\x60 or \x60\x7d\x60"
  | keyNotString => "key must be a string"
  | controlCharacter =>
    "control character (\\u0000-\\u001F) found while parsing a string"
  | badEscape => "invalid escape"
  | loneSurrogate => "lone leading surrogate in hex escape"
  | cutEscape => "unexpected end of hex escape"
  | badNumber => "invalid number"
  | hugeNumber => "number out of range"
  | trailingComma => "trailing comma"
  | trailingText => "trailing characters"
  | tooDeep => "recursion limit exceeded"
  | wrongType found expected => "invalid type: " ++ found ++ ", expected " ++ expected

/-- A flaw and the number of bytes that were looked at. -/
structure ReadError where
  flaw : Flaw
  index : Nat
deriving DecidableEq, Repr

/-- The line of a place in a text and the number of bytes before it on that line, starting from
given ones. -/
def lineAndColumn : List Char → Nat → Nat × Nat → Nat × Nat
  | _, 0, here => here
  | [], index + 1, (line, column) => (line, column + (index + 1))
  | c :: rest, index@(_ + 1), (line, column) =>
    if c.utf8Size ≤ index then
      lineAndColumn rest (index - c.utf8Size)
        (if c = '\n' then (line + 1, 0) else (line, column + c.utf8Size))
    else
      (line, column + index)

def ReadError.message (error : ReadError) (text : String) : String :=
  let (line, column) := lineAndColumn text.toList error.index (1, 0)
  error.flaw.message ++ " at line " ++ toString line ++ " column " ++ toString column

/-- The rest of a text and the number of bytes before it. -/
structure Place where
  index : Nat
  rest : List Char

abbrev Read := StateT Place (Except ReadError)

namespace Read

variable {α : Type}

/-- Fail with a flaw that shows in what was read, and `more` bytes behind it. -/
def failAfter (more : Nat) (flaw : Flaw) : Read α := do
  throw ⟨flaw, (← get).index + more⟩

def fail (flaw : Flaw) : Read α :=
  failAfter 0 flaw

def failHere (flaw : Flaw) : Read α := do
  failAfter (if (← get).rest.isEmpty then 0 else 1) flaw

def peek : Read (Option Char) := do
  return (← get).rest.head?

def skip : Read Unit :=
  modify fun place =>
    match place.rest with
    | [] => place
    | c :: rest => ⟨place.index + c.utf8Size, rest⟩

def skipWhile (fits : Char → Bool) : Read (List Char) := do
  let place ← get
  let run := place.rest.takeWhile fits
  set (⟨place.index + Text.byteLength run, place.rest.drop run.length⟩ : Place)
  return run

def isSpace (c : Char) : Bool :=
  c == ' ' || c == '\n' || c == '\t' || c == '\r'

def skipSpace : Read (Option Char) := do
  let _ ← skipWhile isSpace
  peek

def repeatWithin (step : Read (Option α)) : Nat → Read (List α)
  | 0 => pure []
  | fuel + 1 => do
    match ← step with
    | none => return []
    | some value => return value :: (← repeatWithin step fuel)

def repeated (step : Read (Option α)) : Read (List α) := do
  repeatWithin step ((← get).rest.length + 1)

/-! ## Words and strings -/

def word : List Char → Read Unit
  | [] => pure ()
  | letter :: letters => do
    match ← peek with
    | none => fail .endInValue
    | some c =>
      if c = letter then
        skip
        word letters
      else
        failAfter 1 .expectedWord

def hexDigit? (c : Char) : Option Nat :=
  if '0' ≤ c ∧ c ≤ '9' then some (c.toNat - '0'.toNat)
  else if 'a' ≤ c ∧ c ≤ 'f' then some (c.toNat - 'a'.toNat + 10)
  else if 'A' ≤ c ∧ c ≤ 'F' then some (c.toNat - 'A'.toNat + 10)
  else none

def hexDigits : Read Nat := do
  let place ← get
  if Text.byteLength place.rest < 4 then
    failAfter (Text.byteLength place.rest) .endInString
  else
    match (place.rest.take 4).mapM hexDigit? with
    | some digits =>
      set (⟨place.index + 4, place.rest.drop 4⟩ : Place)
      return digits.foldl (fun value digit => 16 * value + digit) 0
    | none => failAfter 4 .badEscape

/-- Read a character that the second half of a pair of escapes has to begin with. -/
def pairMark (mark : Char) : Read Unit := do
  match ← peek with
  | none => fail .endInString
  | some c => if c = mark then skip else failAfter 1 .cutEscape

/-- Read an escape by a number behind its mark. Characters beyond the first 65536 are written as
two numbers. -/
def numericEscape : Read Char := do
  let high ← hexDigits
  if 0xDC00 ≤ high ∧ high ≤ 0xDFFF then
    fail .loneSurrogate
  else if 0xD800 ≤ high ∧ high ≤ 0xDBFF then
    pairMark '\\'
    pairMark 'u'
    let low ← hexDigits
    if 0xDC00 ≤ low ∧ low ≤ 0xDFFF then
      return Char.ofNat ((high - 0xD800) * 0x400 + (low - 0xDC00) + 0x10000)
    else
      fail .loneSurrogate
  else
    return Char.ofNat high

def escape : Read Char := do
  match ← peek with
  | none => fail .endInString
  | some 'u' =>
    skip
    numericEscape
  | some c =>
    let plain : Option Char := match c with
      | '\x22' => some '\x22'
      | '\\' => some '\\'
      | '/' => some '/'
      | 'b' => some '\x08'
      | 'f' => some '\x0c'
      | 'n' => some '\n'
      | 'r' => some '\r'
      | 't' => some '\t'
      | _ => none
    match plain with
    | some meant =>
      skip
      return meant
    | none => failAfter 1 .badEscape

def string : Read String := do
  let chars ← repeated do
    match ← peek with
    | none => fail .endInString
    | some '\x22' => return none
    | some '\\' =>
      skip
      return some (← escape)
    | some c =>
      if c.toNat < 0x20 then failAfter 1 .controlCharacter
      else
        skip
        return some c
  skip
  return String.ofList chars

/-! ## Numbers -/

def digitsValue (digits : List Char) (start : Nat) : Nat :=
  digits.foldl (fun value c => 10 * value + (c.toNat - '0'.toNat)) start

/-- Take digits in as long as the number fits in 64 bits; gives the number, how many digits were
taken, and how many were left over. -/
def takeDigits (start : Nat) : List Char → Nat × Nat × Nat
  | [] => (start, 0, 0)
  | c :: digits =>
    let value := 10 * start + (c.toNat - '0'.toNat)
    if value < Nat.pow 2 64 then
      let (total, taken, left) := takeDigits value digits
      (total, taken + 1, left)
    else
      (start, 0, digits.length + 1)

/-- Scale a number by a power of ten in floating point; `none` if it becomes infinite. The number
of steps is bounded by `fuel`. -/
def scaleWithin : Nat → Float → Int → Option Float
  | 0, value, _ => some value
  | fuel + 1, value, exponent =>
    if exponent.natAbs ≤ 308 then
      let power := Float.ofScientific 1 false exponent.natAbs
      if 0 ≤ exponent then
        let scaled := value * power
        if scaled.isInf then none else some scaled
      else
        some (value / power)
    else if value == 0 then
      some value
    else if 0 ≤ exponent then
      none
    else
      scaleWithin fuel (value / 1e308) (exponent + 308)

def realNumber (positive : Bool) (digits : Nat) (exponent : Int) : Read JsonNumber := do
  match scaleWithin 8 (Float.ofNat digits) exponent with
  | some value => return .real (if positive then value else -value)
  | none => fail .hugeNumber

def withExponent (positive : Bool) (digits : Nat) (start : Int) : Read JsonNumber := do
  skip
  let negative ← match ← peek with
    | some '+' =>
      skip
      pure false
    | some '-' =>
      skip
      pure true
    | _ => pure false
  match ← peek with
  | none => fail .endInValue
  | some c =>
    if c.isDigit then
      let exponent := digitsValue (← skipWhile Char.isDigit) 0
      if Nat.pow 2 31 ≤ exponent then
        if digits ≠ 0 ∧ !negative then fail .hugeNumber
        else return .real (if positive then 0.0 else -0.0)
      else
        realNumber positive digits (if negative then start - exponent else start + exponent)
    else
      failAfter 1 .badNumber

def numberRest (positive : Bool) (digits : Nat) (exponent : Int) : Read JsonNumber := do
  match ← peek with
  | some 'e' | some 'E' => withExponent positive digits exponent
  | _ => realNumber positive digits exponent

def fraction (positive : Bool) (whole : Nat) (exponent : Int) : Read JsonNumber := do
  skip
  let run ← skipWhile Char.isDigit
  if run.isEmpty then
    match ← peek with
    | some _ => failHere .badNumber
    | none => fail .endInValue
  else
    let (digits, taken, _) := takeDigits whole run
    numberRest positive digits (exponent - taken)

def number (positive : Bool) : Read JsonNumber := do
  match ← peek with
  | none => fail .endInValue
  | some first =>
    if !first.isDigit then failAfter 1 .badNumber
    else
      let run ← skipWhile Char.isDigit
      if first = '0' ∧ run.length ≠ 1 then
        throw ⟨.badNumber, (← get).index - run.length + 2⟩
      else
        let (digits, _, left) := takeDigits 0 run
        match ← peek with
        | some '.' => fraction positive digits left
        | some 'e' | some 'E' => withExponent positive digits left
        | _ =>
          if left ≠ 0 then realNumber positive digits left
          else if positive then return .natural digits
          else if digits = 0 ∨ Nat.pow 2 63 < digits then return .real (-(Float.ofNat digits))
          else return .negative digits

/-! ## Values -/

def signedNumber (first : Char) : Read JsonNumber := do
  if first = '-' then
    skip
    number false
  else
    number true

def elements (value : Read α) : Read (List α) := do
  let first ← match ← skipSpace with
    | none => failHere .endInArray
    | some ']' => pure []
    | some _ => pure [← value]
  let others ← repeated do
    match ← skipSpace with
    | none => failHere .endInArray
    | some ']' => return none
    | some ',' =>
      skip
      match ← skipSpace with
      | some ']' => failHere .trailingComma
      | some _ => return some (← value)
      | none => failHere .endInValue
    | some _ => failHere .expectedArrayEnd
  skip
  return first ++ others

def member (value : Read α) : Read (String × α) := do
  skip
  let key ← string
  match ← skipSpace with
  | some ':' => skip
  | some _ => failHere .expectedColon
  | none => failHere .endInObject
  return (key, ← value)

def members (value : Read α) : Read (List (String × α)) := do
  let first ← match ← skipSpace with
    | none => failHere .endInObject
    | some '\x7d' => pure []
    | some '\x22' => pure [← member value]
    | some _ => failHere .keyNotString
  let others ← repeated do
    match ← skipSpace with
    | none => failHere .endInObject
    | some '\x7d' => return none
    | some ',' =>
      skip
      match ← skipSpace with
      | some '\x22' => return some (← member value)
      | some '\x7d' => failHere .trailingComma
      | some _ => failHere .keyNotString
      | none => failHere .endInValue
    | some _ => failHere .expectedObjectEnd
  skip
  return first ++ others

/-- Read a value, given the reader of the values in arrays and objects, if these are allowed. -/
def valueWith (nested : Option (Read Json)) : Read Json := do
  match ← skipSpace with
  | none => failHere .endInValue
  | some 'n' =>
    skip
    word ['u', 'l', 'l']
    return .null
  | some 't' =>
    skip
    word ['r', 'u', 'e']
    return .bool true
  | some 'f' =>
    skip
    word ['a', 'l', 's', 'e']
    return .bool false
  | some '\x22' =>
    skip
    return .string (← string)
  | some '[' =>
    match nested with
    | none => failHere .tooDeep
    | some inner =>
      skip
      return .array (← elements inner)
  | some '\x7b' =>
    match nested with
    | none => failHere .tooDeep
    | some inner =>
      skip
      return .object (← members inner)
  | some c =>
    if c = '-' ∨ c.isDigit then return .number (← signedNumber c)
    else failHere .expectedValue

def value : Nat → Read Json
  | 0 => valueWith none
  | depth + 1 => valueWith (some (value depth))

def finish : Read Unit := do
  match ← skipSpace with
  | none => pure ()
  | some _ => failHere .trailingText

def depthLimit : Nat := 127

end Read

end SqlTables.Json
