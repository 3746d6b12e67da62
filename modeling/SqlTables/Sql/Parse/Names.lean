import SqlTables.Name.Ident
import SqlTables.Sql.Parse.Basic

/-!
# Names and literals

Readers of identifiers, object names, aliases, numbers and string literals.
-/

namespace SqlTables.Sql.Parse

open Text (Position)

/-! ## Identifiers -/

def identOf (value : String) (quote : Option Char) (lexeme : Lexeme) : Ident :=
  ⟨value, quote, lexeme.position⟩

/-- An identifier written as a string literal; it has no place. -/
def literalIdent (value : String) (quote : Char) : Ident :=
  ⟨value, some quote, Position.unknown⟩

def identOfLexeme? (lexeme : Lexeme) : Option Ident :=
  match lexeme.token with
  | .word value quote => some (identOf value quote lexeme)
  | .literal .single value => some (literalIdent value '\x27')
  | .literal .double value => some (literalIdent value '\x22')
  | _ => none

def identifier : Parse Ident := do
  let lexeme ← next
  match identOfLexeme? lexeme with
  | some ident => return ident
  | none => expected "identifier" lexeme

def digitsBeforeFinalPeriod? (digits : String) : Option String :=
  match digits.toList.reverse with
  | '.' :: rest =>
    if !rest.isEmpty && rest.all Char.isDigit then some (String.ofList rest.reverse) else none
  | _ => none

/-- One more segment of an identifier with hyphens, behind the hyphen at `hyphen`: the identifier
so far, whether a period was part of the segment, and whether the identifier has to end there. -/
def hyphenSegment (hyphen : Position) (ident : Ident) : Parse (Ident × Bool × Bool) := do
  let what := "continuation of hyphenated identifier"
  let extended (more : String) : Ident := { ident with value := ident.value ++ "-" ++ more }
  match (← peek).blank with
  | some blank => fail (.expected what (.symbol blank) ⟨hyphen.line, hyphen.column + 1⟩)
  | none =>
    let lexeme ← next
    match lexeme.token with
    | .word value none => return (extended value, false, false)
    | .number digits false =>
      if digits.endsWith "." then
        match digitsBeforeFinalPeriod? digits with
        | some whole => return (extended whole, true, false)
        | none => expected what lexeme
      else
        return (extended digits, false, !(← sees "."))
    | _ => expected what lexeme

def hyphenSegments : Nat → Ident → Bool → Parse (Ident × Bool)
  | 0, ident, _ => pure (ident, false)
  | fuel + 1, ident, mustEnd => do
    let lexeme ← peek
    if lexeme.isSymbol "-" && lexeme.blank.isNone then
      skip 1
      let (longer, closed, mustEnd) ← hyphenSegment lexeme.position ident
      if closed then return (longer, true)
      else hyphenSegments fuel longer mustEnd
    else if mustEnd && lexeme.token != .finish then
      expected "whitespace following hyphenated identifier" (← next)
    else
      return (ident, false)

/-- An identifier that may contain hyphens without blanks around them, and whether it took the
period behind it. -/
def hyphenatedIdentifier : Parse (Ident × Bool) := do
  let lexeme ← peek
  match lexeme.token with
  | .word value none =>
    skip 1
    hyphenSegments ((← get).length + 1) (identOf value none lexeme) false
  | _ => return (← identifier, false)

def splitAtDots (ident : Ident) : List Ident :=
  (ident.value.splitOn ".").map fun value => { ident with value := value }

def namePart (wildcards : Bool) : Parse Ident := do
  let lexeme ← peek
  if wildcards && lexeme.isSymbol "*" then
    skip 1
    return identOf "*" none lexeme
  else
    identifier

/-- Read the parts of an object name. Two dots in a row leave out the second part if the
dialect has such names. -/
def nameParts (wildcards : Bool) : Parse ObjectName := do
  let first ← namePart wildcards
  let doubled ← dialectHas Dialect.hasDoubleDotNames
  let second ←
    if ← accept "." then
      if doubled && (← sees ".") then
        skip 1
        pure [Ident.plain "", ← identifier]
      else
        pure [← namePart wildcards]
    else
      pure []
  let others ← many do
    if second.isEmpty then
      return none
    else if ← accept "." then
      return some (← namePart wildcards)
    else
      return none
  return first :: second ++ others

def hyphenatedParts : Parse ObjectName := do
  let (first, taken) ← hyphenatedIdentifier
  let others ← improve (fun ((parts, taken) : ObjectName × Bool) => do
    if (← accept ".") || taken then
      let (ident, taken) ← hyphenatedIdentifier
      return some (parts ++ [ident], taken)
    else
      return none) ([first], taken)
  return others.1

/-- The parts of an object name that the dialect tells apart: in BigQuery a dot in a part counts
like one between parts. -/
def separateParts (parts : ObjectName) : Parse ObjectName := do
  if ← dialectAmong [.bigQuery] then
    return parts.flatMap splitAtDots
  else
    return parts

/-- Read an object name; `inTable` tells whether it names an operand of `FROM`. -/
def objectName (inTable : Bool) : Parse ObjectName := do
  let hyphenated := inTable && (← dialectAmong [.bigQuery])
  separateParts (← if hyphenated then hyphenatedParts else nameParts false)

def wildcardName : Parse ObjectName := do
  separateParts (← nameParts true)

def identifiers : Parse (List Ident) :=
  commaSeparated identifier

def optionalColumns (mayBeEmpty : Bool) : Parse (List Ident) := do
  if ← accept "(" then
    if mayBeEmpty && (← sees ")") then
      skip 1
      return []
    else
      let columns ← identifiers
      expect ")"
      return columns
  else
    return []

def columnList {α : Type} (column : Parse α) : Parse (List α) := do
  if ← sees "(" then parenthesized (commaSeparated column)
  else expectedHere "a list of columns in parentheses"

def columns : Parse (List Ident) :=
  columnList identifier

/-- Read an alias with or without `AS`. Without it, a word that starts another construct, as told
by the word and what follows it, is no alias. -/
def optionalAliasUnless (starts : Lexeme → Lexeme → Bool) : Parse (Option Ident) := do
  let marked ← acceptKeyword "AS"
  let lexeme ← peek
  match lexeme.token with
  | .word value quote =>
    if marked || !starts lexeme (← peekAt 1) then
      skip 1
      return some (identOf value quote lexeme)
    else
      return none
  | .literal .single _ | .literal .double _ =>
    skip 1
    return identOfLexeme? lexeme
  | _ =>
    if marked then
      expected "an identifier after AS" (← next)
    else
      return none

/-- Read an alias with or without `AS`. Without it, one of the given words is no alias. -/
def optionalAlias (stops : List String) : Parse (Option Ident) :=
  optionalAliasUnless fun word _ => word.isOneOf stops

/-! ## Numbers and string literals -/

def unsignedProblem? (bits : Nat) (digits : String) : Option String :=
  if digits.isEmpty || !digits.toList.all Char.isDigit then
    some "invalid digit found in string"
  else if digits.toNat?.getD 0 ≥ Nat.pow 2 bits then
    some "number too large to fit in target type"
  else
    none

/-- The number of some bits that digits stand for; a failure is placed at a position. -/
def unsignedOf (bits : Nat) (digits : String) (position : Position) : Parse Nat := do
  match unsignedProblem? bits digits with
  | none => return digits.toNat?.getD 0
  | some problem =>
    fail (.refused
      ("Could not parse '" ++ digits ++ "' as u" ++ toString bits ++ ": " ++ problem) position)

def unsignedWithin (bits : Nat) : Parse Nat := do
  let lexeme ← next
  match lexeme.token with
  | .number digits _ => unsignedOf bits digits lexeme.position
  | _ => expected "literal int" lexeme

def unsigned : Parse Nat :=
  unsignedWithin 64

def literalString : Parse String := do
  let lexeme ← next
  match lexeme.token with
  | .word value quote =>
    if quote.isSome || !isKeyword lexeme.keyword then return value
    else expected "literal string" lexeme
  | .literal .single value | .literal .double value | .literal .unicode value => return value
  | .literal .escaped value =>
    if ← dialectAmong [.postgreSql, .generic] then return value
    else expected "literal string" lexeme
  | _ => expected "literal string" lexeme

inductive Value where
  | number (text : String)
  | placeholder (text : String)
  /-- A string literal without a mark in front of its quotes. -/
  | string
  | other
deriving DecidableEq, Repr

def value : Parse Value := do
  let lexeme ← next
  match lexeme.token with
  | .word _ quote =>
    match quote with
    | none =>
      if lexeme.isWord "NULL" then return .other
      else if lexeme.isOneOf ["TRUE", "FALSE"] && (← dialectHas Dialect.hasTruthLiterals) then
        return .other
      else
        expected "a concrete value" lexeme
    | some '\x22' | some '\x27' => return .string
    | some _ => expected "A value?" lexeme
  | .number _ _ => return .number lexeme.token.show
  | .literal .single _ | .literal .double _ => return .string
  | .literal _ _ => return .other
  | .placeholder text => return .placeholder text
  | .symbol ":" | .symbol "@" =>
    let following ← next
    match following.token with
    | .word name _ | .number name false => return .placeholder (lexeme.token.show ++ name)
    | _ => expected "placeholder" following
  | _ => expected "a value" lexeme

def numberValue : Parse String := do
  let lexemes ← get
  match ← value with
  | .number text | .placeholder text => return text
  | _ =>
    set lexemes
    expectedHere "literal number"

def signedNumber : Parse String := do
  if ← accept "+" then return "+" ++ (← numberValue)
  else if ← accept "-" then return "-" ++ (← numberValue)
  else numberValue

end SqlTables.Sql.Parse
