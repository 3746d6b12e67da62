import SqlTables.Sql.Dialect
import SqlTables.Sql.Keyword
import SqlTables.Sql.LexError
import SqlTables.Sql.Token

/-!
# Reading lexemes

A `Parse α` reads a value of `α` from the front of a list of lexemes. It fails at a lexeme that
does not fit, with a free message, or because the text is nested too deeply; what it had read
until then stays read. Repetition is bounded by the number of lexemes that are left.
-/

namespace SqlTables.Sql

open Text (Position)

/-- Why a list of lexemes is not what was asked for. -/
inductive Failure where
  /-- Something else was expected than the lexeme found. -/
  | expected (what : String) (found : Token) (position : Position)
  /-- A message of its own. -/
  | refused (text : String) (position : Position)
  /-- The text is nested more deeply than the grammar follows. -/
  | tooDeep
deriving DecidableEq, Repr

def Failure.message : Failure → String
  | expected what found position =>
    "Expected: " ++ what ++ ", found: " ++ found.show ++ placeSuffix position
  | refused text position => text ++ placeSuffix position
  | tooDeep => "recursion limit exceeded"

structure Setting where
  dialect : Dialect
  /-- Whether the text belongs to a `CONNECT BY` clause. -/
  connectBy : Bool
deriving DecidableEq, Repr

/-- A reader of lexemes. -/
abbrev Parse := ReaderT Setting (ExceptT Failure (StateM (List Lexeme)))

namespace Parse

variable {α β : Type}

/-! ## Lexemes ahead -/

def fail (failure : Failure) : Parse α :=
  throw failure

def expected (what : String) (found : Lexeme) : Parse α :=
  fail (.expected what found.token found.position)

def refuse (text : String) : Parse α :=
  fail (.refused text Position.unknown)

def dialect : Parse Dialect := do
  return (← read).dialect

def dialectHas (property : Dialect → Bool) : Parse Bool := do
  return property (← dialect)

def dialectAmong (dialects : List Dialect) : Parse Bool := do
  return (← dialect).among dialects

/-- The lexeme after a number of others. -/
def peekAt (skipped : Nat) : Parse Lexeme := do
  return (← get).getD skipped Lexeme.finish

def peek : Parse Lexeme :=
  peekAt 0

def next : Parse Lexeme := do
  let lexeme ← peek
  modify List.tail
  return lexeme

def skip (count : Nat) : Parse Unit :=
  modify (List.drop count)

def expectedHere (what : String) : Parse α := do
  expected what (← peek)

/-- Read `reader`, or nothing if it fails; then nothing is consumed. Only the failure of depth
is passed on. -/
def attempt (reader : Parse α) : Parse (Option α) := fun setting lexemes =>
  match reader setting lexemes with
  | (.ok value, rest) => (.ok (some value), rest)
  | (.error .tooDeep, rest) => (.error .tooDeep, rest)
  | (.error _, _) => (.ok none, lexemes)

/-- Read `reader`, or nothing if it fails for whatever reason; what it had read until then is not
given back. -/
def settle (reader : Parse α) : Parse (Option α) := fun setting lexemes =>
  match reader setting lexemes with
  | (.ok value, rest) => (.ok (some value), rest)
  | (.error _, rest) => (.ok none, rest)

/-! ## Symbols and keywords -/

def sees (text : String) : Parse Bool := do
  return (← peek).isSymbol text

def accept (text : String) : Parse Bool := do
  if ← sees text then
    skip 1
    return true
  else
    return false

def expect (text : String) : Parse Unit := do
  unless ← accept text do
    expectedHere text

def seesKeyword (keyword : String) : Parse Bool := do
  return (← peek).isWord keyword

def seesOneOf (keywords : List String) : Parse Bool := do
  return (← peek).isOneOf keywords

def startsWith : List String → List Lexeme → Bool
  | [], _ => true
  | _ :: _, [] => false
  | keyword :: keywords, lexeme :: lexemes =>
    lexeme.isWord keyword && startsWith keywords lexemes

def seesKeywords (keywords : List String) : Parse Bool := do
  return startsWith keywords (← get)

def acceptKeyword (keyword : String) : Parse Bool := do
  if ← seesKeyword keyword then
    skip 1
    return true
  else
    return false

def acceptKeywords (keywords : List String) : Parse Bool := do
  if ← seesKeywords keywords then
    skip keywords.length
    return true
  else
    return false

def expectKeyword (keyword : String) : Parse Unit := do
  unless ← acceptKeyword keyword do
    expectedHere keyword

def expectKeywords : List String → Parse Unit
  | [] => pure ()
  | keyword :: keywords => do
    expectKeyword keyword
    expectKeywords keywords

def acceptOneOf (keywords : List String) : Parse (Option String) := do
  let lexeme ← peek
  if lexeme.isOneOf keywords then
    skip 1
    return some lexeme.keyword
  else
    return none

def acceptsOneOf (keywords : List String) : Parse Bool := do
  return (← acceptOneOf keywords).isSome

def expectOneOf (keywords : List String) : Parse String := do
  match ← acceptOneOf keywords with
  | some keyword => return keyword
  | none => expectedHere ("one of " ++ " or ".intercalate keywords)

/-! ## Repetition and lists -/

/-- Run `step` until it gives nothing, at most as often as `fuel` says. -/
def manyWithin (step : Parse (Option α)) : Nat → Parse (List α)
  | 0 => pure []
  | fuel + 1 => do
    match ← step with
    | none => return []
    | some value => return value :: (← manyWithin step fuel)

def many (step : Parse (Option α)) : Parse (List α) := do
  manyWithin step ((← get).length + 1)

/-- Improve a value until `step` gives nothing, at most as often as `fuel` says. -/
def improveWithin (step : α → Parse (Option α)) : Nat → α → Parse α
  | 0, value => pure value
  | fuel + 1, value => do
    match ← step value with
    | none => return value
    | some better => improveWithin step fuel better

def improve (step : α → Parse (Option α)) (value : α) : Parse α := do
  improveWithin step ((← get).length + 1) value

/-- Whether the lexeme behind a comma shows that the list had ended before the comma. A word shows
it if `stops` holds of the word and the lexeme behind it. -/
def endsList (stops : Lexeme → Lexeme → Bool) (lexeme behind : Lexeme) : Bool :=
  match lexeme.token with
  | .word _ _ => stops lexeme behind
  | .symbol text => [")", ";", "]", "\x7d"].contains text
  | .finish => true
  | _ => false

/-- Read a comma if a further element of a list follows it. A comma behind the last element is
read over if `trailing` allows it. -/
def listContinues (trailing : Bool) (stops : Lexeme → Lexeme → Bool) : Parse Bool := do
  if ← accept "," then
    return !(trailing && endsList stops (← peek) (← peekAt 1))
  else
    return false

/-- Read elements separated by commas, given whether a comma may follow the last one and which
words then show the end. -/
def separatedBy (trailing : Bool) (stops : Lexeme → Lexeme → Bool) (item : Parse α) :
    Parse (List α) := do
  let first ← item
  let others ← many do
    if ← listContinues trailing stops then some <$> item else pure none
  return first :: others

def stopsColumns (word _behind : Lexeme) : Bool :=
  word.isOneOf columnAliasStops

def commaSeparated (item : Parse α) : Parse (List α) := do
  separatedBy (← dialectHas Dialect.hasTrailingCommas) stopsColumns item

/-- Read one or more elements separated by commas, none of which follows the last one. -/
def strictlySeparated (item : Parse α) : Parse (List α) :=
  separatedBy false (fun _ _ => false) item

/-- Read elements separated by commas up to a closing symbol, which is not read. -/
def commaSeparatedUntil (close : String) (item : Parse α) : Parse (List α) := do
  if ← sees close then
    return []
  else if (← dialectHas Dialect.hasTrailingCommas) && (← sees ",")
      && (← peekAt 1).isSymbol close then
    skip 1
    return []
  else
    commaSeparated item

def parenthesized (reader : Parse α) : Parse α := do
  expect "("
  let value ← reader
  expect ")"
  return value

def given (condition : Bool) (reader : Parse α) : Parse (Option α) :=
  if condition then some <$> reader else pure none

def afterKeyword (keyword : String) (reader : Parse α) : Parse (Option α) := do
  given (← acceptKeyword keyword) reader

def afterKeywords (keywords : List String) (reader : Parse α) : Parse (Option α) := do
  given (← acceptKeywords keywords) reader

def orEmpty (reader : Parse (Option (List α))) : Parse (List α) := do
  return (← reader).getD []

end Parse

end SqlTables.Sql
