import SqlTables.Sql.Parse.Basic

/-!
# Precedence of operators

How tightly the operator at the front of the lexemes binds. A precedence of zero means that no
operator follows.
-/

namespace SqlTables.Sql

/-- Classes of operators, from tight to loose. -/
inductive Precedence where
  | doubleColon
  | timeZone
  | product
  | sum
  | exclusiveOr
  | ampersand
  | caret
  | pipe
  | between
  | comparison
  | like
  | is
  | other
  | negation
  | conjunction
  | disjunction
deriving DecidableEq, Repr

namespace Precedence

def standardValue : Precedence → Nat
  | doubleColon => 50
  | timeZone => 41
  | product => 40
  | sum => 30
  | exclusiveOr => 24
  | ampersand => 23
  | caret => 22
  | pipe => 21
  | between => 20
  | comparison => 20
  | like => 19
  | is => 17
  | other => 16
  | negation => 15
  | conjunction => 10
  | disjunction => 5

def postgreSqlValue : Precedence → Nat
  | doubleColon => 140
  | timeZone => 110
  | product => 90
  | sum => 80
  | exclusiveOr => 75
  | ampersand => 70
  | caret => 100
  | pipe => 70
  | between => 60
  | comparison => 50
  | like => 60
  | is => 40
  | other => 70
  | negation => 30
  | conjunction => 20
  | disjunction => 10

def value (dialect : Dialect) (precedence : Precedence) : Nat :=
  if dialect == .postgreSql then precedence.postgreSqlValue else precedence.standardValue

def patternKeywords : List String :=
  ["LIKE", "ILIKE", "RLIKE", "REGEXP", "SIMILAR"]

/-- The class of a keyword, given the two lexemes behind it. -/
def ofKeyword? (keyword : String) (second third : Lexeme) : Option Precedence :=
  match keyword with
  | "OR" => some disjunction
  | "AND" => some conjunction
  | "XOR" => some exclusiveOr
  | "AT" => if second.isWord "TIME" && third.isWord "ZONE" then some timeZone else none
  | "NOT" =>
    if second.isOneOf ["IN", "BETWEEN"] then some between
    else if second.isOneOf patternKeywords then some like
    else none
  | "IS" => some is
  | "IN" | "BETWEEN" | "OVERLAPS" | "OPERATOR" => some between
  | "DIV" => some product
  | _ => if patternKeywords.contains keyword then some like else none

def ofSymbol? (text : String) : Option Precedence :=
  match text with
  | "=" | "<" | "<=" | "<>" | ">" | ">=" | "==" | "<=>" | "~" | "~*" | "!~" | "!~*" | "~~"
  | "~~*" | "!~~" | "!~~*" => some comparison
  | "|" => some pipe
  | "^" | "#" | "<<" | ">>" => some caret
  | "&" => some ampersand
  | "+" | "-" => some sum
  | "*" | "/" | "//" | "%" | "||" => some product
  | "::" | "!" | "[" | "&&" | "^@" => some doubleColon
  | "->" | "->>" | "#>" | "#>>" | "@>" | "<@" | "#-" | "@?" | "@@" | "?" | "?&" | "?|" =>
    some other
  | _ => none

/-- The strength that PostgreSQL gives to symbols of its own accord. -/
def postgreSqlSymbol? (text : String) : Option Nat :=
  match text with
  | "[" => some 130
  | "->" | "->>" | "#>" | "#>>" | "@>" | "<@" | "#-" | "@?" | "@@" | "?" | "?&" | "?|" | "!" | "&&"
  | "^@" | "||" | "#" | "<<" | ">>" => some 70
  | _ => none

def next : Parse Nat := do
  let dialect ← Parse.dialect
  let lexeme ← Parse.peek
  let strength (precedence? : Option Precedence) : Nat :=
    (precedence?.map (value dialect)).getD 0
  match lexeme.token with
  | .word _ none =>
    if dialect == .postgreSql && lexeme.isWord "COLLATE" then
      return 120
    else
      return strength (ofKeyword? lexeme.keyword (← Parse.peekAt 1) (← Parse.peekAt 2))
  | .symbol text =>
    if dialect == .postgreSql then
      return (postgreSqlSymbol? text).getD (strength (ofSymbol? text))
    else if dialect == .snowflake && text == ":" then
      return value dialect doubleColon
    else
      return strength (ofSymbol? text)
  | .customOperator _ => return value dialect other
  | _ => return 0

end Precedence

end SqlTables.Sql
