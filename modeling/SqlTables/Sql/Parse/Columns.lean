import SqlTables.Sql.Parse.Query

/-!
# Definitions of columns

Columns with their types and options, and the constraints of a table.
-/

namespace SqlTables.Sql.Parse

/-! ## Options by name -/

def partitionOption (sub : Nested) : Parse (List Expr) := do
  expectKeyword "PARTITION"
  parenthesized do
    let _ ← identifier
    expectKeyword "RANGE"
    let _ ← acceptOneOf ["LEFT", "RIGHT"]
    expectKeywords ["FOR", "VALUES"]
    parenthesized sub.expressions

def clusteredOption : Parse Unit := do
  if ← acceptKeywords ["CLUSTERED", "COLUMNSTORE", "INDEX", "ORDER"] then
    let _ ← columns
  else if ← acceptKeywords ["CLUSTERED", "COLUMNSTORE", "INDEX"] then
    pure ()
  else if ← acceptKeywords ["CLUSTERED", "INDEX"] then
    let _ ← parenthesized <| commaSeparated do
      let _ ← identifier
      acceptOneOf ["ASC", "DESC"]
  else
    refuse "invalid CLUSTERED sequence"

/-- Read an option; gives its values. -/
def option (sub : Nested) : Parse (List Expr) := do
  let wide ← dialectAmong [.msSql, .generic]
  let lexeme ← peek
  if wide && lexeme.isWord "HEAP" then
    let _ ← identifier
    return []
  else if wide && lexeme.isWord "PARTITION" then
    partitionOption sub
  else if wide && lexeme.isWord "CLUSTERED" then
    clusteredOption
    return []
  else
    let _ ← identifier
    expect "="
    return [← sub.expression]

/-- Read options in parentheses; gives their values. -/
def optionList (sub : Nested) : Parse (List Expr) := do
  let options ← parenthesized (commaSeparatedUntil ")" (option sub))
  return options.flatten

def optionsAfter (sub : Nested) (keyword : String) : Parse Unit := do
  let _ ← afterKeyword keyword (optionList sub)

/-- Read properties in parentheses behind keywords, if the keywords are next; tells whether they
were. -/
def propertiesAfter (sub : Nested) (keywords : List String) : Parse Bool := do
  return (← afterKeywords keywords (parenthesized (commaSeparated (option sub)))).isSome

def inlineComment : Parse Unit := do
  if ← acceptKeyword "COMMENT" then
    let _ ← accept "="
    let lexeme ← next
    match lexeme.token with
    | .literal .single _ => pure ()
    | _ => expected "comment" lexeme

/-! ## Constraints -/

def referentialAction : Parse Unit := do
  match ← acceptFirst
      [["RESTRICT"], ["CASCADE"], ["SET", "NULL"], ["NO", "ACTION"], ["SET", "DEFAULT"]] with
  | some _ => pure ()
  | none => expectedHere "one of RESTRICT, CASCADE, SET NULL, NO ACTION or SET DEFAULT"

def referentialActions : Parse Unit := do
  let _ ← improve (fun ((onDelete, onUpdate) : Bool × Bool) => do
    if !onDelete && (← seesKeywords ["ON", "DELETE"]) then
      skip 2
      referentialAction
      return some (true, onUpdate)
    else if !onUpdate && (← seesKeywords ["ON", "UPDATE"]) then
      skip 2
      referentialAction
      return some (onDelete, true)
    else
      return none) (false, false)

structure Characteristics where
  deferrable : Bool
  initially : Bool
  enforced : Bool

def characteristics : Parse Unit := do
  let _ ← improve (fun (said : Characteristics) => do
    if !said.deferrable && (← seesKeywords ["NOT", "DEFERRABLE"]) then
      skip 2
      return some { said with deferrable := true }
    else if !said.deferrable && (← seesKeyword "DEFERRABLE") then
      skip 1
      return some { said with deferrable := true }
    else if !said.initially && (← seesKeyword "INITIALLY") then
      skip 1
      unless ← acceptsOneOf ["DEFERRED", "IMMEDIATE"] do
        expectedHere "one of DEFERRED or IMMEDIATE"
      return some { said with initially := true }
    else if !said.enforced && (← seesKeyword "ENFORCED") then
      skip 1
      return some { said with enforced := true }
    else if !said.enforced && (← seesKeywords ["NOT", "ENFORCED"]) then
      skip 2
      return some { said with enforced := true }
    else
      return none) ⟨false, false, false⟩

def indexKind : Parse Bool := do
  if ← acceptKeyword "USING" then
    unless ← acceptsOneOf ["BTREE", "HASH"] do
      expectedHere "index type \x7bBTREE | HASH\x7d"
    return true
  else
    return false

def indexOptions : Parse Unit := do
  let _ ← many do
    if ← indexKind then
      return some ()
    else if ← acceptKeyword "COMMENT" then
      let _ ← literalString
      return some ()
    else
      return none

def nullsDistinct : Parse Unit := do
  if ← acceptKeyword "NULLS" then
    let _ ← acceptKeyword "NOT"
    expectKeyword "DISTINCT"

def indexedColumns : Parse Unit := do
  let _ ← attempt identifier
  let _ ← indexKind
  let _ ← columns

def reference : Parse Unit := do
  let _ ← objectName false
  let _ ← optionalColumns false
  referentialActions
  characteristics

def uniqueConstraint : Parse Unit := do
  if ← acceptsOneOf ["KEY", "INDEX"] then
    unless ← dialectAmong [.generic, .mySql] do
      expectedHere "\x60index_name\x60 or \x60(column_name [, ...])\x60"
  nullsDistinct
  indexedColumns
  indexOptions
  characteristics

def tableConstraint (sub : Nested) : Parse Bool := do
  let name ← afterKeyword "CONSTRAINT" identifier
  let wide ← dialectAmong [.generic, .mySql]
  let lexeme ← peek
  match lexeme.keyword with
  | "UNIQUE" =>
    skip 1
    uniqueConstraint
    return true
  | "PRIMARY" =>
    skip 1
    expectKeyword "KEY"
    indexedColumns
    indexOptions
    characteristics
    return true
  | "FOREIGN" =>
    skip 1
    expectKeyword "KEY"
    let _ ← columns
    expectKeyword "REFERENCES"
    reference
    return true
  | "CHECK" =>
    skip 1
    let _ ← parenthesized sub.expression
    return true
  | keyword =>
    if wide && name.isNone && (keyword == "INDEX" || keyword == "KEY") then
      skip 1
      unless ← seesKeyword "USING" do
        let _ ← attempt identifier
      let _ ← indexKind
      let _ ← columns
      return true
    else if wide && (keyword == "FULLTEXT" || keyword == "SPATIAL") then
      skip 1
      match name with
      | some ident =>
        let what := "FULLTEXT or SPATIAL option without constraint name"
        fail (.expected what (.word ident.shown none) lexeme.position)
      | none =>
        let _ ← acceptOneOf ["KEY", "INDEX"]
        let _ ← attempt identifier
        let _ ← columns
        return true
    else if name.isSome then
      expected "PRIMARY, UNIQUE, FOREIGN, or CHECK" (← next)
    else
      return false

/-! ## Sequences -/

def sequenceOptions : Parse Unit := do
  if ← acceptKeyword "INCREMENT" then
    let _ ← acceptKeyword "BY"
    let _ ← signedNumber
  if ← acceptKeyword "MINVALUE" then
    let _ ← signedNumber
  else
    let _ ← acceptKeywords ["NO", "MINVALUE"]
  if ← acceptKeyword "MAXVALUE" then
    let _ ← signedNumber
  else
    let _ ← acceptKeywords ["NO", "MAXVALUE"]
  if ← acceptKeyword "START" then
    let _ ← acceptKeyword "WITH"
    let _ ← signedNumber
  let _ ← afterKeyword "CACHE" signedNumber
  let _ ← acceptFirst [["NO", "CYCLE"], ["CYCLE"]]

/-! ## Options of columns -/

def generatedStorage : Parse Unit := do
  let _ ← acceptOneOf ["STORED", "VIRTUAL"]

def generatedOption (sub : Nested) : Parse (Option (List Expr)) := do
  match ← acceptFirst [["ALWAYS", "AS", "IDENTITY"], ["BY", "DEFAULT", "AS", "IDENTITY"]] with
  | some _ =>
    if ← accept "(" then
      sequenceOptions
      expect ")"
    return some []
  | none =>
    if ← acceptKeywords ["ALWAYS", "AS"] then
      if ← accept "(" then
        let expr ← sub.expression
        expect ")"
        if ← dialectAmong [.postgreSql] then
          expectKeyword "STORED"
        else
          generatedStorage
        return some [expr]
      else
        return none
    else
      return none

def identityParameters : Parse Unit := do
  if ← accept "(" then
    let _ ← signedNumber
    expect ","
    let _ ← signedNumber
    expect ")"

def tag : Parse Unit := do
  let _ ← identifier
  expect "="
  let _ ← literalString

def tags : Parse Unit := do
  let _ ← parenthesized (commaSeparated tag)

def identityOrder : Parse Unit := do
  if ← acceptKeyword "START" then
    let _ ← signedNumber
    expectKeyword "INCREMENT"
    let _ ← signedNumber
  else
    identityParameters
  let _ ← acceptOneOf ["ORDER", "NOORDER"]

def columnPolicy : Parse Unit := do
  let _ ← identifier
  let _ ← afterKeyword "USING" (parenthesized identifiers)

def snowflakeColumnOption : Parse Bool := do
  let lexemes ← get
  let _ ← acceptKeyword "WITH"
  if ← acceptsOneOf ["IDENTITY", "AUTOINCREMENT"] then
    identityOrder
    return true
  else if (← acceptFirst [["MASKING", "POLICY"], ["PROJECTION", "POLICY"]]).isSome then
    columnPolicy
    return true
  else if ← acceptKeyword "TAG" then
    tags
    return true
  else
    set lexemes
    return false

def commonColumnOption (sub : Nested) : Parse (Option (List Expr)) := do
  if ← acceptKeywords ["CHARACTER", "SET"] then
    let _ ← objectName false
    return some []
  else if ← acceptKeywords ["NOT", "NULL"] then
    return some []
  else if ← acceptKeyword "COMMENT" then
    let lexeme ← next
    match lexeme.token with
    | .literal .single _ => return some []
    | _ => expected "string" lexeme
  else if ← acceptKeyword "NULL" then
    return some []
  else if ← acceptKeyword "DEFAULT" then
    return some [← sub.expression]
  else
    return none

def computedColumnOption (sub : Nested) : Parse (Option (List Expr)) := do
  if ← dialectAmong [.clickHouse, .generic] then
    if ← acceptsOneOf ["MATERIALIZED", "ALIAS"] then
      return some [← sub.expression]
    else if ← acceptKeyword "EPHEMERAL" then
      if (← sees ",") || (← sees ")") then return some [] else return some [← sub.expression]
    else
      return none
  else
    return none

def columnConstraint (sub : Nested) : Parse (Option (List Expr)) := do
  if (← acceptFirst [["PRIMARY", "KEY"], ["UNIQUE"]]).isSome then
    characteristics
    return some []
  else if ← acceptKeyword "REFERENCES" then
    reference
    return some []
  else if ← acceptKeyword "CHECK" then
    return some [← parenthesized sub.expression]
  else
    return none

/-- Read keywords that are an option in some dialects. They are read over in the others. -/
def optionKeywords (keywords : List String) (dialects : List Dialect) : Parse Bool := do
  if ← acceptKeywords keywords then dialectAmong dialects else return false

def dialectColumnOption (sub : Nested) : Parse (Option (List Expr)) := do
  if ← optionKeywords ["AUTO_INCREMENT"] [.mySql, .generic] then
    return some []
  else if ← optionKeywords ["AUTOINCREMENT"] [.sqlite, .generic] then
    return some []
  else if ← optionKeywords ["ASC"] [.sqlite, .generic] then
    return some []
  else if ← optionKeywords ["DESC"] [.sqlite, .generic] then
    return some []
  else if ← optionKeywords ["ON", "UPDATE"] [.mySql, .generic] then
    return some [← sub.expression]
  else if ← acceptKeyword "GENERATED" then
    generatedOption sub
  else if (← dialectAmong [.bigQuery, .generic]) && (← seesKeyword "OPTIONS") then
    skip 1
    return some (← optionList sub)
  else if ← optionKeywords ["AS"] [.mySql, .sqlite, .duckDb, .generic] then
    let expr ← parenthesized sub.expression
    generatedStorage
    return some [expr]
  else if ← optionKeywords ["IDENTITY"] [.msSql, .generic] then
    identityParameters
    return some []
  else if (← dialectAmong [.sqlite, .generic]) && (← seesKeywords ["ON", "CONFLICT"]) then
    skip 2
    let _ ← expectOneOf ["ROLLBACK", "ABORT", "FAIL", "IGNORE", "REPLACE"]
    return some []
  else
    return none

/-- Read an option of a column, if one is next; gives the expressions in it. -/
def columnOption (sub : Nested) : Parse (Option (List Expr)) := do
  let own ← if ← dialectAmong [.snowflake] then snowflakeColumnOption else pure false
  if own then
    return some []
  else if let some exprs ← commonColumnOption sub then
    return some exprs
  else if let some exprs ← computedColumnOption sub then
    return some exprs
  else if let some exprs ← columnConstraint sub then
    return some exprs
  else
    dialectColumnOption sub

def columnOptions (sub : Nested) : Parse Unit := do
  let _ ← many (columnOption sub)

/-! ## Columns -/

def untypedStops : List String :=
  ["CONSTRAINT", "PRIMARY", "NOT", "UNIQUE", "CHECK", "DEFAULT", "COLLATE", "REFERENCES",
    "GENERATED", "AS"]

def seesUntyped : Parse Bool := do
  if ← dialectAmong [.sqlite] then
    let lexeme ← peek
    match lexeme.token with
    | .word _ _ => return lexeme.isOneOf untypedStops
    | _ => return true
  else
    return false

structure ColumnRead where
  collation : Option ObjectName
  operands : List Expr

/-- Read the options of a column behind its type. The collation may stand in front of them and, in
some dialects, among them. -/
def columnProperties (sub : Nested) : Parse ColumnRead := do
  let collation ← afterKeyword "COLLATE" (objectName false)
  improve (fun (soFar : ColumnRead) => do
    if ← acceptKeyword "CONSTRAINT" then
      let _ ← identifier
      match ← columnOption sub with
      | some exprs => return some { soFar with operands := soFar.operands ++ exprs }
      | none => expectedHere "constraint details after CONSTRAINT <name>"
    else if let some exprs ← columnOption sub then
      return some { soFar with operands := soFar.operands ++ exprs }
    else if (← dialectAmong [.mySql, .snowflake, .generic]) && (← seesKeyword "COLLATE") then
      skip 1
      return some { soFar with collation := some (← objectName false) }
    else
      return none) ⟨collation, []⟩

/-- Read a column: its name, its type and its collation as text, with the expressions in its type
and in its options. -/
def columnDef (sub : Nested) : Parse TypePart := do
  let name ← identifier
  let typed ←
    if ← seesUntyped then pure ⟨name.shown, []⟩
    else pure ((← dataType sub).named name)
  let ⟨collation, operands⟩ ← columnProperties sub
  let suffix := (collation.map fun collation => " COLLATE " ++ collation.shown).getD ""
  return ⟨typed.text ++ suffix, typed.operands ++ operands⟩

def columnOrConstraint (sub : Nested) : Parse Bool := do
  if ← tableConstraint sub then
    return false
  else
    match (← peek).token with
    | .word _ _ =>
      let _ ← columnDef sub
      return true
    | _ => expectedHere "column name or constraint definition"

structure ColumnsRead where
  /-- How many columns there were. -/
  count : Nat
  /-- Whether the list has been closed. -/
  closed : Bool

def nextColumn (sub : Nested) (soFar : ColumnsRead) : Parse ColumnsRead := do
  let count := if ← columnOrConstraint sub then soFar.count + 1 else soFar.count
  let comma ← accept ","
  let closing ← sees ")"
  if !comma && !closing then
    expectedHere "',' or ')' after column definition"
  else if closing && (!comma || (← dialectHas Dialect.hasTrailingCommas)) then
    skip 1
    return ⟨count, true⟩
  else
    return ⟨count, false⟩

/-- Read the columns and constraints of a table in parentheses, if they are next; gives the number
of columns. -/
def tableColumns (sub : Nested) : Parse Nat := do
  if ← accept "(" then
    let closed ← accept ")"
    let all ← improve (fun (soFar : ColumnsRead) =>
      if soFar.closed then pure none else some <$> nextColumn sub soFar) ⟨0, closed⟩
    return all.count
  else
    return 0

end SqlTables.Sql.Parse
