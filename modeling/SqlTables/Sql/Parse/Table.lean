import SqlTables.Sql.Parse.Columns

/-!
# Definitions of tables and views

`CREATE TABLE`, `CREATE EXTERNAL TABLE` and `CREATE VIEW`. Of a table only its name and the query
that fills it are kept, of a view its name and its query.
-/

namespace SqlTables.Sql.Parse

/-! ## Storage -/

def onCluster : Parse Unit := do
  let _ ← afterKeywords ["ON", "CLUSTER"] identifier

def partitionColumns (sub : Nested) : Parse Unit := do
  let _ ← afterKeywords ["PARTITIONED", "BY"] <|
    parenthesized (commaSeparated (columnDef sub))

def buckets (sub : Nested) : Parse Unit := do
  if (← dialectAmong [.hive, .generic]) && (← seesKeywords ["CLUSTERED", "BY"]) then
    skip 2
    let _ ← columns
    let _ ← afterKeywords ["SORTED", "BY"] (parenthesized (sortKeys sub))
    expectKeyword "INTO"
    let _ ← numberValue
    expectKeyword "BUCKETS"

/-- Read the part of a delimited row that a keyword begins; tells whether it was complete. -/
def rowDelimiter (keyword : String) : Parse Bool := do
  match keyword with
  | "FIELDS" =>
    if ← acceptKeywords ["TERMINATED", "BY"] then
      let _ ← identifier
      let _ ← afterKeywords ["ESCAPED", "BY"] identifier
      return true
    else
      return false
  | "COLLECTION" => return (← afterKeywords ["ITEMS", "TERMINATED", "BY"] identifier).isSome
  | "MAP" => return (← afterKeywords ["KEYS", "TERMINATED", "BY"] identifier).isSome
  | "LINES" => return (← afterKeywords ["TERMINATED", "BY"] identifier).isSome
  | _ => return (← afterKeywords ["DEFINED", "AS"] identifier).isSome

def rowFormat : Parse Unit := do
  expectKeyword "FORMAT"
  if ← acceptKeyword "SERDE" then
    let _ ← literalString
  else
    let _ ← acceptKeyword "DELIMITED"
    let _ ← many do
      match ← acceptOneOf ["FIELDS", "COLLECTION", "MAP", "LINES", "NULL"] with
      | some keyword => if ← rowDelimiter keyword then return some () else return none
      | none => return none

def storageFormats (sub : Nested) : Parse Unit := do
  let _ ← many do
    if ← acceptKeyword "ROW" then
      rowFormat
      return some ()
    else if ← acceptKeyword "STORED" then
      expectKeyword "AS"
      if ← acceptKeyword "INPUTFORMAT" then
        let _ ← sub.expression
        expectKeyword "OUTPUTFORMAT"
        let _ ← sub.expression
      else
        fileFormat
      return some ()
    else if ← acceptKeyword "LOCATION" then
      let _ ← literalString
      return some ()
    else if ← propertiesAfter sub ["WITH", "SERDEPROPERTIES"] then
      return some ()
    else
      return none

def settingWord : Parse Unit := do
  let lexeme ← next
  match lexeme.token with
  | .word _ _ => pure ()
  | _ => expected "identifier" lexeme

def engine : Parse Unit := do
  if ← acceptKeyword "ENGINE" then
    expect "="
    settingWord
    if ← sees "(" then
      let _ ← parenthesized identifiers

def countingStart : Parse Unit := do
  if ← acceptKeyword "AUTO_INCREMENT" then
    let _ ← accept "="
    let _ ← unsignedWithin 32

def tableOrder (sub : Nested) : Parse Unit := do
  if ← acceptKeywords ["ORDER", "BY"] then
    if ← accept "(" then
      unless ← sees ")" do
        let _ ← sub.expressions
      expect ")"
    else
      let _ ← sub.expression

def tableLayout (sub : Nested) : Parse Unit := do
  if (← dialectAmong [.bigQuery, .postgreSql, .generic])
      && (← seesKeywords ["PARTITION", "BY"]) then
    skip 2
    let _ ← sub.expression
  if ← dialectAmong [.bigQuery, .generic] then
    let _ ← afterKeywords ["CLUSTER", "BY"] identifiers
    optionsAfter sub "OPTIONS"

def onCommit : Parse Unit := do
  match ← acceptFirst [["DELETE", "ROWS"], ["PRESERVE", "ROWS"], ["DROP"]] with
  | some _ => pure ()
  | none =>
    let lexeme ← peek
    refuse ("Expecting DELETE ROWS, PRESERVE ROWS or DROP" ++ lexeme.token.show)

def tableComment : Parse Unit := do
  if ← acceptKeyword "COMMENT" then
    let lexeme ← next
    match lexeme.token with
    | .literal .single _ => pure ()
    | _ => expected "comment" lexeme

def tableSetting (keywords : List String) : Parse Unit := do
  if ← acceptKeywords keywords then
    expect "="
    settingWord

def tableStorage (sub : Nested) : Parse Unit := do
  partitionColumns sub
  buckets sub
  storageFormats sub
  optionsAfter sub "WITH"
  optionsAfter sub "TBLPROPERTIES"
  engine
  countingStart
  if (← dialectAmong [.clickHouse, .generic]) && (← seesKeywords ["PRIMARY", "KEY"]) then
    skip 2
    let _ ← sub.expression
  tableOrder sub
  tableLayout sub
  tableSetting ["DEFAULT", "CHARSET"]
  tableSetting ["COLLATE"]
  let _ ← afterKeywords ["ON", "COMMIT"] onCommit
  let _ ← acceptKeyword "STRICT"

/-! ## Tables -/

def ifNotExists : Parse Unit := do
  let _ ← acceptKeywords ["IF", "NOT", "EXISTS"]

def ifExists : Parse Unit := do
  let _ ← acceptKeywords ["IF", "EXISTS"]

def createTable (sub : Nested) : Parse Statement := do
  ifNotExists
  let name ← objectName (← dialectAmong [.bigQuery])
  onCluster
  if ← acceptsOneOf ["LIKE", "ILIKE"] then
    let _ ← settle (objectName true)
  let _ ← afterKeyword "CLONE" (settle (objectName true))
  let _ ← tableColumns sub
  let early ← dialectAmong [.hive]
  if early then tableComment
  let _ ← acceptKeywords ["WITHOUT", "ROWID"]
  tableStorage sub
  unless early do inlineComment
  if ← acceptKeyword "AS" then
    return .createTable name (some (← sub.query))
  else if (← dialectAmong [.mySql]) && (← seesKeyword "SELECT") then
    return .createTable name (some (← sub.query))
  else
    return .createTable name none

def createExternalTable (sub : Nested) : Parse Statement := do
  expectKeyword "TABLE"
  ifNotExists
  let name ← objectName false
  let _ ← tableColumns sub
  partitionColumns sub
  storageFormats sub
  optionsAfter sub "TBLPROPERTIES"
  return .createTable name none

def switchValue (lexeme : Lexeme) : Parse Unit := do
  expect "="
  unless ← acceptsOneOf ["TRUE", "FALSE"] do
    expected "TRUE or FALSE" lexeme

def textValue : Parse Unit := do
  expect "="
  let _ ← literalString

def countValue : Parse Unit := do
  expect "="
  let _ ← unsigned

def rowAccess : Parse Unit := do
  expectKeywords ["ACCESS", "POLICY"]
  let _ ← objectName false
  expectKeyword "ON"
  let _ ← parenthesized identifiers

structure TableClauses where
  /-- How many columns the table has. -/
  columns : Nat
  /-- The query that fills the table. -/
  query : Option Query
  /-- Whether the statement has ended. -/
  done : Bool

def tableClause (sub : Nested) (lexeme : Lexeme) (clauses : TableClauses) :
    Parse TableClauses := do
  match lexeme.keyword with
  | "COPY" => expectKeyword "GRANTS"
  | "AS" => return { clauses with query := some (← sub.query), done := true }
  | "CLONE" | "LIKE" =>
    let _ ← settle (objectName false)
    return { clauses with done := true }
  | "CLUSTER" =>
    expectKeyword "BY"
    let _ ← parenthesized identifiers
  | "ENABLE_SCHEMA_EVOLUTION" | "CHANGE_TRACKING" => switchValue lexeme
  | "DATA_RETENTION_TIME_IN_DAYS" | "MAX_DATA_EXTENSION_TIME_IN_DAYS" => countValue
  | "DEFAULT_DDL_COLLATION" => textValue
  | "WITH" =>
    unless ← seesOneOf ["AGGREGATION", "TAG", "ROW"] do
      expectedHere "one of AGGREGATION or TAG or ROW"
  | "AGGREGATION" =>
    expectKeyword "POLICY"
    let _ ← objectName false
  | "ROW" => rowAccess
  | "TAG" => tags
  | "ON" =>
    if ← acceptKeyword "COMMIT" then onCommit
    else expected "end of statement" lexeme
  | _ => expected "end of statement" lexeme
  return clauses

/-- Read a definition of a table in Snowflake behind `TABLE`. Its clauses come in any order. -/
def createSnowflakeTable (sub : Nested) : Parse Statement := do
  ifNotExists
  let name ← objectName false
  let clauses ← improve (fun (clauses : TableClauses) => do
    let lexeme ← peek
    match lexeme.token with
    | .word _ _ =>
      if clauses.done then
        return none
      else if lexeme.isWord "COMMENT" then
        inlineComment
        return some clauses
      else
        skip 1
        return some (← tableClause sub lexeme clauses)
    | _ =>
      if clauses.done then
        return none
      else if lexeme.isSymbol "(" then
        return some { clauses with columns := (← tableColumns sub) }
      else if lexeme.isSymbol ";" || lexeme.token == .finish then
        if clauses.columns == 0 then refuse "unexpected end of input"
        else return none
      else
        expected "end of statement" lexeme) ⟨0, none, false⟩
  return .createTable name clauses.query

/-! ## Views -/

def viewColumn (sub : Nested) : Parse Unit := do
  let _ ← identifier
  if (← dialectAmong [.bigQuery, .generic]) && (← seesKeyword "OPTIONS") then
    let _ ← columnOption sub
  else if (← dialectAmong [.snowflake, .generic]) && (← seesKeyword "COMMENT") then
    let _ ← columnOption sub
  if ← dialectAmong [.clickHouse] then
    let _ ← dataType sub

def viewColumns (sub : Nested) : Parse Unit := do
  if ← accept "(" then
    unless ← sees ")" do
      let _ ← commaSeparated (viewColumn sub)
    expect ")"

def viewComment : Parse Unit := do
  if (← dialectAmong [.snowflake, .generic]) && (← seesKeyword "COMMENT") then
    skip 1
    expect "="
    let lexeme ← next
    match lexeme.token with
    | .literal .single _ => pure ()
    | _ => expected "string literal" lexeme

def createView (sub : Nested) : Parse Statement := do
  let _ ← acceptKeyword "MATERIALIZED"
  expectKeyword "VIEW"
  if ← dialectAmong [.bigQuery, .sqlite, .generic] then ifNotExists
  let name ← objectName (← dialectAmong [.bigQuery])
  viewColumns sub
  optionsAfter sub "WITH"
  if ← acceptKeyword "CLUSTER" then
    expectKeyword "BY"
    let _ ← optionalColumns false
  if ← dialectAmong [.bigQuery, .generic] then
    optionsAfter sub "OPTIONS"
  if (← dialectAmong [.clickHouse, .generic]) && (← seesKeyword "TO") then
    skip 1
    let _ ← objectName false
  viewComment
  expectKeyword "AS"
  let query ← sub.query
  if ← dialectAmong [.redshift, .generic] then
    let _ ← acceptKeywords ["WITH", "NO", "SCHEMA", "BINDING"]
  return .defineView name query

def alterView (sub : Nested) : Parse Statement := do
  let name ← objectName false
  let _ ← optionalColumns false
  optionsAfter sub "WITH"
  expectKeyword "AS"
  return .defineView name (← sub.query)

end SqlTables.Sql.Parse
