import SqlTables.Sql.Parse.Projection

/-!
# Statements that change rows

`INSERT`, `UPDATE`, `DELETE` and `MERGE`.
-/

namespace SqlTables.Sql.Parse

def assignment (sub : Nested) : Parse Expr := do
  if ← accept "(" then
    let _ ← commaSeparated (objectName false)
    expect ")"
  else
    let _ ← objectName false
  expect "="
  sub.expression

def assignments (sub : Nested) : Parse (List Expr) :=
  commaSeparated (assignment sub)

def conflictClause : Parse Unit := do
  let _ ← acceptFirst
    [["OR", "REPLACE"], ["OR", "ROLLBACK"], ["OR", "ABORT"], ["OR", "FAIL"], ["OR", "IGNORE"],
      ["REPLACE"]]

/-! ## Insertion -/

def fileFormats : List String :=
  ["AVRO", "JSONFILE", "ORC", "PARQUET", "RCFILE", "SEQUENCEFILE", "TEXTFILE"]

def fileFormat : Parse Unit := do
  let lexeme ← next
  unless lexeme.isOneOf fileFormats do
    expected "fileformat" lexeme

def onConflict (sub : Nested) : Parse Unit := do
  if ← acceptKeywords ["ON", "CONSTRAINT"] then
    let _ ← objectName false
  else if ← sees "(" then
    let _ ← columns
  expectKeyword "DO"
  unless ← acceptKeyword "NOTHING" do
    expectKeyword "UPDATE"
    expectKeyword "SET"
    let _ ← assignments sub
    let _ ← sub.after "WHERE"

def onInsert (sub : Nested) : Parse Unit := do
  if ← acceptKeyword "ON" then
    if ← acceptKeyword "CONFLICT" then
      onConflict sub
    else
      expectKeywords ["DUPLICATE", "KEY", "UPDATE"]
      let _ ← assignments sub

def insertPartition (sub : Nested) : Parse Unit := do
  let _ ← afterKeyword "PARTITION" (parenthesized sub.expressions)

def insertColumns (sub : Nested) : Parse Unit := do
  let dialect ← dialect
  unless (← sees "(") && (← peekAt 1).isWord "SELECT" do
    let _ ← optionalColumns (dialect == .mySql)
    insertPartition sub
    if dialect == .hive then
      let _ ← optionalColumns false

def insertSource (sub : Nested) : Parse (Option Query) := do
  if ← acceptKeywords ["DEFAULT", "VALUES"] then
    return none
  else
    insertColumns sub
    if ← seesOneOf ["FORMAT", "SETTINGS"] then
      return none
    else if (← dialectAmong [.mySql]) && (← seesKeyword "SET") then
      skip 1
      let _ ← assignments sub
      return none
    else
      return some (← sub.query)

def insertFormat (sub : Nested) : Parse Unit := do
  if ← dialectAmong [.clickHouse] then
    let _ ← settings
    if ← acceptKeyword "FORMAT" then
      let _ ← identifier
      let _ ← attempt sub.expressions

/-- Read the target of an insertion; a table function has no name here. -/
def insertTarget (sub : Nested) : Parse (Option ObjectName) := do
  if (← dialectAmong [.clickHouse]) && (← seesKeyword "FUNCTION") then
    skip 1
    let name ← objectName false
    let _ ← call sub name
    return none
  else
    return some (← objectName false)

def insertDirectory (sub : Nested) : Parse Statement := do
  let _ ← literalString
  let _ ← afterKeywords ["STORED", "AS"] fileFormat
  let _ ← sub.query
  return .other

def insertion (sub : Nested) : Parse Statement := do
  let dialect ← dialect
  conflictClause
  if dialect.among [.mySql, .generic] then
    let _ ← acceptOneOf ["LOW_PRIORITY", "DELAYED", "HIGH_PRIORITY"]
    let _ ← acceptKeyword "IGNORE"
  let _ ← acceptKeyword "OVERWRITE"
  let _ ← acceptKeyword "INTO"
  let _ ← acceptKeyword "LOCAL"
  if ← acceptKeyword "DIRECTORY" then
    insertDirectory sub
  else
    let _ ← acceptKeyword "TABLE"
    let target ← insertTarget sub
    if dialect == .postgreSql then
      let _ ← afterKeyword "AS" identifier
    let source ← insertSource sub
    insertFormat sub
    if dialect.among [.mySql, .generic] then
      if ← acceptKeyword "AS" then
        let _ ← objectName false
        let _ ← optionalColumns false
    onInsert sub
    returning sub
    return .insert target source

def replacement (sub : Nested) : Parse Statement := do
  if ← dialectAmong [.mySql, .generic] then
    insertion sub
  else
    fail (.refused "Unsupported statement REPLACE" (← peek).position)

/-! ## Update and deletion -/

def update (sub : Nested) : Parse Statement := do
  conflictClause
  let target ← tableAndJoins sub
  let before ← afterKeyword "FROM" (tableAndJoins sub)
  expectKeyword "SET"
  let assigned ← assignments sub
  let behind ← if before.isNone then afterKeyword "FROM" (tableAndJoins sub) else pure none
  let selection ← afterKeyword "WHERE" sub.expression
  returning sub
  return .update target assigned (before.toList ++ behind.toList) selection

def limitValue (sub : Nested) : Parse (Option Expr) := do
  if ← acceptKeyword "ALL" then return none else return some (← sub.expression)

def deletion (sub : Nested) : Parse Statement := do
  unless ← acceptKeyword "FROM" do
    unless ← dialectAmong [.bigQuery, .generic] do
      let _ ← commaSeparated (objectName false)
      expectKeyword "FROM"
  let targets ← commaSeparated (tableAndJoins sub)
  let others ← orEmpty (afterKeyword "USING" (commaSeparated (tableAndJoins sub)))
  let selection ← afterKeyword "WHERE" sub.expression
  returning sub
  let _ ← optionalOrder sub
  let _ ← afterKeyword "LIMIT" (limitValue sub)
  return .delete targets others selection

/-! ## Merging -/

def mergeRows : Parse String := do
  if ← acceptKeyword "NOT" then
    expectKeyword "MATCHED"
    if ← acceptKeywords ["BY", "SOURCE"] then return "NOT MATCHED BY SOURCE"
    else if ← acceptKeywords ["BY", "TARGET"] then return "NOT MATCHED BY TARGET"
    else return "NOT MATCHED"
  else
    expectKeyword "MATCHED"
    return "MATCHED"

def mergeInsert (sub : Nested) : Parse (List Expr) := do
  let dialect ← dialect
  let _ ← optionalColumns (dialect == .mySql)
  if dialect.among [.bigQuery, .generic] && (← seesKeyword "ROW") then
    skip 1
    return []
  else
    expectKeyword "VALUES"
    valueRows sub (dialect == .mySql)

def mergeClause (sub : Nested) : Parse (List Expr) := do
  expectKeyword "WHEN"
  let rows ← mergeRows
  let missing := rows == "NOT MATCHED" || rows == "NOT MATCHED BY TARGET"
  let refusal (action : String) : Parse Unit :=
    refuse (action ++ " is not allowed in a " ++ rows ++ " merge clause")
  let condition ← sub.after "AND"
  expectKeyword "THEN"
  match ← acceptOneOf ["UPDATE", "INSERT", "DELETE"] with
  | some "UPDATE" =>
    if missing then
      refusal "UPDATE"
    expectKeyword "SET"
    return condition ++ (← assignments sub)
  | some "DELETE" =>
    if missing then
      refusal "DELETE"
    return condition
  | some _ =>
    unless missing do
      refusal "INSERT"
    return condition ++ (← mergeInsert sub)
  | none => refuse "expected UPDATE, DELETE or INSERT in merge clause"

def merge (sub : Nested) : Parse Statement := do
  let _ ← acceptKeyword "INTO"
  let target ← tableFactor sub
  expectKeyword "USING"
  let source ← tableFactor sub
  expectKeyword "ON"
  let condition ← sub.expression
  let clauses ← many do
    let lexeme ← peek
    if lexeme.token == .finish || lexeme.isSymbol ";" then return none
    else return some (← mergeClause sub)
  return .merge target source condition clauses.flatten

end SqlTables.Sql.Parse
