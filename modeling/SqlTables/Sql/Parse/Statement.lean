import SqlTables.Sql.Parse.Control

/-!
# Statements

The keyword at the front of a statement tells which one it is. Some dialects have statements of
their own, which come before the common ones.
-/

namespace SqlTables.Sql.Parse

def quietly (reader : Parse Unit) : Parse Statement := do
  reader
  return .other

def queryStatement (sub : Nested) : Parse Statement := do
  return .query (← sub.query)

def controlStatement (sub : Nested) (keyword : Lexeme) : Parse Statement := do
  let inDialects (dialects : List Dialect) (reader : Parse Unit) : Parse Statement := do
    if ← dialectAmong dialects then quietly reader
    else expected "an SQL statement" keyword
  match keyword.keyword with
  | "KILL" => quietly kill
  | "FLUSH" => quietly flush
  | "ATTACH" => quietly (attach sub)
  | "DETACH" => inDialects [.duckDb, .generic] do
    let _ ← acceptKeyword "DATABASE"
    ifExists
    let _ ← identifier
  | "MSCK" => quietly repairTable
  | "CACHE" => quietly (cacheTable sub)
  | "UNCACHE" => quietly uncacheTable
  | "DISCARD" => quietly do
    unless ← acceptsOneOf ["ALL", "PLANS", "SEQUENCES", "TEMP", "TEMPORARY"] do
      expectedHere "ALL, PLANS, SEQUENCES, TEMP or TEMPORARY after DISCARD"
  | "DECLARE" => quietly (declare sub)
  | "FETCH" => quietly fetchRows
  | "CALL" => quietly (callProcedure sub)
  | "COPY" => quietly (copy sub)
  | "CLOSE" => quietly do
    unless ← acceptKeyword "ALL" do
      let _ ← identifier
  | "SET" => quietly (setStatement sub)
  | "USE" => quietly useStatement
  | "START" => quietly do
    expectKeyword "TRANSACTION"
    transactionModes
  | "BEGIN" => quietly beginTransaction
  | "END" => quietly endBlock
  | "SAVEPOINT" => quietly do
    let _ ← identifier
  | "RELEASE" => quietly do
    let _ ← acceptKeyword "SAVEPOINT"
    let _ ← identifier
  | "COMMIT" => quietly transactionChain
  | "ROLLBACK" => quietly rollback
  | "RAISERROR" => quietly (raiseError sub)
  | "ASSERT" => quietly (assertion sub)
  | "DEALLOCATE" => quietly do
    let _ ← acceptKeyword "PREPARE"
    let _ ← identifier
  | "EXECUTE" | "EXEC" => quietly (execute sub)
  | "PREPARE" => quietly (prepare sub)
  | "LISTEN" => inDialects [.postgreSql, .generic] do
    let _ ← identifier
  | "UNLISTEN" => inDialects [.postgreSql, .generic] do
    unless ← accept "*" do
      if (← settle identifier).isNone then
        expectedHere "wildcard or identifier"
  | "NOTIFY" => inDialects [.postgreSql, .generic] do
    let _ ← identifier
    if ← accept "," then
      let _ ← literalString
  | "PRAGMA" => quietly pragma
  | "UNLOAD" => quietly (unload sub)
  | "RENAME" => quietly renameTables
  | "INSTALL" => inDialects [.duckDb, .generic] do
    let _ ← identifier
  | "LOAD" => quietly (load sub)
  | "OPTIMIZE" => inDialects [.clickHouse, .generic] (optimize sub)
  | _ => expected "an SQL statement" keyword

def commonStatement (sub : Nested) : Parse Statement := do
  let lexeme ← peek
  match lexeme.keyword with
  | "SELECT" | "WITH" | "VALUES" => queryStatement sub
  | keyword =>
    if lexeme.isSymbol "(" then
      queryStatement sub
    else
      skip 1
      match keyword with
      | "DESC" | "DESCRIBE" => explain sub true
      | "EXPLAIN" => explain sub false
      | "ANALYZE" => analyze sub
      | "TRUNCATE" => truncate sub
      | "CREATE" => create sub
      | "DROP" => drop sub
      | "DELETE" => deletion sub
      | "INSERT" => insertion sub
      | "REPLACE" => replacement sub
      | "UPDATE" => update sub
      | "ALTER" => alter sub
      | "SHOW" => showStatement sub
      | "GRANT" => grant
      | "REVOKE" => revoke
      | "MERGE" => merge sub
      | "COMMENT" =>
        if ← dialectAmong [.postgreSql, .generic, .snowflake] then comment
        else expected "an SQL statement" lexeme
      | _ => controlStatement sub lexeme

/-- Read the words between `CREATE` and the kind of object in Snowflake; gives how many of them
are not put back when another kind of object follows. -/
def snowflakeModifiers : Parse Nat := do
  let _ ← acceptKeywords ["OR", "REPLACE"]
  let scope ← acceptOneOf ["LOCAL", "GLOBAL"]
  let lifetime ← acceptOneOf ["TEMP", "TEMPORARY", "VOLATILE", "TRANSIENT"]
  let kept := match lifetime with
    | none | some "TEMP" | some "TEMPORARY" => 0
    | some _ => 1
  return kept + scope.toList.length

def snowflakeStatement (sub : Nested) : Parse (Option Statement) := do
  if ← seesKeyword "CREATE" then
    let lexemes ← get
    skip 1
    let kept ← snowflakeModifiers
    if ← acceptKeyword "STAGE" then
      return some (← quietly createStage)
    else if ← acceptKeyword "TABLE" then
      return some (← createSnowflakeTable sub)
    else
      set (lexemes.drop kept)
  if ← acceptKeywords ["COPY", "INTO"] then
    return some (← quietly copyInto)
  else if ← acceptsOneOf ["LIST", "LS", "REMOVE", "RM"] then
    return some (← quietly stageFiles)
  else
    return none

def ownStatement (sub : Nested) : Parse (Option Statement) := do
  match ← dialect with
  | .snowflake => snowflakeStatement sub
  | .mySql =>
    if ← acceptKeywords ["LOCK", "TABLES"] then
      return some (← quietly lockTables)
    else if ← acceptKeywords ["UNLOCK", "TABLES"] then
      return some .other
    else
      return none
  | .sqlite =>
    if ← seesKeyword "REPLACE" then return some (← insertion sub) else return none
  | _ => return none

def statement (sub : Nested) : Parse Statement := do
  match ← ownStatement sub with
  | some own => return own
  | none => commonStatement sub

end SqlTables.Sql.Parse
