import SqlTables.Sql.Parse.Objects

/-!
# Statements about tables as a whole

Truncation, statistics, explanations, `SHOW`, privileges and comments. Of these the names of the
tables concerned are kept.
-/

namespace SqlTables.Sql.Parse

/-! ## Truncation and statistics -/

def truncate (sub : Nested) : Parse Statement := do
  let _ ← acceptKeyword "TABLE"
  let _ ← acceptKeyword "ONLY"
  let names ← commaSeparated (objectName false)
  if ← acceptKeyword "PARTITION" then partitionValues sub
  if ← dialectAmong [.postgreSql, .generic] then
    let _ ← acceptFirst [["RESTART", "IDENTITY"], ["CONTINUE", "IDENTITY"]]
    dropBehavior
  onCluster
  return .truncate names

def analyzePart (sub : Nested) : Parse Bool := do
  match ← acceptOneOf ["PARTITION", "FOR", "CACHE", "NOSCAN", "COMPUTE"] with
  | some "PARTITION" => partitionValues sub
  | some "FOR" =>
    expectKeyword "COLUMNS"
    let _ ← attempt identifiers
  | some "CACHE" => expectKeyword "METADATA"
  | some "COMPUTE" => expectKeyword "STATISTICS"
  | some _ => pure ()
  | none => return false
  return true

def analyze (sub : Nested) : Parse Statement := do
  let _ ← acceptKeyword "TABLE"
  let name ← objectName false
  let _ ← many do
    if ← analyzePart sub then return some () else return none
  return .analyze name

/-! ## Explanations -/

def utilityOption (sub : Nested) : Parse Unit := do
  let _ ← identifier
  unless (← sees ",") || (← sees ")") do
    let _ ← sub.expression

def explainFormat : Parse Unit := do
  let lexeme ← next
  unless lexeme.isOneOf ["TEXT", "GRAPHVIZ", "JSON"] do
    expected "fileformat" lexeme

def explainOptions (sub : Nested) (described : Bool) : Parse Unit := do
  if !described && (← dialectAmong [.postgreSql, .generic, .duckDb]) && (← sees "(") then
    let _ ← parenthesized (commaSeparated (utilityOption sub))
  else if (← acceptFirst [["QUERY", "PLAN"], ["ESTIMATE"]]).isSome then
    pure ()
  else
    let _ ← acceptKeyword "ANALYZE"
    let _ ← acceptKeyword "VERBOSE"
    if ← acceptKeyword "FORMAT" then explainFormat

/-- Read an explanation of a statement or a description of a table, given whether the keyword was
another than `EXPLAIN`. -/
def explain (sub : Nested) (described : Bool) : Parse Statement := do
  explainOptions sub described
  match ← attempt sub.statement with
  | some (.explain _) | some (.describe _) => refuse "Explain must be root of the plan"
  | some statement => return .explain statement
  | none =>
    let _ ← acceptOneOf ["EXTENDED", "FORMATTED"]
    if ← dialectAmong [.snowflake, .clickHouse] then
      let _ ← acceptKeyword "TABLE"
    return .describe (← objectName false)

/-! ## Show -/

def showFilter (sub : Nested) : Parse Unit := do
  if ← acceptsOneOf ["LIKE", "ILIKE"] then
    let _ ← literalString
  else if ← acceptKeyword "WHERE" then
    let _ ← sub.expression
  else
    let _ ← attempt literalString

def showParent : Parse (Option ObjectName) := do
  match ← acceptOneOf ["ACCOUNT", "DATABASE", "SCHEMA", "TABLE", "VIEW"] with
  | some keyword =>
    if (keyword == "DATABASE" || keyword == "SCHEMA")
        && ((← seesKeywords ["STARTS", "WITH"]) || (← seesKeyword "LIMIT")) then
      return none
    else
      attempt (objectName false)
  | none =>
    let name ← objectName false
    if ← acceptsOneOf ["FROM", "IN"] then
      return some ((← identifier) :: name)
    else
      return some name

def showScope : Parse (Option ObjectName) := do
  if ← acceptsOneOf ["FROM", "IN"] then showParent else return none

/-- Read which objects are shown; gives what they belong to. -/
def showOptions (sub : Nested) : Parse (Option ObjectName) := do
  let filterFirst ← dialectAmong [.snowflake]
  if filterFirst then showFilter sub
  let parent ← showScope
  unless filterFirst do showFilter sub
  let _ ← afterKeywords ["STARTS", "WITH"] value
  let _ ← afterKeyword "LIMIT" (limitValue sub)
  let _ ← afterKeyword "FROM" value
  return parent

def showCreate : Parse Statement := do
  let kind ← expectOneOf ["TABLE", "TRIGGER", "FUNCTION", "PROCEDURE", "EVENT", "VIEW"]
  return .showCreate (objectKind kind) (← objectName false)

def showOther (sub : Nested) (detailed : Bool) : Parse Statement := do
  if (← acceptFirst [["TABLES"], ["MATERIALIZED", "VIEWS"], ["VIEWS"]]).isSome then
    let _ ← showOptions sub
    return .other
  else if ← acceptKeyword "FUNCTIONS" then
    showFilter sub
    return .other
  else if detailed then
    refuse "EXTENDED/FULL are not supported with this type of SHOW query"
  else if ← acceptKeyword "CREATE" then
    showCreate
  else if ← acceptKeyword "COLLATION" then
    showFilter sub
    return .other
  else if ← optionKeywords ["VARIABLES"] [.mySql, .generic] then
    showFilter sub
    return .other
  else if ← optionKeywords ["STATUS"] [.mySql, .generic] then
    showFilter sub
    return .other
  else if ← acceptsOneOf ["DATABASES", "SCHEMAS"] then
    let _ ← acceptKeyword "HISTORY"
    let _ ← showOptions sub
    return .other
  else
    let lexemes ← get
    set (lexemes.dropWhile fun lexeme => !lexeme.isSymbol "=")
    return .other

def showStatement (sub : Nested) : Parse Statement := do
  let _ ← acceptKeyword "TERSE"
  let extended ← acceptKeyword "EXTENDED"
  let full ← acceptKeyword "FULL"
  let _ ← acceptKeyword "SESSION"
  let _ ← acceptKeyword "GLOBAL"
  let _ ← acceptKeyword "EXTERNAL"
  if ← acceptsOneOf ["COLUMNS", "FIELDS"] then
    return .showColumns (← showOptions sub)
  else
    showOther sub (extended || full)

/-! ## Privileges and comments -/

def privilege : Parse Unit := do
  match ← acceptOneOf ["CONNECT", "CREATE", "DELETE", "EXECUTE", "INSERT", "REFERENCES", "SELECT",
      "TEMPORARY", "TRIGGER", "TRUNCATE", "UPDATE", "USAGE"] with
  | some keyword =>
    if ["INSERT", "REFERENCES", "SELECT", "UPDATE"].contains keyword then
      let _ ← optionalColumns false
  | none => expectedHere "a privilege keyword"

def privilegesOn : Parse (List ObjectName) := do
  if ← acceptKeyword "ALL" then
    let _ ← acceptKeyword "PRIVILEGES"
  else
    let endsAtOn (word _behind : Lexeme) : Bool := word.isWord "ON"
    let _ ← separatedBy (← dialectHas Dialect.hasTrailingCommas) endsAtOn privilege
  expectKeyword "ON"
  match ← acceptFirst
      [["ALL", "TABLES", "IN", "SCHEMA"], ["ALL", "SEQUENCES", "IN", "SCHEMA"]] with
  | some _ =>
    let _ ← commaSeparated (objectName false)
    return []
  | none =>
    let kind ← acceptOneOf ["SEQUENCE", "SCHEMA", "TABLE"]
    let names ← commaSeparated wildcardName
    return if kind.isNone || kind == some "TABLE" then names else []

/-- Read who gets or loses privileges. `PUBLIC` holds for all that follow without a kind. -/
def grantees : Parse Unit := do
  let _ ← improve (fun ((more, everyone) : Bool × Bool) => do
    if more then
      let kind ← acceptFirst [["ROLE"], ["USER"], ["SHARE"], ["GROUP"], ["PUBLIC"],
        ["DATABASE", "ROLE"], ["APPLICATION", "ROLE"], ["APPLICATION"]]
      let everyone := (kind.map (· == ["PUBLIC"])).getD everyone
      unless everyone do
        granteeName
        if ← accept ":" then
          let _ ← identifier
      return some (← accept ",", everyone)
    else
      return none) (true, false)

def grant : Parse Statement := do
  let tables ← privilegesOn
  expectKeyword "TO"
  grantees
  let _ ← acceptKeywords ["WITH", "GRANT", "OPTION"]
  let _ ← afterKeywords ["GRANTED", "BY"] identifier
  return .privileges tables

def revoke : Parse Statement := do
  let tables ← privilegesOn
  expectKeyword "FROM"
  grantees
  let _ ← afterKeywords ["GRANTED", "BY"] identifier
  dropBehavior
  return .privileges tables

def comment : Parse Statement := do
  ifExists
  expectKeyword "ON"
  let lexeme ← next
  unless lexeme.isOneOf ["COLUMN", "TABLE", "EXTENSION", "SCHEMA", "DATABASE", "USER", "ROLE"] do
    expected "comment object_type" lexeme
  let name ← objectName false
  expectKeyword "IS"
  unless ← acceptKeyword "NULL" do
    let _ ← literalString
  return .comment (if lexeme.isWord "TABLE" then .table else .other) name

end SqlTables.Sql.Parse
