import SqlTables.Sql.Parse.Admin
import SqlTables.Text.Escape

/-!
# Statements that control a session

Settings, transactions, prepared statements, cursors, bulk copies and the like. They are read
only to find their end.
-/

namespace SqlTables.Sql.Parse

/-! ## Transactions -/

def transactionMode : Parse Bool := do
  if ← acceptKeywords ["ISOLATION", "LEVEL"] then
    match ← acceptFirst [["READ", "UNCOMMITTED"], ["READ", "COMMITTED"], ["REPEATABLE", "READ"],
        ["SERIALIZABLE"], ["SNAPSHOT"]] with
    | some _ => return true
    | none => expectedHere "isolation level"
  else
    return (← acceptFirst [["READ", "ONLY"], ["READ", "WRITE"]]).isSome

/-- Read modes of a transaction. Commas between them may be missing. -/
def transactionModes : Parse Unit := do
  let _ ← improve (fun (needed : Bool) => do
    if ← transactionMode then
      return some (← accept ",")
    else if needed then
      expectedHere "transaction mode"
    else
      return none) false

def beginTransaction : Parse Unit := do
  if ← dialectAmong [.generic, .sqlite, .msSql] then
    let _ ← acceptOneOf ["DEFERRED", "IMMEDIATE", "EXCLUSIVE", "TRY", "CATCH"]
  let _ ← acceptOneOf ["TRANSACTION", "WORK"]
  transactionModes

def transactionChain : Parse Unit := do
  let _ ← acceptOneOf ["TRANSACTION", "WORK"]
  if ← acceptKeyword "AND" then
    let _ ← acceptKeyword "NO"
    expectKeyword "CHAIN"

def endBlock : Parse Unit := do
  if ← dialectAmong [.msSql] then
    let _ ← acceptOneOf ["TRY", "CATCH"]
  transactionChain

def rollback : Parse Unit := do
  transactionChain
  if ← acceptKeyword "TO" then
    let _ ← acceptKeyword "SAVEPOINT"
    let _ ← identifier

/-! ## Settings -/

def settingValue (sub : Nested) : Parse Unit := do
  if ← seesQuery then
    let _ ← sub.query
  else if (← settle sub.expression).isNone then
    expectedHere "variable value"

def settingValues (sub : Nested) : Parse Unit := do
  settingValue sub
  let _ ← many do
    given (← accept ",") (settingValue sub)

def onOrOff : Parse Unit := do
  unless ← acceptsOneOf ["ON", "OFF"] do
    expectedHere "ON or OFF"

def words (what : String) : Parse Unit := do
  let _ ← commaSeparated do
    let lexeme ← next
    match lexeme.token with
    | .word _ _ => pure ()
    | _ => expected what lexeme

def sessionParameter (sub : Nested) : Parse Unit := do
  if ← acceptKeyword "STATISTICS" then
    unless ← acceptsOneOf ["IO", "PROFILE", "TIME", "XML"] do
      expectedHere "IO, PROFILE, TIME or XML"
    onOrOff
  else if ← acceptKeyword "IDENTITY_INSERT" then
    let _ ← objectName false
    onOrOff
  else if ← acceptKeyword "OFFSETS" then
    words "SQL keyword"
    onOrOff
  else
    words "Session param name"
    let _ ← sub.expression

/-- Read the rest of a setting behind its name, where the lexemes that begin with the name are
given. A parameter of a session is read from the last part of the name on. -/
def settingOf (sub : Nested) (modified : Bool) (name : String) (fromName : List Lexeme) :
    Parse Unit := do
  if (← dialectAmong [.mySql, .generic]) && Text.sameIgnoringAsciiCase name "NAMES" then
    unless ← acceptKeyword "DEFAULT" do
      let _ ← literalString
      let _ ← afterKeyword "COLLATE" literalString
  else if (← sees "=") || (← seesKeyword "TO") then
    skip 1
    settingValues sub
  else if Text.sameIgnoringAsciiCase name "TIMEZONE" then
    if (← settle sub.expression).isNone then
      expectedHere "timezone value"
  else if name == "CHARACTERISTICS" then
    expectKeywords ["AS", "TRANSACTION"]
    transactionModes
  else if name == "TRANSACTION" && !modified then
    if ← acceptKeyword "SNAPSHOT" then
      let _ ← value
    else
      transactionModes
  else if ← dialectAmong [.msSql] then
    let rest ← get
    set (fromName.drop (fromName.length - rest.length - 1))
    sessionParameter sub
  else
    expectedHere "equals sign or TO"

def setRole : Parse Unit := do
  expectKeyword "ROLE"
  unless ← acceptKeyword "NONE" do
    let _ ← identifier

def setStatement (sub : Nested) : Parse Unit := do
  let modifier ← acceptOneOf ["SESSION", "LOCAL", "HIVEVAR"]
  let role ← if modifier == some "HIVEVAR" then do
      expect ":"
      pure none
    else attempt setRole
  if role.isNone then
    let lexemes ← get
    if ← acceptKeywords ["TIME", "ZONE"] then
      settingOf sub modifier.isSome "TIMEZONE" lexemes
    else if (← dialectAmong [.generic, .snowflake, .bigQuery]) && (← sees "(") then
      let _ ← parenthesized identifiers
      if (← sees "=") || (← seesKeyword "TO") then
        skip 1
        parenthesized (settingValues sub)
      else
        expectedHere "set variable"
    else
      let name ← objectName false
      settingOf sub modifier.isSome name.shown lexemes

def useStatement : Parse Unit := do
  match ← dialect with
  | .hive =>
    unless ← acceptKeyword "DEFAULT" do
      let _ ← objectName false
  | .databricks =>
    let _ ← acceptOneOf ["CATALOG", "DATABASE", "SCHEMA"]
    let _ ← objectName false
  | .snowflake =>
    match ← acceptOneOf ["DATABASE", "SCHEMA", "WAREHOUSE", "ROLE", "SECONDARY"] with
    | some "SECONDARY" =>
      let _ ← expectOneOf ["ROLES", "ROLE"]
      unless ← acceptsOneOf ["NONE", "ALL"] do
        let _ ← identifiers
    | _ =>
      let _ ← objectName false
  | _ =>
    let _ ← objectName false

def pragmaValue : Parse Unit := do
  let lexemes ← get
  match ← value with
  | .string | .number _ | .placeholder _ => pure ()
  | .other =>
    set lexemes
    expectedHere "number or string or ? placeholder"

def pragma : Parse Unit := do
  let _ ← objectName false
  if ← accept "(" then
    pragmaValue
    expect ")"
  else if ← accept "=" then
    pragmaValue

/-! ## Cursors, prepared statements, calls -/

def declareCursor (sub : Nested) : Parse Unit := do
  let _ ← identifier
  let _ ← acceptKeyword "BINARY"
  let _ ← acceptOneOf ["INSENSITIVE", "ASENSITIVE"]
  let _ ← acceptFirst [["SCROLL"], ["NO", "SCROLL"]]
  expectKeyword "CURSOR"
  if ← acceptsOneOf ["WITH", "WITHOUT"] then
    expectKeyword "HOLD"
  expectKeyword "FOR"
  let _ ← sub.query

def declareScripted (sub : Nested) : Parse Unit := do
  let _ ← identifiers
  if ← acceptKeyword "DEFAULT" then
    let _ ← sub.expression
  else
    let _ ← dataType sub
    let _ ← sub.after "DEFAULT"

def declaredValue (sub : Nested) : Parse Bool := do
  if (← seesKeyword "DEFAULT") || (← sees ":=") then
    skip 1
    let _ ← sub.expression
    return true
  else
    return false

def declareName (sub : Nested) : Parse Unit := do
  let _ ← identifier
  if ← acceptKeyword "CURSOR" then
    expectKeyword "FOR"
    if ← seesKeyword "SELECT" then
      let _ ← sub.query
    else
      let _ ← sub.expression
  else if ← acceptKeyword "RESULTSET" then
    unless ← sees ";" do
      let _ ← declaredValue sub
  else if ← acceptKeyword "EXCEPTION" then
    if ← sees "(" then
      let _ ← sub.expression
  else unless ← declaredValue sub do
    match (← peek).token with
    | .word _ _ =>
      let _ ← dataType sub
      let _ ← declaredValue sub
    | _ => pure ()

/-- Read declarations in Snowflake. A semicolon before a word that is no keyword separates two
of them. -/
def declareNames (sub : Nested) : Parse Unit := do
  declareName sub
  let _ ← many do
    let following ← peekAt 1
    match following.token with
    | .word text _ =>
      if (← sees ";") && !isKeyword (keywordSpelling text) then
        skip 1
        declareName sub
        return some ()
      else
        return none
    | _ => return none

def declareServerVariable (sub : Nested) : Parse Unit := do
  let name ← identifier
  unless name.value.startsWith "@" do
    refuse "Invalid MsSql variable declaration."
  unless ← acceptKeyword "CURSOR" do
    let _ ← acceptKeyword "AS"
    let _ ← dataType sub
  if ← accept "=" then
    let _ ← sub.expression

def declare (sub : Nested) : Parse Unit := do
  match ← dialect with
  | .bigQuery => declareScripted sub
  | .snowflake => declareNames sub
  | .msSql =>
    let _ ← commaSeparated (declareServerVariable sub)
  | _ => declareCursor sub

def fetchDirection : Parse Unit := do
  match ← acceptOneOf ["NEXT", "PRIOR", "FIRST", "LAST", "ABSOLUTE", "RELATIVE", "FORWARD",
      "BACKWARD", "ALL"] with
  | some "FORWARD" | some "BACKWARD" =>
    unless ← acceptKeyword "ALL" do
      let _ ← numberValue
  | some "ABSOLUTE" | some "RELATIVE" | none =>
    let _ ← numberValue
  | some _ => pure ()

def fetchRows : Parse Unit := do
  fetchDirection
  let _ ← expectOneOf ["FROM", "IN"]
  let _ ← identifier
  let _ ← afterKeyword "INTO" (objectName false)

def execute (sub : Nested) : Parse Unit := do
  let _ ← objectName false
  if ← accept "(" then
    let _ ← commaSeparatedUntil ")" (sub.expression)
    expect ")"
  else
    let lexeme ← peek
    unless lexeme.token == .finish || lexeme.isWord "USING" do
      let _ ← commaSeparatedUntil ";" sub.expression
  if ← acceptKeyword "USING" then
    let _ ← sub.expression
    let _ ← many (do given (← accept ",") sub.expression)

def prepare (sub : Nested) : Parse Unit := do
  let _ ← identifier
  if ← accept "(" then
    let _ ← commaSeparated (dataType sub)
    expect ")"
  expectKeyword "AS"
  let _ ← sub.statement

def callProcedure (sub : Nested) : Parse Unit := do
  let name ← objectName false
  if ← sees "(" then
    let _ ← call sub name

def raiseError (sub : Nested) : Parse Unit := do
  expect "("
  let _ ← sub.expression
  expect ","
  let _ ← sub.expression
  expect ","
  let _ ← sub.expression
  if ← accept "," then
    let _ ← sub.expressions
  expect ")"
  if ← acceptKeyword "WITH" then
    let _ ← commaSeparated (expectOneOf ["LOG", "NOWAIT", "SETERROR"])

/-! ## Copies -/

def literalChar : Parse Unit := do
  let lexeme ← peek
  let text ← literalString
  unless text.utf8ByteSize == 1 do
    fail (.refused ("Expect a char, found " ++ Text.escape text) lexeme.position)

def copyOption : Parse Unit := do
  match ← acceptOneOf ["FORMAT", "FREEZE", "DELIMITER", "NULL", "HEADER", "QUOTE", "ESCAPE",
      "FORCE_QUOTE", "FORCE_NOT_NULL", "FORCE_NULL", "ENCODING"] with
  | some "FORMAT" =>
    let _ ← identifier
  | some "FREEZE" | some "HEADER" =>
    let _ ← acceptOneOf ["TRUE", "FALSE"]
  | some "DELIMITER" | some "QUOTE" | some "ESCAPE" => literalChar
  | some "NULL" | some "ENCODING" =>
    let _ ← literalString
  | some _ =>
    let _ ← columns
  | none => expectedHere "option"

def csvOption : Parse (Option Unit) :=
  attempt do
    if ← acceptKeyword "HEADER" then
      pure ()
    else if ← acceptsOneOf ["QUOTE", "ESCAPE"] then
      let _ ← acceptKeyword "AS"
      literalChar
    else if ← acceptKeywords ["FORCE", "NOT", "NULL"] then
      let _ ← identifiers
    else if ← acceptKeywords ["FORCE", "QUOTE"] then
      let _ ← identifiers
    else
      expectedHere "csv option"

def bareCopyOption : Parse (Option Unit) :=
  attempt do
    match ← acceptOneOf ["BINARY", "DELIMITER", "NULL", "CSV"] with
    | some "DELIMITER" =>
      let _ ← acceptKeyword "AS"
      literalChar
    | some "NULL" =>
      let _ ← acceptKeyword "AS"
      let _ ← literalString
    | some "CSV" =>
      let _ ← many csvOption
    | some _ => pure ()
    | none => expectedHere "option"

/-- What is left behind rows given in the text itself, which end with a backslash and a period. A
backslash in front of anything else escapes that. -/
def behindRows : List Lexeme → List Lexeme
  | [] => []
  | [_] => []
  | first :: second :: rest =>
    if first.isSymbol "\\" then
      if second.isSymbol "." then rest else behindRows rest
    else
      behindRows (second :: rest)

/-- Read what a copy reads from or writes to; tells whether it is given in the text itself. -/
def copyTarget : Parse Bool := do
  if ← acceptKeyword "STDIN" then
    return true
  else
    unless ← acceptKeyword "STDOUT" do
      let _ ← acceptKeyword "PROGRAM"
      let _ ← literalString
    return false

def copy (sub : Nested) : Parse Unit := do
  let fromQuery ← accept "("
  if fromQuery then
    let _ ← sub.query
    expect ")"
  else
    let _ ← objectName false
    let _ ← optionalColumns false
  match ← acceptOneOf ["FROM", "TO"] with
  | none => expectedHere "FROM or TO"
  | some "FROM" =>
    if fromQuery then refuse "COPY ... FROM does not support query as a source"
  | some _ => pure ()
  let inline ← copyTarget
  let _ ← acceptKeyword "WITH"
  if ← accept "(" then
    let _ ← commaSeparated copyOption
    expect ")"
  let _ ← many bareCopyOption
  if inline then
    expect ";"
    modify behindRows

def unload (sub : Nested) : Parse Unit := do
  let _ ← parenthesized sub.query
  expectKeyword "TO"
  let _ ← identifier
  optionsAfter sub "WITH"

/-! ## Stages -/

/-- Read a segment of the name of a stage, of at most as many lexemes as `fuel` says. It ends at a
blank, unless the blank stands in front of the whole name, and at a period or a closing
parenthesis. -/
def stageSegment : Nat → Bool → Parse Unit
  | 0, _ => pure ()
  | fuel + 1, atStart => do
    let lexeme ← peek
    unless lexeme.blank.isSome && !atStart do
      match lexeme.token with
      | .finish | .symbol "." | .symbol ")" => pure ()
      | .word _ _ | .symbol "@" | .symbol "~" | .symbol "%" | .symbol "/" =>
        skip 1
        stageSegment fuel false
      | _ =>
        skip 1
        expectedHere "stage name identifier"

def stageName : Parse Unit := do
  let length := (← get).length
  if ← sees "@" then
    stageSegment length true
    let _ ← many do
      given (← accept ".") (stageSegment length false)
  else
    let _ ← objectName false

/-- Read a lexeme that fits. If it does not, the failure is placed at the lexeme behind it. -/
def fitting (fits : Token → Bool) (what : String) : Parse Unit := do
  unless fits (← next).token do
    expectedHere what

def isAnyWord : Token → Bool
  | .word _ _ => true
  | _ => false

def isText : Token → Bool
  | .literal .single _ => true
  | _ => false

def stageOptions : Parse Unit := do
  expect "="
  expect "("
  let _ ← many do
    if ← accept ")" then
      return none
    else
      fitting isAnyWord "another option or ')'"
      expect "="
      fitting (fun token => isAnyWord token || isText token) "expected option value"
      return some ()

def stageText (what : String) : Parse Unit := do
  expect "="
  fitting isText what

def anyValue : Parse Unit := do
  expect "="
  skip 1

def stageLocation : Parse Unit := do
  if ← acceptKeyword "URL" then stageText "a URL statement"
  if ← acceptKeyword "STORAGE_INTEGRATION" then anyValue
  if ← acceptKeyword "ENDPOINT" then stageText "an endpoint statement"
  if ← acceptKeyword "CREDENTIALS" then stageOptions
  if ← acceptKeyword "ENCRYPTION" then stageOptions

def createStage : Parse Unit := do
  ifNotExists
  let _ ← objectName false
  stageLocation
  if ← acceptKeyword "DIRECTORY" then stageOptions
  if ← acceptKeyword "FILE_FORMAT" then stageOptions
  if ← acceptKeyword "COPY_OPTIONS" then stageOptions
  if ← acceptKeyword "COMMENT" then stageText "a comment statement"

def stageSource : Parse Unit := do
  stageName
  stageLocation
  let _ ← afterKeyword "AS" (fitting isAnyWord "stage alias")

def columnNumberProblem? (digits : String) : Option String :=
  if digits.isEmpty then some "cannot parse integer from empty string"
  else unsignedProblem? 31 digits

def checkColumnNumber (placeholder : String) : Parse Unit := do
  match columnNumberProblem? (placeholder.drop 1).toString with
  | none => pure ()
  | some problem => refuse ("Could not parse '" ++ placeholder ++ "' as i32: " ++ problem)

def fileColumn : Parse Unit := do
  let lexeme ← next
  match lexeme.token with
  | .placeholder text => checkColumnNumber text
  | .word _ _ =>
    expect "."
    let column ← next
    match column.token with
    | .placeholder text => checkColumnNumber text
    | _ => expected "file_col_num" column
  | _ => expected "alias or file_col_num" lexeme
  if ← accept ":" then fitting isAnyWord "file_col_num"
  let _ ← afterKeyword "AS" (fitting isAnyWord "column item alias")

def fileText (what : String) : Parse Unit := do
  let lexeme ← next
  unless isText lexeme.token do
    expected what lexeme

def copyInto : Parse Unit := do
  stageName
  expectKeyword "FROM"
  if ← accept "(" then
    expectKeyword "SELECT"
    let _ ← strictlySeparated fileColumn
    expectKeyword "FROM"
    stageSource
    expect ")"
  else
    stageSource
  if ← acceptKeyword "FILES" then
    expect "="
    let _ ← parenthesized (strictlySeparated (fileText "file token"))
  if ← acceptKeyword "PATTERN" then
    expect "="
    fileText "pattern"
  if ← acceptKeyword "FILE_FORMAT" then stageOptions
  if ← acceptKeyword "COPY_OPTIONS" then stageOptions
  if ← acceptKeyword "VALIDATION_MODE" then anyValue

def stageFiles : Parse Unit := do
  stageName
  if ← acceptKeyword "PATTERN" then
    expect "="
    let _ ← literalString

/-! ## Further commands -/

def kill : Parse Unit := do
  let kind ← acceptOneOf ["CONNECTION", "QUERY", "MUTATION"]
  let _ ← unsigned
  if kind == some "MUTATION" then
    unless ← dialectAmong [.clickHouse, .generic] do
      expectedHere "Unsupported type for KILL, allowed: CONNECTION | QUERY"

/-- Read which tables are flushed. Other keywords are read over, and so is the lexeme that ends the
list. -/
def flushTables : Parse Unit := do
  let _ ← many do
    let lexeme ← peek
    match lexeme.token with
    | .word _ _ =>
      if ← acceptKeyword "WITH" then
        let _ ← acceptKeywords ["READ", "LOCK"]
      else if ← acceptKeyword "FOR" then
        let _ ← acceptKeyword "EXPORT"
      else if isKeyword lexeme.keyword then
        skip 1
      else
        let _ ← commaSeparated (objectName false)
      return some ()
    | _ =>
      skip 1
      return none

def flush : Parse Unit := do
  unless ← dialectAmong [.mySql, .generic] do
    fail (.refused "Unsupported statement FLUSH" (← peek).position)
  let _ ← acceptOneOf ["NO_WRITE_TO_BINLOG", "LOCAL"]
  if ← acceptKeywords ["RELAY", "LOGS"] then
    let _ ← afterKeywords ["FOR", "CHANNEL"] (objectName false)
  else if ← acceptKeyword "TABLES" then
    flushTables
  else
    match ← acceptFirst [["BINARY", "LOGS"], ["ENGINE", "LOGS"], ["ERROR", "LOGS"],
        ["GENERAL", "LOGS"], ["HOSTS"], ["PRIVILEGES"], ["OPTIMIZER_COSTS"], ["SLOW", "LOGS"],
        ["STATUS"], ["USER_RESOURCES"], ["LOGS"]] with
    | some _ => pure ()
    | none => expectedHere ("BINARY LOGS, ENGINE LOGS, ERROR LOGS, GENERAL LOGS, HOSTS, LOGS, "
        ++ "PRIVILEGES, OPTIMIZER_COSTS,RELAY LOGS [FOR CHANNEL channel], SLOW LOGS, STATUS, "
        ++ "USER_RESOURCES")

/-- Read an option of an attached database, with what separates it from the next; tells whether a
further one follows. -/
def attachOption : Parse Bool := do
  if ← acceptKeyword "READ_ONLY" then
    let _ ← acceptOneOf ["TRUE", "FALSE"]
  else if ← acceptKeyword "TYPE" then
    let _ ← identifier
  else
    expectedHere "expected one of: ), READ_ONLY, TYPE"
  if ← accept ")" then return false
  else if ← accept "," then return true
  else expectedHere "expected one of: ')', ','"

def attach (sub : Nested) : Parse Unit := do
  let _ ← acceptKeyword "DATABASE"
  if ← dialectAmong [.duckDb] then
    ifNotExists
    let _ ← identifier
    let _ ← afterKeyword "AS" identifier
    if ← accept "(" then
      let _ ← improve (fun (more : Bool) => do
        if more then some <$> attachOption else return none) true
  else
    let _ ← sub.expression
    expectKeyword "AS"
    let _ ← identifier

def repairTable : Parse Unit := do
  let _ ← acceptKeyword "REPAIR"
  expectKeyword "TABLE"
  let _ ← objectName false
  let _ ← attempt do
    let _ ← acceptOneOf ["ADD", "DROP", "SYNC"]
    expectKeyword "PARTITIONS"

def cachedQuery (sub : Nested) : Parse Unit := do
  optionsAfter sub "OPTIONS"
  let lexeme ← peek
  match lexeme.token with
  | .finish => pure ()
  | .word _ _ =>
    let _ ← acceptKeyword "AS"
    let _ ← sub.query
  | _ => expected "a QUERY statement" lexeme

/-- Read the caching of a table behind `CACHE`. At the end of the text the last part of the name
stands where the keyword is missing. -/
def cacheTable (sub : Nested) : Parse Unit := do
  if ← acceptKeyword "TABLE" then
    let _ ← objectName false
    cachedQuery sub
  else
    let start ← get
    let _ ← objectName false
    let rest ← get
    if ← acceptKeyword "TABLE" then
      let _ ← objectName false
      cachedQuery sub
    else
      if (← peek).token == .finish then
        set (start.drop (start.length - rest.length - 1))
      expectedHere "a \x60TABLE\x60 keyword"

def uncacheTable : Parse Unit := do
  expectKeyword "TABLE"
  ifExists
  let _ ← objectName false

def load (sub : Nested) : Parse Unit := do
  if ← dialectAmong [.generic, .duckDb, .postgreSql] then
    let _ ← identifier
  else if ← optionKeywords ["DATA"] [.hive] then
    let _ ← acceptKeyword "LOCAL"
    expectKeyword "INPATH"
    let _ ← literalString
    let _ ← acceptKeyword "OVERWRITE"
    expectKeyword "INTO"
    expectKeyword "TABLE"
    let _ ← objectName false
    insertPartition sub
    if ← acceptKeyword "INPUTFORMAT" then
      let _ ← sub.expression
      expectKeyword "SERDE"
      let _ ← sub.expression
  else
    expectedHere "\x60DATA\x60 or an extension name after \x60LOAD\x60"

def optimize (sub : Nested) : Parse Unit := do
  expectKeyword "TABLE"
  let _ ← objectName false
  onCluster
  if ← acceptKeyword "PARTITION" then
    if ← acceptKeyword "ID" then
      let _ ← identifier
    else
      let _ ← sub.expression
  let _ ← acceptKeyword "FINAL"
  if ← acceptKeyword "DEDUPLICATE" then
    let _ ← sub.after "BY"

def renameTables : Parse Unit := do
  if ← acceptKeyword "TABLE" then
    let _ ← commaSeparated do
      let _ ← objectName false
      expectKeyword "TO"
      objectName false
  else
    expectedHere "KEYWORD \x60TABLE\x60 after RENAME"

def lockTables : Parse Unit := do
  let _ ← commaSeparated do
    let _ ← identifier
    let _ ← optionalAlias ["READ", "WRITE", "LOW_PRIORITY"]
    if ← acceptKeyword "READ" then
      let _ ← acceptKeyword "LOCAL"
    else if ← acceptKeyword "WRITE" then
      pure ()
    else if ← acceptKeywords ["LOW_PRIORITY", "WRITE"] then
      pure ()
    else
      expectedHere "an lock type in LOCK TABLES"

def assertion (sub : Nested) : Parse Unit := do
  let _ ← sub.expression
  let _ ← sub.after "AS"

end SqlTables.Sql.Parse
