import SqlTables.Sql.Parse.Alter

/-!
# Objects other than tables and views

Definitions, changes and removals of indexes, schemas, databases, roles, sequences, types,
extensions, policies, triggers, functions, procedures, macros and secrets. Nothing of these is
kept.
-/

namespace SqlTables.Sql.Parse

/-! ## Indexes, schemas, databases -/

def createIndex (sub : Nested) : Parse Unit := do
  let _ ← acceptKeyword "CONCURRENTLY"
  if ← acceptKeywords ["IF", "NOT", "EXISTS"] then
    let _ ← objectName false
    expectKeyword "ON"
  else unless ← acceptKeyword "ON" do
    let _ ← objectName false
    expectKeyword "ON"
  let _ ← objectName false
  let _ ← afterKeyword "USING" identifier
  let _ ← parenthesized (sortKeys sub)
  let _ ← afterKeyword "INCLUDE" (parenthesized identifiers)
  nullsDistinct
  if (← dialectAmong [.generic, .postgreSql]) && (← seesKeyword "WITH") then
    skip 1
    let _ ← parenthesized sub.expressions
  let _ ← sub.after "WHERE"

def createVirtualTable : Parse Unit := do
  expectKeyword "TABLE"
  ifNotExists
  let _ ← objectName false
  expectKeyword "USING"
  let _ ← identifier
  let _ ← optionalColumns false

def createSchema : Parse Unit := do
  ifNotExists
  if ← acceptKeyword "AUTHORIZATION" then
    let _ ← identifier
  else
    let _ ← objectName false
    let _ ← afterKeyword "AUTHORIZATION" identifier

def createDatabase : Parse Unit := do
  ifNotExists
  let _ ← objectName false
  let _ ← many do
    if ← acceptsOneOf ["LOCATION", "MANAGEDLOCATION"] then
      let _ ← literalString
      return some ()
    else
      return none

def createExtension : Parse Unit := do
  ifNotExists
  let _ ← identifier
  if ← acceptKeyword "WITH" then
    let _ ← afterKeyword "SCHEMA" identifier
    let _ ← afterKeyword "VERSION" identifier
    let _ ← acceptKeyword "CASCADE"

def createSequence (sub : Nested) : Parse Unit := do
  ifNotExists
  let _ ← objectName false
  let _ ← afterKeyword "AS" (dataType sub)
  sequenceOptions
  if ← acceptKeywords ["OWNED", "BY"] then
    unless ← acceptKeyword "NONE" do
      let _ ← objectName false

/-- Read an attribute of a type, with what separates it from the next; tells whether a further
one follows. -/
def typeAttribute (sub : Nested) : Parse Bool := do
  let _ ← identifier
  let _ ← dataType sub
  let _ ← afterKeyword "COLLATE" (objectName false)
  let comma ← accept ","
  if ← accept ")" then
    return false
  else if comma then
    return true
  else
    expectedHere "',' or ')' after attribute definition"

def createType (sub : Nested) : Parse Unit := do
  let _ ← objectName false
  expectKeyword "AS"
  if ← acceptKeyword "ENUM" then
    let _ ← parenthesized (commaSeparatedUntil ")" identifier)
  else if ← accept "(" then
    unless ← accept ")" do
      let _ ← improve (fun (more : Bool) => do
        if more then some <$> typeAttribute sub else return none) true

/-! ## Roles and policies -/

def roleSwitches : List (String × String) :=
  [("LOGIN", "NOLOGIN"), ("INHERIT", "NOINHERIT"), ("BYPASSRLS", "NOBYPASSRLS"),
    ("CREATEDB", "NOCREATEDB"), ("CREATEROLE", "NOCREATEROLE"), ("SUPERUSER", "NOSUPERUSER"),
    ("REPLICATION", "NOREPLICATION")]

def roleSwitch? (keyword : String) : Option String :=
  (roleSwitches.find? fun (on, off) => keyword == on || keyword == off).map fun (on, off) =>
    on ++ " or " ++ off

def roleValueKeywords : List String :=
  ["PASSWORD", "CONNECTION", "VALID"]

/-- Read what is left of the name of an option of a role with a value, behind its first keyword;
gives the whole name. -/
def roleValueName : String → Parse String
  | "CONNECTION" => do
    expectKeyword "LIMIT"
    return "CONNECTION LIMIT"
  | "VALID" => do
    expectKeyword "UNTIL"
    return "VALID UNTIL"
  | keyword => return keyword

def roleValue (name : String) : Parse Unit := do
  if name == "CONNECTION LIMIT" then
    let _ ← numberValue
  else if name == "PASSWORD" && (← seesKeyword "NULL") then
    skip 1
  else
    let _ ← value

/-- Read an option of a role that may be given once, unless it is among the earlier ones; gives
these and the option. -/
def singleRoleOption (earlier : List String) (keyword : Lexeme) (name : String)
    (reader : Parse Unit) : Parse (List String) := do
  if earlier.contains name then
    fail (.refused ("Found multiple " ++ name) keyword.position)
  else
    reader
    return name :: earlier

def roleNames : Parse Unit := do
  let _ ← identifiers

def newRoleOption (earlier : List String) : Parse (Option (List String)) := do
  let lexeme ← peek
  match roleSwitch? lexeme.keyword with
  | some name =>
    skip 1
    some <$> singleRoleOption earlier lexeme name (pure ())
  | none =>
    if lexeme.isOneOf roleValueKeywords then
      skip 1
      let name ← roleValueName lexeme.keyword
      some <$> singleRoleOption earlier lexeme name (roleValue name)
    else if ← acceptKeyword "IN" then
      match ← acceptOneOf ["ROLE", "GROUP"] with
      | some kind => some <$> singleRoleOption earlier lexeme ("IN " ++ kind) roleNames
      | none => expectedHere "ROLE or GROUP after IN"
    else
      match ← acceptOneOf ["ROLE", "ADMIN", "USER"] with
      | some kind => some <$> singleRoleOption earlier lexeme kind roleNames
      | none => return none

def newRoleOwner (earlier : List String) : Parse (Option (List String)) := do
  let lexeme ← peek
  if ← acceptKeyword "AUTHORIZATION" then
    some <$> singleRoleOption earlier lexeme "AUTHORIZATION" do
      let _ ← objectName false
  else
    return none

def createRole : Parse Unit := do
  ifNotExists
  let _ ← commaSeparated (objectName false)
  let _ ← acceptKeyword "WITH"
  match ← dialect with
  | .msSql =>
    let _ ← improve newRoleOwner []
  | .postgreSql =>
    let _ ← improve newRoleOption []
  | _ => pure ()

def changedRoleOption : Parse Unit := do
  let lexeme ← peek
  if (roleSwitch? lexeme.keyword).isSome then
    skip 1
  else if lexeme.isOneOf roleValueKeywords then
    skip 1
    roleValue (← roleValueName lexeme.keyword)
  else
    expected "option" lexeme

def roleSetting (sub : Nested) : Parse Unit := do
  let _ ← objectName false
  unless ← acceptKeywords ["FROM", "CURRENT"] do
    if (← sees "=") || (← seesKeyword "TO") then
      skip 1
      unless ← acceptKeyword "DEFAULT" do
        if (← settle sub.expression).isNone then
          expectedHere "config value"
    else
      expectedHere "'TO' or '=' or 'FROM CURRENT'"

def alterPostgresRole (sub : Nested) : Parse Unit := do
  let _ ← identifier
  let _ ← afterKeywords ["IN", "DATABASE"] (settle (objectName false))
  if ← acceptKeyword "RENAME" then
    if ← acceptKeyword "TO" then
      let _ ← identifier
    else
      expectedHere "TO after RENAME"
  else if ← acceptKeyword "SET" then
    roleSetting sub
  else if ← acceptKeyword "RESET" then
    unless ← acceptKeyword "ALL" do
      let _ ← objectName false
  else
    let _ ← acceptKeyword "WITH"
    let options ← many (attempt changedRoleOption)
    if options.isEmpty then
      expectedHere "option"

def alterServerRole : Parse Unit := do
  let _ ← identifier
  if (← acceptFirst [["ADD", "MEMBER"], ["DROP", "MEMBER"]]).isSome then
    let _ ← identifier
  else if ← acceptKeywords ["WITH", "NAME"] then
    if ← accept "=" then
      let _ ← identifier
    else
      expectedHere "= after WITH NAME "
  else
    expectedHere "'ADD' or 'DROP' or 'WITH NAME'"

def alterRole (sub : Nested) : Parse Unit := do
  if ← dialectAmong [.postgreSql] then
    alterPostgresRole sub
  else if ← dialectAmong [.msSql] then
    alterServerRole
  else
    refuse "ALTER ROLE is only support for PostgreSqlDialect, MsSqlDialect"

def policyRules (sub : Nested) : Parse Unit := do
  if ← acceptKeyword "TO" then
    let _ ← commaSeparated owner
  if ← acceptKeyword "USING" then
    let _ ← parenthesized sub.expression
  if ← acceptKeywords ["WITH", "CHECK"] then
    let _ ← parenthesized sub.expression

def createPolicy (sub : Nested) : Parse Unit := do
  let _ ← identifier
  expectKeyword "ON"
  let _ ← objectName false
  if ← acceptKeyword "AS" then
    let _ ← expectOneOf ["PERMISSIVE", "RESTRICTIVE"]
  if ← acceptKeyword "FOR" then
    let _ ← expectOneOf ["ALL", "SELECT", "INSERT", "UPDATE", "DELETE"]
  policyRules sub

def alterPolicy (sub : Nested) : Parse Unit := do
  let _ ← identifier
  expectKeyword "ON"
  let _ ← objectName false
  if ← acceptKeyword "RENAME" then
    expectKeyword "TO"
    let _ ← identifier
  else
    policyRules sub

/-! ## Functions and procedures -/

/-- Read a parameter of a function. Its name comes before its type, or is missing. -/
def functionParameter (sub : Nested) : Parse Unit := do
  let _ ← acceptOneOf ["IN", "OUT", "INOUT"]
  let first ← dataType sub
  if first.kind == .custom then
    let _ ← dataType sub
  if (← seesKeyword "DEFAULT") || (← sees "=") then
    skip 1
    let _ ← sub.expression

def functionName (sub : Nested) : Parse Unit := do
  let _ ← objectName false
  if ← accept "(" then
    unless ← accept ")" do
      let _ ← commaSeparated (functionParameter sub)
      expect ")"

def functionText : Parse Unit := do
  match (← peek).token with
  | .literal (.dollar _) _ =>
    if ← dialectAmong [.postgreSql, .generic] then skip 1
    else
      let _ ← literalString
  | _ =>
    let _ ← literalString

inductive FunctionAspect where
  | body
  | language
  | volatility
  | nullInput
  | parallelism
deriving DecidableEq

/-- Read a property of a function unless its aspect is among those settled earlier; gives these
and the aspect. -/
def settleAspect (earlier : List FunctionAspect) (aspect : FunctionAspect) (name : String)
    (reader : Parse Unit) : Parse (Option (List FunctionAspect)) := do
  if earlier.contains aspect then
    refuse (name ++ " specified more than once")
  else
    reader
    return some (aspect :: earlier)

def parallelSafety : Parse Unit := do
  unless ← acceptsOneOf ["UNSAFE", "RESTRICTED", "SAFE"] do
    expectedHere "one of UNSAFE | RESTRICTED | SAFE"

/-- Read a property of a function in PostgreSQL, if one is next, given the aspects settled
earlier. -/
def functionProperty (sub : Nested) (earlier : List FunctionAspect) :
    Parse (Option (List FunctionAspect)) := do
  if ← acceptKeyword "AS" then
    settleAspect earlier .body "AS" functionText
  else if ← acceptKeyword "LANGUAGE" then
    settleAspect earlier .language "LANGUAGE" do
      let _ ← identifier
  else if ← acceptsOneOf ["IMMUTABLE", "STABLE", "VOLATILE"] then
    settleAspect earlier .volatility "IMMUTABLE | STABLE | VOLATILE" (pure ())
  else if (← acceptFirst [["CALLED", "ON", "NULL", "INPUT"],
      ["RETURNS", "NULL", "ON", "NULL", "INPUT"], ["STRICT"]]).isSome then
    settleAspect earlier .nullInput
      "CALLED ON NULL INPUT | RETURNS NULL ON NULL INPUT | STRICT" (pure ())
  else if ← acceptKeyword "PARALLEL" then
    settleAspect earlier .parallelism
      "PARALLEL \x7b UNSAFE | RESTRICTED | SAFE \x7d" parallelSafety
  else if ← acceptKeyword "RETURN" then
    settleAspect earlier .body "RETURN" do
      let _ ← sub.expression
  else
    return none

def createPostgresFunction (sub : Nested) : Parse Unit := do
  let _ ← objectName false
  expect "("
  unless ← sees ")" do
    let _ ← commaSeparated (functionParameter sub)
  expect ")"
  let _ ← afterKeyword "RETURNS" (dataType sub)
  let _ ← improve (functionProperty sub) []

def createHiveFunction : Parse Unit := do
  let _ ← objectName false
  expectKeyword "AS"
  functionText
  if ← acceptKeyword "USING" then
    let _ ← expectOneOf ["JAR", "FILE", "ARCHIVE"]
    let _ ← literalString

def createBigQueryFunction (sub : Nested) : Parse Unit := do
  ifNotExists
  let _ ← objectName false
  expect "("
  let _ ← commaSeparatedUntil ")" do
    let _ ← identifier
    dataType sub
  expect ")"
  let _ ← afterKeyword "RETURNS" (dataType sub)
  let _ ← acceptFirst [["DETERMINISTIC"], ["NOT", "DETERMINISTIC"]]
  let _ ← afterKeyword "LANGUAGE" identifier
  let remote ← afterKeywords ["REMOTE", "WITH", "CONNECTION"] (objectName false)
  let configured ← seesKeyword "OPTIONS"
  optionsAfter sub "OPTIONS"
  if remote.isNone then
    expectKeyword "AS"
    let _ ← sub.expression
    unless configured do optionsAfter sub "OPTIONS"

def macroParameter (sub : Nested) : Parse Unit := do
  let _ ← identifier
  if (← sees ":=") || (← sees "=>") then
    skip 1
    let _ ← sub.expression

def createMacro (sub : Nested) : Parse Unit := do
  let _ ← objectName false
  expect "("
  unless ← sees ")" do
    let _ ← commaSeparated (macroParameter sub)
  expect ")"
  expectKeyword "AS"
  if ← acceptKeyword "TABLE" then
    let _ ← sub.query
  else
    let _ ← sub.expression

def createFunction (sub : Nested) (keyword : Lexeme) : Parse Unit := do
  match ← dialect with
  | .hive => createHiveFunction
  | .postgreSql | .generic => createPostgresFunction sub
  | .duckDb => createMacro sub
  | .bigQuery => createBigQueryFunction sub
  | _ => expected "an object type after CREATE" keyword

/-- Read statements, each behind a semicolon, up to the end of the text or to `END`. A semicolon
is needed between two statements. -/
def statements (statement : Parse Statement) : Parse (List Statement) := do
  let (_, reversed) ← improve (fun ((separated, reversed) : Bool × List Statement) => do
    let lexeme ← peek
    if lexeme.isSymbol ";" then
      skip 1
      return some (true, reversed)
    else if lexeme.token == .finish then
      return none
    else if separated then
      return some (false, (← statement) :: reversed)
    else if lexeme.isWord "END" then
      return none
    else
      expected "end of statement" lexeme) (true, [])
  return reversed.reverse

/-- Read a parameter of a procedure, with what separates it from the next; tells whether a
further one follows. -/
def procedureParameter (sub : Nested) : Parse Bool := do
  match (← peek).token with
  | .word _ _ =>
    let _ ← identifier
    let _ ← dataType sub
  | _ => pure ()
  let comma ← accept ","
  if ← accept ")" then
    return false
  else if comma then
    return true
  else
    expectedHere "',' or ')' after parameter definition"

def createProcedure (sub : Nested) : Parse Unit := do
  let _ ← objectName false
  if ← accept "(" then
    unless ← accept ")" do
      let _ ← improve (fun (more : Bool) => do
        if more then some <$> procedureParameter sub else return none) true
  expectKeyword "AS"
  expectKeyword "BEGIN"
  let _ ← statements sub.statement
  expectKeyword "END"

/-! ## Triggers and secrets -/

def triggerEvent : Parse Unit := do
  match ← expectOneOf ["INSERT", "UPDATE", "DELETE", "TRUNCATE"] with
  | "UPDATE" =>
    let _ ← afterKeyword "OF" identifiers
  | _ => pure ()

/-- Read a table of changed rows that a trigger can see, if one is next. A word `OLD` or `NEW`
without `TABLE` is read over. -/
def transitionTable : Parse (Option ObjectName) := do
  let rows ← acceptsOneOf ["OLD", "NEW"]
  if rows && (← seesKeyword "TABLE") then
    skip 1
    let _ ← acceptKeyword "AS"
    return some (← objectName false)
  else
    return none

def createTrigger (sub : Nested) (keyword : Lexeme) : Parse Unit := do
  unless ← dialectAmong [.postgreSql, .generic] do
    expected "an object type after CREATE" keyword
  let _ ← objectName false
  match ← expectOneOf ["BEFORE", "AFTER", "INSTEAD"] with
  | "INSTEAD" => expectKeyword "OF"
  | _ => pure ()
  triggerEvent
  let _ ← many (afterKeyword "OR" triggerEvent)
  expectKeyword "ON"
  let _ ← objectName false
  let _ ← afterKeyword "FROM" (settle (objectName true))
  characteristics
  if ← acceptKeyword "REFERENCING" then
    let _ ← many transitionTable
  expectKeyword "FOR"
  let _ ← acceptKeyword "EACH"
  let _ ← expectOneOf ["ROW", "STATEMENT"]
  let _ ← sub.after "WHEN"
  expectKeyword "EXECUTE"
  let _ ← expectOneOf ["FUNCTION", "PROCEDURE"]
  functionName sub

structure Lifetime where
  temporary : Bool
  persistent : Bool

def Lifetime.check (lifetime : Lifetime) : Parse Unit := do
  if lifetime.temporary && lifetime.persistent then
    expectedHere "TEMPORARY or PERSISTENT"

def secretPlace : Parse Unit := do
  unless ← sees "(" do
    let stored ←
      if ← acceptKeyword "IN" then
        pure (← settle identifier).isSome
      else
        let _ ← settle identifier
        pure false
    unless stored do
      let _ ← afterKeyword "IN" (settle identifier)

def createSecret (lifetime : Lifetime) : Parse Unit := do
  ifNotExists
  secretPlace
  expect "("
  expectKeyword "TYPE"
  let _ ← identifier
  if ← accept "," then
    let _ ← commaSeparated do
      let _ ← identifier
      identifier
  expect ")"
  lifetime.check

/-! ## All definitions -/

def granteeName : Parse Unit := do
  let name ← objectName false
  if (← dialectAmong [.mySql, .generic]) && name.length == 1 && (← sees "@") then
    skip 1
    let _ ← identifier

def viewParameters : Parse Unit := do
  if ← acceptKeyword "ALGORITHM" then
    expect "="
    let _ ← expectOneOf ["UNDEFINED", "MERGE", "TEMPTABLE"]
  if ← acceptKeyword "DEFINER" then
    expect "="
    granteeName
  if ← acceptKeywords ["SQL", "SECURITY"] then
    let _ ← expectOneOf ["DEFINER", "INVOKER"]

def createOther (sub : Nested) : Parse Unit := do
  if ← acceptKeyword "EXTENSION" then createExtension
  else if (← acceptFirst [["INDEX"], ["UNIQUE", "INDEX"]]).isSome then createIndex sub
  else if ← acceptKeyword "VIRTUAL" then createVirtualTable
  else if ← acceptKeyword "SCHEMA" then createSchema
  else if ← acceptKeyword "DATABASE" then createDatabase
  else if ← acceptKeyword "ROLE" then createRole
  else if ← acceptKeyword "SEQUENCE" then createSequence sub
  else if ← acceptKeyword "TYPE" then createType sub
  else if ← acceptKeyword "PROCEDURE" then createProcedure sub
  else expectedHere "an object type after CREATE"

def createObject (sub : Nested) (replace : Bool) (lifetime : Lifetime) : Parse Unit := do
  let lexeme ← peek
  let second ← peekAt 1
  if ← acceptKeyword "POLICY" then createPolicy sub
  else if ← acceptKeyword "FUNCTION" then createFunction sub lexeme
  else if ← acceptKeyword "TRIGGER" then createTrigger sub lexeme
  else if ← acceptKeywords ["CONSTRAINT", "TRIGGER"] then createTrigger sub second
  else if ← acceptKeyword "MACRO" then
    if ← dialectAmong [.duckDb, .generic] then createMacro sub
    else expected "an object type after CREATE" lexeme
  else if ← acceptKeyword "SECRET" then createSecret lifetime
  else if replace then
    expectedHere "[EXTERNAL] TABLE or [MATERIALIZED] VIEW or FUNCTION after CREATE OR REPLACE"
  else createOther sub

def optionalPersistent : Parse Bool := do
  if ← dialectAmong [.duckDb] then acceptKeyword "PERSISTENT" else return false

def create (sub : Nested) : Parse Statement := do
  let replace ← acceptKeywords ["OR", "REPLACE"]
  let _ ← acceptKeywords ["OR", "ALTER"]
  let _ ← acceptKeyword "LOCAL"
  let _ ← acceptKeyword "GLOBAL"
  let _ ← acceptKeyword "TRANSIENT"
  let temporary ← acceptsOneOf ["TEMP", "TEMPORARY"]
  let persistent ← optionalPersistent
  viewParameters
  if ← acceptKeyword "TABLE" then
    createTable sub
  else if ← seesOneOf ["MATERIALIZED", "VIEW"] then
    createView sub
  else if ← acceptKeyword "EXTERNAL" then
    createExternalTable sub
  else
    createObject sub replace ⟨temporary, persistent⟩
    return .other

def alter (sub : Nested) : Parse Statement := do
  match ← expectOneOf ["VIEW", "TABLE", "INDEX", "ROLE", "POLICY"] with
  | "VIEW" => alterView sub
  | "TABLE" => alterTable sub
  | "INDEX" =>
    let _ ← objectName false
    if ← acceptKeyword "RENAME" then
      if ← acceptKeyword "TO" then
        let _ ← objectName false
        return .other
      else
        expectedHere "TO after RENAME"
    else
      expectedHere "RENAME after ALTER INDEX"
  | "ROLE" =>
    alterRole sub
    return .other
  | _ =>
    alterPolicy sub
    return .other

/-! ## Removals -/

def droppedByName : List String :=
  ["TABLE", "VIEW", "INDEX", "ROLE", "SCHEMA", "DATABASE", "SEQUENCE", "STAGE", "TYPE"]

def objectKind : String → ObjectKind
  | "TABLE" => .table
  | "VIEW" => .view
  | _ => .other

def dropNames (keyword : String) : Parse Statement := do
  ifExists
  let names ← commaSeparated (objectName false)
  let lexeme ← peek
  let cascade ← acceptKeyword "CASCADE"
  let restrict ← acceptKeyword "RESTRICT"
  let purge ← acceptKeyword "PURGE"
  if cascade && restrict then
    fail (.refused "Cannot specify both CASCADE and RESTRICT in DROP" lexeme.position)
  else if keyword == "ROLE" && (cascade || restrict || purge) then
    fail (.refused "Cannot specify CASCADE, RESTRICT, or PURGE in DROP ROLE" lexeme.position)
  else
    return .drop (objectKind keyword) names

def dropOnTable : Parse Unit := do
  expectKeyword "ON"
  let _ ← objectName false
  dropBehavior

def dropOther (sub : Nested) (lifetime : Lifetime) : Parse Unit := do
  let lexeme ← peek
  if ← acceptsOneOf ["FUNCTION", "PROCEDURE"] then
    ifExists
    let _ ← commaSeparated (functionName sub)
    dropBehavior
  else if ← acceptKeyword "POLICY" then
    ifExists
    let _ ← identifier
    dropOnTable
  else if ← acceptKeyword "SECRET" then
    ifExists
    let _ ← identifier
    let _ ← afterKeyword "FROM" (settle identifier)
    lifetime.check
  else if ← acceptKeyword "TRIGGER" then
    unless ← dialectAmong [.postgreSql, .generic] do
      expected "an object type after DROP" lexeme
    ifExists
    let _ ← objectName false
    dropOnTable
  else if ← acceptKeyword "EXTENSION" then
    ifExists
    let _ ← identifiers
    dropBehavior
  else
    expectedHere ("DATABASE, EXTENSION, FUNCTION, INDEX, POLICY, PROCEDURE, ROLE, SCHEMA, "
      ++ "SECRET, SEQUENCE, STAGE, TABLE, TRIGGER, TYPE, or VIEW after DROP")

def drop (sub : Nested) : Parse Statement := do
  let temporary ←
    if ← dialectAmong [.mySql, .generic, .duckDb] then acceptKeyword "TEMPORARY" else pure false
  let persistent ← optionalPersistent
  match ← acceptOneOf droppedByName with
  | some keyword => dropNames keyword
  | none =>
    dropOther sub ⟨temporary, persistent⟩
    return .other

end SqlTables.Sql.Parse
