import SqlTables.Sql.Parse.Table

/-!
# Changes of tables

`ALTER TABLE` with its actions. An action that adds a column or gives the table a new name is
told apart; of the others nothing is kept.
-/

namespace SqlTables.Sql.Parse

def partitionValues (sub : Nested) : Parse Unit := do
  let _ ← parenthesized sub.expressions

def columnPosition : Parse Unit := do
  if ← dialectAmong [.mySql, .generic] then
    unless ← acceptKeyword "FIRST" do
      let _ ← afterKeyword "AFTER" identifier

def dropBehavior : Parse Unit := do
  let _ ← acceptOneOf ["RESTRICT", "CASCADE"]

def storedProjection (sub : Nested) : Parse Unit := do
  ifNotExists
  let _ ← identifier
  parenthesized do
    expectKeyword "SELECT"
    let _ ← projection sub
    let _ ← groupClause sub
    let _ ← queryOrder sub

def addition (sub : Nested) : Parse AlterAction := do
  if ← tableConstraint sub then
    return .other
  else if (← dialectAmong [.clickHouse, .generic]) && (← seesKeyword "PROJECTION") then
    skip 1
    storedProjection sub
    return .other
  else
    ifNotExists
    let partitions ← many (afterKeyword "PARTITION" (partitionValues sub))
    if partitions.isEmpty then
      let _ ← acceptKeyword "COLUMN"
      if ← dialectAmong [.postgreSql, .bigQuery, .duckDb, .generic] then ifNotExists
      let _ ← columnDef sub
      columnPosition
      return .addColumn
    else
      return .other

def newName : Parse AlterAction := do
  if (← dialectAmong [.postgreSql]) && (← seesKeyword "CONSTRAINT") then
    skip 1
    let _ ← identifier
    expectKeyword "TO"
    let _ ← identifier
    return .other
  else if ← acceptKeyword "TO" then
    return .renameTable (← objectName false)
  else
    let _ ← acceptKeyword "COLUMN"
    let _ ← identifier
    expectKeyword "TO"
    let _ ← identifier
    return .other

def disabling : Parse Unit := do
  unless ← acceptKeywords ["ROW", "LEVEL", "SECURITY"] do
    if ← acceptsOneOf ["RULE", "TRIGGER"] then
      let _ ← identifier
    else
      expectedHere "ROW LEVEL SECURITY, RULE, or TRIGGER after DISABLE"

def enabling : Parse Unit := do
  unless ← acceptKeywords ["ROW", "LEVEL", "SECURITY"] do
    match ← acceptFirst [["ALWAYS", "RULE"], ["ALWAYS", "TRIGGER"], ["REPLICA", "RULE"],
        ["REPLICA", "TRIGGER"], ["RULE"], ["TRIGGER"]] with
    | some _ =>
      let _ ← identifier
    | none =>
      expectedHere "ALWAYS, REPLICA, ROW LEVEL SECURITY, RULE, or TRIGGER after ENABLE"

def projectionInPartition : Parse Unit := do
  ifExists
  let _ ← identifier
  let _ ← afterKeywords ["IN", "PARTITION"] identifier

def removal (sub : Nested) : Parse Unit := do
  if (← acceptFirst [["IF", "EXISTS", "PARTITION"], ["PARTITION"]]).isSome then
    partitionValues sub
  else if ← acceptKeyword "CONSTRAINT" then
    ifExists
    let _ ← identifier
    dropBehavior
  else if ← optionKeywords ["PRIMARY", "KEY"] [.mySql, .generic] then
    pure ()
  else if ← optionKeywords ["PROJECTION"] [.clickHouse, .generic] then
    ifExists
    let _ ← identifier
  else if ← acceptKeywords ["CLUSTERING", "KEY"] then
    pure ()
  else
    let _ ← acceptKeyword "COLUMN"
    ifExists
    let _ ← identifier
    dropBehavior

def partitionRenaming (sub : Nested) : Parse Unit := do
  partitionValues sub
  expectKeyword "RENAME"
  expectKeywords ["TO", "PARTITION"]
  partitionValues sub

def columnChange (sub : Nested) : Parse Unit := do
  let _ ← dataType sub
  columnOptions sub
  columnPosition

def columnGeneration : Parse Unit := do
  unless ← acceptKeyword "ALWAYS" do
    let _ ← acceptKeywords ["BY", "DEFAULT"]
  expectKeywords ["AS", "IDENTITY"]
  if ← accept "(" then
    sequenceOptions
    expect ")"

def columnAlteration (sub : Nested) : Parse Unit := do
  let _ ← acceptKeyword "COLUMN"
  let _ ← identifier
  let strict ← dialectAmong [.postgreSql]
  if (← acceptFirst [["SET", "NOT", "NULL"], ["DROP", "NOT", "NULL"]]).isSome then
    pure ()
  else if ← acceptKeywords ["SET", "DEFAULT"] then
    let _ ← sub.expression
  else if ← acceptKeywords ["DROP", "DEFAULT"] then
    pure ()
  else
    match ← acceptFirst (["SET", "DATA", "TYPE"] :: if strict then [["TYPE"]] else []) with
    | some _ =>
      let _ ← dataType sub
      if strict then
        let _ ← sub.after "USING"
    | none =>
      if ← acceptKeywords ["ADD", "GENERATED"] then
        columnGeneration
      else if strict then
        expectedHere ("SET/DROP NOT NULL, SET DEFAULT, SET DATA TYPE, or ADD GENERATED "
          ++ "after ALTER COLUMN")
      else
        expectedHere "SET/DROP NOT NULL, SET DEFAULT, or SET DATA TYPE after ALTER COLUMN"

def partOrPartition (sub : Nested) : Parse Unit := do
  let _ ← expectOneOf ["PART", "PARTITION"]
  let _ ← sub.expression

def owner : Parse Unit := do
  unless ← acceptsOneOf ["CURRENT_USER", "CURRENT_ROLE", "SESSION_USER"] do
    if (← attempt identifier).isNone then
      let lexeme ← peek
      let reason := (Failure.expected "identifier" lexeme.token lexeme.position).message
      refuse ("Expected: CURRENT_USER, CURRENT_ROLE, SESSION_USER or identifier after OWNER TO. "
        ++ "sql parser error: " ++ reason)

def partitionAction (sub : Nested) : Parse Bool := do
  if ← dialectAmong [.clickHouse, .generic] then
    if ← acceptsOneOf ["ATTACH", "DETACH"] then
      partOrPartition sub
      return true
    else if ← acceptsOneOf ["FREEZE", "UNFREEZE"] then
      partOrPartition sub
      if ← acceptKeyword "WITH" then
        expectKeyword "NAME"
        let _ ← identifier
      return true
    else
      return false
  else
    return false

def tableAction (sub : Nested) : Parse Unit := do
  if ← acceptKeyword "SWAP" then
    expectKeyword "WITH"
    let _ ← objectName false
  else if (← dialectAmong [.postgreSql, .generic]) && (← seesKeywords ["OWNER", "TO"]) then
    skip 2
    owner
  else if ← partitionAction sub then
    pure ()
  else if ← acceptKeywords ["CLUSTER", "BY"] then
    partitionValues sub
  else if (← acceptFirst [["SUSPEND", "RECLUSTER"], ["RESUME", "RECLUSTER"]]).isSome then
    pure ()
  else unless ← propertiesAfter sub ["SET", "TBLPROPERTIES"] do
    expectedHere "ADD, RENAME, PARTITION, SWAP, DROP, or SET TBLPROPERTIES after ALTER TABLE"

def otherAction (sub : Nested) : Parse Unit := do
  if ← acceptKeyword "DISABLE" then
    disabling
  else if ← acceptKeyword "ENABLE" then
    enabling
  else if ← optionKeywords ["CLEAR", "PROJECTION"] [.clickHouse, .generic] then
    projectionInPartition
  else if ← optionKeywords ["MATERIALIZE", "PROJECTION"] [.clickHouse, .generic] then
    projectionInPartition
  else if ← acceptKeyword "DROP" then
    removal sub
  else if ← acceptKeyword "PARTITION" then
    partitionRenaming sub
  else if ← acceptKeyword "CHANGE" then
    let _ ← acceptKeyword "COLUMN"
    let _ ← identifier
    let _ ← identifier
    columnChange sub
  else if ← acceptKeyword "MODIFY" then
    let _ ← acceptKeyword "COLUMN"
    let _ ← identifier
    columnChange sub
  else if ← acceptKeyword "ALTER" then
    columnAlteration sub
  else
    tableAction sub

def alterAction (sub : Nested) : Parse AlterAction := do
  if ← acceptKeyword "ADD" then
    addition sub
  else if ← acceptKeyword "RENAME" then
    newName
  else
    otherAction sub
    return .other

def alterTable (sub : Nested) : Parse Statement := do
  ifExists
  let _ ← acceptKeyword "ONLY"
  let name ← objectName false
  onCluster
  let actions ← commaSeparated (alterAction sub)
  if (← acceptFirst [["LOCATION"], ["SET", "LOCATION"]]).isSome then
    let _ ← identifier
  return .alterTable name actions

end SqlTables.Sql.Parse
