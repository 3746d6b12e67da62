import SqlTables.Sql.Parse.Change

/-!
# Queries

A query is a body with the clauses around it: common table expressions, sorting, limits, locks.
The body is a selection, rows of values, a query in parentheses, or a combination of these by
set operators.
-/

namespace SqlTables.Sql.Parse

/-! ## Clauses of a selection -/

def distinctClause (sub : Nested) : Parse (List Expr) := do
  let lexeme ← peek
  let all ← acceptKeyword "ALL"
  if ← acceptKeyword "DISTINCT" then
    if all then
      fail (.refused "Cannot specify both ALL and DISTINCT" lexeme.position)
    if ← acceptKeyword "ON" then
      parenthesized do
        if ← sees ")" then return [] else sub.expressions
    else
      return []
  else
    return []

def topClause (sub : Nested) : Parse (Option Expr) := do
  if ← acceptKeyword "TOP" then
    let quantity ←
      if ← accept "(" then
        let quantity ← sub.expression
        expect ")"
        pure (some quantity)
      else
        let _ ← unsigned
        pure none
    let _ ← acceptKeyword "PERCENT"
    let _ ← acceptKeywords ["WITH", "TIES"]
    return quantity
  else
    return none

def intoClause : Parse Unit := do
  if ← acceptKeyword "INTO" then
    let _ ← acceptOneOf ["TEMP", "TEMPORARY"]
    let _ ← acceptKeyword "UNLOGGED"
    let _ ← acceptKeyword "TABLE"
    let _ ← objectName false

def lateralViewStops : List String :=
  ["WHERE", "GROUP", "CLUSTER", "HAVING", "LATERAL"]

def lateralView? (sub : Nested) : Parse (Option Expr) :=
  afterKeywords ["LATERAL", "VIEW"] do
    let _ ← acceptKeyword "OUTER"
    let expr ← sub.expression
    let _ ← objectName false
    let _ ← commaSeparated (optionalAlias lateralViewStops)
    return expr

/-- Read the expressions of a set that is grouped by; a lone one may lack parentheses if
`mayBeBare` says so. -/
def groupingTuple (sub : Nested) (mayBeBare : Bool) : Parse (List Expr) := do
  if mayBeBare && !(← sees "(") then
    return [← sub.expression]
  else
    parenthesized do
      if ← sees ")" then return [] else sub.expressions

def groupingItem (sub : Nested) : Parse Expr := do
  if ← dialectHas Dialect.hasGroupingExpressions then
    if ← acceptKeywords ["GROUPING", "SETS"] then
      let sets ← parenthesized (commaSeparated (groupingTuple sub false))
      return .node .grouping sets.flatten
    else if ← acceptsOneOf ["CUBE", "ROLLUP"] then
      let sets ← parenthesized (commaSeparated (groupingTuple sub true))
      return .node .grouping sets.flatten
    else if (← sees "(") && (← peekAt 1).isSymbol ")" then
      skip 2
      return .node .tuple []
    else
      sub.expression
  else
    sub.expression

def groupClause (sub : Nested) : Parse (List Expr) := do
  if ← acceptKeywords ["GROUP", "BY"] then
    let items ←
      if ← acceptKeyword "ALL" then pure [] else commaSeparated (groupingItem sub)
    if ← dialectHas Dialect.hasGroupingModifiers then
      let _ ← many (afterKeyword "WITH" (expectOneOf ["ROLLUP", "CUBE", "TOTALS"]))
    return items
  else
    return []

def namedWindow (sub : Nested) : Parse (List Expr) := do
  let _ ← identifier
  expectKeyword "AS"
  if ← accept "(" then
    windowSpec sub
  else if ← dialectHas Dialect.hasWindowReferences then
    let _ ← identifier
    return []
  else
    expectedHere "("

def namedWindows (sub : Nested) : Parse (List Expr) := do
  return (← commaSeparated (namedWindow sub)).flatten

def windowClauses (sub : Nested) : Parse (List Expr × Option Expr) := do
  if ← acceptKeyword "WINDOW" then
    let windows ← namedWindows sub
    return (windows, ← afterKeyword "QUALIFY" sub.expression)
  else if ← acceptKeyword "QUALIFY" then
    let qualify ← sub.expression
    return (← orEmpty (afterKeyword "WINDOW" (namedWindows sub)), some qualify)
  else
    return ([], none)

def hierarchy (sub : Nested) : Parse (List Expr) :=
  fun setting => sub.expressions { setting with connectBy := true }

def connectClause (sub : Nested) : Parse (List Expr) := do
  if (← dialectHas Dialect.hasConnectBy) && (← seesOneOf ["START", "CONNECT"]) then
    if ← acceptKeywords ["CONNECT", "BY"] then
      let relationships ← hierarchy sub
      expectKeywords ["START", "WITH"]
      return (← sub.expression) :: relationships
    else
      expectKeywords ["START", "WITH"]
      let condition ← sub.expression
      expectKeywords ["CONNECT", "BY"]
      return condition :: (← hierarchy sub)
  else
    return []

def select (sub : Nested) : Parse Select := do
  expectKeyword "SELECT"
  let dialect ← dialect
  if dialect == .bigQuery then
    if ← acceptKeyword "AS" then
      unless ← acceptsOneOf ["VALUE", "STRUCT"] do
        expectedHere "VALUE or STRUCT"
  let early ← if dialect.hasTopBeforeDistinct then topClause sub else pure none
  let distinctOn ← distinctClause sub
  let late ← if dialect.hasTopBeforeDistinct then pure none else topClause sub
  let items ←
    if dialect.hasEmptyProjection && (← seesKeyword "FROM") then pure [] else projection sub
  intoClause
  let relations ← orEmpty (afterKeyword "FROM" (sources sub))
  let lateralViews ← many (lateralView? sub)
  let prewhere ←
    if dialect.among [.clickHouse, .generic] then afterKeyword "PREWHERE" sub.expression
    else pure none
  let selection ← afterKeyword "WHERE" sub.expression
  let groupBy ← groupClause sub
  let clusterBy ← orEmpty (afterKeywords ["CLUSTER", "BY"] sub.expressions)
  let distributeBy ← orEmpty (afterKeywords ["DISTRIBUTE", "BY"] sub.expressions)
  let sortBy ← orEmpty (afterKeywords ["SORT", "BY"] sub.expressions)
  let having ← afterKeyword "HAVING" sub.expression
  let (windows, qualify) ← windowClauses sub
  let connectBy ← connectClause sub
  return .mk distinctOn (early.or late) items relations lateralViews prewhere selection groupBy
    clusterBy distributeBy sortBy having windows qualify connectBy

/-! ## Bodies -/

def tableBody : Parse Body := do
  let first ← next
  let second ← next
  let third ← next
  let isWord (lexeme : Lexeme) : Bool :=
    match lexeme.token with
    | .word _ _ => true
    | _ => false
  if second.isSymbol "." then
    if !isWord first then expected "Schema name" first
    else if !isWord third then expected "Table name" third
    else return .table
  else if !isWord first then
    expected "Table name" first
  else
    return .table

def simpleBody (sub : Nested) : Parse Body := do
  if ← seesKeyword "SELECT" then
    return .select (← select sub)
  else if ← accept "(" then
    let query ← sub.query
    expect ")"
    return .query query
  else if ← acceptKeyword "VALUES" then
    return .values (← valueRows sub (← dialectAmong [.mySql]))
  else if ← acceptKeyword "TABLE" then
    tableBody
  else
    expectedHere "SELECT, VALUES, or a subquery in the query body"

/-- How tightly the set operator at the front of the lexemes binds; zero if there is none. -/
def setOperatorStrength : Parse Nat := do
  match (← peek).keyword with
  | "UNION" | "EXCEPT" | "MINUS" => return 10
  | "INTERSECT" => return 20
  | _ => return 0

def setQuantifier : Parse Unit := do
  match ← acceptFirst [["DISTINCT", "BY", "NAME"], ["BY", "NAME"]] with
  | some _ => pure ()
  | none =>
    if ← acceptKeyword "ALL" then
      let _ ← acceptKeywords ["BY", "NAME"]
    else
      let _ ← acceptKeyword "DISTINCT"

/-- Read a body whose set operators bind more tightly than a precedence. Right-hand sides are
nested at most as deeply as `fuel` says, which is never more than there are strengths. -/
def bodyWithin (sub : Nested) : Nat → Nat → Parse Body
  | 0, _ => fail .tooDeep
  | fuel + 1, precedence => do
    let first ← simpleBody sub
    improve (fun left => do
      let strength ← setOperatorStrength
      if precedence < strength then
        skip 1
        setQuantifier
        return some (.setOperation left (← bodyWithin sub fuel strength))
      else
        return none) first

def body (sub : Nested) : Parse Body :=
  bodyWithin sub 3 0

/-! ## Clauses of a query -/

def commonTable (sub : Nested) : Parse Cte := do
  let name ← identifier
  unless ← seesKeyword "AS" do
    let _ ← aliasColumns sub
  expectKeyword "AS"
  if ← dialectAmong [.postgreSql] then
    let _ ← acceptFirst [["MATERIALIZED"], ["NOT", "MATERIALIZED"]]
  let query ← parenthesized sub.query
  return .mk name query (← afterKeyword "FROM" identifier)

def commonTables (sub : Nested) : Parse (List Cte) := do
  if ← acceptKeyword "WITH" then
    let _ ← acceptKeyword "RECURSIVE"
    commaSeparated (commonTable sub)
  else
    return []

def interpolation (sub : Nested) : Parse (List Expr) := do
  if (← dialectAmong [.clickHouse, .generic]) && (← seesKeyword "INTERPOLATE") then
    skip 1
    if ← accept "(" then
      let items ← commaSeparatedUntil ")" do
        let _ ← identifier
        sub.after "AS"
      expect ")"
      return items.flatten
    else
      return []
  else
    return []

def queryOrder (sub : Nested) : Parse (List Expr) := do
  if ← acceptKeywords ["ORDER", "BY"] then
    let keys ← sortKeys sub
    return keys ++ (← interpolation sub)
  else
    return []

def offsetValue (sub : Nested) : Parse Expr := do
  let offset ← sub.expression
  let _ ← acceptOneOf ["ROW", "ROWS"]
  return offset

def limitRound (sub : Nested) (limit offset : Option Expr) :
    Parse (Option Expr × Option Expr) := do
  let limit ←
    if limit.isNone && (← seesKeyword "LIMIT") then
      skip 1
      limitValue sub
    else
      pure limit
  let offset ←
    if offset.isNone && (← seesKeyword "OFFSET") then
      skip 1
      some <$> offsetValue sub
    else
      pure offset
  if (← dialectHas Dialect.hasLimitComma) && limit.isSome && offset.isNone && (← sees ",") then
    skip 1
    return (some (← sub.expression), limit)
  else
    return (limit, offset)

def limits (sub : Nested) : Parse (Option Expr × Option Expr) := do
  let (limit, offset) ← limitRound sub none none
  limitRound sub limit offset

def fetchClause : Parse (Option Expr) := do
  if ← acceptKeyword "FETCH" then
    let _ ← expectOneOf ["FIRST", "NEXT"]
    let quantity ←
      if ← acceptsOneOf ["ROW", "ROWS"] then
        pure none
      else
        let _ ← value
        let _ ← acceptKeyword "PERCENT"
        let _ ← expectOneOf ["ROW", "ROWS"]
        pure (some .value)
    unless ← acceptKeyword "ONLY" do
      unless ← acceptKeywords ["WITH", "TIES"] do
        expectedHere "one of ONLY or WITH TIES"
    return quantity
  else
    return none

def optionalElementName : Parse Unit := do
  if ← sees "(" then
    let _ ← parenthesized literalString

def xmlClause : Parse Unit := do
  match ← acceptOneOf ["RAW", "AUTO", "EXPLICIT", "PATH"] with
  | some "RAW" | some "PATH" => optionalElementName
  | some _ => pure ()
  | none => refuse "Expected FOR XML [RAW | AUTO | EXPLICIT | PATH ]"
  let _ ← many do
    if ← accept "," then
      match ← acceptOneOf ["ELEMENTS", "BINARY", "ROOT", "TYPE"] with
      | some "BINARY" => expectKeyword "BASE64"
      | some "ROOT" =>
        let _ ← parenthesized literalString
      | _ => pure ()
      return some ()
    else
      return none

def jsonClause : Parse Unit := do
  unless ← acceptsOneOf ["AUTO", "PATH"] do
    refuse "Expected FOR JSON [AUTO | PATH ]"
  let _ ← many do
    if ← accept "," then
      match ← acceptOneOf ["ROOT", "INCLUDE_NULL_VALUES", "WITHOUT_ARRAY_WRAPPER"] with
      | some "ROOT" =>
        let _ ← parenthesized literalString
      | _ => pure ()
      return some ()
    else
      return none

def lockClause : Parse Unit := do
  let _ ← expectOneOf ["UPDATE", "SHARE"]
  let _ ← afterKeyword "OF" (objectName false)
  unless ← acceptKeyword "NOWAIT" do
    let _ ← acceptKeywords ["SKIP", "LOCKED"]

def forClauses : Parse Unit := do
  let _ ← improve (fun (more : Bool) => do
    if !more then
      return none
    else if ← acceptKeyword "FOR" then
      match ← acceptOneOf ["XML", "JSON", "BROWSE"] with
      | some "XML" =>
        xmlClause
        return some false
      | some "JSON" =>
        jsonClause
        return some false
      | some _ => return some false
      | none =>
        lockClause
        return some true
    else
      return none) true

def formatClause : Parse Unit := do
  if ← dialectAmong [.clickHouse, .generic] then
    if ← acceptKeyword "FORMAT" then
      unless ← acceptKeyword "NULL" do
        let _ ← identifier

def queryOf (sub : Nested) : Parse Query := do
  let ctes ← commonTables sub
  if ← acceptKeyword "INSERT" then
    return .mk ctes (.insert (← insertion sub)) [] none [] none none
  else if ← acceptKeyword "UPDATE" then
    return .mk ctes (.update (← update sub)) [] none [] none none
  else
    let body ← body sub
    let orderBy ← queryOrder sub
    let (limit, offset) ← limits sub
    let limitBy ←
      if ← dialectAmong [.clickHouse, .generic] then orEmpty (afterKeyword "BY" sub.expressions)
      else pure []
    let _ ← settings
    let fetch ← fetchClause
    forClauses
    formatClause
    return .mk ctes body orderBy limit limitBy offset fetch

end SqlTables.Sql.Parse
