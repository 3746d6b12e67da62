import SqlTables.Sql.Parse.Expression

/-!
# Operands of FROM

Tables by name, derived tables, table functions and joins, with what may follow them: versions,
arguments, samples, aliases, hints, pivots and patterns of rows.
-/

namespace SqlTables.Sql.Parse

def tableAlias (sub : Nested) : Parse (Option RelationAlias × List Expr) :=
  optionalTableAlias sub tableAliasStops

def valueRows (sub : Nested) (mayBeEmpty : Bool) : Parse (List Expr) := do
  let rows ← commaSeparated do
    let _ ← acceptKeyword "ROW"
    expect "("
    if mayBeEmpty && (← sees ")") then
      skip 1
      return []
    else
      let cells ← sub.expressions
      expect ")"
      return cells
  return rows.flatten

/-! ## Pivots -/

def namedExpression (sub : Nested) : Parse Expr := do
  let expr ← sub.expression
  let _ ← afterKeyword "AS" identifier
  return expr

def aggregateCall (sub : Nested) : Parse Expr := do
  let lexeme ← next
  match lexeme.token with
  | .word value _ =>
    let called ← call sub [Ident.plain value]
    let _ ← afterKeyword "AS" identifier
    return called
  | _ => expectedHere "a function identifier"

def pivotValues (sub : Nested) : Parse (List Expr) :=
  parenthesized do
    if ← acceptKeyword "ANY" then
      optionalOrder sub
    else if ← seesQuery then
      return [.query (← sub.query)]
    else
      commaSeparated (namedExpression sub)

def pivotOf (sub : Nested) (source : TableFactor) : Parse TableFactor := do
  expect "("
  let aggregates ← commaSeparated (aggregateCall sub)
  expectKeyword "FOR"
  let _ ← objectName false
  expectKeyword "IN"
  let values ← pivotValues sub
  let default ←
    orEmpty <| afterKeywords ["DEFAULT", "ON", "NULL"] do
      return [← parenthesized sub.expression]
  expect ")"
  let (calledAs, declared) ← tableAlias sub
  return .pivot source (aggregates ++ values ++ default ++ declared) calledAs

def unpivotOf (sub : Nested) (source : TableFactor) : Parse TableFactor := do
  expect "("
  let _ ← identifier
  expectKeyword "FOR"
  let _ ← identifier
  expectKeyword "IN"
  let _ ← columns
  expect ")"
  let (calledAs, declared) ← tableAlias sub
  return .pivot source declared calledAs

def pivots (sub : Nested) (source : TableFactor) : Parse TableFactor :=
  improve (fun table => do
    match ← acceptOneOf ["PIVOT", "UNPIVOT"] with
    | some "PIVOT" => return some (← pivotOf sub table)
    | some _ => return some (← unpivotOf sub table)
    | none => return none) source

/-! ## Patterns of rows -/

/-- Read the bounds of a repetition behind an opening brace. A bound that is no number of 32 bits
is reported where the bounds start. -/
def repetitionBounds : Parse Unit := do
  let lexeme ← next
  let bound (digits : String) : Parse Unit := do
    let _ ← unsignedOf 32 digits lexeme.position
  match lexeme.token with
  | .symbol "," =>
    let upper ← next
    match upper.token with
    | .number most _ =>
      expect "\x7d"
      bound most
    | _ => expected "literal number" upper
  | .number least _ =>
    if ← accept "," then
      let upper ← next
      match upper.token with
      | .number most _ =>
        expect "\x7d"
        bound least
        bound most
      | .symbol "\x7d" => bound least
      | _ => expected "\x7d or upper bound" upper
    else
      expect "\x7d"
      bound least
  | _ => expected "quantifier range" lexeme

def repetition : Parse (Option Unit) := do
  let lexeme ← peek
  match lexeme.token with
  | .symbol "*" | .symbol "+" | .placeholder "?" =>
    skip 1
    return some ()
  | .symbol "\x7b" =>
    skip 1
    repetitionBounds
    return some ()
  | _ => return none

def basePattern (pattern : Parse Unit) : Parse Unit := do
  let lexeme ← peek
  match lexeme.token with
  | .symbol "^" | .placeholder "$" => skip 1
  | .symbol "\x7b" =>
    skip 1
    expect "-"
    let _ ← identifier
    expect "-"
    expect "\x7d"
  | .symbol "(" =>
    skip 1
    pattern
    expect ")"
  | .word "PERMUTE" none =>
    skip 1
    let _ ← parenthesized identifiers
  | _ =>
    let _ ← identifier

def rowPatternWithin : Nat → Parse Unit
  | 0 => fail .tooDeep
  | fuel + 1 => do
    let piece : Parse Unit := do
      basePattern (rowPatternWithin fuel)
      let _ ← many repetition
    piece
    let _ ← many do
      if (← sees ")") || (← sees "|") then
        return none
      else
        piece
        return some ()
    if ← accept "|" then
      rowPatternWithin fuel

def rowsPerMatch : Parse Unit := do
  unless ← acceptKeywords ["ONE", "ROW", "PER", "MATCH"] do
    if ← acceptKeywords ["ALL", "ROWS", "PER", "MATCH"] then
      let _ ← acceptFirst
        [["SHOW", "EMPTY", "MATCHES"], ["OMIT", "EMPTY", "MATCHES"], ["WITH", "UNMATCHED", "ROWS"]]

def afterMatch : Parse Unit := do
  if ← acceptKeywords ["AFTER", "MATCH", "SKIP"] then
    match ← acceptFirst [["PAST", "LAST", "ROW"], ["TO", "NEXT", "ROW"]] with
    | some _ => pure ()
    | none =>
      match ← acceptFirst [["TO", "FIRST"], ["TO", "LAST"]] with
      | some _ =>
        let _ ← identifier
      | none => expected "after match skip option" (← next)

def matchRecognizeOf (sub : Nested) (source : TableFactor) : Parse TableFactor := do
  expect "("
  let partition ← orEmpty (afterKeywords ["PARTITION", "BY"] sub.expressions)
  let order ← optionalOrder sub
  let measures ←
    orEmpty <| afterKeyword "MEASURES" <| commaSeparated do
      let measure ← sub.expression
      let _ ← acceptKeyword "AS"
      let _ ← identifier
      return measure
  rowsPerMatch
  afterMatch
  expectKeyword "PATTERN"
  parenthesized do rowPatternWithin ((← get).length + 1)
  expectKeyword "DEFINE"
  let definitions ← commaSeparated do
    let _ ← identifier
    expectKeyword "AS"
    sub.expression
  expect ")"
  let (calledAs, declared) ← tableAlias sub
  return .matchRecognize source (partition ++ order ++ measures ++ definitions ++ declared) calledAs

/-! ## Relations computed from expressions -/

def columnFallback : Parse Bool := do
  let found ←
    if ← acceptsOneOf ["NULL", "ERROR"] then
      pure true
    else if ← acceptKeyword "DEFAULT" then
      let _ ← value
      pure true
    else
      pure false
  if found then
    expectKeyword "ON"
  return found

/-- Read a column of a relation read from a document, nested at most as deeply as `fuel` says; gives
the expressions in its type. -/
def documentColumnWithin (sub : Nested) : Nat → Parse (List Expr)
  | 0 => fail .tooDeep
  | fuel + 1 => do
    if ← acceptKeyword "NESTED" then
      let _ ← acceptKeyword "PATH"
      let _ ← value
      expectKeyword "COLUMNS"
      return (← parenthesized (commaSeparated (documentColumnWithin sub fuel))).flatten
    else
      let _ ← identifier
      if ← acceptKeyword "FOR" then
        expectKeyword "ORDINALITY"
        return []
      else
        let type ← dataType sub
        let _ ← acceptKeyword "EXISTS"
        expectKeyword "PATH"
        let _ ← value
        let _ ← many do
          if ← columnFallback then
            unless ← acceptKeyword "EMPTY" do
              expectKeyword "ERROR"
            return some ()
          else
            return none
        return type.operands

def jsonTable (sub : Nested) : Parse TableFactor := do
  let document ← sub.expression
  expect ","
  let _ ← value
  expectKeyword "COLUMNS"
  let columns ← parenthesized (commaSeparated do documentColumnWithin sub ((← get).length + 1))
  expect ")"
  let (calledAs, declared) ← tableAlias sub
  return .computed (document :: columns.flatten ++ declared) calledAs

def openJson (sub : Nested) : Parse TableFactor := do
  expect "("
  let document ← sub.expression
  if ← accept "," then
    let _ ← value
  expect ")"
  let columns ←
    orEmpty <| afterKeyword "WITH" <| parenthesized <| commaSeparated do
      let _ ← identifier
      let type ← dataType sub
      match (← peek).token with
      | .literal .single _ => skip 1
      | _ => pure ()
      if ← acceptKeyword "AS" then
        expectKeyword "JSON"
      return type.operands
  let (calledAs, declared) ← tableAlias sub
  return .computed (document :: columns.flatten ++ declared) calledAs

/-- Read unnested arrays behind `UNNEST`. Their alias is visited before them. -/
def unnest (sub : Nested) : Parse TableFactor := do
  let arrays ← parenthesized sub.expressions
  let _ ← acceptKeywords ["WITH", "ORDINALITY"]
  let (calledAs, declared) ← tableAlias sub
  if ← acceptKeyword "WITH" then
    if ← acceptKeyword "OFFSET" then
      let _ ← optionalAlias columnAliasStops
  return .computed (declared ++ arrays) calledAs

/-! ## Tables by name -/

def settingItem : Parse Unit := do
  let _ ← identifier
  expect "="
  let _ ← value

def settings : Parse Bool := do
  if ← dialectAmong [.clickHouse, .generic] then
    if ← acceptKeyword "SETTINGS" then
      let _ ← commaSeparated settingItem
      return true
  return false

/-- Read the arguments of a table function up to the closing parenthesis. Settings end them. -/
def tableArguments (sub : Nested) : Parse (List Expr) := do
  if ← accept ")" then
    return []
  else
    let trailing ← dialectHas Dialect.hasTrailingCommas
    let (args, _) ← improve (fun ((args, more) : List Expr × Bool) => do
      if !more then
        return none
      else if ← settings then
        return some (args, false)
      else
        let arg ← argument sub
        return some (args ++ arg, ← listContinues trailing stopsColumns)) ([], true)
    expect ")"
    return args

def tableVersion (sub : Nested) : Parse (List Expr) := do
  if ← dialectHas Dialect.hasTableVersions then
    if ← acceptKeywords ["FOR", "SYSTEM_TIME", "AS", "OF"] then
      return [← sub.expression]
    else if ← seesOneOf ["AT", "BEFORE"] then
      let name ← objectName true
      return [← call sub name]
    else
      return []
  else
    return []

def sampleSeed : Parse Unit := do
  if ← acceptsOneOf ["REPEATABLE", "SEED"] then
    let _ ← parenthesized numberValue

def sampleQuantity (sub : Nested) : Parse (List Expr) := do
  let quantity ←
    match ← attempt sub.expression with
    | some expr => pure [expr]
    | none =>
      let lexeme ← next
      match lexeme.token with
      | .word _ _ => pure []
      | _ => fail (.refused "Expecting number or byte length e.g. 100M" (← peek).position)
  let _ ← acceptOneOf ["ROWS", "PERCENT"]
  return quantity

def sampleBucket (sub : Nested) : Parse (List Expr) := do
  let _ ← numberValue
  expectKeywords ["OUT", "OF"]
  let _ ← numberValue
  sub.after "ON"

def sample (sub : Nested) : Parse (List Expr) := do
  if ← acceptsOneOf ["TABLESAMPLE", "SAMPLE"] then
    let _ ← acceptOneOf ["BERNOULLI", "ROW", "SYSTEM", "BLOCK"]
    let opened ← accept "("
    let bucket ← if opened then acceptKeyword "BUCKET" else pure false
    let quantity ← if bucket then sampleBucket sub else sampleQuantity sub
    if opened then
      expect ")"
    sampleSeed
    return quantity ++ (← sub.after "OFFSET")
  else
    return []

def tableHints (sub : Nested) : Parse (List Expr) := do
  if (← seesKeyword "WITH") && (← peekAt 1).isSymbol "(" then
    skip 1
    parenthesized sub.expressions
  else
    return []

/-- A relation that is searched together with the types in the alias of its table, which come before
everything else of the table. -/
def declaring (declared : List Expr) : TableFactor → TableFactor
  | .table name calledAs (some args) extras => .table name calledAs (some (declared ++ args)) extras
  | .table name calledAs none extras => .table name calledAs none (declared ++ extras)
  | .pivot source operands calledAs => .pivot (declaring declared source) operands calledAs
  | other => other

def namedTable (sub : Nested) : Parse TableFactor := do
  let name ← objectName true
  let path ←
    if (← sees "[") && (← dialectHas Dialect.hasPathAccess) then documentPath sub else pure []
  if ← dialectAmong [.mySql, .generic] then
    let _ ← afterKeyword "PARTITION" (parenthesized identifiers)
  let version ← tableVersion sub
  let args ← do given (← accept "(") (tableArguments sub)
  let _ ← acceptKeywords ["WITH", "ORDINALITY"]
  let early ← dialectHas Dialect.samplesBeforeAlias
  let before ← if early then sample sub else pure []
  let (calledAs, declared) ← tableAlias sub
  let hints ← tableHints sub
  let behind ← if early then pure [] else sample sub
  let table ← pivots sub (.table name calledAs args (hints ++ version ++ path ++ before ++ behind))
  if ← dialectHas Dialect.hasMatchRecognize then
    if ← acceptKeyword "MATCH_RECOGNIZE" then
      return ← matchRecognizeOf sub (declaring declared table)
  return table

/-! ## Joins -/

def derivedTable (sub : Nested) : Parse TableFactor := do
  let query ← sub.query
  expect ")"
  return .derived query (← tableAlias sub).1

def joinCondition (sub : Nested) : Parse (List Expr) := do
  if ← acceptKeyword "ON" then
    return [← sub.expression]
  else if ← acceptKeyword "USING" then
    let _ ← columnList (objectName true)
    return []
  else
    return []

/-- Read the words of a join up to `JOIN`; tells whether a join follows. -/
def joinKind (natural : Bool) : Parse Bool := do
  let lexeme ← peek
  match lexeme.keyword with
  | "INNER" | "JOIN" =>
    let _ ← acceptKeyword "INNER"
    expectKeyword "JOIN"
    return true
  | "LEFT" | "RIGHT" =>
    skip 1
    match ← acceptOneOf ["OUTER", "SEMI", "ANTI", "JOIN"] with
    | some "JOIN" => return true
    | some _ =>
      expectKeyword "JOIN"
      return true
    | none => refuse ("expected OUTER, SEMI, ANTI or JOIN after " ++ lexeme.keyword)
  | "ANTI" | "SEMI" =>
    skip 1
    expectKeyword "JOIN"
    return true
  | "FULL" =>
    skip 1
    let _ ← acceptKeyword "OUTER"
    expectKeyword "JOIN"
    return true
  | "OUTER" => expected "LEFT, RIGHT, or FULL" lexeme
  | _ => if natural then expected "a join type after NATURAL" lexeme else return false

def join? (sub : Nested) (factor : Parse TableFactor) : Parse (Option Join) := do
  let _ ← acceptKeyword "GLOBAL"
  if ← acceptKeyword "CROSS" then
    unless ← acceptsOneOf ["JOIN", "APPLY"] do
      expectedHere "JOIN or APPLY after CROSS"
    return some (.mk (← factor) [])
  else if ← acceptKeyword "OUTER" then
    expectKeyword "APPLY"
    return some (.mk (← factor) [])
  else if ← acceptKeyword "ASOF" then
    expectKeyword "JOIN"
    let relation ← factor
    expectKeyword "MATCH_CONDITION"
    let condition ← parenthesized sub.expression
    return some (.mk relation (condition :: (← joinCondition sub)))
  else
    let natural ← acceptKeyword "NATURAL"
    if ← joinKind natural then
      let relation ← factor
      return some (.mk relation (← if natural then pure [] else joinCondition sub))
    else
      return none

def joinsOf (sub : Nested) (factor : Parse TableFactor) : Parse TableWithJoins := do
  let relation ← factor
  return .mk relation (← many (join? sub factor))

/-! ## All operands -/

def aliasOf : TableFactor → Option RelationAlias
  | .table _ calledAs _ _ => calledAs
  | .derived _ calledAs => calledAs
  | .nestedJoin _ calledAs => calledAs
  | .pivot _ _ calledAs => calledAs
  | .computed _ calledAs => calledAs
  | .matchRecognize _ _ calledAs => calledAs

/-- An operand with an alias; `unnested` tells whether it is unnested arrays. -/
def withAlias (calledAs : Option RelationAlias) (declared : List Expr) (unnested : Bool) :
    TableFactor → TableFactor
  | .table name _ args extras => .table name calledAs args extras
  | .derived query _ => .derived query calledAs
  | .nestedJoin tables _ => .nestedJoin tables calledAs
  | .pivot source operands _ => .pivot source (operands ++ declared) calledAs
  | .computed operands _ =>
    .computed (if unnested then declared ++ operands else operands ++ declared) calledAs
  | .matchRecognize source operands _ => .matchRecognize source (operands ++ declared) calledAs

def outerAlias (sub : Nested) (unnested : Bool) (relation : TableFactor) : Parse TableFactor := do
  match ← tableAlias sub with
  | (none, _) => return relation
  | (some calledAs, declared) =>
    match aliasOf relation with
    | some inner => refuse ("duplicate alias " ++ inner.shown)
    | none => return withAlias (some calledAs) declared unnested relation

/-- Whether unnested arrays follow, be it in parentheses of their own. -/
def seesUnnested : Parse Bool := do
  return ((← get).dropWhile fun lexeme => lexeme.isSymbol "(").head?.any fun lexeme =>
    lexeme.isWord "UNNEST"

/-- Read an operand behind an opening parenthesis: a derived table, joined relations, or another
operand in parentheses of its own. -/
def parenthesizedFactor (sub : Nested) (factor : Parse TableFactor) : Parse TableFactor := do
  match ← attempt (derivedTable sub) with
  | some table => pivots sub table
  | none =>
    let unnested ← seesUnnested
    let .mk relation joins ← joinsOf sub factor
    let nested : Bool :=
      match relation with
      | .nestedJoin _ _ => true
      | _ => false
    if !joins.isEmpty || nested then
      expect ")"
      return .nestedJoin (.mk relation joins) (← tableAlias sub).1
    else if ← dialectAmong [.snowflake, .generic] then
      expect ")"
      outerAlias sub unnested relation
    else
      expectedHere "joined table"

def seesCallOf (keyword : String) : Parse Bool := do
  return (← peek).isWord keyword && (← peekAt 1).isSymbol "("

def lateralFactor (sub : Nested) : Parse TableFactor := do
  if ← accept "(" then
    derivedTable sub
  else
    let _ ← objectName false
    expect "("
    let args ←
      if ← accept ")" then
        pure []
      else
        let args ← commaSeparated (argument sub)
        expect ")"
        pure args.flatten
    let (calledAs, declared) ← tableAlias sub
    return .computed (args ++ declared) calledAs

def tableFactorStep (sub : Nested) (factor : Parse TableFactor) : Parse TableFactor := do
  let dialect ← dialect
  if ← acceptKeyword "LATERAL" then
    lateralFactor sub
  else if ← acceptKeyword "TABLE" then
    let expr ← parenthesized sub.expression
    let (calledAs, declared) ← tableAlias sub
    return .computed (expr :: declared) calledAs
  else if ← accept "(" then
    parenthesizedFactor sub factor
  else if dialect.among [.snowflake, .databricks, .generic] && (← seesCallOf "VALUES") then
    skip 1
    let cells ← valueRows sub false
    return .derived (Query.ofBody (.values cells)) (← tableAlias sub).1
  else if dialect.among [.bigQuery, .postgreSql, .generic] && (← seesKeyword "UNNEST") then
    skip 1
    unnest sub
  else if ← seesCallOf "JSON_TABLE" then
    skip 2
    jsonTable sub
  else if ← seesCallOf "OPENJSON" then
    skip 1
    openJson sub
  else
    namedTable sub

def tableFactorWithin (sub : Nested) : Nat → Parse TableFactor
  | 0 => fail .tooDeep
  | fuel + 1 => tableFactorStep sub (tableFactorWithin sub fuel)

def tableFactor (sub : Nested) : Parse TableFactor := do
  tableFactorWithin sub ((← get).length + 1)

def tableAndJoins (sub : Nested) : Parse TableWithJoins :=
  joinsOf sub (tableFactor sub)

def stopsSources (word _behind : Lexeme) : Bool :=
  word.isOneOf ["INTO", "LIMIT", "HAVING", "WHERE"]

def sources (sub : Nested) : Parse (List TableWithJoins) := do
  separatedBy (← dialectHas Dialect.hasSourceTrailingCommas) stopsSources (tableAndJoins sub)

end SqlTables.Sql.Parse
