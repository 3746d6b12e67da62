import SqlTables.Sql.Parse.Types

/-!
# Calls of functions

The argument list of a call with its clauses, and what may follow it: a second list, an ordered
group, a filter, null treatment and a window.
-/

namespace SqlTables.Sql.Parse

/-! ## Sorting -/

def sortDirection : Parse Unit := do
  let _ ← acceptOneOf ["ASC", "DESC"]
  unless ← acceptKeywords ["NULLS", "FIRST"] do
    let _ ← acceptKeywords ["NULLS", "LAST"]

def fillClause (sub : Nested) : Parse (List Expr) := do
  let start ← sub.after "FROM"
  let stop ← sub.after "TO"
  let step ← sub.after "STEP"
  return start ++ stop ++ step

def sortKey (sub : Nested) : Parse (List Expr) := do
  let key ← sub.expression
  sortDirection
  let fill ←
    if ← dialectAmong [.clickHouse, .generic] then
      orEmpty (afterKeywords ["WITH", "FILL"] (fillClause sub))
    else
      pure []
  return key :: fill

def sortKeys (sub : Nested) : Parse (List Expr) := do
  return (← commaSeparated (sortKey sub)).flatten

def optionalOrder (sub : Nested) : Parse (List Expr) :=
  orEmpty (afterKeywords ["ORDER", "BY"] (sortKeys sub))

/-! ## Intervals -/

def dateTimeFields : List String :=
  ["YEAR", "YEARS", "MONTH", "MONTHS", "WEEK", "WEEKS", "DAY", "DAYOFWEEK", "DAYOFYEAR", "DAYS",
    "DATE", "DATETIME", "HOUR", "HOURS", "MINUTE", "MINUTES", "SECOND", "SECONDS", "CENTURY",
    "DECADE", "DOY", "DOW", "EPOCH", "ISODOW", "ISOYEAR", "ISOWEEK", "JULIAN", "MICROSECOND",
    "MICROSECONDS", "MILLENIUM", "MILLENNIUM", "MILLISECOND", "MILLISECONDS", "NANOSECOND",
    "NANOSECONDS", "QUARTER", "TIME", "TIMEZONE", "TIMEZONE_ABBR", "TIMEZONE_HOUR",
    "TIMEZONE_MINUTE", "TIMEZONE_REGION"]

def temporalUnits : List String :=
  ["YEAR", "YEARS", "MONTH", "MONTHS", "WEEK", "WEEKS", "DAY", "DAYS", "HOUR", "HOURS", "MINUTE",
    "MINUTES", "SECOND", "SECONDS", "CENTURY", "DECADE", "DOW", "DOY", "EPOCH", "ISODOW",
    "ISOYEAR", "JULIAN", "MICROSECOND", "MICROSECONDS", "MILLENIUM", "MILLENNIUM", "MILLISECOND",
    "MILLISECONDS", "NANOSECOND", "NANOSECONDS", "QUARTER", "TIMEZONE", "TIMEZONE_HOUR",
    "TIMEZONE_MINUTE"]

/-- Read a field of a date or a time; tells whether it is the field of seconds. -/
def dateTimeField : Parse Bool := do
  let lexeme ← next
  match lexeme.token with
  | .word _ _ =>
    if lexeme.isWord "WEEK" then
      if (← dialectAmong [.bigQuery, .generic]) && (← sees "(") then
        let _ ← parenthesized identifier
      return false
    else if lexeme.isOneOf dateTimeFields then
      return lexeme.isWord "SECOND"
    else if ← dialectHas Dialect.extractsCustomFields then
      return false
    else
      expected "date/time field" lexeme
  | .literal .single _ =>
    if ← dialectHas Dialect.extractsQuotedFields then return false
    else expected "date/time field" lexeme
  | _ => expected "date/time field" lexeme

def interval (sub : Nested) : Parse Expr := do
  let needsUnit ← dialectHas Dialect.requiresIntervalUnit
  let amount ← if needsUnit then sub.expression else sub.operand
  let seconds ←
    if ← seesOneOf temporalUnits then
      dateTimeField
    else if needsUnit then
      fail (.refused "INTERVAL requires a unit after the literal value" (← peek).position)
    else
      pure false
  if seconds then
    let _ ← optionalScale
  else
    let _ ← optionalPrecision
    if ← acceptKeyword "TO" then
      if ← dateTimeField then
        let _ ← optionalPrecision
  return .node .interval [amount]

/-! ## Windows -/

def frameBound (sub : Nested) : Parse (List Expr) := do
  if ← acceptKeywords ["CURRENT", "ROW"] then
    return []
  else
    let rows ←
      if ← acceptKeyword "UNBOUNDED" then
        pure []
      else
        match (← peek).token with
        | .literal .single _ => pure [← interval sub]
        | _ => pure [← sub.expression]
    if ← acceptsOneOf ["PRECEDING", "FOLLOWING"] then
      return rows
    else
      expectedHere "PRECEDING or FOLLOWING"

def windowFrame (sub : Nested) : Parse (List Expr) := do
  let lexeme ← next
  if lexeme.isOneOf ["ROWS", "RANGE", "GROUPS"] then
    if ← acceptKeyword "BETWEEN" then
      let start ← frameBound sub
      expectKeyword "AND"
      return start ++ (← frameBound sub)
    else
      frameBound sub
  else
    expected "ROWS, RANGE, GROUPS" lexeme

def windowSpec (sub : Nested) : Parse (List Expr) := do
  match (← peek).token with
  | .word _ quote =>
    if quote.isSome || !isKeyword (← peek).keyword then
      skip 1
  | _ => pure ()
  let partition ← orEmpty (afterKeywords ["PARTITION", "BY"] sub.expressions)
  let order ← optionalOrder sub
  if ← accept ")" then
    return partition ++ order
  else
    let frame ← windowFrame sub
    expect ")"
    return partition ++ order ++ frame

/-! ## Arguments -/

def duplicateTreatment : Parse Unit := do
  let lexeme ← peek
  let all ← acceptKeyword "ALL"
  let distinct ← acceptKeyword "DISTINCT"
  if all && distinct then
    fail (.refused "Cannot specify both ALL and DISTINCT" lexeme.position)

def wildcardExpr (sub : Nested) : Parse Expr := do
  let start ← get
  let lexeme ← next
  let wildcard : Option Expr ←
    match lexeme.token with
    | .word _ _ | .literal .single _ =>
      let parts ← improve (fun ((parts, closed) : ObjectName × Bool) => do
        if closed then
          return none
        else if ← accept "." then
          let following ← next
          match following.token with
          | .symbol "*" => return some (parts, true)
          | .word _ _ | .literal .single _ =>
            return some (parts ++ (identOfLexeme? following).toList, false)
          | _ => expected "an identifier or a '*' after '.'" following
        else
          return none) ((identOfLexeme? lexeme).toList, false)
      pure (if parts.2 then some (.qualifiedWildcard parts.1) else none)
    | .symbol "*" => pure (some .wildcard)
    | _ => pure none
  match wildcard with
  | some expr => return expr
  | none =>
    set start
    sub.expression

def argumentOperator : Parse Unit := do
  let dialect ← dialect
  unless ← acceptKeyword "VALUE" do
    let lexeme ← peek
    let fits :=
      (lexeme.isSymbol "=>" && dialect.hasArrowArguments)
        || (lexeme.isSymbol "=" && dialect.hasEqualsArguments)
        || (lexeme.isSymbol ":=" && dialect.hasAssignmentArguments)
        || (lexeme.isSymbol ":" && dialect.hasColonArguments)
    if fits then skip 1
    else expected "argument operator" lexeme

def argument (sub : Nested) : Parse (List Expr) := do
  let named ←
    if ← dialectHas Dialect.namesArgumentsByExpression then
      attempt do
        let name ← sub.expression
        argumentOperator
        return [name, ← wildcardExpr sub]
    else
      attempt do
        let name ← identifier
        argumentOperator
        return [.node (.named name) [← wildcardExpr sub]]
  match named with
  | some operands => return operands
  | none => return [← wildcardExpr sub]

def nullTreatment : Parse Bool := do
  if ← acceptsOneOf ["RESPECT", "IGNORE"] then
    expectKeyword "NULLS"
    return true
  else
    return false

def documentNulls : Parse Unit := do
  unless ← acceptKeywords ["ABSENT", "ON", "NULL"] do
    let _ ← acceptKeywords ["NULL", "ON", "NULL"]

def overflowClause (sub : Nested) : Parse (List Expr) := do
  if ← acceptKeywords ["ON", "OVERFLOW"] then
    if ← acceptKeyword "ERROR" then
      return []
    else
      expectKeyword "TRUNCATE"
      let lexeme ← peek
      let filler ←
        match lexeme.token with
        | .word _ _ =>
          if lexeme.isOneOf ["WITH", "WITHOUT"] then pure []
          else expected "either filler, WITH, or WITHOUT in LISTAGG" lexeme
        | .literal .single _ | .literal .escaped _ | .literal .unicode _ | .literal .national _
        | .literal .hex _ => pure [← sub.expression]
        | _ => expected "either filler, WITH, or WITHOUT in LISTAGG" lexeme
      unless ← acceptKeyword "WITH" do
        unless ← acceptKeyword "WITHOUT" do
          expectedHere "either WITH or WITHOUT in LISTAGG"
      expectKeyword "COUNT"
      return filler
  else
    return []

/-- Read arguments up to the closing parenthesis: their expressions, and whether null treatment
was among them. -/
def argumentList (sub : Nested) : Parse (List Expr × Bool) := do
  documentNulls
  if ← accept ")" then
    return ([], false)
  else
    duplicateTreatment
    let args ← commaSeparated (argument sub)
    let treated ←
      if ← dialectHas Dialect.hasNullTreatmentArgument then nullTreatment else pure false
    let order ← optionalOrder sub
    let limit ← sub.after "LIMIT"
    let having ←
      if ← dialectAmong [.generic, .bigQuery] then
        orEmpty <| afterKeyword "HAVING" do
          let _ ← expectOneOf ["MIN", "MAX"]
          return [← sub.expression]
      else
        pure []
    if ← dialectAmong [.generic, .mySql] then
      let _ ← afterKeyword "SEPARATOR" value
    let filler ← overflowClause sub
    documentNulls
    expect ")"
    return (args.flatten ++ order ++ limit ++ having ++ filler, treated)

def withinGroup (sub : Nested) : Parse (List Expr) :=
  orEmpty <| afterKeywords ["WITHIN", "GROUP"] <| parenthesized do
    expectKeywords ["ORDER", "BY"]
    sortKeys sub

/-- Read a filter behind a call. The words of a filter that is not complete are read over. -/
def callFilter (sub : Nested) : Parse (List Expr) := do
  if ← dialectHas Dialect.hasAggregateFilter then
    if ← acceptKeyword "FILTER" then
      if ← accept "(" then
        if ← acceptKeyword "WHERE" then
          let condition ← sub.expression
          expect ")"
          return [condition]
  return []

def callWindow (sub : Nested) : Parse (List Expr) := do
  if ← acceptKeyword "OVER" then
    if ← accept "(" then
      windowSpec sub
    else
      let _ ← identifier
      return []
  else
    return []

def call (sub : Nested) (name : ObjectName) : Parse Expr := do
  expect "("
  if (← dialectAmong [.snowflake]) && (← seesQuery) then
    let query ← sub.query
    expect ")"
    return .node (.call name) [.query query]
  else
    let (first, firstTreated) ← argumentList sub
    let again ←
      if ← dialectAmong [.clickHouse, .generic] then accept "(" else pure false
    let (args, treated) ←
      if again then
        let (second, secondTreated) ← argumentList sub
        pure (first ++ second, secondTreated)
      else
        pure (first, firstTreated)
    let group ← withinGroup sub
    let filter ← callFilter sub
    unless treated do
      let _ ← nullTreatment
    let window ← callWindow sub
    return .node (.call name) (args ++ filter ++ window ++ group)

end SqlTables.Sql.Parse
