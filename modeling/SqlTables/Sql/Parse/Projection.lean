import SqlTables.Sql.Parse.From

/-!
# Items of a projection

Expressions with aliases, and wildcards with the options that may follow them.
-/

namespace SqlTables.Sql.Parse

def renamedColumn : Parse Unit := do
  let _ ← identifier
  let _ ← acceptKeyword "AS"
  let _ ← identifier

def wildcardPattern : Parse Bool := do
  if ← acceptKeyword "ILIKE" then
    let lexeme ← next
    match lexeme.token with
    | .literal .single _ => return true
    | _ => expected "ilike pattern" lexeme
  else
    return false

def wildcardExclude : Parse Unit := do
  if ← acceptKeyword "EXCLUDE" then
    if ← accept "(" then
      let _ ← identifiers
      expect ")"
    else
      let _ ← identifier

def wildcardExcept : Parse Unit := do
  if ← acceptKeyword "EXCEPT" then
    if ← sees "(" then
      let _ ← columns
    else
      let _ ← identifier

def wildcardReplace (sub : Nested) : Parse (List Expr) := do
  if ← acceptKeyword "REPLACE" then
    if ← accept "(" then
      let elements ← commaSeparated do
        let element ← sub.expression
        let _ ← acceptKeyword "AS"
        let _ ← identifier
        return element
      expect ")"
      return elements
    else
      expected "( after REPLACE but" (← next)
  else
    return []

def wildcardRename : Parse Unit := do
  if ← acceptKeyword "RENAME" then
    if ← accept "(" then
      let _ ← commaSeparated renamedColumn
      expect ")"
    else
      renamedColumn

def wildcardOptions (sub : Nested) : Parse (List Expr) := do
  let dialect ← dialect
  let filtered ← if dialect.among [.generic, .snowflake] then wildcardPattern else pure false
  if !filtered && dialect.among [.generic, .duckDb, .snowflake] then
    wildcardExclude
  if dialect.hasWildcardExcept then
    wildcardExcept
  let replaced ←
    if dialect.among [.generic, .bigQuery, .clickHouse, .duckDb, .snowflake] then
      wildcardReplace sub
    else
      pure []
  if dialect.among [.generic, .snowflake] then
    wildcardRename
  return replaced

def isBareFrom (name : Ident) : Bool :=
  name.quote.isNone && Text.asciiLower name.value == "from"

/-- Whether a word ends an item of a projection instead of being its alias, given what follows
the word. -/
def endsItem (dialect : Dialect) (word behind : Lexeme) : Bool :=
  if dialect == .snowflake then
    if word.isOneOf ["EXCEPT", "LIMIT", "OFFSET", "RETURNING"] then
      !(behind.isSymbol "," || behind.token == .finish)
    else if word.isOneOf ["FETCH"] then
      behind.isOneOf ["FIRST", "NEXT"]
    else
      word.isOneOf ["FROM", "GROUP", "HAVING", "INTERSECT", "INTO", "MINUS", "ORDER", "SELECT",
        "UNION", "WHERE", "WITH"]
  else
    word.isOneOf columnAliasStops

def projectionItem (sub : Nested) : Parse (List Expr) := do
  let expr ← wildcardExpr sub
  let plain : Parse (List Expr) := do
    let _ ← optionalAliasUnless (endsItem (← dialect))
    return [expr]
  match expr with
  | .wildcard | .qualifiedWildcard _ => return expr :: (← wildcardOptions sub)
  | .ident name =>
    if isBareFrom name then
      let text := "Expected an expression, found: " ++ name.shown
      fail (.refused text (← peek).position)
    else
      plain
  | .node (.binary "=") [.ident _, right] =>
    if ← dialectHas Dialect.hasEqualsAliases then return [right] else plain
  | _ => plain

def projection (sub : Nested) : Parse (List Expr) := do
  let dialect ← dialect
  let trailing := dialect.hasTrailingCommas || dialect.hasProjectionTrailingCommas
  return (← separatedBy trailing (endsItem dialect) (projectionItem sub)).flatten

def returning (sub : Nested) : Parse Unit := do
  let _ ← afterKeyword "RETURNING" (commaSeparated (projectionItem sub))

end SqlTables.Sql.Parse
