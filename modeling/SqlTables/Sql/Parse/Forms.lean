import SqlTables.Sql.Parse.Calls
import SqlTables.Sql.Parse.Precedence

/-!
# Expressions that start with a keyword

Each form is read behind its keyword. A keyword whose form does not fit may still be an
identifier, which is decided by the reader of operands.
-/

namespace SqlTables.Sql.Parse

/-! ## Choices and conversions -/

def caseBranch (sub : Nested) : Parse (Expr × Expr) := do
  let condition ← sub.expression
  expectKeyword "THEN"
  return (condition, ← sub.expression)

/-- Read a choice. Its parts are visited as operand, conditions, results and alternative. -/
def caseForm (sub : Nested) : Parse Expr := do
  let operand ←
    if ← acceptKeyword "WHEN" then
      pure []
    else
      let operand ← sub.expression
      expectKeyword "WHEN"
      pure [operand]
  let first ← caseBranch sub
  let others ← many (afterKeyword "WHEN" (caseBranch sub))
  let branches := first :: others
  let alternative ← sub.after "ELSE"
  expectKeyword "END"
  return .node .case
    (operand ++ branches.map Prod.fst ++ branches.map Prod.snd ++ alternative)

def castFormat : Parse Unit := do
  if ← acceptKeyword "FORMAT" then
    let _ ← value
    if ← acceptKeywords ["AT", "TIME", "ZONE"] then
      let _ ← value

def castForm (sub : Nested) : Parse Expr :=
  parenthesized do
    let operand ← sub.expression
    expectKeyword "AS"
    let type ← dataType sub
    castFormat
    return .node .cast (operand :: type.operands)

def convertForm (sub : Nested) : Parse Expr :=
  parenthesized do
    if ← dialectHas Dialect.convertsTypeFirst then
      let type ← dataType sub
      expect ","
      let operand ← sub.expression
      let styles ← orEmpty (do given (← accept ",") sub.expressions)
      return .node .convert (operand :: type.operands ++ styles)
    else
      let operand ← sub.expression
      if ← acceptKeyword "USING" then
        let _ ← objectName false
        return .node .convert [operand]
      else
        expect ","
        let type ← dataType sub
        if ← acceptKeywords ["CHARACTER", "SET"] then
          let _ ← objectName false
        return .node .convert (operand :: type.operands)

/-! ## Functions with words between their arguments -/

def existsForm (sub : Nested) : Parse Expr :=
  parenthesized do
    return .node .exists [.query (← sub.query)]

def extractForm (sub : Nested) : Parse Expr :=
  parenthesized do
    let _ ← dateTimeField
    unless ← acceptKeyword "FROM" do
      let comma ← accept ","
      unless comma && (← dialectAmong [.snowflake, .generic]) do
        refuse "Expected 'FROM' or ','"
    return .node .extract [← sub.expression]

def roundForm (sub : Nested) : Parse Expr :=
  parenthesized do
    let operand ← sub.expression
    if ← acceptKeyword "TO" then
      let _ ← dateTimeField
    else if ← accept "," then
      match ← value with
      | .number _ => pure ()
      | _ => refuse "Scale field can only be of number type"
    return .node .round [operand]

/-- Read the search for a position; without `IN` it is a call like any other. -/
def positionForm (sub : Nested) (name : Ident) : Parse Expr := do
  let strength := Precedence.between.value (← dialect)
  let found ← attempt <| parenthesized do
    let sought ← sub.expr strength
    expectKeyword "IN"
    return .node .position [sought, ← sub.expression]
  match found with
  | some expr => return expr
  | none => call sub [name]

def substringForm (sub : Nested) : Parse Expr :=
  parenthesized do
    let operand ← sub.expression
    let comma ← accept ","
    let start ← if comma then pure [← sub.expression] else sub.after "FROM"
    let length ←
      if ← acceptKeyword "FOR" then pure [← sub.expression]
      else if ← accept "," then pure [← sub.expression]
      else pure []
    return .node .substring (operand :: start ++ length)

def overlayForm (sub : Nested) : Parse Expr :=
  parenthesized do
    let operand ← sub.expression
    expectKeyword "PLACING"
    let filler ← sub.expression
    expectKeyword "FROM"
    let start ← sub.expression
    return .node .overlay (operand :: filler :: start :: (← sub.after "FOR"))

/-- Read the removal of characters at the ends of a string. The string is visited before the
characters. -/
def trimForm (sub : Nested) : Parse Expr :=
  parenthesized do
    let _ ← acceptOneOf ["BOTH", "LEADING", "TRAILING"]
    let first ← sub.expression
    if ← acceptKeyword "FROM" then
      return .node .trim [← sub.expression, first]
    else
      let comma ← accept ","
      if comma && (← dialectAmong [.snowflake, .bigQuery, .generic]) then
        return .node .trim (first :: (← sub.expressions))
      else
        return .node .trim [first]

def fullTextForm : Parse Expr := do
  let _ ← columns
  expectKeyword "AGAINST"
  parenthesized do
    let _ ← value
    if ← acceptKeywords ["IN", "NATURAL", "LANGUAGE", "MODE"] then
      let _ ← acceptKeywords ["WITH", "QUERY", "EXPANSION"]
    else unless ← acceptKeywords ["IN", "BOOLEAN", "MODE"] do
      let _ ← acceptKeywords ["WITH", "QUERY", "EXPANSION"]
    return .node .fullText []

/-- Read a function of the current time; its arguments may be missing. -/
def timeForm (sub : Nested) (name : Ident) : Parse Expr := do
  if ← accept "(" then
    return .node (.call [name]) (← argumentList sub).1
  else
    return .node (.call [name]) []

/-! ## Composite values -/

def arrayForm (sub : Nested) : Parse Expr := do
  let elements ← commaSeparatedUntil "]" sub.expression
  expect "]"
  return .node .array elements

/-- Read a field of a structure; only without types may it have a name. -/
def structFieldValue (sub : Nested) (typed : Bool) : Parse Expr := do
  let field ← sub.expression
  let behind ← peek
  if ← acceptKeyword "AS" then
    if typed then
      fail (.refused "Typed syntax does not allow AS" behind.position)
    else
      return .node (.named (← identifier)) [field]
  else
    return field

/-- Read a literal of a structure with optional types of its fields, behind its keyword at
`start`. -/
def structForm (sub : Nested) (start : Text.Position) : Parse Expr := do
  let typed ← accept "<"
  let types ←
    if typed then
      let (fields, extra) ← angleFields (innerType sub) start
      if extra then
        fail (.refused "unmatched > in STRUCT literal" (← peek).position)
      pure (fields.flatMap TypePart.operands)
    else
      pure []
  let values ← parenthesized (commaSeparated (structFieldValue sub typed))
  return .node .struct (values ++ types)

def mapForm (sub : Nested) : Parse Expr := do
  expect "\x7b"
  let entries ← commaSeparatedUntil "\x7d" do
    let key ← sub.expression
    expect ":"
    return [key, ← sub.expression]
  expect "\x7d"
  return .node .map entries.flatten

def bracesForm (sub : Nested) : Parse Expr := do
  let brace ← peek
  expect "\x7b"
  let marked ← attempt do
    expectKeyword "FN"
    let name ← objectName false
    call sub name
  match marked with
  | some expr =>
    expect "\x7d"
    return expr
  | none =>
    if ← dialectHas Dialect.hasDictionaries then
      let entries ← commaSeparated do
        let _ ← identifier
        expect ":"
        sub.expression
      expect "\x7d"
      return .node .dictionary entries
    else
      expected "an expression" brace

def notForm (sub : Nested) : Parse Expr := do
  if ← acceptKeyword "EXISTS" then
    existsForm sub
  else
    return .node (.unary "NOT") [← sub.expr (Precedence.negation.value (← dialect))]

/-! ## All forms -/

def form? (sub : Nested) (lexeme : Lexeme) (name : Ident) : Parse (Option Expr) := do
  let dialect ← dialect
  match lexeme.keyword with
  | "TRUE" | "FALSE" => return if dialect.hasTruthLiterals then some .value else none
  | "NULL" => return some .value
  | "CURRENT_CATALOG" | "CURRENT_USER" | "SESSION_USER" | "USER" =>
    if dialect.among [.postgreSql, .generic] then return some (.node (.call [name]) [])
    else return none
  | "CURRENT_TIMESTAMP" | "CURRENT_TIME" | "CURRENT_DATE" | "LOCALTIME" | "LOCALTIMESTAMP" =>
    return some (← timeForm sub name)
  | "CASE" => return some (← caseForm sub)
  | "CONVERT" => return some (← convertForm sub)
  | "TRY_CONVERT" => given dialect.hasTryConvert (convertForm sub)
  | "CAST" | "TRY_CAST" | "SAFE_CAST" => return some (← castForm sub)
  | "EXISTS" =>
    given (dialect != .databricks || (← peekAt 1).isOneOf ["SELECT", "WITH"]) (existsForm sub)
  | "EXTRACT" => return some (← extractForm sub)
  | "CEIL" | "FLOOR" => return some (← roundForm sub)
  | "POSITION" => given (← sees "(") (positionForm sub name)
  | "SUBSTRING" => return some (← substringForm sub)
  | "OVERLAY" => return some (← overlayForm sub)
  | "TRIM" => return some (← trimForm sub)
  | "INTERVAL" => return some (← interval sub)
  | "ARRAY" =>
    if ← accept "[" then
      return some (← arrayForm sub)
    else if (← sees "(") && !dialect.among [.clickHouse, .databricks] then
      return some (.node (.call [name]) [.query (← parenthesized sub.query)])
    else
      return none
  | "NOT" => return some (← notForm sub)
  | "MATCH" => given (dialect.among [.mySql, .generic]) fullTextForm
  | "STRUCT" => given dialect.hasStructLiterals (structForm sub lexeme.position)
  | "PRIOR" =>
    given (← read).connectBy do
      return .node .prior [← sub.expr (Precedence.sum.value dialect)]
  | "MAP" => given ((← sees "\x7b") && dialect.hasMapLiterals) (mapForm sub)
  | _ => return none

end SqlTables.Sql.Parse
