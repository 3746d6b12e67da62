import SqlTables.Sql.Parse.Operand

/-!
# Expressions

An expression is an operand followed by operators with their right-hand sides. Operators are
read as long as they bind more tightly than the expression demands.
-/

namespace SqlTables.Sql.Parse

/-! ## Binary operators -/

def commonOperators : List String :=
  ["<=>", "=", "<>", ">", ">=", "<", "<=", "+", "-", "*", "%", "||", "|", "^", "&", "/", "~",
    "~*", "!~", "!~*", "~~", "~~*", "!~~", "!~~*", "->", "->>", "#>", "#>>", "@>", "<@", "#-",
    "@?", "@@", "?", "?&", "?|"]

def isOperator (dialect : Dialect) (text : String) : Bool :=
  if commonOperators.contains text then true
  else match text with
    | "//" => dialect.among [.duckDb, .generic]
    | "<<" | ">>" => dialect.among [.postgreSql, .duckDb, .generic]
    | "#" => dialect == .postgreSql
    | "&&" | "^@" => dialect.among [.postgreSql, .generic]
    | _ => false

def operatorName : Parse String :=
  parenthesized do
    let first ← next
    let others ← many do
      if ← accept "." then return some (← next).token.show else return none
    return "OPERATOR(" ++ ".".intercalate (first.token.show :: others) ++ ")"

def binaryOperator? (lexeme : Lexeme) : Parse (Option String) := do
  let dialect ← dialect
  match lexeme.token with
  | .symbol "==" => return some "="
  | .symbol text => return if isOperator dialect text then some text else none
  | .customOperator text => return some text
  | .word _ none =>
    if lexeme.isOneOf ["AND", "OR", "XOR", "OVERLAPS"] then
      return some lexeme.keyword
    else if lexeme.isWord "OPERATOR" && dialect.among [.postgreSql, .generic] then
      return some (← operatorName)
    else
      return none
  | _ => return none

def quantifiedOperators : List String :=
  [">", "<", ">=", "<=", "=", "<>"]

def quantifiedValues (sub : Nested) (strength : Nat) : Parse Expr := do
  if (← sees "(") && (← peekAt 1).isOneOf ["SELECT", "WITH"] then
    sub.expr strength
  else
    parenthesized (sub.expr strength)

def binaryOperation (sub : Nested) (left : Expr) (operator : String) (position : Text.Position)
    (strength : Nat) : Parse Expr := do
  if ← acceptsOneOf ["ANY", "ALL", "SOME"] then
    let right ← quantifiedValues sub strength
    if quantifiedOperators.contains operator then
      return .node (.quantified operator) [left, right]
    else
      let text :=
        "Expected one of [=, >, <, =>, =<, !=] as comparison operator, found: " ++ operator
      fail (.refused text position)
  else
    return .node (.binary operator) [left, ← sub.expr strength]

/-! ## Tests -/

def simpleTests : List (List String) :=
  [["NULL"], ["NOT", "NULL"], ["TRUE"], ["NOT", "TRUE"], ["FALSE"], ["NOT", "FALSE"], ["UNKNOWN"],
    ["NOT", "UNKNOWN"]]

def acceptFirst : List (List String) → Parse (Option (List String))
  | [] => pure none
  | keywords :: others => do
    if ← acceptKeywords keywords then return some keywords else acceptFirst others

def isTest (sub : Nested) (left : Expr) : Parse Expr := do
  match ← acceptFirst simpleTests with
  | some keywords => return .node (.test (" ".intercalate keywords)) [left]
  | none =>
    match ← acceptFirst [["DISTINCT", "FROM"], ["NOT", "DISTINCT", "FROM"]] with
    | some keywords =>
      return .node (.test (" ".intercalate keywords)) [left, ← sub.expression]
    | none =>
      let _ ← acceptKeyword "NOT"
      let _ ← acceptOneOf ["NFC", "NFD", "NFKC", "NFKD"]
      if ← acceptKeyword "NORMALIZED" then
        return .node (.test "NORMALIZED") [left]
      else
        expectedHere "[NOT] NULL | TRUE | FALSE | DISTINCT | [form] NORMALIZED FROM after IS"

def inTest (sub : Nested) (left : Expr) : Parse Expr := do
  if ← acceptKeyword "UNNEST" then
    return .node .inUnnest [left, ← parenthesized sub.expression]
  else
    parenthesized do
      if ← seesQuery then
        return .node .inSubquery [left, .query (← sub.query)]
      else
        let members ←
          if ← dialectHas Dialect.hasEmptyInList then commaSeparatedUntil ")" sub.expression
          else sub.expressions
        return .node .inList (left :: members)

def betweenTest (sub : Nested) (left : Expr) : Parse Expr := do
  let strength := Precedence.between.value (← dialect)
  let low ← sub.expr strength
  expectKeyword "AND"
  return .node .between [left, low, ← sub.expr strength]

def likeTest (sub : Nested) (left : Expr) (mayEscape : Bool) : Parse Expr := do
  let pattern ← sub.expr (Precedence.like.value (← dialect))
  if mayEscape then
    let _ ← afterKeyword "ESCAPE" literalString
  return .node .like [left, pattern]

def negatableTest (sub : Nested) (left : Expr) : Parse Expr := do
  let regexp ← acceptKeyword "REGEXP"
  let rlike ← acceptKeyword "RLIKE"
  if regexp || rlike then
    likeTest sub left false
  else if ← acceptKeyword "IN" then
    inTest sub left
  else if ← acceptKeyword "BETWEEN" then
    betweenTest sub left
  else if ← acceptsOneOf ["LIKE", "ILIKE"] then
    let _ ← acceptKeyword "ANY"
    likeTest sub left true
  else if ← acceptKeywords ["SIMILAR", "TO"] then
    likeTest sub left true
  else
    expectedHere "IN or BETWEEN after NOT"

/-! ## Other operators -/

def describeStray (lexeme : Lexeme) : String :=
  match lexeme.token with
  | .word value _ =>
    "Word(Word \x7b value: \"" ++ value ++ "\", quote_style: None, keyword: " ++ lexeme.keyword
      ++ " \x7d)"
  | .symbol "!" => "ExclamationMark"
  | .symbol "&&" => "Overlap"
  | .symbol "^@" => "CaretAt"
  | .symbol "<<" => "ShiftLeft"
  | .symbol ">>" => "ShiftRight"
  | .symbol "#" => "Sharp"
  | .symbol "//" => "DuckIntDiv"
  | token => token.show

def pathKey : Parse Unit := do
  let lexeme ← next
  match lexeme.token with
  | .word _ none | .word _ (some '\x22') | .literal .double _ => pure ()
  | _ => expected "variant object key name" lexeme

def documentPath (sub : Nested) : Parse (List Expr) := do
  let (_, keys) ← improve (fun ((inside, keys) : Bool × List Expr) => do
    if ← accept "[" then
      let key ← sub.expression
      expect "]"
      return some (true, keys ++ [key])
    else if !inside && (← sees ":") || inside && (← sees ".") then
      skip 1
      pathKey
      return some (true, keys)
    else
      return none) (false, [])
  return keys

def otherOperation (sub : Nested) (left : Expr) (strength : Nat) (start : List Lexeme)
    (lexeme : Lexeme) : Parse Expr := do
  let dialect ← dialect
  let stray : Parse Expr :=
    fail (.refused ("No infix parser for token " ++ describeStray lexeme) lexeme.position)
  match lexeme.token with
  | .word _ none =>
    match lexeme.keyword with
    | "IS" => isTest sub left
    | "AT" =>
      expectKeywords ["TIME", "ZONE"]
      return .node .timeZone [left, ← sub.expr strength]
    | "NOT" => negatableTest sub left
    | "IN" | "BETWEEN" | "LIKE" | "ILIKE" | "SIMILAR" | "REGEXP" | "RLIKE" =>
      set start
      negatableTest sub left
    | _ => stray
  | .symbol "::" =>
    let type ← dataType sub
    return .node .cast (left :: type.operands)
  | .symbol "!" => if dialect.hasFactorial then return .node (.unary "!") [left] else stray
  | .symbol "[" =>
    if dialect.among subscriptDialects then
      set start
      compound sub left (← subscripts sub)
    else if dialect.hasPathAccess then
      set start
      return .node .access (left :: (← documentPath sub))
    else
      fail (.refused "Array subscripting is not supported" lexeme.position)
  | .symbol ":" =>
    if dialect.among [.snowflake, .generic] then
      set start
      return .node .access (left :: (← documentPath sub))
    else
      stray
  | _ => stray

def operation (sub : Nested) (left : Expr) (strength : Nat) : Parse Expr := do
  let dialect ← dialect
  let own :=
    if dialect == .mySql then ["DIV"] else if dialect == .sqlite then ["REGEXP", "MATCH"] else []
  match ← acceptOneOf own with
  | some keyword => return .node (.binary keyword) [left, ← sub.expression]
  | none =>
    let start ← get
    let lexeme ← next
    match ← binaryOperator? lexeme with
    | some operator => binaryOperation sub left operator lexeme.position strength
    | none => otherOperation sub left strength start lexeme

def expressionAt (sub : Nested) (precedence : Nat) : Parse Expr := do
  let operand ← sub.operand
  improve (fun left => do
    let strength ← Precedence.next
    if precedence < strength then return some (← operation sub left strength)
    else return none) operand

end SqlTables.Sql.Parse
