import SqlTables.Sql.Parse.Forms

/-!
# Operands of expressions

An operand is a literal, a column reference, a call, a form that a keyword introduces, or
something in parentheses. A word is first tried as the start of a form and then as a name.
-/

namespace SqlTables.Sql.Parse

/-! ## Access to parts of a value -/

inductive Access where
  | field (name : Ident)
  | subscript (bounds : List Expr)

def Access.operands : Access → List Expr
  | field name => [.ident name]
  | subscript bounds => bounds

def Access.name? : Access → Option Ident
  | field name => some name
  | subscript _ => none

/-- The parts of the name that a root and a chain of fields spell, if all of them are names. -/
def nameOfChain? (root : Expr) (chain : List Access) : Option (List Ident) :=
  match root with
  | .ident name => (chain.mapM Access.name?).map (name :: ·)
  | _ => none

def subscriptBounds (sub : Nested) : Parse (List Expr) := do
  let lower ← if ← accept ":" then pure [] else pure [← sub.expression]
  if ← accept "]" then
    return lower
  else
    unless lower.isEmpty do
      expect ":"
    if ← accept "]" then
      return lower
    else
      let upper ← sub.expression
      if ← accept "]" then
        return lower ++ [upper]
      else
        expect ":"
        if ← accept "]" then
          return lower ++ [upper]
        else
          let stride ← sub.expression
          expect "]"
          return lower ++ [upper, stride]

def subscripts (sub : Nested) : Parse (List Access) :=
  many do
    if ← accept "[" then return some (.subscript (← subscriptBounds sub)) else return none

inductive ChainEnd where
  | opened
  | closed
  | wildcard
deriving DecidableEq

def chainStep (sub : Nested) (state : List Access × ChainEnd) :
    Parse (Option (List Access × ChainEnd)) := do
  let (chain, status) := state
  if status != .opened then
    return none
  else if ← accept "." then
    let lexeme ← next
    match lexeme.token with
    | .word value quote =>
      let longer := chain ++ [.field (identOf value quote lexeme)]
      if ← sees "[" then
        if ← dialectHas Dialect.hasPathAccess then return some (longer, .closed)
        else return some (longer ++ (← subscripts sub), .opened)
      else
        return some (longer, .opened)
    | .symbol "*" =>
      if ← dialectAmong [.postgreSql] then return some (chain, .wildcard)
      else expected "an identifier after '.'" lexeme
    | .literal .single value =>
      return some (chain ++ [.field (literalIdent value '\x27')], .opened)
    | _ => expected "an identifier or a '*' after '.'" lexeme
  else
    return none

def outerJoinMark : Parse Bool := do
  let marked :=
    (← peek).isSymbol "(" && (← peekAt 1).isSymbol "+" && (← peekAt 2).isSymbol ")"
  if marked && (← dialectAmong [.snowflake, .msSql]) then
    skip 3
    return true
  else
    return false

/-- Read the fields behind a root: a column reference, a call by a qualified name, a wildcard
with a qualifier, or access to parts of a value. -/
def compound (sub : Nested) (root : Expr) (start : List Access) : Parse Expr := do
  let (chain, status) ← improve (chainStep sub) (start, .opened)
  match status, nameOfChain? root chain with
  | .wildcard, some parts => return .qualifiedWildcard parts
  | .wildcard, none => expectedHere "an identifier or a '*' after '.'"
  | _, some parts =>
    if ← outerJoinMark then return .node (.unary "(+)") [.compound parts]
    else if ← sees "(" then call sub parts
    else return .compound parts
  | _, none =>
    if ← sees "(" then
      skip 1
      expectedHere "an identifier or a '*' after '.'"
    else if chain.isEmpty then
      return root
    else
      return .node .access (root :: chain.flatMap Access.operands)

def methods (sub : Nested) (receiver : Expr) : Parse Expr := do
  if ← dialectHas Dialect.hasMethods then
    let chain ← attempt do
      let calls ← many do
        if ← accept "." then
          let lexeme ← next
          match lexeme.token with
          | .word value quote => return some (← call sub [identOf value quote lexeme])
          | _ => expected "identifier" lexeme
        else
          return none
      if calls.isEmpty then expectedHere "function" else return calls
    match chain with
    | some calls => return .node .method (receiver :: calls)
    | none => return receiver
  else
    return receiver

/-! ## Words -/

def subscriptDialects : List Dialect :=
  [.postgreSql, .duckDb, .generic, .clickHouse, .bigQuery]

def namedOperand (sub : Nested) (name : Ident) : Parse Expr := do
  let dialect ← dialect
  let lexeme ← peek
  match lexeme.token with
  | .symbol "." => compound sub (.ident name) []
  | .symbol "(" =>
    if ← outerJoinMark then
      return .node (.unary "(+)") [.ident name]
    else
      let called ← call sub [name]
      compound sub (← methods sub called) []
  | .symbol "[" =>
    if dialect.among subscriptDialects then
      compound sub (.ident name) (← subscripts sub)
    else
      return .ident name
  | .symbol "->" =>
    if dialect.hasLambdas then
      skip 1
      return .node .lambda [← sub.expression]
    else
      return .ident name
  | .literal .single _ | .literal .double _ | .literal .hex _ =>
    if name.value.startsWith "_" then
      skip 1
      return .value
    else
      return .ident name
  | _ => return .ident name

def operandSuffix (sub : Nested) (operand : Expr) : Parse Expr := do
  let operand ← methods sub operand
  if ← acceptKeyword "COLLATE" then
    let _ ← objectName false
    return .node .collate [operand]
  else
    return operand

/-- Read an operand that starts with a word, which was read. If the form that the word
introduces does not fit, the word is a name; if that does not fit either, the failure of the form
counts. -/
def wordOperand (sub : Nested) (lexeme : Lexeme) (name : Ident) : Parse Expr := do
  match ← outcome (form? sub lexeme name) with
  | .ok (some operand@(.node .struct _)) => operandSuffix sub (← compound sub operand [])
  | .ok (some operand) => operandSuffix sub operand
  | .ok none => operandSuffix sub (← namedOperand sub name)
  | .error failure =>
    if (← dialect).reservesForExpressions lexeme.keyword then
      fail failure
    else
      match ← outcome (namedOperand sub name) with
      | .ok operand => return operand
      | .error _ => fail failure

/-! ## Other operands -/

def typedLiteral? (sub : Nested) : Parse (Option Expr) :=
  attempt do
    let type ← dataType sub
    match type.kind with
    | .interval => interval sub
    | .custom => refuse "a custom type introduces no literal"
    | .builtIn =>
      let _ ← literalString
      return .node .typed type.operands

def lambda? (sub : Nested) : Parse (Option Expr) := do
  if ← dialectHas Dialect.hasLambdas then
    attempt do
      let _ ← identifiers
      expect ")"
      expect "->"
      return .node .lambda [← sub.expression]
  else
    return none

def closedOperand (sub : Nested) (operand : Expr) : Parse Expr := do
  let operand ← methods sub operand
  let operand ←
    if ← accept "." then
      let lexeme ← next
      match lexeme.token with
      | .word _ _ => pure (.node .access [operand])
      | token =>
        fail (.refused ("Expected identifier, found: " ++ token.show) lexeme.position)
    else
      pure operand
  operandSuffix sub operand

/-- Read what follows an opening parenthesis: a query, a function of several parameters, an
expression or a tuple. -/
def parenthesizedOperand (sub : Nested) : Parse Expr := do
  if ← seesQuery then
    let query ← sub.query
    expect ")"
    closedOperand sub (.query query)
  else
    match ← lambda? sub with
    | some function => return function
    | none =>
      let elements ← sub.expressions
      expect ")"
      let form : Form := if elements.length = 1 then .nested else .tuple
      closedOperand sub (.node form elements)

def postgreSqlSigns : List String :=
  ["!!", "|/", "||/", "@", "~"]

def symbolOperand (sub : Nested) (lexeme : Lexeme) (text : String) : Parse Expr := do
  let dialect ← dialect
  let signed (precedence : Precedence) : Parse Expr := do
    let operand ← sub.expr (precedence.value dialect)
    operandSuffix sub (.node (.unary text) [operand])
  if text == "[" then
    operandSuffix sub (← arrayForm sub)
  else if text == "+" || text == "-" then
    signed .product
  else if text == "!" && dialect.hasBangNot then
    signed .negation
  else if dialect == .postgreSql && postgreSqlSigns.contains text then
    signed .sum
  else if text == "(" then
    parenthesizedOperand sub
  else if text == ":" || text == "@" then
    let following ← next
    match following.token with
    | .word _ _ | .number _ false => operandSuffix sub .value
    | _ => expected "placeholder" following
  else
    expected "an expression" lexeme

def operandStep (sub : Nested) : Parse Expr := do
  match ← typedLiteral? sub with
  | some literal => return literal
  | none =>
    if ← sees "\x7b" then
      operandSuffix sub (← bracesForm sub)
    else
      let lexeme ← next
      match lexeme.token with
      | .word value quote => wordOperand sub lexeme (identOf value quote lexeme)
      | .literal .escaped _ =>
        if ← dialectAmong [.postgreSql, .generic] then operandSuffix sub .value
        else expected "an expression" lexeme
      | .number _ _ | .literal _ _ | .placeholder _ => operandSuffix sub .value
      | .symbol text => symbolOperand sub lexeme text
      | _ => expected "an expression" lexeme

/-- Read an operand in which at most `fuel` others follow one another without an operator. -/
def operandWithin (sub : Nested) : Nat → Parse Expr
  | 0 => fail .tooDeep
  | fuel + 1 => operandStep { sub with operand := operandWithin sub fuel }

def Nested.withOperands (sub : Nested) : Nested :=
  { sub with operand := do operandWithin sub ((← get).length + 1) }

end SqlTables.Sql.Parse
