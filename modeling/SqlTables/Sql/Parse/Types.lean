import SqlTables.Sql.Parse.Nested

/-!
# Data types

A data type is read for its end, for its kind and for the expressions in it: only the type of
intervals and the types known by name alone are told apart from the others, and expressions stand
only in the columns of nested types. The text of a type is kept for messages.
-/

namespace SqlTables.Sql.Parse

inductive TypeKind where
  | interval
  | custom
  | builtIn
deriving DecidableEq, Repr

structure DataType extends TypePart where
  kind : TypeKind

def builtIn (text : String) : DataType :=
  ⟨⟨text, []⟩, .builtIn⟩

def listText (items : List String) : String :=
  "(" ++ ", ".intercalate items ++ ")"

def builtFrom (opening : String) (parts : List TypePart) (closing : String) : DataType where
  text := opening ++ ", ".intercalate (parts.map TypePart.text) ++ closing
  operands := parts.flatMap TypePart.operands
  kind := .builtIn

def optionalPrecision : Parse String := do
  if ← accept "(" then
    let length ← unsigned
    expect ")"
    return listText [toString length]
  else
    return ""

def optionalScale : Parse String := do
  if ← accept "(" then
    let precision ← unsigned
    let scale ← given (← accept ",") unsigned
    expect ")"
    return "(" ++ ",".intercalate ((precision :: scale.toList).map toString) ++ ")"
  else
    return ""

def optionalLength : Parse String := do
  if ← accept "(" then
    if ← acceptKeyword "MAX" then
      expect ")"
      return "(MAX)"
    else
      let length ← unsigned
      let unit ← acceptOneOf ["CHARACTERS", "OCTETS"]
      expect ")"
      return "(" ++ " ".intercalate (toString length :: unit.toList) ++ ")"
  else
    return ""

def optionalTimeZone : Parse String := do
  match ← acceptOneOf ["WITH", "WITHOUT"] with
  | some keyword =>
    expectKeywords ["TIME", "ZONE"]
    return " " ++ keyword ++ " TIME ZONE"
  | none => return ""

/-- Read the modifiers of a type known by name alone: words, numbers and strings in
parentheses, with any number of commas between them. -/
def optionalModifiers : Parse (List String) := do
  if ← accept "(" then
    let modifiers ← many do
      let lexeme ← next
      match lexeme.token with
      | .word _ _ => return some [lexeme.token.show]
      | .number text _ | .literal .single text => return some [text]
      | .symbol "," => return some []
      | .symbol ")" => return none
      | _ => expected "type modifiers" lexeme
    return modifiers.flatten
  else
    return []

def stringValues : Parse (List String) := do
  expect "("
  let first ← stringValue
  let others ← many do
    let lexeme ← next
    match lexeme.token with
    | .symbol "," => return some (← stringValue)
    | .symbol ")" => return none
    | _ => expected ", or \x7d" lexeme
  return first :: others
where
  stringValue : Parse String := do
    let lexeme ← next
    match lexeme.token with
    | .literal .single text => return text
    | _ => expected "a string" lexeme

def enumMembers : Parse (List String) :=
  parenthesized <| commaSeparated do
    let name := Name.quoted '\x27' (← literalString)
    if ← accept "=" then
      return name ++ " = " ++ (← signedNumber)
    else
      return name

/-- Read the bracket that closes an angle bracket, given whether a double bracket before it
closed it already; tells whether the bracket read closes a further one. -/
def closingAngle (closed : Bool) : Parse Bool := do
  if closed then
    return false
  else if ← accept ">" then
    return false
  else if ← accept ">>" then
    return true
  else
    expectedHere ">"

def plainTypes : List (String × String) :=
  ["BOOLEAN", "BOOL", "REAL", "FLOAT4", "FLOAT64", "FLOAT8", "INT64", "TINYBLOB", "MEDIUMBLOB",
    "LONGBLOB", "UUID", "DATE", "JSON", "JSONB", "REGCLASS", "TEXT", "TINYTEXT", "MEDIUMTEXT",
    "LONGTEXT", "BYTEA", "TRIGGER"].map (fun keyword => (keyword, keyword))
  ++ ["Float32", "Int16", "Int32", "Int128", "Int256", "UInt8", "UInt16", "UInt32", "UInt64",
    "UInt128", "UInt256", "Date32"].map fun text => (text.map Char.toUpper, text)

def measuredTypes : List String :=
  ["FLOAT", "CLOB", "BINARY", "VARBINARY", "BLOB", "BYTES", "DATETIME", "STRING", "TIMESTAMPTZ",
    "TIMETZ"]

def integerTypes : List String :=
  ["TINYINT", "INT2", "SMALLINT", "MEDIUMINT", "INT", "INT4", "INT8", "INTEGER", "BIGINT"]

def exactTypes : List String :=
  ["NUMERIC", "DECIMAL", "DEC", "BIGNUMERIC", "BIGDECIMAL"]

def characterType (keyword : String) : Parse DataType := do
  if ← acceptKeyword "VARYING" then
    return builtIn (keyword ++ " VARYING" ++ (← optionalLength))
  else if ← acceptKeywords ["LARGE", "OBJECT"] then
    return builtIn (keyword ++ " LARGE OBJECT" ++ (← optionalPrecision))
  else
    return builtIn (keyword ++ (← optionalLength))

/-- Read a type that contains no other type, given the word it starts with. `none` if the word
starts no such type. -/
def scalarType? (keyword : String) : Parse (Option DataType) := do
  if let some text := plainTypes.lookup keyword then
    return some (builtIn text)
  else if measuredTypes.contains keyword then
    return some (builtIn (keyword ++ (← optionalPrecision)))
  else if integerTypes.contains keyword then
    let precision ← optionalPrecision
    let sign := if ← acceptKeyword "UNSIGNED" then " UNSIGNED" else ""
    return some (builtIn (keyword ++ precision ++ sign))
  else if exactTypes.contains keyword then
    return some (builtIn (keyword ++ (← optionalScale)))
  else
    match keyword with
    | "DOUBLE" =>
      if ← acceptKeyword "PRECISION" then return some (builtIn "DOUBLE PRECISION")
      else return some (builtIn ("DOUBLE" ++ (← optionalScale)))
    | "VARCHAR" | "NVARCHAR" => return some (builtIn (keyword ++ (← optionalLength)))
    | "CHARACTER" | "CHAR" => return some (← characterType keyword)
    | "BIT" =>
      let varying := if ← acceptKeyword "VARYING" then " VARYING" else ""
      return some (builtIn ("BIT" ++ varying ++ (← optionalPrecision)))
    | "DATETIME64" =>
      expect "("
      let precision ← unsigned
      let zone ← given (← accept ",") literalString
      expect ")"
      let zone := zone.toList.map fun zone => "'" ++ zone ++ "'"
      return some (builtIn ("DateTime64" ++ listText (toString precision :: zone)))
    | "TIMESTAMP" | "TIME" =>
      let precision ← optionalPrecision
      return some (builtIn (keyword ++ precision ++ (← optionalTimeZone)))
    | "INTERVAL" => return some ⟨⟨"INTERVAL", []⟩, .interval⟩
    | "FIXEDSTRING" =>
      return some (builtIn ("FixedString" ++ listText [toString (← parenthesized unsigned)]))
    | "ENUM" | "ENUM8" | "ENUM16" => return some (builtIn (keyword ++ listText (← enumMembers)))
    | "SET" =>
      let members ← stringValues
      return some (builtIn ("SET" ++ listText (members.map (Name.quoted '\x27'))))
    | "ANY" =>
      if ← acceptKeyword "TYPE" then return some (builtIn "ANY TYPE") else return none
    | _ => return none

/-- What a reader of types gives: a type, and whether one closing bracket too many was read. -/
abbrev TypeRead := DataType × Bool

def closedType (read : TypeRead) : Parse DataType := do
  if read.2 then
    refuse ("unmatched > after parsing data type " ++ read.1.text ++ (← peek).token.show)
  else
    return read.1

def TypePart.named (part : TypePart) (name : Ident) : TypePart :=
  { part with text := name.shown ++ " " ++ part.text }

def namedField (type : Parse TypeRead) : Parse TypePart := do
  let name ← identifier
  return (← closedType (← type)).named name

/-- Read a field of a type; its name may be missing. -/
def structField (type : Parse TypeRead) : Parse (TypePart × Bool) := do
  let isWord (token : Token) : Bool :=
    match token with
    | .word _ _ => true
    | _ => false
  if isWord (← peek).token && isWord (← peekAt 1).token then
    let name ← identifier
    let (field, closed) ← type
    return (field.named name, closed)
  else
    let (field, closed) ← type
    return (field.toTypePart, closed)

/-- Read the fields of a type in angle brackets, the first bracket of which was read. The type
starts at a position. -/
def angleFields (type : Parse TypeRead) (start : Text.Position) :
    Parse (List TypePart × Bool) := do
  let first ← structField type
  let (fields, closed) ← improve (fun ((fields, closed) : List TypePart × Bool) => do
    if ← accept "," then
      if closed then
        fail (.refused "unmatched > in STRUCT definition" start)
      else
        let (field, closed) ← structField type
        return some (fields ++ [field], closed)
    else
      return none) ([first.1], first.2)
  return (fields, ← closingAngle closed)

/-- Read `reader` and a closing parenthesis. The parenthesis is missed before anything else that
is wrong. -/
def closedBehind {α : Type} (reader : Parse α) : Parse α := fun setting lexemes =>
  let (result, rest) := reader setting lexemes
  match expect ")" setting rest with
  | (.ok _, behind) => (result, behind)
  | (.error failure, behind) => (.error failure, behind)

def closedFields (type : Parse TypeRead) : Parse (List TypePart) := do
  expect "("
  closedBehind (commaSeparated (namedField type))

/-- Read a type that contains others, given the readers of column definitions and of types, and
the word that the type starts with. `none` if the word starts no such type in the dialect. -/
def compositeType? (column : Parse TypePart) (type : Parse TypeRead) (word : Lexeme) :
    Parse (Option TypeRead) := do
  let dialect ← dialect
  let wrapped (name : String) : Parse (Option TypeRead) := do
    let inner ← parenthesized do closedType (← type)
    return some (builtFrom (name ++ "(") [inner.toTypePart] ")", false)
  match word.keyword with
  | "ARRAY" =>
    if dialect == .snowflake then
      return some (builtIn "ARRAY", false)
    else if dialect == .clickHouse then
      wrapped "Array"
    else
      expect "<"
      let (inner, closed) ← type
      let extra ← closingAngle closed
      return some (builtFrom "ARRAY<" [inner.toTypePart] ">", extra)
  | "STRUCT" =>
    if dialect == .duckDb then
      return some (builtFrom "STRUCT(" (← closedFields type) ")", false)
    else if dialect.among [.bigQuery, .databricks, .generic] then
      if ← accept "<" then
        let (fields, extra) ← angleFields type word.position
        return some (builtFrom "STRUCT<" fields ">", extra)
      else
        return some (builtIn "STRUCT", false)
    else
      return none
  | "UNION" =>
    if dialect.among [.duckDb, .generic] then
      let fields ← parenthesized (commaSeparated (namedField type))
      return some (builtFrom "UNION(" fields ")", false)
    else
      return none
  | "NULLABLE" => if dialect.among [.clickHouse, .generic] then wrapped "Nullable" else return none
  | "LOWCARDINALITY" =>
    if dialect.among [.clickHouse, .generic] then wrapped "LowCardinality" else return none
  | "MAP" =>
    if dialect.among [.clickHouse, .generic] then
      expect "("
      let key ← closedType (← type)
      expect ","
      let value ← closedType (← type)
      expect ")"
      return some (builtFrom "Map(" [key.toTypePart, value.toTypePart] ")", false)
    else
      return none
  | "NESTED" =>
    if dialect.among [.clickHouse, .generic] then
      let fields ← parenthesized (commaSeparated column)
      return some (builtFrom "Nested(" fields ")", false)
    else
      return none
  | "TUPLE" =>
    if dialect.among [.clickHouse, .generic] then
      let fields ← parenthesized (strictlySeparated (structField type))
      return some (builtFrom "Tuple(" (fields.map Prod.fst) ")", false)
    else
      return none
  | _ => return none

def arrayBrackets (type : DataType) : Parse DataType :=
  improve (fun type => do
    if ← accept "[" then
      let size ←
        if ← dialectAmong [.generic, .duckDb, .postgreSql] then attempt unsigned else pure none
      expect "]"
      let size := (size.map toString).getD ""
      return some (builtFrom "" [type.toTypePart] ("[" ++ size ++ "]"))
    else
      return none) type

/-- Read a data type nested at most as deeply as `fuel` says, given the reader of column
definitions. -/
def dataTypeWithin (column : Parse TypePart) : Nat → Parse TypeRead
  | 0 => fail .tooDeep
  | fuel + 1 => do
    let lexeme ← peek
    match lexeme.token with
    | .word _ _ =>
      let start ← get
      skip 1
      let (type, extra) ←
        match ← scalarType? lexeme.keyword with
        | some type => pure (type, false)
        | none =>
          match ← compositeType? column (dataTypeWithin column fuel) lexeme with
          | some found => pure found
          | none => do
            set start
            let name ← objectName false
            let modifiers ← optionalModifiers
            let suffix := if modifiers.isEmpty then "" else listText modifiers
            pure (⟨⟨name.shown ++ suffix, []⟩, .custom⟩, false)
      return (← arrayBrackets type, extra)
    | _ => expected "a data type name" (← next)

def innerType (sub : Nested) : Parse TypeRead := do
  dataTypeWithin sub.column ((← get).length + 1)

def dataType (sub : Nested) : Parse DataType := do
  closedType (← innerType sub)

def aliasColumns (sub : Nested) : Parse (List TypePart) := do
  if ← accept "(" then
    let columns ← commaSeparated do
      let name ← identifier
      match ← attempt (dataType sub) with
      | some type => return type.named name
      | none => return ⟨name.shown, []⟩
    expect ")"
    return columns
  else
    return []

/-- Read the alias of a relation, with or without `AS`; gives the expressions in the types of its
columns, too. -/
def optionalTableAlias (sub : Nested) (stops : List String) :
    Parse (Option RelationAlias × List Expr) := do
  match ← optionalAlias stops with
  | some name =>
    let columns ← aliasColumns sub
    return (some ⟨name, columns.map TypePart.text⟩, columns.flatMap TypePart.operands)
  | none => return (none, [])

end SqlTables.Sql.Parse
