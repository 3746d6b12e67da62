import SqlTables.Text.Classes

/-!
# Dialects of SQL

The dialects and the decisions on which they differ: how identifiers and literals are
written, and which constructs are read.
-/

namespace SqlTables.Sql

inductive Dialect where
  | generic
  | mySql
  | postgreSql
  | hive
  | sqlite
  | snowflake
  | redshift
  | msSql
  | clickHouse
  | bigQuery
  | ansi
  | duckDb
  | databricks
deriving DecidableEq, Repr

namespace Dialect

/-- Lower case of a character as far as it matters for the names of dialects: ASCII letters
and the Kelvin sign. -/
def lowerForName (c : Char) : Char :=
  if c.toNat = 0x212A then 'k' else c.toLower

def ofName? (name : String) : Option Dialect :=
  match String.ofList (name.toList.map lowerForName) with
  | "generic" => some generic
  | "mysql" => some mySql
  | "postgresql" | "postgres" => some postgreSql
  | "hive" => some hive
  | "sqlite" => some sqlite
  | "snowflake" => some snowflake
  | "redshift" => some redshift
  | "mssql" => some msSql
  | "clickhouse" => some clickHouse
  | "bigquery" => some bigQuery
  | "ansi" => some ansi
  | "duckdb" => some duckDb
  | "databricks" => some databricks
  | _ => none

def among (dialect : Dialect) (dialects : List Dialect) : Bool :=
  dialects.contains dialect

/-! ## How words and literals are written -/

def codeBetween (low high : Nat) (c : Char) : Bool :=
  low ≤ c.toNat && c.toNat ≤ high

def isWordStart (dialect : Dialect) (c : Char) : Bool :=
  match dialect with
  | generic | msSql => Text.isLetter c || c == '_' || c == '#' || c == '@'
  | mySql => Text.isLetter c || c == '_' || c == '$' || c == '@' || codeBetween 0x80 0xFFFF c
  | postgreSql => Text.isLetter c || c == '_'
  | redshift => Text.isLetter c || c == '_' || c == '#'
  | hive => c.isAlphanum || c == '$'
  | sqlite => c.isAlpha || c == '_' || codeBetween 0x7F 0xFFFF c
  | snowflake | clickHouse | databricks => c.isAlpha || c == '_'
  | bigQuery => c.isAlpha || c == '_'
  | ansi => c.isAlpha
  | duckDb => Text.isLetter c || c == '_'

def isWordPart (dialect : Dialect) (c : Char) : Bool :=
  match dialect with
  | generic | msSql =>
    Text.isLetter c || c.isDigit || c == '@' || c == '$' || c == '#' || c == '_'
  | postgreSql | duckDb => Text.isLetter c || c.isDigit || c == '$' || c == '_'
  | redshift => Text.isLetter c || c.isDigit || c == '$' || c == '_' || c == '#'
  | hive => c.isAlphanum || c == '_' || c == '$' || c == '\x7b' || c == '\x7d'
  | snowflake => c.isAlphanum || c == '$' || c == '_'
  | ansi => c.isAlphanum || c == '_'
  | mySql | sqlite | clickHouse | bigQuery | databricks => isWordStart dialect c || c.isDigit

def isQuoteStart (dialect : Dialect) (c : Char) : Bool :=
  match dialect with
  | mySql | bigQuery | databricks => c == '\x60'
  | postgreSql => c == '\x22'
  | sqlite => c == '\x60' || c == '\x22' || c == '['
  | msSql => c == '\x22' || c == '['
  | generic | hive | snowflake | redshift | clickHouse | ansi | duckDb =>
    c == '\x22' || c == '\x60'

/-- Square brackets may delimit an identifier that is itself written in double quotes. -/
def nestsQuotes (dialect : Dialect) : Bool :=
  dialect == redshift

/-- A backslash in a string literal escapes the character behind it. -/
def escapesWithBackslash (dialect : Dialect) : Bool :=
  dialect.among [mySql, bigQuery, snowflake, clickHouse]

def hasTripleQuotes (dialect : Dialect) : Bool :=
  dialect == bigQuery

def hasUnicodeLiterals (dialect : Dialect) : Bool :=
  dialect.among [generic, postgreSql]

def hasByteLiterals (dialect : Dialect) : Bool :=
  dialect.among [bigQuery, postgreSql, mySql, generic]

def hasRawLiterals (dialect : Dialect) : Bool :=
  dialect.among [bigQuery, generic]

/-- A word may start with digits. -/
def hasNumericStart (dialect : Dialect) : Bool :=
  dialect.among [mySql, hive]

def nestsComments (dialect : Dialect) : Bool :=
  dialect.among [generic, postgreSql]

def hashStartsComment (dialect : Dialect) : Bool :=
  dialect.among [snowflake, bigQuery, mySql, hive]

/-- A dollar sign starts a placeholder and never a string literal. -/
def hasDollarPlaceholders (dialect : Dialect) : Bool :=
  dialect == sqlite

def isOperatorPart (dialect : Dialect) (c : Char) : Bool :=
  dialect == postgreSql && "+-*/<>=~!@#%^&|\x60?".toList.contains c

/-! ## Which constructs are read -/

def hasTrailingCommas (dialect : Dialect) : Bool :=
  dialect.among [duckDb]

def hasProjectionTrailingCommas (dialect : Dialect) : Bool :=
  dialect.among [bigQuery, snowflake]

def hasTruthLiterals (dialect : Dialect) : Bool :=
  dialect != msSql

def requiresIntervalUnit (dialect : Dialect) : Bool :=
  dialect.among [ansi, bigQuery, clickHouse, databricks, hive, mySql]

def hasAggregateFilter (dialect : Dialect) : Bool :=
  dialect.among [postgreSql, sqlite, duckDb, databricks, hive]

def hasNullTreatmentArgument (dialect : Dialect) : Bool :=
  dialect.among [generic, bigQuery, snowflake]

/-- A named argument may have any expression as its name. -/
def namesArgumentsByExpression (dialect : Dialect) : Bool :=
  dialect.among [msSql, postgreSql]

def hasArrowArguments (dialect : Dialect) : Bool :=
  dialect != msSql

def hasEqualsArguments (dialect : Dialect) : Bool :=
  dialect.among [duckDb]

def hasAssignmentArguments (dialect : Dialect) : Bool :=
  dialect.among [generic, duckDb, postgreSql]

def hasColonArguments (dialect : Dialect) : Bool :=
  dialect.among [msSql, postgreSql]

def hasLambdas (dialect : Dialect) : Bool :=
  dialect == databricks

def hasStructLiterals (dialect : Dialect) : Bool :=
  dialect.among [bigQuery, databricks, generic]

def hasDictionaries (dialect : Dialect) : Bool :=
  dialect.among [duckDb, generic, clickHouse, snowflake]

def hasMapLiterals (dialect : Dialect) : Bool :=
  dialect.among [duckDb, generic]

/-- Brackets and dots reach into semi-structured values. -/
def hasPathAccess (dialect : Dialect) : Bool :=
  dialect.among [redshift, snowflake]

def convertsTypeFirst (dialect : Dialect) : Bool :=
  dialect.among [msSql, redshift]

def hasTryConvert (dialect : Dialect) : Bool :=
  dialect.among [msSql, generic]

def hasMethods (dialect : Dialect) : Bool :=
  dialect == msSql

/-- An exclamation mark in front of an expression negates it. -/
def hasBangNot (dialect : Dialect) : Bool :=
  dialect == hive

/-- An exclamation mark behind an expression is its factorial. -/
def hasFactorial (dialect : Dialect) : Bool :=
  dialect == postgreSql

def hasEmptyInList (dialect : Dialect) : Bool :=
  dialect == sqlite

def extractsCustomFields (dialect : Dialect) : Bool :=
  dialect.among [generic, postgreSql, snowflake]

def extractsQuotedFields (dialect : Dialect) : Bool :=
  dialect.among [generic, postgreSql, snowflake]

def hasEmptyProjection (dialect : Dialect) : Bool :=
  dialect.among [generic, postgreSql]

def hasTopBeforeDistinct (dialect : Dialect) : Bool :=
  dialect == redshift

def hasWildcardExcept (dialect : Dialect) : Bool :=
  dialect.among [bigQuery, clickHouse, databricks, generic]

/-- An item of the projection may be written `alias = expression`. -/
def hasEqualsAliases (dialect : Dialect) : Bool :=
  dialect == msSql

def hasGroupingExpressions (dialect : Dialect) : Bool :=
  dialect.among [generic, postgreSql, duckDb, databricks]

def hasGroupingModifiers (dialect : Dialect) : Bool :=
  dialect.among [generic, clickHouse]

def hasWindowReferences (dialect : Dialect) : Bool :=
  dialect.among [bigQuery, generic]

def hasConnectBy (dialect : Dialect) : Bool :=
  dialect.among [generic, snowflake, msSql, redshift]

def hasMatchRecognize (dialect : Dialect) : Bool :=
  dialect.among [generic, snowflake]

/-- `LIMIT` may take an offset and a count separated by a comma. -/
def hasLimitComma (dialect : Dialect) : Bool :=
  dialect.among [generic, mySql, clickHouse, sqlite]

/-- Samples of a table are written before its alias. -/
def samplesBeforeAlias (dialect : Dialect) : Bool :=
  dialect == hive

/-- Two dots in a name skip the schema. -/
def hasDoubleDotNames (dialect : Dialect) : Bool :=
  dialect == snowflake

def hasTableVersions (dialect : Dialect) : Bool :=
  dialect.among [bigQuery, msSql, snowflake]

def hasSourceTrailingCommas (dialect : Dialect) : Bool :=
  dialect == snowflake

/-- Words that are never identifiers where an expression starts. -/
def reservesForExpressions (dialect : Dialect) (keyword : String) : Bool :=
  if keyword == "INTERVAL" then !dialect.among [postgreSql, snowflake]
  else ["EXISTS", "STRUCT", "TRIM"].contains keyword

end Dialect

end SqlTables.Sql
