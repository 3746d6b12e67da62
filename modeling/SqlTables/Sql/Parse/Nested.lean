import SqlTables.Sql.Parse.Names
import SqlTables.Sql.Tree

/-!
# Nesting

Statements, queries and expressions contain each other. A reader of one of them is given the
readers of what is nested inside it, so that the depth of a text is the number of times such a
record has been built on top of another.
-/

namespace SqlTables.Sql.Parse

/-- A type, or a part of one, by its text and the expressions in it. -/
structure TypePart where
  text : String
  /-- The expressions that options of nested columns contain, in the order of their visit. -/
  operands : List Expr

/-- The readers of what is nested one level deeper. -/
structure Nested where
  /-- An expression whose operators bind more tightly than a precedence. -/
  expr : Nat → Parse Expr
  query : Parse Query
  statement : Parse Statement
  /-- A definition of a column. -/
  column : Parse TypePart
  /-- An operand of the expression that is being read, on its own level. -/
  operand : Parse Expr

namespace Nested

/-- The readers below the deepest level: nothing more may be nested. -/
def exhausted : Nested where
  expr _ := fail .tooDeep
  query := fail .tooDeep
  statement := fail .tooDeep
  column := fail .tooDeep
  operand := fail .tooDeep

def expression (sub : Nested) : Parse Expr :=
  sub.expr 0

def expressions (sub : Nested) : Parse (List Expr) :=
  commaSeparated sub.expression

def after (sub : Nested) (keyword : String) : Parse (List Expr) := do
  return (← afterKeyword keyword sub.expression).toList

end Nested

/-- Whether a query follows, judged by its first word. -/
def seesQuery : Parse Bool :=
  seesOneOf ["SELECT", "WITH"]

/-- The result of a reader; if it fails, nothing is consumed and the failure is the result. -/
def outcome {α : Type} (reader : Parse α) : Parse (Except Failure α) := fun setting lexemes =>
  match reader setting lexemes with
  | (.ok value, rest) => (.ok (.ok value), rest)
  | (.error failure, _) => (.ok (.error failure), lexemes)

end SqlTables.Sql.Parse
