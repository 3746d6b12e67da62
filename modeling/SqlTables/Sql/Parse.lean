import SqlTables.Sql.Lexer
import SqlTables.Sql.Parse.Statement

/-!
# Reading a text of SQL

A text is split into lexemes, which are then read as statements. Statements, queries and
expressions may be nested in each other up to a fixed depth.
-/

namespace SqlTables.Sql

open Parse in
/-- The readers of a text that may be nested to a depth. -/
def readers : Nat → Nested
  | 0 => Nested.exhausted
  | depth + 1 =>
    let sub := (readers depth).withOperands
    { expr := expressionAt sub, query := queryOf sub, statement := Parse.statement sub,
      column := columnDef sub, operand := fail .tooDeep }

/-- How deeply a text may be nested. -/
def depthLimit : Nat := 50

inductive SyntaxError where
  /-- The text cannot be split into lexemes. -/
  | lexical (error : LexError)
  /-- The lexemes are no statements. -/
  | grammatical (failure : Failure)
deriving DecidableEq, Repr

def SyntaxError.message : SyntaxError → String
  | lexical error => error.message
  | grammatical failure => failure.message

/-- The statements that lexemes stand for. -/
def statementsOf (dialect : Dialect) (lexemes : List Lexeme) :
    Except Failure (List Statement) :=
  (Parse.statements (readers depthLimit).statement ⟨dialect, false⟩ lexemes).1

def parse (dialect : Dialect) (text : String) : Except SyntaxError (List Statement) :=
  match lex dialect text.toList with
  | .error error => .error (.lexical error)
  | .ok lexemes => (statementsOf dialect lexemes).mapError .grammatical

end SqlTables.Sql
