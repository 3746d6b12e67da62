import SqlTables.Reference.Collect
import SqlTables.Rename.Apply
import SqlTables.Sql.Parse

/-!
# Renamers

A renamer is a dialect together with the anchors for the targets of mutations. It reads a text,
lists the tables in it, tells what a mapping would change, and renames.
-/

namespace SqlTables

inductive RenameError where
  /-- The text is not SQL. -/
  | unreadable (error : Sql.SyntaxError)
  /-- The text holds no statement. -/
  | noStatement
  /-- The text after renaming is not SQL, or holds no statement. -/
  | unreadableResult (sql : String) (reason : RenameError)
  /-- No dialect has the name. -/
  | unknownDialect (name : String)
  /-- An anchor has no words. -/
  | blankAnchor (phrase : String)
  /-- An entry of a mapping is not of the form `old=new`. -/
  | malformedEntry (entry : String)
deriving DecidableEq, Repr

namespace RenameError

def message : RenameError → String
  | unreadable error => "SQL parse error: sql parser error: " ++ error.message
  | noStatement => "No SQL statement found in input"
  | unreadableResult _ reason => "Rewritten SQL failed to parse: " ++ reason.message
  | unknownDialect name => "Unknown SQL dialect: " ++ name
  | blankAnchor phrase => "Invalid fallback anchor phrase: " ++ phrase
  | malformedEntry entry => "Invalid table mapping entry: " ++ entry ++ " (expected old=new)"

def cause? : RenameError → Option String
  | unreadable error => some ("sql parser error: " ++ error.message)
  | blankAnchor _ => some "empty anchor phrase"
  | _ => none

end RenameError

/-- A dialect, under the name it was asked for, and the anchors of mutations. -/
structure Renamer where
  name : String
  dialect : Sql.Dialect
  anchors : Rename.Anchors
deriving DecidableEq, Repr

namespace Renamer

def default : Renamer :=
  ⟨"generic", .generic, Rename.Anchors.default⟩

/-- The renamer for a dialect, with given anchors or the usual ones. An unknown dialect is found
before a blank anchor. -/
def ofNames (name : String) (phrases : Option (List String)) : Except RenameError Renamer := do
  match Sql.Dialect.ofName? name with
  | none => .error (.unknownDialect name)
  | some dialect =>
    match phrases with
    | none => .ok ⟨name, dialect, Rename.Anchors.default⟩
    | some phrases =>
      match Rename.Anchors.ofPhrases phrases with
      | .error phrase => .error (.blankAnchor phrase)
      | .ok anchors => .ok ⟨name, dialect, anchors⟩

def statements (renamer : Renamer) (sql : String) : Except RenameError (List Sql.Statement) :=
  match Sql.parse renamer.dialect sql with
  | .error error => .error (.unreadable error)
  | .ok [] => .error .noStatement
  | .ok statements => .ok statements

def references (renamer : Renamer) (sql : String) : Except RenameError References := do
  return Sql.collect sql (← renamer.statements sql)

def tables (renamer : Renamer) (sql : String) : Except RenameError (List String) := do
  return (← renamer.references sql).tables.names

/-- Rename the tables in a text. The result has to be SQL again. -/
def rename (renamer : Renamer) (sql : String) (mapping : Mapping) :
    Except RenameError String := do
  let found ← renamer.references sql
  let renamed := Rename.apply mapping renamer.anchors found.occurrences sql
  match renamer.statements renamed with
  | .error reason => .error (.unreadableResult renamed reason)
  | .ok _ => .ok renamed

def analyze (renamer : Renamer) (sql : String) (mapping : Mapping) :
    Except RenameError Analysis := do
  return Analysis.ofTables (← renamer.tables sql) mapping

def accepts (renamer : Renamer) (sql : String) : Bool :=
  (renamer.statements sql).isOk

end Renamer

end SqlTables
