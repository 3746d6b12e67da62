import SqlTables.Reference.Record
import SqlTables.Sql.Tree

/-!
# Collecting references

Statements are walked from left to right, but the sources of a selection come before its other
clauses, so that aliases and table names are known when qualifiers are met. Expressions are
searched for qualified column references and for nested queries, which are walked in their turn.
Definitions of common tables are left out.
-/

namespace SqlTables.Sql

mutual

def Expr.collect (source : List Char) : Expr → References → References
  | .ident _, found => found
  | .compound parts, found => found.addQualifier source parts
  | .value, found => found
  | .wildcard, found => found
  | .qualifiedWildcard _, found => found
  | .query query, found => query.collect source found
  | .node _ operands, found => Expr.collectAll source operands found

def Expr.collectAll (source : List Char) : List Expr → References → References
  | [], found => found
  | expr :: rest, found => Expr.collectAll source rest (expr.collect source found)

def Expr.collectOption (source : List Char) : Option Expr → References → References
  | none, found => found
  | some expr, found => expr.collect source found

def Query.collect (source : List Char) : Query → References → References
  | .mk _ body orderBy limit _ offset _, found =>
    Expr.collectOption source offset <|
    Expr.collectOption source limit <|
    Expr.collectAll source orderBy <|
    body.collect source found

def Body.collect (source : List Char) : Body → References → References
  | .select select, found => select.collect source found
  | .query query, found => query.collect source found
  | .setOperation left right, found => right.collect source (left.collect source found)
  | .values cells, found => Expr.collectAll source cells found
  | .table, found => found
  | .insert statement, found => statement.collect source found
  | .update statement, found => statement.collect source found

/-- Walk a selection, its sources first. -/
def Select.collect (source : List Char) : Select → References → References
  | .mk _ _ projection sources _ prewhere selection groupBy _ _ sortBy having _ qualify _,
    found =>
    Expr.collectAll source sortBy <|
    Expr.collectOption source qualify <|
    Expr.collectOption source having <|
    Expr.collectAll source groupBy <|
    Expr.collectOption source selection <|
    Expr.collectOption source prewhere <|
    Expr.collectAll source projection <|
    TableWithJoins.collectAll source sources found

def TableWithJoins.collect (source : List Char) : TableWithJoins → References → References
  | .mk relation joins, found => Join.collectAll source joins (relation.collect source found)

def TableWithJoins.collectAll (source : List Char) :
    List TableWithJoins → References → References
  | [], found => found
  | tables :: rest, found =>
    TableWithJoins.collectAll source rest (tables.collect source found)

def Join.collect (source : List Char) : Join → References → References
  | .mk relation condition, found =>
    Expr.collectAll source condition (relation.collect source found)

def Join.collectAll (source : List Char) : List Join → References → References
  | [], found => found
  | join :: rest, found => Join.collectAll source rest (join.collect source found)

/-- Walk an operand of `FROM` or `JOIN`. A call of a table function is no table. -/
def TableFactor.collect (source : List Char) : TableFactor → References → References
  | .table _ calledAs (some args) _, found =>
    Expr.collectAll source args (found.addAlias calledAs)
  | .table name calledAs none _, found => (found.addAlias calledAs).addName source .relation name
  | .derived query calledAs, found => query.collect source (found.addAlias calledAs)
  | .nestedJoin tables calledAs, found => tables.collect source (found.addAlias calledAs)
  | .pivot relation _ calledAs, found => relation.collect source (found.addAlias calledAs)
  | .computed operands _, found => Expr.collectAll source operands found
  | .matchRecognize relation operands _, found =>
    Expr.collectAll source operands (relation.search source found)

/-- Search a relation for qualifiers and nested queries, without recording its own name. -/
def TableFactor.search (source : List Char) : TableFactor → References → References
  | .table _ _ (some args) extras, found =>
    Expr.collectAll source extras (Expr.collectAll source args found)
  | .table _ _ none extras, found => Expr.collectAll source extras found
  | .derived query _, found => query.collect source found
  | .nestedJoin tables _, found => tables.search source found
  | .pivot relation operands _, found =>
    Expr.collectAll source operands (relation.search source found)
  | .computed operands _, found => Expr.collectAll source operands found
  | .matchRecognize relation operands _, found =>
    Expr.collectAll source operands (relation.search source found)

def TableWithJoins.search (source : List Char) : TableWithJoins → References → References
  | .mk relation joins, found => Join.searchAll source joins (relation.search source found)

def Join.search (source : List Char) : Join → References → References
  | .mk relation condition, found =>
    Expr.collectAll source condition (relation.search source found)

def Join.searchAll (source : List Char) : List Join → References → References
  | [], found => found
  | join :: rest, found => Join.searchAll source rest (join.search source found)

/-- Walk the target of a change: a table is recorded as the target, anything else is walked as
any other relation. -/
def TableFactor.collectTarget (source : List Char) (kind : ReferenceKind) :
    TableFactor → References → References
  | .table name calledAs _ _, found => (found.addAlias calledAs).addName source kind name
  | .derived query calledAs, found => query.collect source (found.addAlias calledAs)
  | .nestedJoin tables calledAs, found => tables.collect source (found.addAlias calledAs)
  | .pivot relation _ calledAs, found => relation.collect source (found.addAlias calledAs)
  | .computed operands _, found => Expr.collectAll source operands found
  | .matchRecognize relation operands _, found =>
    Expr.collectAll source operands (relation.search source found)

def TableWithJoins.collectTarget (source : List Char) (kind : ReferenceKind) :
    TableWithJoins → References → References
  | .mk relation joins, found =>
    Join.collectAll source joins (relation.collectTarget source kind found)

def TableWithJoins.collectTargets (source : List Char) (kind : ReferenceKind) :
    List TableWithJoins → References → References
  | [], found => found
  | tables :: rest, found =>
    TableWithJoins.collectTargets source kind rest (tables.collectTarget source kind found)

def Query.collectOption (source : List Char) : Option Query → References → References
  | none, found => found
  | some query, found => query.collect source found

def Statement.collect (source : List Char) : Statement → References → References
  | .query query, found => query.collect source found
  | .insert target query, found =>
    Query.collectOption source query <|
    match target with
    | some name => found.addName source .insertTarget name
    | none => found
  | .update target assigned sources selection, found =>
    Expr.collectOption source selection <|
    Expr.collectAll source assigned <|
    TableWithJoins.collectAll source sources <|
    target.collectTarget source .updateTarget found
  | .delete targets sources selection, found =>
    Expr.collectOption source selection <|
    TableWithJoins.collectAll source sources <|
    TableWithJoins.collectTargets source .deleteTarget targets found
  | .merge target relation on clauses, found =>
    Expr.collectAll source clauses <|
    on.collect source <|
    relation.collect source <|
    target.collectTarget source .mergeTarget found
  | .createTable name none, found => found.addName source .createTableTarget name
  | .createTable name (some query), found =>
    query.collect source (found.addName source .createAsSelectTarget name)
  | .defineView name query, found =>
    query.collect source (found.addName source .viewDefinition name)
  | .alterTable name actions, found =>
    let kind := if actions.contains .addColumn then .addColumnTarget else .alterTarget
    actions.foldl (fun found action =>
      match action with
      | .renameTable newName => found.addName source .renameTarget newName
      | _ => found) (found.addName source kind name)
  | .drop .other _, found => found
  | .drop _ names, found =>
    names.foldl (fun found name => found.addName source .dropTarget name) found
  | .truncate names, found =>
    names.foldl (fun found name => found.addName source .truncateTarget name) found
  | .comment .table name, found => found.addName source .administrative name
  | .comment _ _, found => found
  | .privileges tables, found =>
    tables.foldl (fun found name => found.addName source .administrative name) found
  | .showColumns none, found => found
  | .showColumns (some name), found => found.addName source .administrative name
  | .showCreate .other _, found => found
  | .showCreate _ name, found => found.addName source .administrative name
  | .analyze name, found => found.addName source .administrative name
  | .explain statement, found => statement.collect source found
  | .describe _, found => found
  | .other, found => found

end

def collect (source : String) (statements : List Statement) : References :=
  statements.foldl (fun found statement => statement.collect source.toList found)
    References.empty

end SqlTables.Sql
