import SqlTables.Reference.Collect

/-!
# Searching by a full descent

Expressions can also be searched by going through everything below them, in the order of the
fields, with a count of the queries that have been entered and not yet left. Where the count is
zero, a qualified column is recorded and a query is walked; the descent then goes on through the
fields of that query, where the count keeps it from recording anything again. The walk in its turn
starts such descents from the clauses of the query.
-/

namespace SqlTables.Sql

/-! ## The state of a descent -/

/-- How far a descent has come. -/
structure Descent where
  /-- What has been found. -/
  found : References
  /-- How many queries have been entered and not yet left. -/
  depth : Nat

namespace Descent

/-- Meet a qualified column, which is recorded outside all queries only. -/
def column (source : List Char) (parts : List Ident) (descent : Descent) : Descent :=
  if descent.depth = 0 then { descent with found := descent.found.addQualifier source parts }
  else descent

/-- Enter a query, which is walked if no query has been entered before. -/
def enter (walk : References → References) (descent : Descent) : Descent :=
  ⟨if descent.depth = 0 then walk descent.found else descent.found, descent.depth + 1⟩

def leave (descent : Descent) : Descent :=
  { descent with depth := descent.depth - 1 }

/-- Start a descent outside all queries and take what it finds. -/
def run (descend : Descent → Descent) (found : References) : References :=
  (descend ⟨found, 0⟩).found

/-- Outside all queries the descent does what the walk does, inside a query it does nothing, and
it ends at the depth at which it began. -/
def Follows (descend : Descent → Descent) (walk : References → References) : Prop :=
  ∀ found depth, descend ⟨found, depth⟩ = ⟨if depth = 0 then walk found else found, depth⟩

end Descent

/-! ## Descents and the walks that start them -/

def TableFactor.asTarget (source : List Char) (kind : ReferenceKind)
    (walk : References → References) : TableFactor → References → References
  | .table name calledAs _ _, found => (found.addAlias calledAs).addName source kind name
  | _, found => walk found

mutual

def Expr.descend (source : List Char) : Expr → Descent → Descent
  | .ident _, descent => descent
  | .compound parts, descent => descent.column source parts
  | .value, descent => descent
  | .wildcard, descent => descent
  | .qualifiedWildcard _, descent => descent
  | .query query, descent => query.descend source descent
  | .node _ operands, descent => Expr.descendAll source operands descent

def Expr.descendAll (source : List Char) : List Expr → Descent → Descent
  | [], descent => descent
  | expr :: rest, descent => Expr.descendAll source rest (expr.descend source descent)

def Expr.descendOption (source : List Char) : Option Expr → Descent → Descent
  | none, descent => descent
  | some expr, descent => expr.descend source descent

def Cte.descend (source : List Char) : Cte → Descent → Descent
  | .mk _ query _, descent => query.descend source descent

def Cte.descendAll (source : List Char) : List Cte → Descent → Descent
  | [], descent => descent
  | cte :: rest, descent => Cte.descendAll source rest (cte.descend source descent)

/-- Enter a query, go through all its fields, and leave it. -/
def Query.descend (source : List Char) : Query → Descent → Descent
  | .mk ctes body orderBy limit limitBy offset fetch, descent =>
    Descent.leave <|
    Expr.descendOption source fetch <|
    Expr.descendOption source offset <|
    Expr.descendAll source limitBy <|
    Expr.descendOption source limit <|
    Expr.descendAll source orderBy <|
    body.descend source <|
    Cte.descendAll source ctes <|
    descent.enter fun found =>
      Descent.run (Expr.descendOption source offset) <|
      Descent.run (Expr.descendOption source limit) <|
      Descent.run (Expr.descendAll source orderBy) <|
      body.walk source found

def Query.descendOption (source : List Char) : Option Query → Descent → Descent
  | none, descent => descent
  | some query, descent => query.descend source descent

def Body.descend (source : List Char) : Body → Descent → Descent
  | .select select, descent => select.descend source descent
  | .query query, descent => query.descend source descent
  | .setOperation left right, descent => right.descend source (left.descend source descent)
  | .values cells, descent => Expr.descendAll source cells descent
  | .table, descent => descent
  | .insert statement, descent => statement.descend source descent
  | .update statement, descent => statement.descend source descent

def Select.descend (source : List Char) : Select → Descent → Descent
  | .mk distinctOn top projection sources lateralViews prewhere selection groupBy clusterBy
      distributeBy sortBy having windows qualify connectBy, descent =>
    Expr.descendAll source connectBy <|
    Expr.descendOption source qualify <|
    Expr.descendAll source windows <|
    Expr.descendOption source having <|
    Expr.descendAll source sortBy <|
    Expr.descendAll source distributeBy <|
    Expr.descendAll source clusterBy <|
    Expr.descendAll source groupBy <|
    Expr.descendOption source selection <|
    Expr.descendOption source prewhere <|
    Expr.descendAll source lateralViews <|
    TableWithJoins.descendAll source sources <|
    Expr.descendAll source projection <|
    Expr.descendOption source top <|
    Expr.descendAll source distinctOn descent

def TableWithJoins.descend (source : List Char) : TableWithJoins → Descent → Descent
  | .mk relation joins, descent =>
    Join.descendAll source joins (relation.descend source descent)

def TableWithJoins.descendAll (source : List Char) : List TableWithJoins → Descent → Descent
  | [], descent => descent
  | tables :: rest, descent =>
    TableWithJoins.descendAll source rest (tables.descend source descent)

def Join.descend (source : List Char) : Join → Descent → Descent
  | .mk relation condition, descent =>
    Expr.descendAll source condition (relation.descend source descent)

def Join.descendAll (source : List Char) : List Join → Descent → Descent
  | [], descent => descent
  | join :: rest, descent => Join.descendAll source rest (join.descend source descent)

def TableFactor.descend (source : List Char) : TableFactor → Descent → Descent
  | .table _ _ none extras, descent => Expr.descendAll source extras descent
  | .table _ _ (some args) extras, descent =>
    Expr.descendAll source extras (Expr.descendAll source args descent)
  | .derived query _, descent => query.descend source descent
  | .nestedJoin tables _, descent => tables.descend source descent
  | .pivot relation operands _, descent =>
    Expr.descendAll source operands (relation.descend source descent)
  | .computed operands _, descent => Expr.descendAll source operands descent
  | .matchRecognize relation operands _, descent =>
    Expr.descendAll source operands (relation.descend source descent)

def Statement.descend (source : List Char) : Statement → Descent → Descent
  | .query query, descent => query.descend source descent
  | .insert _ query, descent => Query.descendOption source query descent
  | .update target assigned sources selection, descent =>
    Expr.descendOption source selection <|
    TableWithJoins.descendAll source sources <|
    Expr.descendAll source assigned <|
    target.descend source descent
  | .delete targets sources selection, descent =>
    Expr.descendOption source selection <|
    TableWithJoins.descendAll source sources <|
    TableWithJoins.descendAll source targets descent
  | .merge target relation on clauses, descent =>
    Expr.descendAll source clauses <|
    on.descend source <|
    relation.descend source <|
    target.descend source descent
  | .createTable _ query, descent => Query.descendOption source query descent
  | .defineView _ query, descent => query.descend source descent
  | .explain statement, descent => statement.descend source descent
  | _, descent => descent

def Query.walk (source : List Char) : Query → References → References
  | .mk _ body orderBy limit _ offset _, found =>
    Descent.run (Expr.descendOption source offset) <|
    Descent.run (Expr.descendOption source limit) <|
    Descent.run (Expr.descendAll source orderBy) <|
    body.walk source found

def Query.walkOption (source : List Char) : Option Query → References → References
  | none, found => found
  | some query, found => query.walk source found

def Body.walk (source : List Char) : Body → References → References
  | .select select, found => select.walk source found
  | .query query, found => query.walk source found
  | .setOperation left right, found => right.walk source (left.walk source found)
  | .values cells, found => Descent.run (Expr.descendAll source cells) found
  | .table, found => found
  | .insert statement, found => statement.walk source found
  | .update statement, found => statement.walk source found

/-- Walk a selection, its sources first, with a descent into each of the other clauses. -/
def Select.walk (source : List Char) : Select → References → References
  | .mk _ _ projection sources _ prewhere selection groupBy _ _ sortBy having _ qualify _,
    found =>
    Descent.run (Expr.descendAll source sortBy) <|
    Descent.run (Expr.descendOption source qualify) <|
    Descent.run (Expr.descendOption source having) <|
    Descent.run (Expr.descendAll source groupBy) <|
    Descent.run (Expr.descendOption source selection) <|
    Descent.run (Expr.descendOption source prewhere) <|
    Descent.run (Expr.descendAll source projection) <|
    TableWithJoins.walkAll source sources found

def TableWithJoins.walk (source : List Char) : TableWithJoins → References → References
  | .mk relation joins, found => Join.walkAll source joins (relation.walk source found)

def TableWithJoins.walkAll (source : List Char) :
    List TableWithJoins → References → References
  | [], found => found
  | tables :: rest, found => TableWithJoins.walkAll source rest (tables.walk source found)

def Join.walk (source : List Char) : Join → References → References
  | .mk relation condition, found =>
    Descent.run (Expr.descendAll source condition) (relation.walk source found)

def Join.walkAll (source : List Char) : List Join → References → References
  | [], found => found
  | join :: rest, found => Join.walkAll source rest (join.walk source found)

/-- Walk an operand of `FROM` or `JOIN`. What is no table, query, join or pivot is descended into
as a whole. -/
def TableFactor.walk (source : List Char) : TableFactor → References → References
  | .table _ calledAs (some args) _, found =>
    Descent.run (Expr.descendAll source args) (found.addAlias calledAs)
  | .table name calledAs none _, found => (found.addAlias calledAs).addName source .relation name
  | .derived query calledAs, found => query.walk source (found.addAlias calledAs)
  | .nestedJoin tables calledAs, found => tables.walk source (found.addAlias calledAs)
  | .pivot relation _ calledAs, found => relation.walk source (found.addAlias calledAs)
  | .computed operands _, found => Descent.run (Expr.descendAll source operands) found
  | .matchRecognize relation operands _, found =>
    Descent.run
      (fun descent => Expr.descendAll source operands (relation.descend source descent)) found

def TableWithJoins.walkTarget (source : List Char) (kind : ReferenceKind) :
    TableWithJoins → References → References
  | .mk relation joins, found =>
    Join.walkAll source joins (relation.asTarget source kind (relation.walk source) found)

def TableWithJoins.walkTargets (source : List Char) (kind : ReferenceKind) :
    List TableWithJoins → References → References
  | [], found => found
  | tables :: rest, found =>
    TableWithJoins.walkTargets source kind rest (tables.walkTarget source kind found)

def Statement.walk (source : List Char) : Statement → References → References
  | .query query, found => query.walk source found
  | .insert target query, found =>
    Query.walkOption source query <|
    match target with
    | some name => found.addName source .insertTarget name
    | none => found
  | .update target assigned sources selection, found =>
    Descent.run (Expr.descendOption source selection) <|
    Descent.run (Expr.descendAll source assigned) <|
    TableWithJoins.walkAll source sources <|
    target.walkTarget source .updateTarget found
  | .delete targets sources selection, found =>
    Descent.run (Expr.descendOption source selection) <|
    TableWithJoins.walkAll source sources <|
    TableWithJoins.walkTargets source .deleteTarget targets found
  | .merge target relation on clauses, found =>
    Descent.run (Expr.descendAll source clauses) <|
    Descent.run (on.descend source) <|
    relation.walk source <|
    target.asTarget source .mergeTarget (target.walk source) found
  | .createTable name none, found => found.addName source .createTableTarget name
  | .createTable name (some query), found =>
    query.walk source (found.addName source .createAsSelectTarget name)
  | .defineView name query, found =>
    query.walk source (found.addName source .viewDefinition name)
  | .explain statement, found => statement.walk source found
  | statement, found => statement.collect source found

end

end SqlTables.Sql
