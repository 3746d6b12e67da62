import SqlTables.Sql.Tree

/-!
# Revisions of syntax trees

A revision changes the identifiers of a tree and the definitions of its common tables, wherever
they stand, and keeps everything else. Two of them matter: the one that lowers the case of all
identifiers, and the one that takes all common tables away. Trees that a revision makes equal
differ only in what it changes.
-/

namespace SqlTables.Sql

/-- A change that is made everywhere in a tree. -/
structure Revision where
  /-- What becomes of an identifier. -/
  ident : Ident → Ident
  /-- What becomes of a column that an alias names. -/
  column : String → String
  /-- What becomes of the common tables of a query, after their own trees have been revised. -/
  ctes : List Cte → List Cte

namespace Revision

/-- Take the common tables of all queries away. -/
def withoutCtes : Revision where
  ident := id
  column := id
  ctes _ := []

/-- Lower the ASCII letters of all identifiers, which keep their delimiters and positions. -/
def lowered : Revision where
  ident ident := { ident with value := Text.asciiLower ident.value }
  column := Text.asciiLower
  ctes := id

variable (revision : Revision)

def name (name : ObjectName) : ObjectName :=
  name.map revision.ident

def calledAs (calledAs : RelationAlias) : RelationAlias :=
  ⟨revision.ident calledAs.name, calledAs.columns.map revision.column⟩

def form : Form → Form
  | .call called => .call (revision.name called)
  | .named called => .named (revision.ident called)
  | other => other

def action : AlterAction → AlterAction
  | .renameTable newName => .renameTable (revision.name newName)
  | .addColumn => .addColumn
  | .other => .other

end Revision

/-! ## Revised trees -/

mutual

def Expr.revise (revision : Revision) : Expr → Expr
  | .ident name => .ident (revision.ident name)
  | .compound parts => .compound (revision.name parts)
  | .value => .value
  | .wildcard => .wildcard
  | .qualifiedWildcard name => .qualifiedWildcard (revision.name name)
  | .query query => .query (query.revise revision)
  | .node form operands => .node (revision.form form) (Expr.reviseAll revision operands)

def Expr.reviseAll (revision : Revision) : List Expr → List Expr
  | [] => []
  | expr :: rest => expr.revise revision :: Expr.reviseAll revision rest

def Expr.reviseOption (revision : Revision) : Option Expr → Option Expr
  | none => none
  | some expr => some (expr.revise revision)

def Cte.revise (revision : Revision) : Cte → Cte
  | .mk calledAs query source =>
    .mk (revision.ident calledAs) (query.revise revision) (source.map revision.ident)

def Cte.reviseAll (revision : Revision) : List Cte → List Cte
  | [] => []
  | cte :: rest => cte.revise revision :: Cte.reviseAll revision rest

def Query.revise (revision : Revision) : Query → Query
  | .mk ctes body orderBy limit limitBy offset fetch =>
    .mk (revision.ctes (Cte.reviseAll revision ctes)) (body.revise revision)
      (Expr.reviseAll revision orderBy) (Expr.reviseOption revision limit)
      (Expr.reviseAll revision limitBy) (Expr.reviseOption revision offset)
      (Expr.reviseOption revision fetch)

def Query.reviseOption (revision : Revision) : Option Query → Option Query
  | none => none
  | some query => some (query.revise revision)

def Body.revise (revision : Revision) : Body → Body
  | .select select => .select (select.revise revision)
  | .query query => .query (query.revise revision)
  | .setOperation left right => .setOperation (left.revise revision) (right.revise revision)
  | .values cells => .values (Expr.reviseAll revision cells)
  | .table => .table
  | .insert statement => .insert (statement.revise revision)
  | .update statement => .update (statement.revise revision)

def Select.revise (revision : Revision) : Select → Select
  | .mk distinctOn top projection sources lateralViews prewhere selection groupBy clusterBy
      distributeBy sortBy having windows qualify connectBy =>
    .mk (Expr.reviseAll revision distinctOn) (Expr.reviseOption revision top)
      (Expr.reviseAll revision projection) (TableWithJoins.reviseAll revision sources)
      (Expr.reviseAll revision lateralViews) (Expr.reviseOption revision prewhere)
      (Expr.reviseOption revision selection) (Expr.reviseAll revision groupBy)
      (Expr.reviseAll revision clusterBy) (Expr.reviseAll revision distributeBy)
      (Expr.reviseAll revision sortBy) (Expr.reviseOption revision having)
      (Expr.reviseAll revision windows) (Expr.reviseOption revision qualify)
      (Expr.reviseAll revision connectBy)

def TableWithJoins.revise (revision : Revision) : TableWithJoins → TableWithJoins
  | .mk relation joins => .mk (relation.revise revision) (Join.reviseAll revision joins)

def TableWithJoins.reviseAll (revision : Revision) : List TableWithJoins → List TableWithJoins
  | [] => []
  | tables :: rest => tables.revise revision :: TableWithJoins.reviseAll revision rest

def Join.revise (revision : Revision) : Join → Join
  | .mk relation condition => .mk (relation.revise revision) (Expr.reviseAll revision condition)

def Join.reviseAll (revision : Revision) : List Join → List Join
  | [] => []
  | join :: rest => join.revise revision :: Join.reviseAll revision rest

def TableFactor.revise (revision : Revision) : TableFactor → TableFactor
  | .table name calledAs none extras =>
    .table (revision.name name) (calledAs.map revision.calledAs) none
      (Expr.reviseAll revision extras)
  | .table name calledAs (some args) extras =>
    .table (revision.name name) (calledAs.map revision.calledAs)
      (some (Expr.reviseAll revision args)) (Expr.reviseAll revision extras)
  | .derived query calledAs =>
    .derived (query.revise revision) (calledAs.map revision.calledAs)
  | .nestedJoin tables calledAs =>
    .nestedJoin (tables.revise revision) (calledAs.map revision.calledAs)
  | .pivot source operands calledAs =>
    .pivot (source.revise revision) (Expr.reviseAll revision operands)
      (calledAs.map revision.calledAs)
  | .computed operands calledAs =>
    .computed (Expr.reviseAll revision operands) (calledAs.map revision.calledAs)
  | .matchRecognize source operands calledAs =>
    .matchRecognize (source.revise revision) (Expr.reviseAll revision operands)
      (calledAs.map revision.calledAs)

def Statement.revise (revision : Revision) : Statement → Statement
  | .query query => .query (query.revise revision)
  | .insert target source =>
    .insert (target.map revision.name) (Query.reviseOption revision source)
  | .update target assigned sources selection =>
    .update (target.revise revision) (Expr.reviseAll revision assigned)
      (TableWithJoins.reviseAll revision sources) (Expr.reviseOption revision selection)
  | .delete targets sources selection =>
    .delete (TableWithJoins.reviseAll revision targets)
      (TableWithJoins.reviseAll revision sources) (Expr.reviseOption revision selection)
  | .merge target source on clauses =>
    .merge (target.revise revision) (source.revise revision) (on.revise revision)
      (Expr.reviseAll revision clauses)
  | .createTable name query =>
    .createTable (revision.name name) (Query.reviseOption revision query)
  | .defineView name query => .defineView (revision.name name) (query.revise revision)
  | .alterTable name actions =>
    .alterTable (revision.name name) (actions.map revision.action)
  | .drop kind names => .drop kind (names.map revision.name)
  | .truncate names => .truncate (names.map revision.name)
  | .comment kind name => .comment kind (revision.name name)
  | .privileges tables => .privileges (tables.map revision.name)
  | .showColumns parent => .showColumns (parent.map revision.name)
  | .showCreate kind name => .showCreate kind (revision.name name)
  | .analyze name => .analyze (revision.name name)
  | .explain statement => .explain (statement.revise revision)
  | .describe name => .describe (revision.name name)
  | .other => .other

end

/-! ## Lists of revised trees -/

section

variable (revision : Revision)

@[simp]
theorem Expr.reviseAll_eq_map (exprs : List Expr) :
    Expr.reviseAll revision exprs = exprs.map (Expr.revise revision) := by
  induction exprs with
  | nil => rw [Expr.reviseAll, List.map_nil]
  | cons first rest ih => rw [Expr.reviseAll, ih, List.map_cons]

@[simp]
theorem Expr.reviseOption_eq_map (expr : Option Expr) :
    Expr.reviseOption revision expr = expr.map (Expr.revise revision) := by
  cases expr <;> rw [Expr.reviseOption] <;> rfl

@[simp]
theorem Query.reviseOption_eq_map (query : Option Query) :
    Query.reviseOption revision query = query.map (Query.revise revision) := by
  cases query <;> rw [Query.reviseOption] <;> rfl

@[simp]
theorem TableWithJoins.reviseAll_eq_map (tables : List TableWithJoins) :
    TableWithJoins.reviseAll revision tables = tables.map (TableWithJoins.revise revision) := by
  induction tables with
  | nil => rw [TableWithJoins.reviseAll, List.map_nil]
  | cons first rest ih => rw [TableWithJoins.reviseAll, ih, List.map_cons]

@[simp]
theorem Join.reviseAll_eq_map (joins : List Join) :
    Join.reviseAll revision joins = joins.map (Join.revise revision) := by
  induction joins with
  | nil => rw [Join.reviseAll, List.map_nil]
  | cons first rest ih => rw [Join.reviseAll, ih, List.map_cons]

end

end SqlTables.Sql
