import SqlTables.Reference.Collect

/-!
# Where a walk goes

A walk over statements does nothing but record aliases, names and qualifiers one after the other:
these are its visits. `Node` is anything that a walk can come to, and `Node.parts` says once what
it comes to from there, in order. The functions that walk are shown to go from part to part.
-/

namespace SqlTables

/-! ## Visits -/

/-- One thing that a walk records. -/
inductive Visit where
  /-- A relation is given an alias. -/
  | declares (calledAs : RelationAlias)
  /-- A table or a view is named. -/
  | names (kind : ReferenceKind) (name : ObjectName)
  /-- A column is referred to with a qualifier. -/
  | qualifies (parts : List Ident)
deriving DecidableEq, Repr

namespace Visit

def record (source : List Char) : Visit → References → References
  | declares calledAs, found => found.addAlias (some calledAs)
  | names kind name, found => found.addName source kind name
  | qualifies parts, found => found.addQualifier source parts

def recordAll (source : List Char) (visits : List Visit) (found : References) : References :=
  visits.foldl (fun found visit => visit.record source found) found

theorem recordAll_cons (source : List Char) (visit : Visit) (later : List Visit)
    (found : References) :
    recordAll source (visit :: later) found =
      recordAll source later (visit.record source found) := rfl

theorem recordAll_append (source : List Char) (first second : List Visit) (found : References) :
    recordAll source (first ++ second) found =
      recordAll source second (recordAll source first found) :=
  List.foldl_append

/-- A property that every visit preserves holds after any number of visits. -/
theorem recordAll_preserves {source : List Char} {motive : References → Prop}
    (step : ∀ (visit : Visit) found, motive found → motive (visit.record source found))
    (visits : List Visit) {found : References} (initially : motive found) :
    motive (recordAll source visits found) := by
  induction visits generalizing found with
  | nil => exact initially
  | cons visit later ih => exact ih (step visit found initially)

end Visit

namespace Sql

/-! ## Nodes -/

def Select.sources : Select → List TableWithJoins
  | .mk _ _ _ sources _ _ _ _ _ _ _ _ _ _ _ => sources

/-- The expressions of a selection that are walked, in their order. -/
def Select.clauses : Select → List Expr
  | .mk _ _ projection _ _ prewhere selection groupBy _ _ sortBy having _ qualify _ =>
    projection ++ prewhere.toList ++ selection.toList ++ groupBy ++ having.toList ++
      qualify.toList ++ sortBy

/-- What a relation is walked as. -/
inductive Role where
  /-- An operand of `FROM` or `JOIN`. -/
  | operand
  /-- A place in which only expressions are looked for. -/
  | searched
  /-- The target of a change. -/
  | target (kind : ReferenceKind)

def Role.joined : Role → Role
  | .searched => .searched
  | .operand | .target _ => .operand

/-- Anything that a walk can come to. -/
inductive Node where
  | visit (visit : Visit)
  | expr (expr : Expr)
  | query (query : Query)
  | body (body : Body)
  | select (select : Select)
  | tables (role : Role) (tables : TableWithJoins)
  | join (role : Role) (join : Join)
  | factor (role : Role) (factor : TableFactor)
  | statement (statement : Statement)
  | script (statements : List Statement)

namespace Node

def declared (calledAs : Option RelationAlias) : List Node :=
  calledAs.toList.map fun calledAs => visit (.declares calledAs)

def named (kind : ReferenceKind) (names : List ObjectName) : List Node :=
  names.map fun name => visit (.names kind name)

end Node

def TableFactor.parts : Role → TableFactor → List Node
  | .searched, .table _ _ args extras => ((args.getD []) ++ extras).map .expr
  | .searched, .derived query _ => [.query query]
  | .searched, .nestedJoin tables _ => [.tables .searched tables]
  | .searched, .pivot relation operands _ => .factor .searched relation :: operands.map .expr
  | .operand, .table _ calledAs (some args) _ => Node.declared calledAs ++ args.map .expr
  | .operand, .table name calledAs none _ =>
    Node.declared calledAs ++ Node.named .relation [name]
  | .target kind, .table name calledAs _ _ => Node.declared calledAs ++ Node.named kind [name]
  | _, .derived query calledAs => Node.declared calledAs ++ [.query query]
  | _, .nestedJoin tables calledAs => Node.declared calledAs ++ [.tables .operand tables]
  | _, .pivot relation _ calledAs => Node.declared calledAs ++ [.factor .operand relation]
  | _, .computed operands _ => operands.map .expr
  | _, .matchRecognize relation operands _ =>
    .factor .searched relation :: operands.map .expr

def Statement.parts : Statement → List Node
  | .query inner => [.query inner]
  | .insert target inner => Node.named .insertTarget target.toList ++ inner.toList.map .query
  | .update target assigned sources selection =>
    .tables (.target .updateTarget) target :: sources.map (.tables .operand) ++
      (assigned ++ selection.toList).map .expr
  | .delete targets sources selection =>
    targets.map (.tables (.target .deleteTarget)) ++ sources.map (.tables .operand) ++
      selection.toList.map .expr
  | .merge target relation on clauses =>
    .factor (.target .mergeTarget) target :: .factor .operand relation ::
      (on :: clauses).map .expr
  | .createTable name none => Node.named .createTableTarget [name]
  | .createTable name (some inner) => Node.named .createAsSelectTarget [name] ++ [.query inner]
  | .defineView name inner => Node.named .viewDefinition [name] ++ [.query inner]
  | .alterTable name actions =>
    Node.named (if actions.contains .addColumn then .addColumnTarget else .alterTarget) [name] ++
      Node.named .renameTarget (actions.filterMap fun
        | .renameTable newName => some newName
        | _ => none)
  | .drop .other _ => []
  | .drop _ names => Node.named .dropTarget names
  | .truncate names => Node.named .truncateTarget names
  | .comment .table name => Node.named .administrative [name]
  | .comment _ _ => []
  | .privileges tables => Node.named .administrative tables
  | .showColumns parent => Node.named .administrative parent.toList
  | .showCreate .other _ => []
  | .showCreate _ name => Node.named .administrative [name]
  | .analyze name => Node.named .administrative [name]
  | .explain statement => [.statement statement]
  | .describe _ => []
  | .other => []

namespace Node

/-- What a walk comes to from a node, in order. A visit is where it ends. -/
def parts : Node → List Node
  | visit _ => []
  | expr (.compound parts) => [visit (.qualifies parts)]
  | expr (.query inner) => [query inner]
  | expr (.node _ operands) => operands.map expr
  | expr _ => []
  | query (.mk _ inner orderBy limit _ offset _) =>
    body inner :: (orderBy ++ limit.toList ++ offset.toList).map expr
  | body (.select inner) => [select inner]
  | body (.query inner) => [query inner]
  | body (.setOperation left right) => [body left, body right]
  | body (.values cells) => cells.map expr
  | body .table => []
  | body (.insert inner) => [statement inner]
  | body (.update inner) => [statement inner]
  | select inner => inner.sources.map (tables .operand) ++ inner.clauses.map expr
  | tables role (.mk relation joins) => factor role relation :: joins.map (join role.joined)
  | join role (.mk relation condition) => factor role.joined relation :: condition.map expr
  | factor role inner => inner.parts role
  | statement inner => inner.parts
  | script statements => statements.map statement

def collect (source : List Char) : Node → References → References
  | visit inner, found => inner.record source found
  | expr inner, found => inner.collect source found
  | query inner, found => inner.collect source found
  | body inner, found => inner.collect source found
  | select inner, found => inner.collect source found
  | tables .operand inner, found => inner.collect source found
  | tables .searched inner, found => inner.search source found
  | tables (.target kind) inner, found => inner.collectTarget source kind found
  | join .searched inner, found => inner.search source found
  | join _ inner, found => inner.collect source found
  | factor .operand inner, found => inner.collect source found
  | factor .searched inner, found => inner.search source found
  | factor (.target kind) inner, found => inner.collectTarget source kind found
  | statement inner, found => inner.collect source found
  | script statements, found =>
    statements.foldl (fun found statement => statement.collect source found) found

def collectAll (source : List Char) (nodes : List Node) (found : References) : References :=
  nodes.foldl (fun found node => node.collect source found) found

/-! ## Walks go from part to part -/

section

variable (source : List Char) (found : References)

@[simp]
theorem collectAll_nil : collectAll source [] found = found := rfl

@[simp]
theorem collectAll_cons (node : Node) (nodes : List Node) :
    collectAll source (node :: nodes) found =
      collectAll source nodes (node.collect source found) := rfl

@[simp]
theorem collectAll_append (first second : List Node) :
    collectAll source (first ++ second) found =
      collectAll source second (collectAll source first found) :=
  List.foldl_append

@[simp]
theorem collectAll_expr (exprs : List Expr) :
    collectAll source (exprs.map expr) found = Expr.collectAll source exprs found := by
  induction exprs generalizing found with
  | nil => simp [Expr.collectAll]
  | cons first rest ih => simp [Expr.collectAll, Node.collect, ih]

@[simp]
theorem exprCollectAll_append (first second : List Expr) :
    Expr.collectAll source (first ++ second) found =
      Expr.collectAll source second (Expr.collectAll source first found) := by
  simp only [← collectAll_expr, List.map_append, collectAll_append]

@[simp]
theorem exprCollectAll_toList (expr : Option Expr) :
    Expr.collectAll source expr.toList found = Expr.collectOption source expr found := by
  cases expr <;> simp [Expr.collectAll, Expr.collectOption]

@[simp]
theorem collectAll_tables (tables : List TableWithJoins) :
    collectAll source (tables.map (Node.tables .operand)) found =
      TableWithJoins.collectAll source tables found := by
  induction tables generalizing found with
  | nil => simp [TableWithJoins.collectAll]
  | cons first rest ih => simp [TableWithJoins.collectAll, Node.collect, ih]

@[simp]
theorem collectAll_targets (kind : ReferenceKind) (targets : List TableWithJoins) :
    collectAll source (targets.map (Node.tables (.target kind))) found =
      TableWithJoins.collectTargets source kind targets found := by
  induction targets generalizing found with
  | nil => simp [TableWithJoins.collectTargets]
  | cons first rest ih => simp [TableWithJoins.collectTargets, Node.collect, ih]

@[simp]
theorem collectAll_joins (joins : List Join) :
    collectAll source (joins.map (Node.join .operand)) found =
      Join.collectAll source joins found := by
  induction joins generalizing found with
  | nil => simp [Join.collectAll]
  | cons first rest ih => simp [Join.collectAll, Node.collect, ih]

@[simp]
theorem collectAll_searched (joins : List Join) :
    collectAll source (joins.map (Node.join .searched)) found =
      Join.searchAll source joins found := by
  induction joins generalizing found with
  | nil => simp [Join.searchAll]
  | cons first rest ih => simp [Join.searchAll, Node.collect, ih]

@[simp]
theorem collectAll_declared (calledAs : Option RelationAlias) :
    collectAll source (declared calledAs) found = found.addAlias calledAs := by
  cases calledAs <;> rfl

@[simp]
theorem collectAll_named (kind : ReferenceKind) (names : List ObjectName) :
    collectAll source (named kind names) found =
      names.foldl (fun found name => found.addName source kind name) found := by
  rw [collectAll, named, List.foldl_map]
  rfl

theorem factor_collect_eq (role : Role) (relation : TableFactor) :
    (factor role relation).collect source found =
      collectAll source (relation.parts role) found := by
  cases relation with
  | table name calledAs args extras =>
      cases role <;> cases args <;>
        simp [TableFactor.parts, Node.collect, TableFactor.collect, TableFactor.search,
          TableFactor.collectTarget]
  | derived | nestedJoin | pivot | computed | matchRecognize =>
      cases role <;>
        simp [TableFactor.parts, Node.collect, TableFactor.collect, TableFactor.search,
          TableFactor.collectTarget]

theorem statement_collect_eq (inner : Statement) :
    inner.collect source found = collectAll source inner.parts found := by
  cases inner with
  | insert target query =>
      cases target <;> cases query <;>
        simp [Statement.parts, Node.collect, Statement.collect, Query.collectOption]
  | createTable name query =>
      cases query <;> simp [Statement.parts, Node.collect, Statement.collect]
  | alterTable name actions =>
      simp only [Statement.parts, Statement.collect, collectAll_append, collectAll_named,
        List.foldl_cons, List.foldl_nil]
      rw [List.foldl_filterMap]
      congr 1
      funext found action
      cases action <;> rfl
  | drop kind | comment kind | showCreate kind =>
      cases kind <;> simp [Statement.parts, Statement.collect]
  | showColumns parent => cases parent <;> simp [Statement.parts, Statement.collect]
  | _ => simp [Statement.parts, Node.collect, Statement.collect]

/-- A walk over a node that is no visit is a walk over its parts. -/
theorem collect_eq_collectAll_parts {node : Node} (composite : ∀ inner, node ≠ visit inner) :
    node.collect source found = collectAll source node.parts found := by
  cases node with
  | visit inner => exact absurd rfl (composite inner)
  | expr inner => cases inner <;> simp [parts, Node.collect, Expr.collect, Visit.record]
  | query inner =>
      cases inner
      simp [parts, Node.collect, Query.collect]
  | body inner => cases inner <;> simp [parts, Node.collect, Body.collect]
  | select inner =>
      cases inner
      simp [parts, Node.collect, Select.collect, Select.sources, Select.clauses]
  | tables role inner =>
      cases inner
      cases role <;>
        simp [parts, Node.collect, TableWithJoins.collect, TableWithJoins.search,
          TableWithJoins.collectTarget, Role.joined]
  | join role inner =>
      cases inner
      cases role <;> simp [parts, Node.collect, Join.collect, Join.search, Role.joined]
  | factor role inner => exact factor_collect_eq source found role inner
  | statement inner => exact statement_collect_eq source found inner
  | script statements => simp [parts, Node.collect, collectAll, List.foldl_map]

end

end Node

end Sql

end SqlTables
