import SqlTables.Proofs.Reference.Descent

/-!
# Balanced descents

A descent leaves as many queries as it enters. So inside a query it changes nothing, and outside
all queries it finds what the direct search collects. The two kinds of walk, with descents and
with direct searches, are the same.
-/

namespace SqlTables.Sql

/-! ## Inside a query -/

namespace Descent

variable (found : References) (depth : Nat)

theorem column_inside (source : List Char) (parts : List Ident) :
    column source parts ⟨found, depth + 1⟩ = ⟨found, depth + 1⟩ := rfl

theorem column_outside (source : List Char) (parts : List Ident) :
    column source parts ⟨found, 0⟩ = ⟨found.addQualifier source parts, 0⟩ := rfl

theorem enter_inside (walk : References → References) :
    enter walk ⟨found, depth + 1⟩ = ⟨found, depth + 2⟩ := rfl

theorem enter_outside (walk : References → References) :
    enter walk ⟨found, 0⟩ = ⟨walk found, 1⟩ := rfl

theorem leave_inside : leave ⟨found, depth + 1⟩ = ⟨found, depth⟩ := rfl

end Descent

-- The depth is a variable of the induction: a query is gone through one deeper than it is met.
-- The walk that is handed over on entering plays no part, so this needs no fact about walks.
mutual

theorem Expr.descend_inside (source : List Char) :
    ∀ (expr : Expr) (found : References) (depth : Nat),
      expr.descend source ⟨found, depth + 1⟩ = ⟨found, depth + 1⟩
  | .ident _, _, _ => by rw [Expr.descend]
  | .compound _, _, _ => by rw [Expr.descend, Descent.column_inside]
  | .value, _, _ => by rw [Expr.descend]
  | .wildcard, _, _ => by rw [Expr.descend]
  | .qualifiedWildcard _, _, _ => by rw [Expr.descend]
  | .query query, _, _ => by rw [Expr.descend, query.descend_inside]
  | .node _ operands, _, _ => by rw [Expr.descend, Expr.descendAll_inside source operands]

theorem Expr.descendAll_inside (source : List Char) :
    ∀ (exprs : List Expr) (found : References) (depth : Nat),
      Expr.descendAll source exprs ⟨found, depth + 1⟩ = ⟨found, depth + 1⟩
  | [], _, _ => by rw [Expr.descendAll]
  | expr :: rest, _, _ => by
    rw [Expr.descendAll, expr.descend_inside, Expr.descendAll_inside source rest]

theorem Expr.descendOption_inside (source : List Char) :
    ∀ (expr : Option Expr) (found : References) (depth : Nat),
      Expr.descendOption source expr ⟨found, depth + 1⟩ = ⟨found, depth + 1⟩
  | none, _, _ => by rw [Expr.descendOption]
  | some expr, _, _ => by rw [Expr.descendOption, expr.descend_inside]

theorem Cte.descend_inside (source : List Char) :
    ∀ (cte : Cte) (found : References) (depth : Nat),
      cte.descend source ⟨found, depth + 1⟩ = ⟨found, depth + 1⟩
  | .mk _ query _, _, _ => by rw [Cte.descend, query.descend_inside]

theorem Cte.descendAll_inside (source : List Char) :
    ∀ (ctes : List Cte) (found : References) (depth : Nat),
      Cte.descendAll source ctes ⟨found, depth + 1⟩ = ⟨found, depth + 1⟩
  | [], _, _ => by rw [Cte.descendAll]
  | cte :: rest, _, _ => by
    rw [Cte.descendAll, cte.descend_inside, Cte.descendAll_inside source rest]

theorem Query.descend_inside (source : List Char) :
    ∀ (query : Query) (found : References) (depth : Nat),
      query.descend source ⟨found, depth + 1⟩ = ⟨found, depth + 1⟩
  | .mk ctes body orderBy limit limitBy offset fetch, _, _ => by
    rw [Query.descend, Descent.enter_inside, Cte.descendAll_inside source ctes,
      body.descend_inside, Expr.descendAll_inside source orderBy,
      Expr.descendOption_inside source limit, Expr.descendAll_inside source limitBy,
      Expr.descendOption_inside source offset, Expr.descendOption_inside source fetch,
      Descent.leave_inside]

theorem Query.descendOption_inside (source : List Char) :
    ∀ (query : Option Query) (found : References) (depth : Nat),
      Query.descendOption source query ⟨found, depth + 1⟩ = ⟨found, depth + 1⟩
  | none, _, _ => by rw [Query.descendOption]
  | some query, _, _ => by rw [Query.descendOption, query.descend_inside]

theorem Body.descend_inside (source : List Char) :
    ∀ (body : Body) (found : References) (depth : Nat),
      body.descend source ⟨found, depth + 1⟩ = ⟨found, depth + 1⟩
  | .select select, _, _ => by rw [Body.descend, select.descend_inside]
  | .query query, _, _ => by rw [Body.descend, query.descend_inside]
  | .setOperation left right, _, _ => by
    rw [Body.descend, left.descend_inside, right.descend_inside]
  | .values cells, _, _ => by rw [Body.descend, Expr.descendAll_inside source cells]
  | .table, _, _ => by rw [Body.descend]
  | .insert statement, _, _ => by rw [Body.descend, statement.descend_inside]
  | .update statement, _, _ => by rw [Body.descend, statement.descend_inside]

theorem Select.descend_inside (source : List Char) :
    ∀ (select : Select) (found : References) (depth : Nat),
      select.descend source ⟨found, depth + 1⟩ = ⟨found, depth + 1⟩
  | .mk distinctOn top projection sources lateralViews prewhere selection groupBy clusterBy
      distributeBy sortBy having windows qualify connectBy, _, _ => by
    rw [Select.descend, Expr.descendAll_inside source distinctOn,
      Expr.descendOption_inside source top, Expr.descendAll_inside source projection,
      TableWithJoins.descendAll_inside source sources,
      Expr.descendAll_inside source lateralViews, Expr.descendOption_inside source prewhere,
      Expr.descendOption_inside source selection, Expr.descendAll_inside source groupBy,
      Expr.descendAll_inside source clusterBy, Expr.descendAll_inside source distributeBy,
      Expr.descendAll_inside source sortBy, Expr.descendOption_inside source having,
      Expr.descendAll_inside source windows, Expr.descendOption_inside source qualify,
      Expr.descendAll_inside source connectBy]

theorem TableWithJoins.descend_inside (source : List Char) :
    ∀ (tables : TableWithJoins) (found : References) (depth : Nat),
      tables.descend source ⟨found, depth + 1⟩ = ⟨found, depth + 1⟩
  | .mk relation joins, _, _ => by
    rw [TableWithJoins.descend, relation.descend_inside, Join.descendAll_inside source joins]

theorem TableWithJoins.descendAll_inside (source : List Char) :
    ∀ (tables : List TableWithJoins) (found : References) (depth : Nat),
      TableWithJoins.descendAll source tables ⟨found, depth + 1⟩ = ⟨found, depth + 1⟩
  | [], _, _ => by rw [TableWithJoins.descendAll]
  | tables :: rest, _, _ => by
    rw [TableWithJoins.descendAll, tables.descend_inside,
      TableWithJoins.descendAll_inside source rest]

theorem Join.descend_inside (source : List Char) :
    ∀ (join : Join) (found : References) (depth : Nat),
      join.descend source ⟨found, depth + 1⟩ = ⟨found, depth + 1⟩
  | .mk relation condition, _, _ => by
    rw [Join.descend, relation.descend_inside, Expr.descendAll_inside source condition]

theorem Join.descendAll_inside (source : List Char) :
    ∀ (joins : List Join) (found : References) (depth : Nat),
      Join.descendAll source joins ⟨found, depth + 1⟩ = ⟨found, depth + 1⟩
  | [], _, _ => by rw [Join.descendAll]
  | join :: rest, _, _ => by
    rw [Join.descendAll, join.descend_inside, Join.descendAll_inside source rest]

theorem TableFactor.descend_inside (source : List Char) :
    ∀ (factor : TableFactor) (found : References) (depth : Nat),
      factor.descend source ⟨found, depth + 1⟩ = ⟨found, depth + 1⟩
  | .table _ _ none extras, _, _ => by
    rw [TableFactor.descend, Expr.descendAll_inside source extras]
  | .table _ _ (some args) extras, _, _ => by
    rw [TableFactor.descend, Expr.descendAll_inside source args,
      Expr.descendAll_inside source extras]
  | .derived query _, _, _ => by rw [TableFactor.descend, query.descend_inside]
  | .nestedJoin tables _, _, _ => by rw [TableFactor.descend, tables.descend_inside]
  | .pivot relation operands _, _, _ => by
    rw [TableFactor.descend, relation.descend_inside, Expr.descendAll_inside source operands]
  | .computed operands _, _, _ => by
    rw [TableFactor.descend, Expr.descendAll_inside source operands]
  | .matchRecognize relation operands _, _, _ => by
    rw [TableFactor.descend, relation.descend_inside, Expr.descendAll_inside source operands]

theorem Statement.descend_inside (source : List Char) :
    ∀ (statement : Statement) (found : References) (depth : Nat),
      statement.descend source ⟨found, depth + 1⟩ = ⟨found, depth + 1⟩
  | .query query, _, _ => by rw [Statement.descend, query.descend_inside]
  | .insert _ query, _, _ => by
    rw [Statement.descend, Query.descendOption_inside source query]
  | .update target assigned sources selection, _, _ => by
    rw [Statement.descend, target.descend_inside, Expr.descendAll_inside source assigned,
      TableWithJoins.descendAll_inside source sources,
      Expr.descendOption_inside source selection]
  | .delete targets sources selection, _, _ => by
    rw [Statement.descend, TableWithJoins.descendAll_inside source targets,
      TableWithJoins.descendAll_inside source sources,
      Expr.descendOption_inside source selection]
  | .merge target relation on clauses, _, _ => by
    rw [Statement.descend, target.descend_inside, relation.descend_inside, on.descend_inside,
      Expr.descendAll_inside source clauses]
  | .createTable _ query, _, _ => by
    rw [Statement.descend, Query.descendOption_inside source query]
  | .defineView _ query, _, _ => by rw [Statement.descend, query.descend_inside]
  | .explain statement, _, _ => by rw [Statement.descend, statement.descend_inside]
  | .alterTable _ _, _, _ | .drop _ _, _, _ | .truncate _, _, _ | .comment _ _, _, _
  | .privileges _, _, _ | .showColumns _, _, _ | .showCreate _ _, _, _ | .analyze _, _, _
  | .describe _, _, _ | .other, _, _ => by
    simp only [Statement.descend]

end

/-! ## Outside all queries -/

theorem TableFactor.asTarget_collect (source : List Char) (kind : ReferenceKind)
    (factor : TableFactor) :
    factor.asTarget source kind (factor.collect source) = factor.collectTarget source kind := by
  funext found
  cases factor <;> simp only [asTarget, TableFactor.collect, collectTarget]

theorem Descent.run_eq {descend : Descent → Descent} {walk : References → References}
    (outside : ∀ found, descend ⟨found, 0⟩ = ⟨walk found, 0⟩) : run descend = walk := by
  funext found
  rw [run, outside]

-- Descents and walks call each other, so both are followed in one induction. A query that is met
-- outside is walked from its fields, not as a whole, to stay below it.
mutual

theorem Expr.descend_outside (source : List Char) :
    ∀ (expr : Expr) (found : References),
      expr.descend source ⟨found, 0⟩ = ⟨expr.collect source found, 0⟩
  | .ident _, _ => by rw [Expr.descend, Expr.collect]
  | .compound _, _ => by rw [Expr.descend, Expr.collect, Descent.column_outside]
  | .value, _ => by rw [Expr.descend, Expr.collect]
  | .wildcard, _ => by rw [Expr.descend, Expr.collect]
  | .qualifiedWildcard _, _ => by rw [Expr.descend, Expr.collect]
  | .query query, _ => by rw [Expr.descend, Expr.collect, query.descend_outside]
  | .node _ operands, _ => by
    rw [Expr.descend, Expr.collect, Expr.descendAll_outside source operands]

theorem Expr.descendAll_outside (source : List Char) :
    ∀ (exprs : List Expr) (found : References),
      Expr.descendAll source exprs ⟨found, 0⟩ = ⟨Expr.collectAll source exprs found, 0⟩
  | [], _ => by rw [Expr.descendAll, Expr.collectAll]
  | expr :: rest, _ => by
    rw [Expr.descendAll, Expr.collectAll, expr.descend_outside,
      Expr.descendAll_outside source rest]

theorem Expr.descendOption_outside (source : List Char) :
    ∀ (expr : Option Expr) (found : References),
      Expr.descendOption source expr ⟨found, 0⟩ = ⟨Expr.collectOption source expr found, 0⟩
  | none, _ => by rw [Expr.descendOption, Expr.collectOption]
  | some expr, _ => by rw [Expr.descendOption, Expr.collectOption, expr.descend_outside]

-- The query is walked as it is entered; below that the depth is one, and nothing more happens.
theorem Query.descend_outside (source : List Char) :
    ∀ (query : Query) (found : References),
      query.descend source ⟨found, 0⟩ = ⟨query.collect source found, 0⟩
  | .mk ctes body orderBy limit limitBy offset fetch, _ => by
    rw [Query.descend, Descent.enter_outside, Cte.descendAll_inside, Body.descend_inside,
      Expr.descendAll_inside, Expr.descendOption_inside, Expr.descendAll_inside,
      Expr.descendOption_inside, Expr.descendOption_inside, Descent.leave_inside,
      Query.collect, Descent.run_eq (Expr.descendOption_outside source offset),
      Descent.run_eq (Expr.descendOption_outside source limit),
      Descent.run_eq (Expr.descendAll_outside source orderBy), body.walk_eq_collect]

theorem TableWithJoins.descend_outside (source : List Char) :
    ∀ (tables : TableWithJoins) (found : References),
      tables.descend source ⟨found, 0⟩ = ⟨tables.search source found, 0⟩
  | .mk relation joins, _ => by
    rw [TableWithJoins.descend, TableWithJoins.search, relation.descend_outside,
      Join.descendAll_outside source joins]

theorem Join.descend_outside (source : List Char) :
    ∀ (join : Join) (found : References),
      join.descend source ⟨found, 0⟩ = ⟨join.search source found, 0⟩
  | .mk relation condition, _ => by
    rw [Join.descend, Join.search, relation.descend_outside,
      Expr.descendAll_outside source condition]

theorem Join.descendAll_outside (source : List Char) :
    ∀ (joins : List Join) (found : References),
      Join.descendAll source joins ⟨found, 0⟩ = ⟨Join.searchAll source joins found, 0⟩
  | [], _ => by rw [Join.descendAll, Join.searchAll]
  | join :: rest, _ => by
    rw [Join.descendAll, Join.searchAll, join.descend_outside,
      Join.descendAll_outside source rest]

theorem TableFactor.descend_outside (source : List Char) :
    ∀ (factor : TableFactor) (found : References),
      factor.descend source ⟨found, 0⟩ = ⟨factor.search source found, 0⟩
  | .table _ _ none extras, _ => by
    rw [TableFactor.descend, TableFactor.search, Expr.descendAll_outside source extras]
  | .table _ _ (some args) extras, _ => by
    rw [TableFactor.descend, TableFactor.search, Expr.descendAll_outside source args,
      Expr.descendAll_outside source extras]
  | .derived query _, _ => by
    rw [TableFactor.descend, TableFactor.search, query.descend_outside]
  | .nestedJoin tables _, _ => by
    rw [TableFactor.descend, TableFactor.search, tables.descend_outside]
  | .pivot relation operands _, _ => by
    rw [TableFactor.descend, TableFactor.search, relation.descend_outside,
      Expr.descendAll_outside source operands]
  | .computed operands _, _ => by
    rw [TableFactor.descend, TableFactor.search, Expr.descendAll_outside source operands]
  | .matchRecognize relation operands _, _ => by
    rw [TableFactor.descend, TableFactor.search, relation.descend_outside,
      Expr.descendAll_outside source operands]

theorem Query.walk_eq_collect (source : List Char) :
    ∀ (query : Query) (found : References), query.walk source found = query.collect source found
  | .mk _ body orderBy limit _ offset _, _ => by
    rw [Query.walk, Query.collect, Descent.run_eq (Expr.descendOption_outside source offset),
      Descent.run_eq (Expr.descendOption_outside source limit),
      Descent.run_eq (Expr.descendAll_outside source orderBy), body.walk_eq_collect]

theorem Query.walkOption_eq_collectOption (source : List Char) :
    ∀ (query : Option Query) (found : References),
      Query.walkOption source query found = Query.collectOption source query found
  | none, _ => by rw [Query.walkOption, Query.collectOption]
  | some query, _ => by rw [Query.walkOption, Query.collectOption, query.walk_eq_collect]

theorem Body.walk_eq_collect (source : List Char) :
    ∀ (body : Body) (found : References), body.walk source found = body.collect source found
  | .select select, _ => by rw [Body.walk, Body.collect, select.walk_eq_collect]
  | .query query, _ => by rw [Body.walk, Body.collect, query.walk_eq_collect]
  | .setOperation left right, _ => by
    rw [Body.walk, Body.collect, left.walk_eq_collect, right.walk_eq_collect]
  | .values cells, _ => by
    rw [Body.walk, Body.collect, Descent.run_eq (Expr.descendAll_outside source cells)]
  | .table, _ => by rw [Body.walk, Body.collect]
  | .insert statement, _ => by rw [Body.walk, Body.collect, statement.walk_eq_collect]
  | .update statement, _ => by rw [Body.walk, Body.collect, statement.walk_eq_collect]

theorem Select.walk_eq_collect (source : List Char) :
    ∀ (select : Select) (found : References),
      select.walk source found = select.collect source found
  | .mk _ _ projection sources _ prewhere selection groupBy _ _ sortBy having _ qualify _, _ => by
    rw [Select.walk, Select.collect, TableWithJoins.walkAll_eq_collectAll source sources,
      Descent.run_eq (Expr.descendAll_outside source projection),
      Descent.run_eq (Expr.descendOption_outside source prewhere),
      Descent.run_eq (Expr.descendOption_outside source selection),
      Descent.run_eq (Expr.descendAll_outside source groupBy),
      Descent.run_eq (Expr.descendOption_outside source having),
      Descent.run_eq (Expr.descendOption_outside source qualify),
      Descent.run_eq (Expr.descendAll_outside source sortBy)]

theorem TableWithJoins.walk_eq_collect (source : List Char) :
    ∀ (tables : TableWithJoins) (found : References),
      tables.walk source found = tables.collect source found
  | .mk relation joins, _ => by
    rw [TableWithJoins.walk, TableWithJoins.collect, relation.walk_eq_collect,
      Join.walkAll_eq_collectAll source joins]

theorem TableWithJoins.walkAll_eq_collectAll (source : List Char) :
    ∀ (tables : List TableWithJoins) (found : References),
      TableWithJoins.walkAll source tables found = TableWithJoins.collectAll source tables found
  | [], _ => by rw [TableWithJoins.walkAll, TableWithJoins.collectAll]
  | tables :: rest, _ => by
    rw [TableWithJoins.walkAll, TableWithJoins.collectAll, tables.walk_eq_collect,
      TableWithJoins.walkAll_eq_collectAll source rest]

theorem Join.walk_eq_collect (source : List Char) :
    ∀ (join : Join) (found : References), join.walk source found = join.collect source found
  | .mk relation condition, _ => by
    rw [Join.walk, Join.collect, relation.walk_eq_collect,
      Descent.run_eq (Expr.descendAll_outside source condition)]

theorem Join.walkAll_eq_collectAll (source : List Char) :
    ∀ (joins : List Join) (found : References),
      Join.walkAll source joins found = Join.collectAll source joins found
  | [], _ => by rw [Join.walkAll, Join.collectAll]
  | join :: rest, _ => by
    rw [Join.walkAll, Join.collectAll, join.walk_eq_collect,
      Join.walkAll_eq_collectAll source rest]

theorem TableFactor.walk_eq_collect (source : List Char) :
    ∀ (factor : TableFactor) (found : References),
      factor.walk source found = factor.collect source found
  | .table _ _ (some args) _, _ => by
    rw [TableFactor.walk, TableFactor.collect,
      Descent.run_eq (Expr.descendAll_outside source args)]
  | .table _ _ none _, _ => by rw [TableFactor.walk, TableFactor.collect]
  | .derived query _, _ => by rw [TableFactor.walk, TableFactor.collect, query.walk_eq_collect]
  | .nestedJoin tables _, _ => by
    rw [TableFactor.walk, TableFactor.collect, tables.walk_eq_collect]
  | .pivot relation _ _, _ => by
    rw [TableFactor.walk, TableFactor.collect, relation.walk_eq_collect]
  | .computed operands _, _ => by
    rw [TableFactor.walk, TableFactor.collect,
      Descent.run_eq (Expr.descendAll_outside source operands)]
  | .matchRecognize relation operands _, _ => by
    rw [TableFactor.walk, TableFactor.collect, Descent.run, relation.descend_outside,
      Expr.descendAll_outside source operands]

theorem TableWithJoins.walkTarget_eq_collectTarget (source : List Char) (kind : ReferenceKind) :
    ∀ (tables : TableWithJoins) (found : References),
      tables.walkTarget source kind found = tables.collectTarget source kind found
  | .mk relation joins, _ => by
    rw [TableWithJoins.walkTarget, TableWithJoins.collectTarget,
      funext (relation.walk_eq_collect source), relation.asTarget_collect,
      Join.walkAll_eq_collectAll source joins]

theorem TableWithJoins.walkTargets_eq_collectTargets (source : List Char)
    (kind : ReferenceKind) :
    ∀ (tables : List TableWithJoins) (found : References),
      TableWithJoins.walkTargets source kind tables found =
        TableWithJoins.collectTargets source kind tables found
  | [], _ => by rw [TableWithJoins.walkTargets, TableWithJoins.collectTargets]
  | tables :: rest, _ => by
    rw [TableWithJoins.walkTargets, TableWithJoins.collectTargets,
      tables.walkTarget_eq_collectTarget,
      TableWithJoins.walkTargets_eq_collectTargets source kind rest]

theorem Statement.walk_eq_collect (source : List Char) :
    ∀ (statement : Statement) (found : References),
      statement.walk source found = statement.collect source found
  | .query query, _ => by rw [Statement.walk, Statement.collect, query.walk_eq_collect]
  | .insert none query, _ | .insert (some _) query, _ => by
    simp only [Statement.walk, Statement.collect, Query.walkOption_eq_collectOption source query]
  | .update target assigned sources selection, _ => by
    rw [Statement.walk, Statement.collect, target.walkTarget_eq_collectTarget,
      TableWithJoins.walkAll_eq_collectAll source sources,
      Descent.run_eq (Expr.descendAll_outside source assigned),
      Descent.run_eq (Expr.descendOption_outside source selection)]
  | .delete targets sources selection, _ => by
    rw [Statement.walk, Statement.collect,
      TableWithJoins.walkTargets_eq_collectTargets source .deleteTarget targets,
      TableWithJoins.walkAll_eq_collectAll source sources,
      Descent.run_eq (Expr.descendOption_outside source selection)]
  | .merge target relation on clauses, _ => by
    rw [Statement.walk, Statement.collect, funext (target.walk_eq_collect source),
      target.asTarget_collect, relation.walk_eq_collect,
      Descent.run_eq (on.descend_outside source),
      Descent.run_eq (Expr.descendAll_outside source clauses)]
  | .createTable _ none, _ => by rw [Statement.walk, Statement.collect]
  | .createTable _ (some query), _ => by
    rw [Statement.walk, Statement.collect, query.walk_eq_collect]
  | .defineView _ query, _ => by rw [Statement.walk, Statement.collect, query.walk_eq_collect]
  | .explain statement, _ => by
    rw [Statement.walk, Statement.collect, statement.walk_eq_collect]
  | .alterTable _ _, _ | .drop _ _, _ | .truncate _, _ | .comment _ _, _ | .privileges _, _
  | .showColumns _, _ | .showCreate _ _, _ | .analyze _, _ | .describe _, _ | .other, _ => by
    simp only [Statement.walk]

end

/-! ## Descents follow walks -/

theorem Descent.follows {descend : Descent → Descent} {walk : References → References}
    (inside : ∀ found depth, descend ⟨found, depth + 1⟩ = ⟨found, depth + 1⟩)
    (outside : ∀ found, descend ⟨found, 0⟩ = ⟨walk found, 0⟩) : Follows descend walk := by
  intro found depth
  cases depth with
  | zero => exact outside found
  | succ depth => exact inside found depth

/-- A full descent with a count of queries finds what the direct search finds, wherever it is
started: it records the columns outside nested queries, has each of the outermost nested queries
walked once, and leaves the count as it was. This holds although the walk of a query starts
descents of its own; with them it is the same walk. -/
theorem descend_follows_collect (source : List Char) :
    (∀ expr : Expr, Descent.Follows (expr.descend source) (expr.collect source)) ∧
    (∀ expr : Option Expr,
      Descent.Follows (Expr.descendOption source expr) (Expr.collectOption source expr)) ∧
    (∀ exprs : List Expr,
      Descent.Follows (Expr.descendAll source exprs) (Expr.collectAll source exprs)) ∧
    (∀ relation : TableFactor,
      Descent.Follows (relation.descend source) (relation.search source)) ∧
    (∀ query : Query, Descent.Follows (query.descend source) (query.walk source)) ∧
    (∀ query : Query, query.walk source = query.collect source) ∧
    ∀ statement : Statement, statement.walk source = statement.collect source := by
  have walks : ∀ query : Query, query.walk source = query.collect source :=
    fun query => funext (query.walk_eq_collect source)
  refine ⟨fun expr => ?_, fun expr => ?_, fun exprs => ?_, fun relation => ?_, fun query => ?_,
    walks, fun statement => funext (statement.walk_eq_collect source)⟩
  · exact Descent.follows (expr.descend_inside source) (expr.descend_outside source)
  · exact Descent.follows (Expr.descendOption_inside source expr)
      (Expr.descendOption_outside source expr)
  · exact Descent.follows (Expr.descendAll_inside source exprs)
      (Expr.descendAll_outside source exprs)
  · exact Descent.follows (relation.descend_inside source) (relation.descend_outside source)
  · rw [walks query]
    exact Descent.follows (query.descend_inside source) (query.descend_outside source)

end SqlTables.Sql
