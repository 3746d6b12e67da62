import SqlTables.Proofs.Reference.Walk
import SqlTables.Proofs.Sql.Revision

/-!
# Walks over revised trees

A walk over a revised tree goes the way of a walk over the tree itself, and its visits are the
revised visits. So common tables have no part in what is collected: they can be replaced or taken
away anywhere.
-/

namespace SqlTables

def Visit.revise (revision : Sql.Revision) : Visit → Visit
  | declares calledAs => declares (revision.calledAs calledAs)
  | names kind name => names kind (revision.name name)
  | qualifies parts => qualifies (revision.name parts)

namespace Sql

variable (revision : Revision)

/-! ## Parts of revised nodes -/

namespace Node

def revise : Node → Node
  | visit inner => visit (inner.revise revision)
  | expr inner => expr (inner.revise revision)
  | query inner => query (inner.revise revision)
  | body inner => body (inner.revise revision)
  | select inner => select (inner.revise revision)
  | tables role inner => tables role (inner.revise revision)
  | join role inner => join role (inner.revise revision)
  | factor role inner => factor role (inner.revise revision)
  | statement inner => statement (inner.revise revision)
  | script statements => script (statements.map (Statement.revise revision))

@[simp]
theorem revise_comp_expr : revise revision ∘ expr = expr ∘ Expr.revise revision := rfl

@[simp]
theorem revise_comp_query : revise revision ∘ query = query ∘ Query.revise revision := rfl

@[simp]
theorem revise_comp_tables (role : Role) :
    revise revision ∘ tables role = tables role ∘ TableWithJoins.revise revision := rfl

@[simp]
theorem revise_comp_join (role : Role) :
    revise revision ∘ join role = join role ∘ Join.revise revision := rfl

@[simp]
theorem revise_comp_statement :
    revise revision ∘ statement = statement ∘ Statement.revise revision := rfl

@[simp]
theorem map_revise_declared (calledAs : Option RelationAlias) :
    (declared calledAs).map (revise revision) = declared (calledAs.map revision.calledAs) := by
  cases calledAs <;> rfl

@[simp]
theorem map_revise_named (kind : ReferenceKind) (names : List ObjectName) :
    (named kind names).map (revise revision) = named kind (names.map revision.name) := by
  simp [named, revise, Visit.revise]

end Node

@[simp]
theorem Select.sources_revise (select : Select) :
    (select.revise revision).sources = select.sources.map (TableWithJoins.revise revision) := by
  cases select
  simp [Select.revise, Select.sources]

@[simp]
theorem Select.clauses_revise (select : Select) :
    (select.revise revision).clauses = select.clauses.map (Expr.revise revision) := by
  cases select
  simp [Select.revise, Select.clauses, Option.toList_map]

theorem TableFactor.parts_revise (role : Role) (relation : TableFactor) :
    (relation.revise revision).parts role = (relation.parts role).map (Node.revise revision) := by
  cases relation with
  | table name calledAs args extras =>
      cases role <;> cases args <;> simp [TableFactor.revise, TableFactor.parts]
  | derived | nestedJoin | pivot | computed | matchRecognize =>
      cases role <;> simp [TableFactor.revise, TableFactor.parts, Node.revise]

/-- Whether a change adds a column, and which new names it gives, is told in the same way of the
revised change. -/
theorem Statement.parts_revise_alterTable (name : ObjectName) (actions : List AlterAction) :
    ((Statement.alterTable name actions).revise revision).parts =
      (Statement.alterTable name actions).parts.map (Node.revise revision) := by
  have adds : (actions.map revision.action).contains .addColumn = actions.contains .addColumn := by
    rw [Bool.eq_iff_iff, List.contains_iff_mem, List.contains_iff_mem, List.mem_map]
    constructor
    · rintro ⟨action, member, revised⟩
      cases action with
      | addColumn => exact member
      | renameTable | other => simp [Revision.action] at revised
    · exact fun member => ⟨.addColumn, member, rfl⟩
  simp only [Statement.revise, Statement.parts, adds, List.map_append, Node.map_revise_named,
    List.map_cons, List.map_nil, List.filterMap_map, List.map_filterMap]
  congr 3
  funext action
  cases action <;> rfl

theorem Statement.parts_revise (inner : Statement) :
    (inner.revise revision).parts = inner.parts.map (Node.revise revision) := by
  cases inner with
  | createTable name query => cases query <;> simp [Statement.revise, Statement.parts, Node.revise]
  | alterTable name actions => exact Statement.parts_revise_alterTable revision name actions
  | drop kind | comment kind | showCreate kind =>
      cases kind <;> simp [Statement.revise, Statement.parts]
  | query | insert | update | delete | merge | defineView | truncate | privileges | showColumns
  | analyze | explain | describe | other =>
      simp [Statement.revise, Statement.parts, Node.revise, Option.toList_map]

namespace Node

theorem parts_revise (node : Node) :
    (node.revise revision).parts = node.parts.map (revise revision) := by
  cases node with
  | visit inner => rfl
  | expr inner => cases inner <;> simp [revise, parts, Expr.revise, Visit.revise]
  | query inner =>
      cases inner
      simp [revise, parts, Query.revise, Option.toList_map]
  | body inner => cases inner <;> simp [revise, parts, Body.revise]
  | select inner => simp [revise, parts]
  | tables role inner =>
      cases inner
      simp [revise, parts, TableWithJoins.revise]
  | join role inner =>
      cases inner
      simp [revise, parts, Join.revise]
  | factor role inner => exact inner.parts_revise revision role
  | statement inner => exact inner.parts_revise revision
  | script statements => simp [revise, parts]

theorem visits_revise (node : Node) :
    (node.revise revision).visits = node.visits.map (Visit.revise revision) := by
  induction node using Node.induction with
  | step node ih =>
      by_cases ends : ∃ inner, node = visit inner
      · obtain ⟨inner, rfl⟩ := ends
        simp [revise]
      · have composite : ∀ inner, node ≠ visit inner := fun inner same => ends ⟨inner, same⟩
        have revised : ∀ inner, node.revise revision ≠ visit inner := by
          cases node <;> simp_all [revise]
        rw [visits_eq_flatMap revised, visits_eq_flatMap composite, parts_revise,
          List.flatMap_map, List.map_flatMap]
        rw [List.flatMap_def, List.flatMap_def, List.map_congr_left ih]

end Node

/-! ## Common tables -/

theorem visit_withoutCtes (visit : Visit) : visit.revise .withoutCtes = visit := by
  cases visit <;>
    simp [Visit.revise, Revision.calledAs, Revision.name, Revision.withoutCtes]

/-- Scripts that differ only in the common tables of their queries, wherever these stand, have the
same references. -/
theorem collect_eq_of_withoutCtes_eq (source : String) {statements others : List Statement}
    (same : statements.map (Statement.revise .withoutCtes) =
      others.map (Statement.revise .withoutCtes)) :
    collect source statements = collect source others := by
  have visits (script : List Statement) :
      (Node.script (script.map (Statement.revise .withoutCtes))).visits =
        (Node.script script).visits := by
    have revised := (Node.script script).visits_revise .withoutCtes
    rwa [funext visit_withoutCtes, List.map_id'] at revised
  rw [collect_eq_recordAll, collect_eq_recordAll, ← visits statements, same, visits]

/-- What common tables are made of stays unknown, whether they stand before the whole query or in a
derived table. -/
theorem collect_eq_of_withoutCtes_eq_nested :
    let source := "WITH r AS (SELECT 1 FROM a) SELECT 1 FROM " ++
      "(WITH r AS (SELECT 1 FROM b) SELECT r.x FROM r) d"
    let word (value : String) (column : Nat) : Ident := ⟨value, none, ⟨1, column⟩⟩
    let table (value : String) (column : Nat) : TableFactor :=
      .table [word value column] none none []
    let pick (ctes : List Cte) (columns : List Expr) (relation : TableFactor) : Query :=
      .mk ctes (.select (.mk [] none columns [.mk relation []] [] none none [] [] [] [] none []
        none [])) [] none [] none none
    let cte (called : Ident) (relation : TableFactor) : Cte :=
      .mk called (pick [] [.value] relation) none
    let script (outer inner : List Cte) : List Statement :=
      [.query (pick outer [.value] (.derived
        (pick inner [.compound [word "r" 79, word "x" 81]] (table "r" 88))
        (some ⟨word "d" 91, []⟩)))]
    let statements := script [cte (word "r" 6) (table "a" 26)] [cte (word "r" 49) (table "b" 69)]
    let others := script [] [cte (word "s" 49) (table "c" 69)]
    statements.map (Statement.revise .withoutCtes) = others.map (Statement.revise .withoutCtes) ∧
      collect source statements = collect source others ∧
      collect source others =
        ⟨.ofList ["r"], .insert .empty "d",
          [⟨"r", 87, 88, .relation⟩, ⟨"r", 78, 79, .qualifier⟩]⟩ := by
  intro source word table pick cte script statements others
  have same : statements.map (Statement.revise .withoutCtes) =
      others.map (Statement.revise .withoutCtes) := rfl
  exact ⟨same, collect_eq_of_withoutCtes_eq source same, by decide +kernel⟩

end Sql

end SqlTables
