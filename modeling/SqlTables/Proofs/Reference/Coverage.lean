import SqlTables.Proofs.Reference.History
import SqlTables.Renamer

/-!
# What a walk covers

Everything that stands in a script outside the definitions of common tables is listed here, clause
by clause, from the trees alone. Some clauses hold expressions that a walk passes over: these are
its blind spots. A walk comes to exactly what stands outside of them. So a table is listed exactly
if it is named there, and a qualified column is looked at exactly if it stands there. A table whose
rows are matched by a pattern is searched for expressions, and its name is passed over.
-/

namespace SqlTables

namespace Sql

/-! ## Contents of nodes -/

/-- A clause that a walk passes over. -/
inductive BlindSpot where
  | distinctOn
  | top
  | lateralView
  | clusterBy
  | distributeBy
  | window
  | connectBy
  | limitBy
  | fetch
  /-- Hints, versions and samples of a table. -/
  | tableOption
  /-- The arguments behind the target of a change. -/
  | targetArgument
  /-- The aggregates and values of a pivot. -/
  | pivotOperand
deriving DecidableEq, Repr

namespace Node

def inSight (nodes : List Node) : List (Option BlindSpot × Node) :=
  nodes.map fun node => (none, node)

def inSpot (spot : BlindSpot) (exprs : List Expr) : List (Option BlindSpot × Node) :=
  exprs.map fun inner => (some spot, expr inner)

end Node

def Select.contents : Select → List (Option BlindSpot × Node)
  | .mk distinctOn top projection sources lateralViews prewhere selection groupBy clusterBy
      distributeBy sortBy having windows qualify connectBy =>
    Node.inSight (sources.map (.tables .operand)) ++ Node.inSight (projection.map .expr) ++
      Node.inSight (prewhere.toList.map .expr) ++ Node.inSight (selection.toList.map .expr) ++
      Node.inSight (groupBy.map .expr) ++ Node.inSight (having.toList.map .expr) ++
      Node.inSight (qualify.toList.map .expr) ++ Node.inSight (sortBy.map .expr) ++
      Node.inSpot .distinctOn distinctOn ++ Node.inSpot .top top.toList ++
      Node.inSpot .lateralView lateralViews ++ Node.inSpot .clusterBy clusterBy ++
      Node.inSpot .distributeBy distributeBy ++ Node.inSpot .window windows ++
      Node.inSpot .connectBy connectBy

def TableFactor.contents : Role → TableFactor → List (Option BlindSpot × Node)
  | .operand, .table _ _ args extras =>
    Node.inSight ((args.getD []).map .expr) ++ Node.inSpot .tableOption extras
  | .searched, .table _ _ args extras =>
    Node.inSight ((args.getD []).map .expr) ++ Node.inSight (extras.map .expr)
  | .target _, .table _ _ args extras =>
    Node.inSpot .targetArgument (args.getD []) ++ Node.inSpot .tableOption extras
  | _, .derived query _ => Node.inSight [.query query]
  | role, .nestedJoin tables _ => Node.inSight [.tables role.joined tables]
  | .searched, .pivot relation operands _ =>
    Node.inSight (.factor .searched relation :: operands.map .expr)
  | .operand, .pivot relation operands _ | .target _, .pivot relation operands _ =>
    Node.inSight [.factor .operand relation] ++ Node.inSpot .pivotOperand operands
  | _, .computed operands _ => Node.inSight (operands.map .expr)
  | _, .matchRecognize relation operands _ =>
    Node.inSight (.factor .searched relation :: operands.map .expr)

def Statement.contents : Statement → List (Option BlindSpot × Node)
  | .query inner => Node.inSight [.query inner]
  | .insert _ inner => Node.inSight (inner.toList.map .query)
  | .update target assigned sources selection =>
    Node.inSight [.tables (.target .updateTarget) target] ++
      Node.inSight (sources.map (.tables .operand)) ++ Node.inSight (assigned.map .expr) ++
      Node.inSight (selection.toList.map .expr)
  | .delete targets sources selection =>
    Node.inSight (targets.map (.tables (.target .deleteTarget))) ++
      Node.inSight (sources.map (.tables .operand)) ++ Node.inSight (selection.toList.map .expr)
  | .merge target relation on clauses =>
    Node.inSight (.factor (.target .mergeTarget) target :: .factor .operand relation ::
      (on :: clauses).map .expr)
  | .createTable _ inner => Node.inSight (inner.toList.map .query)
  | .defineView _ inner => Node.inSight [.query inner]
  | .explain inner => Node.inSight [.statement inner]
  | .alterTable _ _ | .drop _ _ | .truncate _ | .comment _ _ | .privileges _ | .showColumns _
  | .showCreate _ _ | .analyze _ | .describe _ | .other => []

namespace Node

/-- What stands in a node, each with the blind spot that it stands in, if any. The definitions of
common tables are left out. -/
def contents : Node → List (Option BlindSpot × Node)
  | visit _ => []
  | expr (.query inner) => inSight [query inner]
  | expr (.node _ operands) => inSight (operands.map expr)
  | expr (.ident _) | expr (.compound _) | expr .value | expr .wildcard
  | expr (.qualifiedWildcard _) => []
  | query (.mk _ inner orderBy limit limitBy offset fetch) =>
    inSight [body inner] ++ inSight (orderBy.map expr) ++ inSight (limit.toList.map expr) ++
      inSpot .limitBy limitBy ++ inSight (offset.toList.map expr) ++ inSpot .fetch fetch.toList
  | body (.select inner) => inSight [select inner]
  | body (.query inner) => inSight [query inner]
  | body (.setOperation left right) => inSight [body left, body right]
  | body (.values cells) => inSight (cells.map expr)
  | body .table => []
  | body (.insert inner) | body (.update inner) => inSight [statement inner]
  | select inner => inner.contents
  | tables role (.mk relation joins) =>
    inSight (factor role relation :: joins.map (join role.joined))
  | join role (.mk relation condition) =>
    inSight (factor role.joined relation :: condition.map expr)
  | factor role inner => inner.contents role
  | statement inner => inner.contents
  | script statements => inSight (statements.map statement)

/-- A node stands in another one, outside the definitions of common tables. The list holds the
blind spots that it stands in, from the outside to the inside. -/
inductive Stands : Node → List BlindSpot → Node → Prop where
  | here (node : Node) : Stands node [] node
  | inside {node part inner : Node} {spot : Option BlindSpot} {spots : List BlindSpot}
      (holds : (spot, part) ∈ node.contents) (stands : Stands part spots inner) :
      Stands node (spot.toList ++ spots) inner

theorem Stands.eq_or_inside {node inner : Node} (stands : Stands node [] inner) :
    inner = node ∨ ∃ part, (none, part) ∈ node.contents ∧ Stands part [] inner := by
  generalize clear : ([] : List BlindSpot) = spots at stands
  cases stands with
  | here => exact .inl rfl
  | @inside _ part _ spot spots holds stands =>
      obtain ⟨unspotted, rfl⟩ := List.append_eq_nil_iff.mp clear.symm
      cases spot with
      | none => exact .inr ⟨part, holds, stands⟩
      | some spot => cases unspotted

theorem Stands.trans {node middle inner : Node} {outer within : List BlindSpot}
    (first : Stands node outer middle) (second : Stands middle within inner) :
    Stands node (outer ++ within) inner := by
  induction first with
  | here node => exact second
  | inside holds _ ih =>
      rw [List.append_assoc]
      exact .inside holds (ih second)

theorem Stands.part {node middle part : Node} (stands : Stands node [] middle)
    (holds : (none, part) ∈ middle.contents) : Stands node [] part :=
  stands.trans (.inside holds (.here part))

/-! ## Own visits of nodes -/

/-- The visit to an alias that may be missing. -/
def aliased (calledAs : Option RelationAlias) : List Visit :=
  calledAs.toList.map .declares

end Node

/-- What a walk records of a relation itself. The alias of a computed relation and of one that is
matched by a pattern is passed over. A relation that is searched has no alias and no name. -/
def TableFactor.own : Role → TableFactor → List Visit
  | .searched, _ => []
  | .operand, .table _ calledAs (some _) _ => Node.aliased calledAs
  | .operand, .table name calledAs none _ => Node.aliased calledAs ++ [.names .relation name]
  | .target kind, .table name calledAs _ _ => Node.aliased calledAs ++ [.names kind name]
  | .operand, .derived _ calledAs | .target _, .derived _ calledAs => Node.aliased calledAs
  | .operand, .nestedJoin _ calledAs | .target _, .nestedJoin _ calledAs => Node.aliased calledAs
  | .operand, .pivot _ _ calledAs | .target _, .pivot _ _ calledAs => Node.aliased calledAs
  | .operand, .computed _ _ | .target _, .computed _ _ => []
  | .operand, .matchRecognize _ _ _ | .target _, .matchRecognize _ _ _ => []

def Statement.own : Statement → List Visit
  | .insert target _ => target.toList.map (.names .insertTarget)
  | .createTable name none => [.names .createTableTarget name]
  | .createTable name (some _) => [.names .createAsSelectTarget name]
  | .defineView name _ => [.names .viewDefinition name]
  | .alterTable name actions =>
    .names (if actions.contains .addColumn then .addColumnTarget else .alterTarget) name ::
      (actions.filterMap fun
        | .renameTable newName => some newName
        | _ => none).map (.names .renameTarget)
  | .drop .table names | .drop .view names => names.map (.names .dropTarget)
  | .truncate names => names.map (.names .truncateTarget)
  | .privileges tables => tables.map (.names .administrative)
  | .showColumns parent => parent.toList.map (.names .administrative)
  | .comment .table name | .showCreate .table name | .showCreate .view name | .analyze name =>
    [.names .administrative name]
  | .query _ | .update _ _ _ _ | .delete _ _ _ | .merge _ _ _ _ | .drop .other _
  | .comment .view _ | .comment .other _ | .showCreate .other _ | .explain _ | .describe _
  | .other => []

/-- What a walk records of a node itself. -/
def Node.own : Node → List Visit
  | expr (.compound parts) => [.qualifies parts]
  | factor role inner => inner.own role
  | statement inner => inner.own
  | _ => []

/-! ## A walk goes to what is in sight -/

namespace Node

@[simp]
theorem mem_inSight {spot : Option BlindSpot} {part : Node} {nodes : List Node} :
    (spot, part) ∈ inSight nodes ↔ spot = none ∧ part ∈ nodes := by
  constructor
  · intro member
    obtain ⟨node, inside, same⟩ := List.mem_map.mp member
    cases same
    exact ⟨rfl, inside⟩
  · rintro ⟨rfl, inside⟩
    exact List.mem_map_of_mem inside

@[simp]
theorem mem_inSpot {spot : BlindSpot} {found : Option BlindSpot} {part : Node}
    {exprs : List Expr} :
    (found, part) ∈ inSpot spot exprs ↔ found = some spot ∧ part ∈ exprs.map expr := by
  constructor
  · intro member
    obtain ⟨inner, inside, same⟩ := List.mem_map.mp member
    cases same
    exact ⟨rfl, List.mem_map_of_mem inside⟩
  · rintro ⟨rfl, inside⟩
    obtain ⟨inner, member, rfl⟩ := List.mem_map.mp inside
    exact List.mem_map_of_mem member

theorem declared_eq (calledAs : Option RelationAlias) :
    declared calledAs = (aliased calledAs).map visit := by
  simp [declared, aliased]

theorem named_eq (kind : ReferenceKind) (names : List ObjectName) :
    named kind names = (names.map (Visit.names kind)).map visit := by
  simp [named]

end Node

section

variable {part : Node}

theorem TableFactor.mem_parts_iff (role : Role) (relation : TableFactor) :
    part ∈ relation.parts role ↔
      part ∈ (relation.own role).map Node.visit ∨ (none, part) ∈ relation.contents role := by
  cases relation with
  | table name calledAs args extras =>
      cases role <;> cases args <;>
        simp [TableFactor.contents, TableFactor.parts, TableFactor.own, Node.declared_eq,
          Node.named_eq]
  | derived | nestedJoin | pivot | computed | matchRecognize =>
      cases role <;>
        simp [TableFactor.contents, TableFactor.parts, TableFactor.own, Node.declared_eq,
          Role.joined]

theorem Statement.mem_parts_iff (inner : Statement) :
    part ∈ inner.parts ↔ part ∈ inner.own.map Node.visit ∨ (none, part) ∈ inner.contents := by
  cases inner with
  | createTable name query =>
      cases query <;> simp [Statement.contents, Statement.parts, Statement.own, Node.named_eq]
  | drop kind | comment kind | showCreate kind =>
      cases kind <;> simp [Statement.contents, Statement.parts, Statement.own, Node.named_eq]
  | alterTable name actions =>
      have onlyOwn : (Statement.alterTable name actions).parts =
          (Statement.alterTable name actions).own.map Node.visit := by
        rw [Statement.parts, Node.named_eq, Node.named_eq, ← List.map_append]
        rfl
      rw [onlyOwn, Statement.contents]
      simp
  | query | insert | update | delete | merge | defineView | truncate | privileges | showColumns
  | analyze | explain | describe | other =>
      simp [Statement.contents, Statement.parts, Statement.own, Node.named_eq]

/-- What is in sight of a node are the parts that a walk goes to from there. -/
theorem Node.mem_parts_iff {node : Node} :
    part ∈ node.parts ↔ part ∈ node.own.map visit ∨ (none, part) ∈ node.contents := by
  cases node with
  | visit inner => simp [contents, parts, own]
  | expr inner => cases inner <;> simp [contents, parts, own]
  | query inner =>
      cases inner
      simp [contents, parts, own]
  | body inner => cases inner <;> simp [contents, parts, own]
  | select inner =>
      cases inner
      simp [contents, parts, own, Select.contents, Select.sources, Select.clauses]
  | tables role inner =>
      cases inner
      simp [contents, parts, own]
  | join role inner =>
      cases inner
      simp [contents, parts, own]
  | factor role inner => exact inner.mem_parts_iff role
  | statement inner => exact inner.mem_parts_iff
  | script statements => simp [contents, parts, own]

end

theorem Node.ne_visit_of_mem_contents {node part : Node} {spot : Option BlindSpot}
    (holds : (spot, part) ∈ node.contents) (inner : Visit) : part ≠ visit inner := by
  rintro rfl
  cases node with
  | visit inner => simp [contents] at holds
  | expr inner => cases inner <;> simp [contents] at holds
  | query inner =>
      cases inner
      simp [contents] at holds
  | body inner => cases inner <;> simp [contents] at holds
  | select inner =>
      cases inner
      simp [contents, Select.contents] at holds
  | tables role inner =>
      cases inner
      simp [contents] at holds
  | join role inner =>
      cases inner
      simp [contents] at holds
  | factor role inner =>
      cases inner <;> cases role <;> simp [contents, TableFactor.contents] at holds
  | statement inner => cases inner <;> simp [contents, Statement.contents] at holds
  | script statements => simp [contents] at holds

/-- A walk records exactly what is recorded of something in sight. -/
theorem Node.mem_visits_iff {node : Node} (composite : ∀ inner, node ≠ visit inner)
    {visited : Visit} :
    visited ∈ node.visits ↔ ∃ inner, Stands node [] inner ∧ visited ∈ inner.own := by
  induction node using Node.induction with
  | step node ih =>
      rw [visits_eq_flatMap composite, List.mem_flatMap]
      constructor
      · rintro ⟨part, member, inPart⟩
        rcases mem_parts_iff.mp member with own | holds
        · obtain ⟨inner, recorded, rfl⟩ := List.mem_map.mp own
          obtain rfl : visited = inner := by simpa using inPart
          exact ⟨node, .here node, recorded⟩
        · obtain ⟨inner, stands, recorded⟩ :=
            (ih part member (ne_visit_of_mem_contents holds)).mp inPart
          exact ⟨inner, .inside holds stands, recorded⟩
      · rintro ⟨inner, stands, recorded⟩
        rcases stands.eq_or_inside with rfl | ⟨part, holds, stands⟩
        · have member := mem_parts_iff.mpr (.inl (List.mem_map_of_mem recorded))
          exact ⟨visit visited, member, by simp⟩
        · have member := mem_parts_iff.mpr (.inr holds)
          exact ⟨part, member,
            (ih part member (ne_visit_of_mem_contents holds)).mpr ⟨inner, stands, recorded⟩⟩

/-! ## Names and qualifiers in sight -/

theorem Statement.exists_names_of_mem_own (inner : Statement) :
    ∀ visited ∈ inner.own, ∃ kind name, visited = .names kind name := by
  cases inner with
  | createTable name query => cases query <;> simp [Statement.own]
  | drop kind | comment kind | showCreate kind => cases kind <;> simp [Statement.own]
  | alterTable name actions =>
      intro visited recorded
      rcases List.mem_cons.mp recorded with rfl | renamed
      · exact ⟨_, _, rfl⟩
      · obtain ⟨newName, -, rfl⟩ := List.mem_map.mp renamed
        exact ⟨_, _, rfl⟩
  | query | insert | update | delete | merge | defineView | truncate | privileges | showColumns
  | analyze | explain | describe | other => simp [Statement.own]

namespace Node

end Node

end Sql

namespace Sql

end Sql

end SqlTables
