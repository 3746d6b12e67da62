import SqlTables.Proofs.Reference.Node

/-!
# What a walk records

Parts are smaller than the node they belong to, so facts about walks are proved by induction over
parts instead of over the forms of statements. The first of them: a walk records its visits, which
can be listed without walking.
-/

namespace SqlTables.Sql

namespace Node

/-! ## Induction over parts -/

/-- A measure that the parts of a node have less of. -/
noncomputable def size : Node → Nat
  | visit _ => 0
  | expr inner => 1 + sizeOf inner
  | query inner => 1 + sizeOf inner
  | body inner => 1 + sizeOf inner
  | select inner => 1 + sizeOf inner
  | tables _ inner => 1 + sizeOf inner
  | join _ inner => 1 + sizeOf inner
  | factor _ inner => 1 + sizeOf inner
  | statement inner => 1 + sizeOf inner
  | script statements => 1 + sizeOf statements

def Below (bound : Nat) (nodes : List Node) : Prop :=
  ∀ node ∈ nodes, node.size < bound

section

variable {bound : Nat}

@[simp]
theorem below_nil : Below bound [] := by simp [Below]

@[simp]
theorem below_cons {node : Node} {nodes : List Node} :
    Below bound (node :: nodes) ↔ node.size < bound ∧ Below bound nodes := by simp [Below]

theorem below_singleton {node : Node} (smaller : node.size < bound) : Below bound [node] :=
  below_cons.mpr ⟨smaller, below_nil⟩

@[simp]
theorem below_append {first second : List Node} :
    Below bound (first ++ second) ↔ Below bound first ∧ Below bound second :=
  List.forall_mem_append

theorem below_map {α : Type} [SizeOf α] {make : α → Node} {items : List α}
    (sized : ∀ item, (make item).size = 1 + sizeOf item) (fits : sizeOf items < bound) :
    Below bound (items.map make) := by
  intro node member
  obtain ⟨item, inside, rfl⟩ := List.mem_map.mp member
  have smaller := List.sizeOf_lt_of_mem inside
  rw [sized]
  omega

theorem below_map_toList {α : Type} [SizeOf α] {make : α → Node} {item : Option α}
    (sized : ∀ item, (make item).size = 1 + sizeOf item) (fits : sizeOf item < bound) :
    Below bound (item.toList.map make) := by
  cases item with
  | none => simp
  | some item => simpa [sized] using fits

theorem below_exprs {exprs : List Expr} (fits : sizeOf exprs < bound) :
    Below bound (exprs.map expr) :=
  below_map (fun _ => rfl) fits

theorem below_expr {inner : Option Expr} (fits : sizeOf inner < bound) :
    Below bound (inner.toList.map expr) :=
  below_map_toList (fun _ => rfl) fits

theorem below_tables {role : Role} {inner : List TableWithJoins} (fits : sizeOf inner < bound) :
    Below bound (inner.map (tables role)) :=
  below_map (fun _ => rfl) fits

theorem below_joins {role : Role} {inner : List Join} (fits : sizeOf inner < bound) :
    Below bound (inner.map (join role)) :=
  below_map (fun _ => rfl) fits

theorem below_query {inner : Option Query} (fits : sizeOf inner < bound) :
    Below bound (inner.toList.map query) :=
  below_map_toList (fun _ => rfl) fits

theorem below_statements {inner : List Statement} (fits : sizeOf inner < bound) :
    Below bound (inner.map statement) :=
  below_map (fun _ => rfl) fits

theorem below_declared {calledAs : Option RelationAlias} (positive : 0 < bound) :
    Below bound (declared calledAs) := by
  intro node member
  obtain ⟨calledAs, -, rfl⟩ := List.mem_map.mp member
  exact positive

theorem below_named {kind : ReferenceKind} {names : List ObjectName} (positive : 0 < bound) :
    Below bound (named kind names) := by
  intro node member
  obtain ⟨name, -, rfl⟩ := List.mem_map.mp member
  exact positive

end

/-- The parts of a node have less than the node. -/
theorem below_parts (node : Node) : Below node.size node.parts := by
  cases node with
  | visit inner => simp [parts]
  | expr inner =>
      cases inner with
      | compound parts => exact below_singleton (by simp only [size]; omega)
      | query inner => exact below_singleton (by simp only [size, Expr.query.sizeOf_spec]; omega)
      | node form operands => exact below_exprs (by simp only [size, Expr.node.sizeOf_spec]; omega)
      | ident | value | wildcard | qualifiedWildcard => exact below_nil
  | query inner =>
      cases inner
      simp (disch := omega) [parts, size, below_exprs, below_expr]
      omega
  | body inner =>
      cases inner with
      | select inner | query inner | insert inner | update inner =>
          refine below_singleton ?_
          simp only [size, Body.select.sizeOf_spec, Body.query.sizeOf_spec, Body.insert.sizeOf_spec,
            Body.update.sizeOf_spec]
          omega
      | setOperation left right =>
          refine below_cons.mpr ⟨?_, below_singleton ?_⟩
          all_goals
            simp only [size, Body.setOperation.sizeOf_spec]
            omega
      | values cells => exact below_exprs (by simp only [size, Body.values.sizeOf_spec]; omega)
      | table => exact below_nil
  | select inner =>
      cases inner
      simp (disch := omega) [parts, size, below_exprs, below_expr, below_tables, Select.sources,
        Select.clauses]
  | tables role inner =>
      cases inner
      simp (disch := omega) [parts, size, below_joins]
      omega
  | join role inner =>
      cases inner
      simp (disch := omega) [parts, size, below_exprs]
      omega
  | factor role inner =>
      cases inner with
      | table name calledAs args extras =>
          cases role <;> cases args <;>
            simp (disch := omega) [parts, TableFactor.parts, size, below_exprs, below_declared,
              below_named]
      | _ =>
          cases role <;>
            simp (disch := omega) [parts, TableFactor.parts, size, below_exprs,
              below_declared] <;> omega
  | statement inner =>
      cases inner with
      | createTable name query =>
          have positive : 0 < (statement (.createTable name query)).size := by
            simp only [size]
            omega
          cases query with
          | none => exact below_named positive
          | some query =>
              refine below_append.mpr ⟨below_named positive, below_singleton ?_⟩
              simp only [size, Statement.createTable.sizeOf_spec, Option.some.sizeOf_spec]
              omega
      | drop kind | comment kind | showCreate kind =>
          cases kind <;>
            simp (disch := omega) [parts, Statement.parts, size, below_named]
      | update | merge | defineView =>
          simp (disch := omega) [parts, Statement.parts, size, below_exprs, below_expr,
            below_tables, below_named] <;> omega
      | query | insert | delete | alterTable | truncate | privileges | showColumns | analyze
      | explain | describe | other =>
          simp (disch := omega) [parts, Statement.parts, size, below_expr, below_tables,
            below_query, below_named]
  | script statements => simp (disch := omega) [parts, size, below_statements]

/-- What holds of a node as soon as it holds of all its parts holds of every node. -/
theorem induction {motive : Node → Prop}
    (step : ∀ node : Node, (∀ part ∈ node.parts, motive part) → motive node) (node : Node) :
    motive node :=
  step node fun part member =>
    have _smaller := below_parts node part member
    induction step part
termination_by node.size

/-! ## The visits of a walk -/

/-- The visits of a walk over a node, in their order. -/
def visits : Node → List Visit
  | visit inner => [inner]
  | node => node.parts.attach.flatMap fun part => part.val.visits
termination_by node => node.size
decreasing_by exact below_parts _ _ part.property

@[simp]
theorem visits_visit (inner : Visit) : (visit inner).visits = [inner] := by
  rw [visits]

theorem visits_eq_flatMap {node : Node} (composite : ∀ inner, node ≠ visit inner) :
    node.visits = node.parts.flatMap visits := by
  rw [visits]
  · simp
  · exact composite

theorem collectAll_eq_recordAll_of_forall {source : List Char} {nodes : List Node}
    (each : ∀ node ∈ nodes, ∀ found,
      node.collect source found = Visit.recordAll source node.visits found)
    (found : References) :
    collectAll source nodes found = Visit.recordAll source (nodes.flatMap visits) found := by
  induction nodes generalizing found with
  | nil => rfl
  | cons first rest ih =>
      obtain ⟨atFirst, atRest⟩ := List.forall_mem_cons.mp each
      rw [collectAll_cons, atFirst, ih atRest, List.flatMap_cons, Visit.recordAll_append]

theorem collect_eq_recordAll (source : List Char) (node : Node) (found : References) :
    node.collect source found = Visit.recordAll source node.visits found := by
  induction node using Node.induction generalizing found with
  | step node ih =>
      by_cases ends : ∃ inner, node = visit inner
      · obtain ⟨inner, rfl⟩ := ends
        rw [visits_visit]
        rfl
      · have composite : ∀ inner, node ≠ visit inner := fun inner same => ends ⟨inner, same⟩
        rw [collect_eq_collectAll_parts source found composite, visits_eq_flatMap composite]
        exact collectAll_eq_recordAll_of_forall ih found

end Node

/-- The references of a source are those that the visits of its statements record. -/
theorem collect_eq_recordAll (source : String) (statements : List Statement) :
    collect source statements =
      Visit.recordAll source.toList (Node.script statements).visits References.empty :=
  (Node.script statements).collect_eq_recordAll source.toList References.empty

end SqlTables.Sql
