import SqlTables.Proofs.Reference.Coverage
import SqlTables.Proofs.Rename.Qualifiers

/-!
# Columns qualified by an alias

The alias of a relation is no table, so a column that is qualified by an alias keeps its qualifier.
This holds for the aliases that a walk records before it comes to the column, and a walk records
the relations of a selection before its clauses. But it does not record the alias of every relation:
those of unnested arrays, of table functions other than calls by name, of documents and of patterns
of rows are passed over. A column qualified by one of these is renamed like the column of a table.
-/

namespace SqlTables

namespace Sql

open Parse (aliasOf)

/-! ## Which aliases are recorded -/

/-- Whether a walk records the alias of a relation. -/
def TableFactor.recordsAlias : Role → TableFactor → Bool
  | .searched, _ => false
  | _, .computed _ _ => false
  | _, .matchRecognize _ _ _ => false
  | _, _ => true

theorem TableFactor.declares_mem_own_iff {role : Role} {relation : TableFactor}
    {calledAs : RelationAlias} :
    .declares calledAs ∈ relation.own role ↔
      relation.recordsAlias role = true ∧ aliasOf relation = some calledAs := by
  cases relation with
  | table name calledAs args extras =>
      cases role <;> cases args <;>
        simp [TableFactor.own, Node.aliased, TableFactor.recordsAlias, aliasOf]
  | derived | nestedJoin | pivot | computed | matchRecognize =>
      cases role <;> simp [TableFactor.own, Node.aliased, TableFactor.recordsAlias, aliasOf]

theorem Node.exists_factor_of_declares_mem_own {node : Node} {calledAs : RelationAlias}
    (recorded : .declares calledAs ∈ node.own) :
    ∃ role relation, node = .factor role relation ∧ relation.recordsAlias role = true ∧
      aliasOf relation = some calledAs := by
  cases node with
  | factor role inner => exact ⟨role, inner, rfl, TableFactor.declares_mem_own_iff.mp recorded⟩
  | expr inner => cases inner <;> simp [own] at recorded
  | statement inner =>
      obtain ⟨kind, name, same⟩ := inner.exists_names_of_mem_own _ recorded
      cases same
  | visit | query | body | select | tables | join | script => simp [own] at recorded

/-- A walk declares exactly the recorded aliases of the relations in sight. -/
theorem Node.declares_mem_visits_iff {node : Node} (composite : ∀ inner, node ≠ visit inner)
    {calledAs : RelationAlias} :
    .declares calledAs ∈ node.visits ↔
      ∃ role relation, Stands node [] (.factor role relation) ∧
        relation.recordsAlias role = true ∧ aliasOf relation = some calledAs := by
  rw [mem_visits_iff composite]
  constructor
  · rintro ⟨inner, stands, recorded⟩
    obtain ⟨role, relation, rfl, known⟩ := exists_factor_of_declares_mem_own recorded
    exact ⟨role, relation, stands, known⟩
  · rintro ⟨role, relation, stands, known⟩
    exact ⟨_, stands, TableFactor.declares_mem_own_iff.mpr known⟩

/-! ## Operands of a selection -/

/-- A relation is an operand of the `FROM` of a selection: listed there, joined, or inside a nested
join, a pivot or a pattern of rows. The role tells what a walk takes it for. -/
inductive Select.Operand (select : Select) : Role → TableFactor → Prop where
  | listed {relation : TableFactor} {joins : List Join}
      (member : .mk relation joins ∈ select.sources) : Operand select .operand relation
  | joined {relation other : TableFactor} {joins : List Join} {condition : List Expr}
      (member : .mk relation joins ∈ select.sources) (inside : .mk other condition ∈ joins) :
      Operand select .operand other
  | nested {role : Role} {relation : TableFactor} {joins : List Join}
      {calledAs : Option RelationAlias}
      (outer : Operand select role (.nestedJoin (.mk relation joins) calledAs)) :
      Operand select role.joined relation
  | nestedJoined {role : Role} {relation other : TableFactor} {joins : List Join}
      {condition : List Expr} {calledAs : Option RelationAlias}
      (outer : Operand select role (.nestedJoin (.mk relation joins) calledAs))
      (inside : .mk other condition ∈ joins) : Operand select role.joined other
  | pivoted {role : Role} {relation : TableFactor} {operands : List Expr}
      {calledAs : Option RelationAlias}
      (outer : Operand select role (.pivot relation operands calledAs)) :
      Operand select role.joined relation
  | matched {role : Role} {relation : TableFactor} {operands : List Expr}
      {calledAs : Option RelationAlias}
      (outer : Operand select role (.matchRecognize relation operands calledAs)) :
      Operand select .searched relation

theorem Select.Operand.stands {select : Select} {role : Role} {relation : TableFactor}
    (operand : select.Operand role relation) :
    ∃ tables ∈ select.sources,
      Node.Stands (.tables .operand tables) [] (.factor role relation) := by
  induction operand with
  | @listed relation joins member =>
      refine ⟨_, member, (Node.Stands.here _).part ?_⟩
      simp [Node.contents]
  | @joined relation other joins condition member inside =>
      have atJoin : (none, .join .operand (.mk other condition)) ∈
          (Node.tables .operand (.mk relation joins)).contents := by
        simp [Node.contents, Role.joined, inside]
      refine ⟨_, member, ((Node.Stands.here _).part atJoin).part ?_⟩
      simp [Node.contents, Role.joined]
  | @nested role relation joins calledAs outer ih =>
      obtain ⟨tables, member, stands⟩ := ih
      have atTables : (none, .tables role.joined (.mk relation joins)) ∈
          (Node.factor role (.nestedJoin (.mk relation joins) calledAs)).contents := by
        simp [Node.contents, TableFactor.contents]
      refine ⟨tables, member, (stands.part atTables).part ?_⟩
      simp [Node.contents]
  | @nestedJoined role relation other joins condition calledAs outer inside ih =>
      obtain ⟨tables, member, stands⟩ := ih
      have atTables : (none, .tables role.joined (.mk relation joins)) ∈
          (Node.factor role (.nestedJoin (.mk relation joins) calledAs)).contents := by
        simp [Node.contents, TableFactor.contents]
      have atJoin : (none, .join role.joined.joined (.mk other condition)) ∈
          (Node.tables role.joined (.mk relation joins)).contents := by
        simp [Node.contents, inside]
      refine ⟨tables, member, ((stands.part atTables).part atJoin).part ?_⟩
      cases role <;> simp [Node.contents, Role.joined]
  | @pivoted role relation operands calledAs outer ih =>
      obtain ⟨tables, member, stands⟩ := ih
      refine ⟨tables, member, stands.part ?_⟩
      cases role <;> simp [Node.contents, TableFactor.contents, Role.joined]
  | matched outer ih =>
      obtain ⟨tables, member, stands⟩ := ih
      refine ⟨tables, member, stands.part ?_⟩
      simp [Node.contents, TableFactor.contents]

end Sql

theorem Visit.mem_aliases_iff {visits : List Visit} {name : String} :
    name ∈ aliases visits ↔
      ∃ calledAs, declares calledAs ∈ visits ∧ Text.asciiLower calledAs.name.value = name := by
  rw [aliases, List.mem_filterMap]
  constructor
  · rintro ⟨visited, member, declared⟩
    cases visited with
    | declares calledAs => exact ⟨calledAs, member, Option.some.inj declared⟩
    | names | qualifies => cases declared
  · rintro ⟨calledAs, member, rfl⟩
    exact ⟨_, member, rfl⟩

/-! ## Columns in the clauses of a selection -/

namespace Rename

open Sql (Node)
open Sql.Parse (aliasOf)

/-- A column in a clause of a selection, or in a query nested there, has a qualifier of one part. It
adds the occurrence of the qualifier exactly if nothing that was walked over before declares the
qualifier as an alias. An operand of the selection with this alias does so if its alias is recorded,
and nothing else than a relation whose alias is recorded does so. Where it is not declared, every
mapping that covers the qualifier replaces it, if the source spells it in one piece and no other
occurrence overlaps it. -/
theorem occurrences_of_aliased_column (source : String) {statements : List Sql.Statement}
    {select : Sql.Select} {before within : List Node} {clause : Sql.Expr}
    {earlier later : List Sql.Expr} {base column : Ident}
    (inScript : Node.Reaches (fun _ => True) (.script statements) before (.select select))
    (inClauses : select.clauses = earlier ++ clause :: later)
    (used : Node.Reaches (fun _ => True) (.expr clause) within
      (.expr (.compound [base, column]))) :
    let found := Sql.collect source statements
    let walked := before ++ (select.sources.map (.tables .operand) ++ earlier.map .expr ++ within)
    let seen := walked.flatMap Node.visits
    let token? := ObjectName.occurrence? source.toList .qualifier [base]
    (∃ after, (Node.script statements).visits = seen ++ .qualifies [base, column] :: after ∧
      found.occurrences =
        (Visit.origins source.toList [] seen).map Prod.snd ++
          (if base.canonical ∈ Visit.aliases seen then [] else token?.toList) ++
          (Visit.origins source.toList (seen ++ [.qualifies [base, column]]) after).map
            Prod.snd) ∧
    (∀ role relation calledAs, select.Operand role relation →
      aliasOf relation = some calledAs → Text.asciiLower calledAs.name.value = base.canonical →
      relation.recordsAlias role = true → base.canonical ∈ Visit.aliases seen) ∧
    (base.canonical ∈ Visit.aliases seen → ∃ role relation calledAs,
      Node.Stands (.script statements) [] (.factor role relation) ∧
        relation.recordsAlias role = true ∧ aliasOf relation = some calledAs ∧
        Text.asciiLower calledAs.name.value = base.canonical) ∧
    (base.canonical ∉ Visit.aliases seen → ∀ token, token? = some token →
      ∀ (mapping : Mapping) (anchors : Anchors), mapping.covers base.canonical = true →
      Alone token found.occurrences → Name.Spelled source.toList token.start token.text →
      ∃ stage ∈ stages mapping anchors (inOrder found.occurrences) source.toList,
        stage.occurrence = token ∧ ∃ new,
          stage.splice? mapping anchors = some ⟨token.start, token.stop, new⟩) := by
  intro found walked seen token?
  have split : (Node.select select).parts =
      (select.sources.map (.tables .operand) ++ earlier.map .expr) ++
        .expr clause :: later.map .expr := by
    simp [Node.parts, inClauses]
  have reaches : Node.Reaches (fun _ => True) (.script statements) walked
      (.expr (.compound [base, column])) := inScript.trans (.inside split trivial used)
  obtain ⟨after, visited, around⟩ := reaches.occurrences_around_pair source
  refine ⟨⟨after, visited, around⟩, ?_, ?_, ?_⟩
  · intro role relation calledAs operand known same recorded
    obtain ⟨tables, member, stands⟩ := operand.stands
    have composite : ∀ inner, Node.tables .operand tables ≠ .visit inner := by simp
    have declared : .declares calledAs ∈ (Node.tables .operand tables).visits :=
      (Node.declares_mem_visits_iff composite).mpr ⟨role, relation, stands, recorded, known⟩
    refine Visit.mem_aliases_iff.mpr ⟨calledAs, List.mem_flatMap.mpr ⟨_, ?_, declared⟩, same⟩
    simp [walked, member]
  · intro declared
    obtain ⟨calledAs, member, same⟩ := Visit.mem_aliases_iff.mp declared
    have inVisits : .declares calledAs ∈ (Node.script statements).visits := by
      rw [visited]
      exact List.mem_append_left _ member
    have composite : ∀ inner, Node.script statements ≠ .visit inner := by simp
    obtain ⟨role, relation, stands, recorded, known⟩ :=
      (Node.declares_mem_visits_iff composite).mp inVisits
    exact ⟨role, relation, calledAs, stands, recorded, known, same⟩
  · intro undeclared token placed mapping anchors covered alone spelled
    have tokenFound : token ∈ found.occurrences := by
      rw [around, if_neg undeclared]
      exact List.mem_append_left _ (List.mem_append_right _ (Option.mem_toList.mpr placed))
    have tokenText : token.text = base.canonical :=
      (ObjectName.text_eq_of_occurrence? placed).trans (ObjectName.canonical_singleton base)
    exact exists_stage_splice? (Sql.collect_allRecorded source statements) tokenFound
      (by rwa [tokenText]) alone spelled

/-- The alias of an unnested array takes no qualifier away, so the column is renamed. The alias of
the table next to it does. -/
theorem occurrences_of_aliased_column_unnest :
    let sql := "SELECT u.x, o.y FROM UNNEST(a) AS u, t AS o"
    let word (value : String) (column : Nat) : Ident := ⟨value, none, ⟨1, column⟩⟩
    let throughU := Sql.Expr.compound [word "u" 8, word "x" 10]
    let throughO := Sql.Expr.compound [word "o" 13, word "y" 15]
    let array := Sql.TableFactor.computed [.ident (word "a" 29)] (some ⟨word "u" 35, []⟩)
    let table := Sql.TableFactor.table [word "t" 38] (some ⟨word "o" 43, []⟩) none []
    let select : Sql.Select := .mk [] none [throughU, throughO] [.mk array [], .mk table []]
      [] none none [] [] [] [] none [] none []
    let script : List Sql.Statement := [.query (.ofBody (.select select))]
    let found := Sql.collect sql script
    let mapping := Mapping.ofList [("u", "v"), ("o", "w")]
    Renamer.default.references sql = .ok found ∧
      (∃ before after, (Node.script script).visits =
          before ++ .qualifies [word "o" 13, word "y" 15] :: after ∧
        "o" ∈ Visit.aliases before) ∧
      ∃ stage ∈ stages mapping Anchors.default (inOrder found.occurrences) sql.toList,
        stage.occurrence = ⟨"u", 7, 8, .qualifier⟩ ∧
          ∃ new, stage.splice? mapping Anchors.default = some ⟨7, 8, new⟩ := by
  intro sql word throughU throughO array table select script found mapping
  have occurrences : found.occurrences =
      [⟨"t", 37, 38, .relation⟩, ⟨"u", 7, 8, .qualifier⟩] := by decide +kernel
  have inScript : Node.Reaches (fun _ => True) (.script script) _ (.select select) :=
    .inside (rfl : _ = [] ++ _ :: _) trivial <|
    .inside (rfl : _ = [] ++ _ :: _) trivial <|
    .inside (rfl : _ = [] ++ _ :: _) trivial <|
    .inside (rfl : _ = [] ++ _ :: _) trivial (.here _)
  obtain ⟨-, -, -, replacedU⟩ := occurrences_of_aliased_column sql inScript
    (rfl : _ = [] ++ throughU :: [throughO]) (.here _)
  obtain ⟨⟨after, visited, -⟩, keptO, -⟩ := occurrences_of_aliased_column sql inScript
    (rfl : _ = [throughU] ++ throughO :: []) (.here _)
  have operand : select.Operand .operand table :=
    .listed (List.mem_cons_of_mem _ List.mem_cons_self)
  have canonicalO : (word "o" 13).canonical = "o" := by decide +kernel
  refine ⟨by decide +kernel, ⟨_, after, visited, ?_⟩, ?_⟩
  · rw [← canonicalO]
    exact keptO .operand table ⟨word "o" 43, []⟩ operand rfl rfl rfl
  · have undeclared : (word "u" 8).canonical ∉ [Text.asciiLower (word "o" 43).value] := by decide
    refine replacedU ?_ ⟨"u", 7, 8, .qualifier⟩ (by decide +kernel) mapping Anchors.default
      (by decide +kernel) ?_ ?_
    · simpa [Visit.aliases, Visit.declared?, Node.visits_eq_flatMap, Node.parts,
        Sql.TableFactor.parts, Node.declared, Node.named, Sql.Select.sources, select, array,
        table] using undeclared
    · rw [Alone, occurrences]
      decide
    · refine (holds_iff_spelled (Sql.collect_allRecorded sql script _ ?_)).mp (by decide +kernel)
      change _ ∈ found.occurrences
      rw [occurrences]
      decide

end Rename

end SqlTables
