import SqlTables.Proofs.Reference.Scope
import SqlTables.Proofs.Rename.Spelled

/-!
# Tables and their qualifiers

A table without alias in `FROM` qualifies columns by its name, so both have to be renamed together.
The table is always recorded. A qualifier is recorded exactly if nothing that was walked over
before it declares its name as an alias, in scope or not: a table named like an alias of another
selection is renamed, and the qualifiers that stand for it are not.
-/

namespace SqlTables

namespace Rename

open Sql (Node)

/-- A recorded occurrence that is covered, spelled in one piece and overlapped by no other one is
replaced. -/
theorem exists_stage_splice? {mapping : Mapping} {anchors : Anchors} {source : List Char}
    {found : References} {occurrence : Occurrence} (all : found.AllRecorded source)
    (member : occurrence ∈ found.occurrences) (covered : mapping.covers occurrence.text = true)
    (alone : Alone occurrence found.occurrences)
    (spelled : Name.Spelled source occurrence.start occurrence.text) :
    ∃ stage ∈ stages mapping anchors (inOrder found.occurrences) source,
      stage.occurrence = occurrence ∧
        ∃ new, stage.splice? mapping anchors = some ⟨occurrence.start, occurrence.stop, new⟩ := by
  obtain ⟨stage, examined, rfl, agree⟩ :=
    alone.exists_stage (fun other known => (all other known).bounds.1) member
  exact ⟨stage, examined, rfl, exists_splice?_of_spelled (all _ member) covered agree spelled⟩

/-- A selection anywhere in a script has a table without alias in its `FROM`, and a column in one
of its own clauses is qualified by the name of this table. The table is recorded. The qualifier
adds its occurrence to those before and behind it exactly if no relation that was walked over
before has its name as an alias. Then every mapping that covers the name replaces both, wherever
the source spells them in one piece and no other occurrence overlaps them. -/
theorem occurrences_of_qualified_table {source : String} {statements : List Sql.Statement}
    {select : Sql.Select} {before passed within : List Node} {relation base column : Ident}
    {extras : List Sql.Expr} {table token : Occurrence}
    (inScript : Node.Reaches (fun _ => True) (.script statements) before (.select select))
    (listed : Node.Reaches Node.Direct (.select select) passed
      (.factor .operand (.table [relation] none none extras)))
    (used : Node.Reaches Node.Direct (.select select) within (.expr (.compound [base, column])))
    (same : base.canonical = relation.canonical) (written : relation.canonical ≠ "")
    (tablePlaced : ObjectName.occurrence? source.toList .relation [relation] = some table)
    (tokenPlaced : ObjectName.occurrence? source.toList .qualifier [base] = some token) :
    let found := Sql.collect source statements
    let seen := (before ++ within).flatMap Node.visits
    table ∈ found.occurrences ∧ table.text = relation.canonical ∧
    token.text = relation.canonical ∧ token.kind = .qualifier ∧
    (∃ later, (Node.script statements).visits = seen ++ .qualifies [base, column] :: later ∧
      found.occurrences =
        (Visit.origins source.toList [] seen).map Prod.snd ++
          (if relation.canonical ∈ Visit.aliases seen then [] else [token]) ++
          (Visit.origins source.toList (seen ++ [.qualifies [base, column]]) later).map
            Prod.snd) ∧
    (relation.canonical ∉ Visit.aliases seen → ∀ (mapping : Mapping) (anchors : Anchors),
      mapping.covers relation.canonical = true →
      ∀ occurrence, occurrence = table ∨ occurrence = token →
        Alone occurrence found.occurrences →
        Name.Spelled source.toList occurrence.start occurrence.text →
        ∃ stage ∈ stages mapping anchors (inOrder found.occurrences) source.toList,
          stage.occurrence = occurrence ∧ ∃ new,
            stage.splice? mapping anchors = some ⟨occurrence.start, occurrence.stop, new⟩) := by
  intro found seen
  have tableText : table.text = relation.canonical :=
    (ObjectName.text_eq_of_occurrence? tablePlaced).trans (ObjectName.canonical_singleton relation)
  obtain ⟨-, -, tokenText, tokenKind⟩ := ObjectName.occurrence?_eq_some_iff.mp tokenPlaced
  rw [ObjectName.canonical_singleton, same] at tokenText
  have anywhere : ∀ part, Node.Direct part → True := fun _ _ => trivial
  have tableFound : table ∈ found.occurrences :=
    (inScript.trans (listed.mono anywhere)).mem_occurrences
      (by rwa [ObjectName.canonical_singleton]) tablePlaced
  obtain ⟨later, visited, around⟩ :=
    (inScript.trans (used.mono anywhere)).occurrences_around tokenPlaced
  rw [same] at around
  refine ⟨tableFound, tableText, tokenText, tokenKind, ⟨later, visited, around⟩, ?_⟩
  intro undeclared mapping anchors covered occurrence either alone spelled
  have tokenFound : token ∈ found.occurrences := by
    rw [around, if_neg undeclared]
    simp
  have all : found.AllRecorded source.toList := Sql.collect_allRecorded source statements
  rcases either with rfl | rfl
  · exact exists_stage_splice? all tableFound (by rwa [tableText]) alone spelled
  · exact exists_stage_splice? all tokenFound (by rwa [tokenText]) alone spelled

/-- The alias of one selection takes the qualifier of a table away that another selection names.
The table next to it is replaced together with its qualifier. -/
theorem occurrences_of_qualified_table_union :
    let sql := "SELECT t.a FROM x AS t UNION SELECT t.b, u.c FROM t, u"
    let word (value : String) (column : Nat) : Ident := ⟨value, none, ⟨1, column⟩⟩
    let pick (columns : List Sql.Expr) (sources : List Sql.TableWithJoins) : Sql.Select :=
      .mk [] none columns sources [] none none [] [] [] [] none [] none []
    let left := pick [.compound [word "t" 8, word "a" 10]]
      [.mk (.table [word "x" 17] (some ⟨word "t" 22, []⟩) none []) []]
    let right := pick [.compound [word "t" 37, word "b" 39], .compound [word "u" 42, word "c" 44]]
      [.mk (.table [word "t" 51] none none []) [], .mk (.table [word "u" 54] none none []) []]
    let script : List Sql.Statement :=
      [.query (.ofBody (.setOperation (.select left) (.select right)))]
    let found := Sql.collect sql script
    let mapping := Mapping.ofList [("t", "v"), ("u", "w")]
    let run := stages mapping Anchors.default (inOrder found.occurrences) sql.toList
    Renamer.default.references sql = .ok found ∧
      ⟨"t", 50, 51, .relation⟩ ∈ found.occurrences ∧
      ⟨"t", 36, 37, .qualifier⟩ ∉ found.occurrences ∧
      (∃ stage ∈ run, stage.occurrence = ⟨"u", 53, 54, .relation⟩ ∧
        ∃ new, stage.splice? mapping Anchors.default = some ⟨53, 54, new⟩) ∧
      ∃ stage ∈ run, stage.occurrence = ⟨"u", 41, 42, .qualifier⟩ ∧
        ∃ new, stage.splice? mapping Anchors.default = some ⟨41, 42, new⟩ := by
  intro sql word pick left right script found mapping run
  have occurrences : found.occurrences = [⟨"x", 16, 17, .relation⟩, ⟨"t", 50, 51, .relation⟩,
      ⟨"u", 53, 54, .relation⟩, ⟨"u", 41, 42, .qualifier⟩] := by decide +kernel
  have inScript : Node.Reaches (fun _ => True) (.script script) _ (.select right) :=
    .inside (rfl : _ = [] ++ _ :: _) trivial <|
    .inside (rfl : _ = [] ++ _ :: _) trivial <|
    .inside (rfl : _ = [] ++ _ :: _) trivial <|
    .inside (rfl : _ = [_] ++ _ :: _) trivial <|
    .inside (rfl : _ = [] ++ _ :: _) trivial (.here _)
  have listedT : Node.Reaches Node.Direct (.select right) _
      (.factor .operand (.table [word "t" 51] none none [])) :=
    .inside (rfl : _ = [] ++ _ :: _) nofun <|
    .inside (rfl : _ = [] ++ _ :: _) nofun (.here _)
  have usedT : Node.Reaches Node.Direct (.select right) _
      (.expr (.compound [word "t" 37, word "b" 39])) :=
    .inside (rfl : _ = [_, _] ++ _ :: _) nofun (.here _)
  have listedU : Node.Reaches Node.Direct (.select right) _
      (.factor .operand (.table [word "u" 54] none none [])) :=
    .inside (rfl : _ = [_] ++ _ :: _) nofun <|
    .inside (rfl : _ = [] ++ _ :: _) nofun (.here _)
  have usedU : Node.Reaches Node.Direct (.select right) _
      (.expr (.compound [word "u" 42, word "c" 44])) :=
    .inside (rfl : _ = [_, _, _] ++ _ :: _) nofun (.here _)
  obtain ⟨foundT, -⟩ := occurrences_of_qualified_table inScript listedT usedT rfl
    (by decide +kernel)
    (by decide +kernel : ObjectName.occurrence? sql.toList .relation [word "t" 51] =
      some ⟨"t", 50, 51, .relation⟩)
    (by decide +kernel : ObjectName.occurrence? sql.toList .qualifier [word "t" 37] =
      some ⟨"t", 36, 37, .qualifier⟩)
  obtain ⟨-, -, -, -, -, replacedU⟩ := occurrences_of_qualified_table inScript listedU usedU rfl
    (by decide +kernel)
    (by decide +kernel : ObjectName.occurrence? sql.toList .relation [word "u" 54] =
      some ⟨"u", 53, 54, .relation⟩)
    (by decide +kernel : ObjectName.occurrence? sql.toList .qualifier [word "u" 42] =
      some ⟨"u", 41, 42, .qualifier⟩)
  have undeclared : (word "u" 54).canonical ∉ [Text.asciiLower (word "t" 22).value] := by decide
  have replaced := replacedU
    (by
      simpa [Visit.aliases, Visit.declared?, Node.visits_eq_flatMap, Node.parts,
        Sql.TableFactor.parts, Node.declared, Node.named, Sql.Select.sources, Sql.Select.clauses,
        left, pick] using undeclared)
    mapping Anchors.default (by decide +kernel)
  have spelled : ∀ occurrence ∈ found.occurrences,
      holds sql.toList occurrence = true →
        Name.Spelled sql.toList occurrence.start occurrence.text :=
    fun occurrence member =>
      (holds_iff_spelled (Sql.collect_allRecorded sql script occurrence member)).mp
  refine ⟨by decide +kernel, foundT, by rw [occurrences]; decide, ?_, ?_⟩
  · refine replaced _ (.inl rfl) ?_ (spelled _ ?_ (by decide +kernel))
    · rw [Alone, occurrences]
      decide
    · rw [occurrences]
      decide
  · refine replaced _ (.inr rfl) ?_ (spelled _ ?_ (by decide +kernel))
    · rw [Alone, occurrences]
      decide
    · rw [occurrences]
      decide

end Rename

end SqlTables
