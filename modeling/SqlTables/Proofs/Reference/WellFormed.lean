import SqlTables.Proofs.Reference.History

/-!
# What all collected references have in common

Whatever the statements are, and wherever their identifiers claim to stand: the listed tables are
distinct canonical names, and every occurrence begins at a character of the source, ends inside the
source, and is not wider than its name with one pair of delimiters. An occurrence belongs to a
listed table unless it is a qualifier of one part.
-/

namespace SqlTables

/-! ## Lower case -/

def Text.Lowered (text : String) : Prop :=
  ∀ c ∈ text.toList, c.isUpper = false

theorem Text.lowered_asciiLower (text : String) : Lowered (asciiLower text) := by
  intro c member
  rw [asciiLower, String.toList_ofList, List.mem_map] at member
  obtain ⟨original, -, rfl⟩ := member
  exact isUpper_toLower original

theorem ObjectName.lowered_canonical (name : ObjectName) : Text.Lowered name.canonical := by
  rw [← name.asciiLower_raw]
  exact Text.lowered_asciiLower name.raw

/-! ## Listed tables -/

/-- The names of a set are distinct canonical names. -/
structure NameSet.WellFormed (set : NameSet) : Prop where
  distinct : set.names.Nodup
  nonempty : ∀ name ∈ set.names, name ≠ ""
  lowered : ∀ name ∈ set.names, Text.Lowered name

namespace NameSet

theorem WellFormed.insert {set : NameSet} (formed : set.WellFormed) {name : ObjectName}
    (named : name.canonical.isEmpty = false) : (set.insert name.canonical).WellFormed where
  distinct := (set.insert name.canonical).distinct
  nonempty other member := by
    rcases mem_insert.mp member with old | rfl
    · exact formed.nonempty other old
    · intro empty
      simp [empty] at named
  lowered other member := by
    rcases mem_insert.mp member with old | rfl
    · exact formed.lowered other old
    · exact name.lowered_canonical

end NameSet

theorem Visit.tables_wellFormed {source : List Char} (visit : Visit) {found : References}
    (formed : found.tables.WellFormed) : (visit.record source found).tables.WellFormed := by
  cases visit with
  | declares calledAs => exact formed
  | names kind name =>
      cases named : name.canonical.isEmpty with
      | true => simpa only [record, References.addName, named, ↓reduceIte] using formed
      | false =>
          rw [record, References.addName_eq source found named]
          exact formed.insert named
  | qualifies parts =>
      rw [record, References.addQualifier_eq]
      split
      case isTrue => exact formed
      case isFalse => exact formed

/-! ## Occurrences -/

/-- An occurrence has a span of the source that can hold its name. -/
structure Occurrence.WellPlaced (occurrence : Occurrence) (source : List Char) : Prop where
  nonempty : occurrence.start < occurrence.stop
  inRange : occurrence.stop ≤ Text.byteLength source
  onBoundary : (Text.cutAt? source occurrence.start).isSome = true
  width : occurrence.stop - occurrence.start ≤ Text.bytes occurrence.text + 2
  lowered : Text.Lowered occurrence.text
  placed : occurrence.kind.placement ≠ .nameOnly

theorem Recorded.wellPlaced {source : List Char} {tables : NameSet} {occurrence : Occurrence}
    (recorded : Recorded source tables occurrence) : occurrence.WellPlaced source := by
  obtain ⟨before, c, after, rfl, starts, -, positive, stops⟩ :=
    Name.spanAt?_eq_some_iff.mp recorded.spanned
  obtain ⟨name, named, placed⟩ := recorded.placed
  refine ⟨recorded.bounds.1, recorded.bounds.2, ?_, ?_, ?_, ?_⟩
  · rw [← starts, Text.cutAt?_append]
    rfl
  · rw [stops]
    split <;> omega
  · rw [named]
    exact name.lowered_canonical
  · intro nameOnly
    simp [References.startOf?, nameOnly] at placed

/-! ## The references of a source -/

namespace Visit

theorem exists_of_mem_origins {source : List Char} {seen visits : List Visit} {visit : Visit}
    {occurrence : Occurrence} (member : (visit, occurrence) ∈ origins source seen visits) :
    ∃ earlier later, visits = earlier ++ visit :: later ∧
      visit.yield? source (seen ++ earlier) = some occurrence := by
  induction visits generalizing seen with
  | nil => simp [origins] at member
  | cons first rest ih =>
      rw [origins, List.mem_append] at member
      rcases member with here | behind
      · obtain ⟨same, yields⟩ : first = visit ∧ first.yield? source seen = some occurrence := by
          cases yields : first.yield? source seen <;> simp_all
        subst same
        exact ⟨[], rest, rfl, by simpa using yields⟩
      · obtain ⟨earlier, later, rfl, yields⟩ := ih behind
        exact ⟨first :: earlier, later, rfl, by simpa using yields⟩

/-- A qualifier of several parts yields an occurrence only of a table listed before. -/
theorem text_mem_tables_of_yield? {source : List Char} {seen : List Visit} {parts : List Ident}
    {occurrence : Occurrence} (several : 2 ≤ parts.dropLast.length)
    (yields : (qualifies parts).yield? source seen = some occurrence) :
    occurrence.text ∈ tables seen := by
  obtain ⟨⟨-, known⟩, found⟩ := yield?_qualifies_eq_some_iff.mp yields
  rw [ObjectName.text_eq_of_occurrence? found]
  rcases known with single | listed
  · omega
  · exact listed

end Visit

namespace Sql

theorem collect_tables_wellFormed (source : String) (statements : List Statement) :
    (collect source statements).tables.WellFormed := by
  have initially : References.empty.tables.WellFormed :=
    ⟨List.nodup_nil, by simp [References.empty, NameSet.empty],
      by simp [References.empty, NameSet.empty]⟩
  rw [collect_eq_recordAll]
  exact Visit.recordAll_preserves (motive := fun found => found.tables.WellFormed)
    (fun visit _ => visit.tables_wellFormed) _ initially

/-- The references of any statements in any source are well-formed: the listed tables are distinct
canonical names, every occurrence comes from a visit and has a span of the source that can hold
its name, and its text is a listed table unless it comes from a qualifier of one part. -/
theorem collect_wellFormed (source : String) (statements : List Statement) :
    let found := collect source statements
    let origins := Visit.origins source.toList [] (Node.script statements).visits
    found.tables.WellFormed ∧ found.occurrences = origins.map Prod.snd ∧
      ∀ visit occurrence, (visit, occurrence) ∈ origins →
        occurrence.WellPlaced source.toList ∧
        (occurrence.kind ≠ .qualifier → occurrence.text ∈ found.tables.names) ∧
        (∀ parts, visit = .qualifies parts → 2 ≤ parts.dropLast.length →
          occurrence.text ∈ found.tables.names) := by
  intro found origins
  have reflects : Visit.Reflects (Node.script statements).visits found :=
    collect_reflects source statements
  have listedAll : found.occurrences = origins.map Prod.snd :=
    collect_occurrences source statements
  refine ⟨collect_tables_wellFormed source statements, listedAll, ?_⟩
  intro visit occurrence member
  have recorded : Recorded source.toList found.tables occurrence := by
    refine collect_allRecorded source statements occurrence ?_
    change occurrence ∈ found.occurrences
    rw [listedAll]
    exact List.mem_map_of_mem member
  refine ⟨recorded.wellPlaced, recorded.listed, ?_⟩
  rintro parts rfl several
  obtain ⟨earlier, later, split, yields⟩ := Visit.exists_of_mem_origins member
  have listed := Visit.text_mem_tables_of_yield? several yields
  rw [reflects.tables, split, Visit.mem_tables_append]
  exact .inl listed

/-- The qualifier of a column that is qualified by a name of two parts. -/
theorem collect_wellFormed_qualifier :
    let source := "SELECT Sales.Orders.id FROM Sales.Orders"
    let word (value : String) (column : Nat) : Ident := ⟨value, none, ⟨1, column⟩⟩
    let column := [word "Sales" 8, word "Orders" 14, word "id" 21]
    let relation := TableFactor.table [word "Sales" 29, word "Orders" 35] none none []
    let script := [Statement.query (.ofBody (.select (.mk [] none [.compound column]
      [.mk relation []] [] none none [] [] [] [] none [] none [])))]
    let qualifier : Occurrence := ⟨"sales.orders", 7, 19, .qualifier⟩
    (Visit.qualifies column, qualifier) ∈
        Visit.origins source.toList [] (Node.script script).visits ∧
      qualifier.WellPlaced source.toList ∧
      qualifier.text ∈ (collect source script).tables.names := by
  intro source word column relation script qualifier
  have visits : (Node.script script).visits =
      [.names .relation [word "Sales" 29, word "Orders" 35], .qualifies column] := by
    simp [script, relation, Node.visits_eq_flatMap, Node.parts, Statement.parts, Query.ofBody,
      TableFactor.parts, Node.declared, Node.named, Select.sources, Select.clauses]
  have member : (Visit.qualifies column, qualifier) ∈
      Visit.origins source.toList [] (Node.script script).visits := by
    rw [visits]
    decide +kernel
  obtain ⟨-, -, each⟩ := collect_wellFormed source script
  obtain ⟨placed, -, listed⟩ := each _ _ member
  exact ⟨member, placed, listed column rfl (by decide)⟩

end Sql

end SqlTables
