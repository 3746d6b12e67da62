import SqlTables.Proofs.Reference.Recorded

/-!
# What each visit yields

The references found so far are a summary of the visits so far: of the aliases that were declared
and of the tables that were named. A visit yields at most one occurrence, and which one can be told
from the visits before it. So the occurrences of a source are listed here without keeping a state,
each with the visit that it comes from.
-/

namespace SqlTables

/-! ## Canonical names -/

theorem Text.asciiLower_append (first second : String) :
    asciiLower (first ++ second) = asciiLower first ++ asciiLower second := by
  simp [asciiLower]

@[simp]
theorem ObjectName.canonical_singleton (ident : Ident) :
    ObjectName.canonical [ident] = ident.canonical := by
  simp [canonical]

/-- The canonical form of a name is its dotted form in lower case. -/
theorem ObjectName.asciiLower_raw (name : ObjectName) :
    Text.asciiLower name.raw = name.canonical := by
  induction name with
  | nil => rfl
  | cons first rest ih =>
      cases rest with
      | nil => simp [raw, canonical, Ident.canonical]
      | cons second rest =>
          simp only [raw, canonical, List.map_cons, String.intercalate_cons_cons,
            Text.asciiLower_append] at ih ⊢
          rw [ih]
          rfl

/-! ## Sets of names -/

theorem AliasSet.contains_insert {set : AliasSet} {name other : String} :
    (set.insert name).contains other = true ↔
      set.contains other = true ∨ Text.asciiLower other = Text.asciiLower name := by
  unfold insert
  split
  case isTrue known =>
    constructor
    · exact Or.inl
    · rintro (old | same)
      · exact old
      · rwa [contains, same]
  case isFalse => simp [contains, or_comm]

/-! ## Histories -/

namespace Visit

/-- The alias that a visit declares, as aliases are compared. -/
def declared? : Visit → Option String
  | declares calledAs => some (Text.asciiLower calledAs.name.value)
  | names _ _ | qualifies _ => none

def listed? : Visit → Option String
  | names _ name => if name.canonical.isEmpty then none else some name.canonical
  | declares _ | qualifies _ => none

def aliases (visits : List Visit) : List String :=
  visits.filterMap declared?

def tables (visits : List Visit) : List String :=
  visits.filterMap listed?

theorem mem_aliases_append {first second : List Visit} {name : String} :
    name ∈ aliases (first ++ second) ↔ name ∈ aliases first ∨ name ∈ aliases second := by
  simp [aliases]

theorem mem_tables_append {first second : List Visit} {name : String} :
    name ∈ tables (first ++ second) ↔ name ∈ tables first ∨ name ∈ tables second := by
  simp [tables]

/-- A qualifier counts as the name of a table after the visits seen before. -/
def Admits (seen : List Visit) (qualifier : ObjectName) : Prop :=
  qualifier.canonical ∉ aliases seen ∧
    (qualifier.length = 1 ∨ qualifier.canonical ∈ tables seen)

instance decidableAdmits (seen : List Visit) (qualifier : ObjectName) :
    Decidable (Admits seen qualifier) :=
  inferInstanceAs (Decidable (_ ∧ _))

/-- The occurrence that a visit yields after the visits seen before. -/
def yield? (source : List Char) (seen : List Visit) : Visit → Option Occurrence
  | declares _ => none
  | names kind name =>
    if name.canonical.isEmpty then none else name.occurrence? source kind
  | qualifies parts =>
    if Admits seen parts.dropLast then
      ObjectName.occurrence? source .qualifier parts.dropLast
    else
      none

theorem yield?_qualifies_eq_some_iff {source : List Char} {seen : List Visit}
    {parts : List Ident} {occurrence : Occurrence} :
    (qualifies parts).yield? source seen = some occurrence ↔
      Admits seen parts.dropLast ∧
        ObjectName.occurrence? source .qualifier parts.dropLast = some occurrence := by
  rw [yield?, Option.ite_none_right_eq_some]

/-- The occurrences that visits yield one after the other, each with its visit. -/
def origins (source : List Char) : List Visit → List Visit → List (Visit × Occurrence)
  | _, [] => []
  | seen, visit :: later =>
    ((visit.yield? source seen).map fun occurrence => (visit, occurrence)).toList ++
      origins source (seen ++ [visit]) later

theorem origins_append (source : List Char) (seen visits later : List Visit) :
    origins source seen (visits ++ later) =
      origins source seen visits ++ origins source (seen ++ visits) later := by
  induction visits generalizing seen with
  | nil => simp [origins]
  | cons visit rest ih => simp [origins, ih]

theorem contains_aliases_record {source : List Char} {found : References} {visit : Visit}
    {name : String} :
    (visit.record source found).aliases.contains name = true ↔
      found.aliases.contains name = true ∨ visit.declared? = some (Text.asciiLower name) := by
  cases visit with
  | declares calledAs =>
      rw [record, References.addAlias, AliasSet.contains_insert, declared?, Option.some.injEq,
        @eq_comm _ (Text.asciiLower name)]
  | names kind named =>
      cases empty : ObjectName.canonical named |>.isEmpty with
      | true => simp [record, References.addName, empty, declared?]
      | false => simp [record, References.addName_eq source found empty, declared?]
  | qualifies parts =>
      rw [record, References.addQualifier_eq]
      split <;> simp [declared?]

theorem mem_tables_record {source : List Char} {found : References} {visit : Visit}
    {name : String} :
    name ∈ (visit.record source found).tables.names ↔
      name ∈ found.tables.names ∨ visit.listed? = some name := by
  cases visit with
  | declares calledAs => simp [record, References.addAlias, listed?]
  | names kind named =>
      cases empty : ObjectName.canonical named |>.isEmpty with
      | true => simp [record, References.addName, empty, listed?]
      | false => simp [record, References.addName_eq source found empty, listed?, empty, eq_comm]
  | qualifies parts =>
      rw [record, References.addQualifier_eq]
      split <;> simp [listed?]

/-- References are a summary of the visits seen so far. -/
structure Reflects (seen : List Visit) (found : References) : Prop where
  aliases : ∀ name, found.aliases.contains name = true ↔ Text.asciiLower name ∈ aliases seen
  tables : ∀ name, name ∈ found.tables.names ↔ name ∈ tables seen

theorem reflects_empty : Reflects [] References.empty :=
  ⟨fun _ => by simp [References.empty, AliasSet.empty, AliasSet.contains, Visit.aliases],
    fun _ => by simp [References.empty, NameSet.empty, Visit.tables]⟩

section

variable {source : List Char} {seen : List Visit} {found : References}

theorem Reflects.admits_iff (reflects : Reflects seen found) (qualifier : ObjectName) :
    found.Admits qualifier ↔ Admits seen qualifier := by
  rw [References.Admits, Admits, reflects.tables, ← Bool.not_eq_true, reflects.aliases,
    ObjectName.asciiLower_raw]

theorem Reflects.record_occurrences (reflects : Reflects seen found) (visit : Visit) :
    (visit.record source found).occurrences =
      found.occurrences ++ (visit.yield? source seen).toList := by
  cases visit with
  | declares calledAs => simp [record, References.addAlias, yield?]
  | names kind name =>
      cases named : name.canonical.isEmpty with
      | true => simp [record, References.addName, yield?, named]
      | false => simp [record, References.addName_eq source found named, yield?, named]
  | qualifies parts =>
      rw [record, References.addQualifier_eq, yield?]
      by_cases admits : Admits seen parts.dropLast
      · rw [if_pos ((reflects.admits_iff _).mpr admits), if_pos admits]
      · rw [if_neg (mt (reflects.admits_iff _).mp admits), if_neg admits]
        simp

theorem Reflects.record (reflects : Reflects seen found) (visit : Visit) :
    Reflects (seen ++ [visit]) (visit.record source found) := by
  constructor
  · intro name
    rw [contains_aliases_record, reflects.aliases, mem_aliases_append]
    simp [Visit.aliases]
  · intro name
    rw [mem_tables_record, reflects.tables, mem_tables_append]
    simp [Visit.tables]

/-- A run adds the occurrences that its visits yield, and the references reflect all of them. -/
theorem Reflects.recordAll (reflects : Reflects seen found) (visits : List Visit) :
    Reflects (seen ++ visits) (recordAll source visits found) ∧
      (recordAll source visits found).occurrences =
        found.occurrences ++ (origins source seen visits).map Prod.snd := by
  induction visits generalizing seen found with
  | nil => simpa [Visit.recordAll, origins] using reflects
  | cons visit later ih =>
      obtain ⟨reflectsAll, added⟩ := ih (reflects.record visit)
      rw [List.append_assoc] at reflectsAll
      refine ⟨reflectsAll, ?_⟩
      rw [recordAll_cons, added, reflects.record_occurrences, origins]
      cases visit.yield? source seen <;> simp

end

end Visit

namespace Sql

theorem collect_reflects (source : String) (statements : List Statement) :
    Visit.Reflects (Node.script statements).visits (collect source statements) := by
  rw [collect_eq_recordAll]
  exact (Visit.reflects_empty.recordAll _).1

/-- The occurrences of a source are those that the visits to its statements yield. -/
theorem collect_occurrences (source : String) (statements : List Statement) :
    (collect source statements).occurrences =
      (Visit.origins source.toList [] (Node.script statements).visits).map Prod.snd := by
  rw [collect_eq_recordAll]
  exact (Visit.reflects_empty.recordAll _).2

end Sql

end SqlTables
