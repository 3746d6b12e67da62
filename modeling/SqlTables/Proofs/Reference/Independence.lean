import SqlTables.Proofs.Reference.History
import SqlTables.Renamer

/-!
# Statements of one source

A source is walked with one set of aliases and one set of tables, which are not emptied between its
statements. So an earlier statement can change what a later one yields, in two ways: an alias of it
hides a table, and a table of it lets through a qualifier of several parts. The occurrences of the
statements together are those of each statement alone exactly if neither happens.
-/

namespace SqlTables

namespace Visit

/-! ## Interference with a qualifier -/

section

variable {before own : List Visit} {qualifier : ObjectName}

/-- What was visited before a statement changes whether a qualifier counts as the name of a table
after the statement's own visits so far. -/
inductive Interferes (before own : List Visit) (qualifier : ObjectName) : Prop where
  /-- An alias from before hides a table of the statement. -/
  | hides (alone : Admits own qualifier) (declared : qualifier.canonical ∈ aliases before)
  /-- A table from before lets a qualifier through that the statement alone does not admit. -/
  | lends (several : qualifier.length ≠ 1)
      (undeclared : qualifier.canonical ∉ aliases (before ++ own))
      (unlisted : qualifier.canonical ∉ tables own) (listed : qualifier.canonical ∈ tables before)

theorem admits_append_iff_of_not_interferes (apart : ¬ Interferes before own qualifier) :
    Admits (before ++ own) qualifier ↔ Admits own qualifier := by
  constructor
  · rintro ⟨undeclared, known⟩
    refine ⟨fun declared => undeclared (mem_aliases_append.mpr (.inr declared)), ?_⟩
    rcases Decidable.em (qualifier.length = 1) with single | several
    · exact .inl single
    · have listed := mem_tables_append.mp (known.resolve_left several)
      refine .inr (Decidable.byContradiction fun unlisted => ?_)
      exact apart (.lends several undeclared unlisted (listed.resolve_right unlisted))
  · intro alone
    refine ⟨fun declared => ?_, ?_⟩
    · rcases mem_aliases_append.mp declared with earlier | owned
      · exact apart (.hides alone earlier)
      · exact alone.1 owned
    · exact alone.2.imp_right fun listed => mem_tables_append.mpr (.inr listed)

theorem Interferes.not_admits_append_iff (interferes : Interferes before own qualifier) :
    ¬ (Admits (before ++ own) qualifier ↔ Admits own qualifier) := by
  intro same
  cases interferes with
  | hides alone declared =>
      exact (same.mpr alone).1 (mem_aliases_append.mpr (.inl declared))
  | lends several undeclared unlisted listed =>
      have together : Admits (before ++ own) qualifier :=
        ⟨undeclared, .inr (mem_tables_append.mpr (.inl listed))⟩
      exact (same.mp together).2.elim several unlisted

end

/-! ## Yields of one text

Of the occurrences with some given text, visits from before can only take some away (if the text is
an alias from before) or only add some. So equally many of them are the same ones. -/

section

variable {source : List Char} {text : String} {first second : List Visit}

/-- Whatever is yielded with a text after some visits is also yielded after others. -/
def YieldsLess (source : List Char) (text : String) (first second : List Visit) : Prop :=
  ∀ own visit occurrence, occurrence.text = text →
    yield? source (first ++ own) visit = some occurrence →
      yield? source (second ++ own) visit = some occurrence

theorem YieldsLess.append (less : YieldsLess source text first second) (visits : List Visit) :
    YieldsLess source text (first ++ visits) (second ++ visits) := by
  intro own visit occurrence
  simpa using less (visits ++ own) visit occurrence

def countYields (source : List Char) (text : String) (seen visits : List Visit) : Nat :=
  ((origins source seen visits).map Prod.snd).countP fun occurrence => occurrence.text == text

theorem countYields_append (source : List Char) (text : String) (seen visits later : List Visit) :
    countYields source text seen (visits ++ later) =
      countYields source text seen visits +
        countYields source text (seen ++ visits) later := by
  simp [countYields, origins_append]

theorem countYields_singleton (source : List Char) (text : String) (seen : List Visit)
    (visit : Visit) :
    countYields source text seen [visit] =
      (visit.yield? source seen).toList.countP fun occurrence => occurrence.text == text := by
  cases yields : visit.yield? source seen <;> simp [countYields, origins, yields]

theorem YieldsLess.countYields_singleton_le (less : YieldsLess source text first second)
    (visit : Visit) :
    countYields source text first [visit] ≤ countYields source text second [visit] := by
  rw [countYields_singleton, countYields_singleton]
  cases yields : visit.yield? source first with
  | none => simp
  | some occurrence =>
      by_cases named : occurrence.text = text
      · have also := less [] visit occurrence named (by simpa using yields)
        rw [List.append_nil] at also
        exact Nat.le_of_eq (by rw [also])
      · simp [named]

theorem YieldsLess.countYields_le (less : YieldsLess source text first second)
    (visits : List Visit) :
    countYields source text first visits ≤ countYields source text second visits := by
  induction visits generalizing first second with
  | nil => exact Nat.le_refl 0
  | cons visit later ih =>
      rw [← List.singleton_append, countYields_append, countYields_append]
      exact Nat.add_le_add (less.countYields_singleton_le visit) (ih (less.append [visit]))

theorem yieldsLess_or_yieldsLess (source : List Char) (text : String) (before : List Visit) :
    YieldsLess source text before [] ∨ YieldsLess source text [] before := by
  by_cases declared : text ∈ aliases before
  · refine .inl fun own visit occurrence named yields => ?_
    cases visit with
    | declares | names => exact yields
    | qualifies parts =>
        obtain ⟨admits, placed⟩ := yield?_qualifies_eq_some_iff.mp yields
        rw [← named, ObjectName.text_eq_of_occurrence? placed] at declared
        exact absurd (mem_aliases_append.mpr (.inl declared)) admits.1
  · refine .inr fun own visit occurrence named yields => ?_
    cases visit with
    | declares | names => exact yields
    | qualifies parts =>
        obtain ⟨admits, placed⟩ := yield?_qualifies_eq_some_iff.mp yields
        rw [← named, ObjectName.text_eq_of_occurrence? placed] at declared
        refine yield?_qualifies_eq_some_iff.mpr ⟨⟨fun member => ?_, ?_⟩, placed⟩
        · exact (mem_aliases_append.mp member).elim declared admits.1
        · exact admits.2.imp_right fun listed => mem_tables_append.mpr (.inr listed)

/-- If as much is yielded, then the same is yielded by every visit. -/
theorem YieldsLess.yield?_of_countYields_eq (less : YieldsLess source text first second)
    {own later : List Visit} {visit : Visit} {occurrence : Occurrence}
    (same : countYields source text first (own ++ visit :: later) =
      countYields source text second (own ++ visit :: later))
    (named : occurrence.text = text)
    (yields : yield? source (second ++ own) visit = some occurrence) :
    yield? source (first ++ own) visit = some occurrence := by
  have atOwn := less.countYields_le own
  have atVisit := (less.append own).countYields_singleton_le visit
  have atLater := ((less.append own).append [visit]).countYields_le later
  rw [← List.singleton_append, countYields_append, countYields_append, countYields_append,
    countYields_append] at same
  have equal : countYields source text (first ++ own) [visit] =
      countYields source text (second ++ own) [visit] := by omega
  rw [countYields_singleton, countYields_singleton, yields] at equal
  cases other : yield? source (first ++ own) visit with
  | none => simp [other, named] at equal
  | some yielded =>
      have named' : yielded.text = text := by simpa [other, named] using equal
      rw [← yields, less own visit yielded named' other]

end

/-! ## Interference with a statement -/

section

variable {source : List Char} {before own visits : List Visit} {parts : List Ident}

/-- What was visited before a statement interferes with one of its qualifiers, and this qualifier
has a place in the source. -/
def Disturbs (source : List Char) (before visits : List Visit) : Prop :=
  ∃ own parts later, visits = own ++ qualifies parts :: later ∧
    (ObjectName.occurrence? source .qualifier parts.dropLast).isSome ∧
    Interferes before own parts.dropLast

theorem yield?_append_eq_iff :
    (qualifies parts).yield? source (before ++ own) = (qualifies parts).yield? source own ↔
      ((ObjectName.occurrence? source .qualifier parts.dropLast).isSome →
        ¬ Interferes before own parts.dropLast) := by
  constructor
  · intro same placed interferes
    obtain ⟨occurrence, placed⟩ := Option.isSome_iff_exists.mp placed
    have yields_iff (seen : List Visit) :
        (qualifies parts).yield? source seen = some occurrence ↔ Admits seen parts.dropLast := by
      rw [yield?_qualifies_eq_some_iff, and_iff_left placed]
    exact interferes.not_admits_append_iff (by rw [← yields_iff, ← yields_iff, same])
  · intro apart
    refine Option.ext fun occurrence => ?_
    rw [yield?_qualifies_eq_some_iff, yield?_qualifies_eq_some_iff, and_congr_left_iff]
    intro placed
    exact admits_append_iff_of_not_interferes (apart (by simp [placed]))

theorem origins_congr {first second : List Visit}
    (same : ∀ own visit later, visits = own ++ visit :: later →
      yield? source (first ++ own) visit = yield? source (second ++ own) visit) :
    origins source first visits = origins source second visits := by
  induction visits generalizing first second with
  | nil => rfl
  | cons visit rest ih =>
      have atVisit := same [] visit rest rfl
      rw [List.append_nil, List.append_nil] at atVisit
      rw [origins, origins, atVisit]
      congr 1
      refine ih fun own other later split => ?_
      simpa using same (visit :: own) other later (by rw [split, List.cons_append])

/-- Visits yield what they yield without the visits before exactly if these do not disturb them. -/
theorem map_origins_eq_iff :
    (origins source before visits).map Prod.snd = (origins source [] visits).map Prod.snd ↔
      ¬ Disturbs source before visits := by
  constructor
  · rintro same ⟨own, parts, later, rfl, placed, interferes⟩
    refine yield?_append_eq_iff.mp (Option.ext fun occurrence => ?_) placed interferes
    have counted : countYields source occurrence.text before (own ++ qualifies parts :: later) =
        countYields source occurrence.text [] (own ++ qualifies parts :: later) := by
      rw [countYields, same, countYields]
    rcases yieldsLess_or_yieldsLess source occurrence.text before with less | less
    · exact ⟨less own _ _ rfl, less.yield?_of_countYields_eq counted rfl⟩
    · exact ⟨less.yield?_of_countYields_eq counted.symm rfl, less own _ _ rfl⟩
  · intro undisturbed
    congr 1
    refine origins_congr fun own visit later split => ?_
    cases visit with
    | declares | names => rfl
    | qualifies parts =>
        refine yield?_append_eq_iff.mpr fun placed interferes => ?_
        exact undisturbed ⟨own, parts, later, split, placed, interferes⟩

end

end Visit

/-! ## Scripts -/

namespace Sql

namespace Node

theorem visits_script_append (first second : List Statement) :
    (script (first ++ second)).visits = (script first).visits ++ (script second).visits := by
  simp [visits_eq_flatMap, parts]

theorem visits_script_singleton (inner : Statement) :
    (script [inner]).visits = (statement inner).visits := by
  rw [visits_eq_flatMap (by nofun)]
  simp [parts]

end Node

theorem collect_concat_occurrences (source : String) (before : List Statement)
    (statement : Statement) :
    (collect source (before ++ [statement])).occurrences =
      (collect source before).occurrences ++
        (Visit.origins source.toList (Node.script before).visits
          (Node.statement statement).visits).map Prod.snd := by
  simp [collect_occurrences, Node.visits_script_append, Node.visits_script_singleton,
    Visit.origins_append]

theorem collect_singleton_occurrences (source : String) (statement : Statement) :
    (collect source [statement]).occurrences =
      (Visit.origins source.toList [] (Node.statement statement).visits).map Prod.snd := by
  rw [collect_occurrences, Node.visits_script_singleton]

/-- If no statement is disturbed by those before it, each adds what it has alone. -/
theorem map_origins_script_eq_flatMap {source : String} {before statements : List Statement}
    (undisturbed : ∀ earlier statement later, statements = earlier ++ statement :: later →
      ¬ Visit.Disturbs source.toList (Node.script (before ++ earlier)).visits
        (Node.statement statement).visits) :
    (Visit.origins source.toList (Node.script before).visits
        (Node.script statements).visits).map Prod.snd =
      statements.flatMap fun statement => (collect source [statement]).occurrences := by
  induction statements generalizing before with
  | nil => simp [Node.visits_eq_flatMap, Node.parts, Visit.origins]
  | cons first rest ih =>
      have atFirst := undisturbed [] first rest rfl
      rw [List.append_nil, ← Visit.map_origins_eq_iff, ← collect_singleton_occurrences] at atFirst
      have atRest := @ih (before ++ [first]) fun earlier statement later split => by
        simpa using undisturbed (first :: earlier) statement later (by rw [split]; rfl)
      rw [Node.visits_script_append, Node.visits_script_singleton] at atRest
      rw [← List.singleton_append, Node.visits_script_append, Node.visits_script_singleton,
        Visit.origins_append, List.map_append, atFirst, atRest]
      rfl

/-- However far the statements of a source are collected, their occurrences are those that each
statement has alone, one after the other, exactly if no statement is disturbed by those before it:
if none of them has a qualifier that an alias from before hides, or that a table from before lends
its name to. -/
theorem collect_occurrences_eq_flatMap_iff (source : String) (statements : List Statement) :
    (∀ shorter, shorter <+: statements →
      (collect source shorter).occurrences =
        shorter.flatMap fun statement => (collect source [statement]).occurrences) ↔
    ∀ before statement after, statements = before ++ statement :: after →
      ¬ Visit.Disturbs source.toList (Node.script before).visits
        (Node.statement statement).visits := by
  constructor
  · rintro independent before statement after rfl
    have without := independent before (List.prefix_append _ _)
    have together := independent (before ++ [statement]) ⟨after, by simp⟩
    rw [collect_concat_occurrences, without, List.flatMap_append, List.append_cancel_left_eq,
      List.flatMap_singleton, collect_singleton_occurrences] at together
    exact Visit.map_origins_eq_iff.mp together
  · rintro undisturbed shorter ⟨rest, rfl⟩
    have splits : ∀ earlier statement later, shorter = earlier ++ statement :: later →
        ¬ Visit.Disturbs source.toList (Node.script ([] ++ earlier)).visits
          (Node.statement statement).visits := by
      intro earlier statement later split
      exact undisturbed earlier statement (later ++ rest) (by simp [split])
    rw [collect_occurrences, ← map_origins_script_eq_flatMap splits]
    simp [Node.visits_eq_flatMap, Node.parts]

/-- The alias of the first selection hides the table of the second one. -/
theorem collect_occurrences_eq_flatMap_iff_alias :
    let sql := "SELECT t.a FROM x AS t; SELECT t.b FROM t"
    ∃ statements, Renamer.default.statements sql = .ok statements ∧
      (collect sql statements).occurrences ≠
        (statements.flatMap fun statement => (collect sql [statement]).occurrences) ∧
      ∃ before statement after, statements = before ++ statement :: after ∧
        Visit.Disturbs sql.toList (Node.script before).visits
          (Node.statement statement).visits := by
  intro sql
  have differ : ((Renamer.default.statements sql).toOption.any fun statements =>
      (collect sql statements).occurrences !=
        statements.flatMap fun statement => (collect sql [statement]).occurrences) = true := by
    decide +kernel
  cases readable : Renamer.default.statements sql with
  | error reason => simp [readable, Except.toOption] at differ
  | ok statements =>
      have apart : (collect sql statements).occurrences ≠
          statements.flatMap fun statement => (collect sql [statement]).occurrences := by
        simpa [readable, Except.toOption] using differ
      refine ⟨statements, rfl, apart, ?_⟩
      apply Classical.byContradiction
      intro undisturbed
      refine apart ((collect_occurrences_eq_flatMap_iff sql statements).mpr ?_ statements
        (List.prefix_refl statements))
      exact fun before statement after split disturbs =>
        undisturbed ⟨before, statement, after, split, disturbs⟩

end Sql

end SqlTables
