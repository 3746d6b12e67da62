import SqlTables.Proofs.Name.Spelling
import SqlTables.Proofs.Reference.Walk

/-!
# Where recorded occurrences come from

Every occurrence of the references of a source is the span of an object name: its text is the
canonical name, its start is derived from the positions of the identifiers as its kind demands,
and its span is the one of the name there. All but qualifiers are listed among the tables.
-/

namespace SqlTables

@[simp]
theorem NameSet.mem_insert {set : NameSet} {name other : String} :
    other ∈ (set.insert name).names ↔ other ∈ set.names ∨ other = name := by
  unfold insert contains
  split
  case isTrue known =>
    have member : name ∈ set.names := by simpa using known
    constructor
    · exact Or.inl
    · rintro (old | rfl)
      · exact old
      · exact member
  case isFalse => simp

/-! ## The occurrence of a name -/

/-- The occurrence of a name of some kind, if the name can be placed in the source. -/
def ObjectName.occurrence? (source : List Char) (kind : ReferenceKind) (name : ObjectName) :
    Option Occurrence := do
  let start ← References.startOf? source kind name
  let span ← Name.spanAt? source start name.canonical
  return ⟨name.canonical, span.1, span.2, kind⟩

theorem ObjectName.occurrence?_eq_some_iff {source : List Char} {kind : ReferenceKind}
    {name : ObjectName} {occurrence : Occurrence} :
    name.occurrence? source kind = some occurrence ↔
      References.startOf? source kind name = some occurrence.start ∧
        Name.spanAt? source occurrence.start name.canonical =
          some (occurrence.start, occurrence.stop) ∧
        occurrence.text = name.canonical ∧ occurrence.kind = kind := by
  simp only [occurrence?, Option.bind_eq_bind, Option.bind_eq_some_iff, Option.pure_def,
    Option.some.injEq]
  constructor
  · rintro ⟨start, starts, ⟨first, stop⟩, spanned, rfl⟩
    obtain ⟨-, -, -, -, -, rfl, -⟩ := Name.spanAt?_eq_some_iff.mp spanned
    exact ⟨starts, spanned, rfl, rfl⟩
  · obtain ⟨text, start, stop, kind⟩ := occurrence
    rintro ⟨starts, spanned, rfl, rfl⟩
    exact ⟨start, starts, (start, stop), spanned, rfl⟩

theorem ObjectName.text_eq_of_occurrence? {source : List Char} {kind : ReferenceKind}
    {name : ObjectName} {occurrence : Occurrence}
    (placed : name.occurrence? source kind = some occurrence) :
    occurrence.text = name.canonical :=
  (occurrence?_eq_some_iff.mp placed).2.2.1

namespace References

section

variable (source : List Char) (found : References)

theorem addOccurrence_eq (text : String) (start : Nat) (kind : ReferenceKind) :
    found.addOccurrence source text start kind =
      { found with
        occurrences := found.occurrences ++
          ((Name.spanAt? source start text).map fun span =>
            (⟨text, span.1, span.2, kind⟩ : Occurrence)).toList } := by
  unfold addOccurrence
  split
  case h_1 first stop spanned => simp [spanned]
  case h_2 unspanned => simp [unspanned]

theorem addName_eq {kind : ReferenceKind} {name : ObjectName}
    (named : name.canonical.isEmpty = false) :
    found.addName source kind name =
      { found with
        tables := found.tables.insert name.canonical
        occurrences := found.occurrences ++ (name.occurrence? source kind).toList } := by
  cases starts : startOf? source kind name with
  | none => simp [addName, named, ObjectName.occurrence?, starts]
  | some start =>
      cases spanned : Name.spanAt? source start name.canonical <;>
        simp [addName, named, addOccurrence_eq, ObjectName.occurrence?, starts, spanned]

/-- A qualifier counts as the name of a table: it is no alias and, if it has several parts, it is
listed. -/
def Admits (qualifier : ObjectName) : Prop :=
  found.aliases.contains qualifier.raw = false ∧
    (qualifier.length = 1 ∨ qualifier.canonical ∈ found.tables.names)

instance decidableAdmits (qualifier : ObjectName) : Decidable (found.Admits qualifier) :=
  inferInstanceAs (Decidable (_ ∧ _))

/-- The two forms of qualifiers differ only in that one of several parts has to be listed. Both
are placed by their first part. -/
theorem addQualifier_cons {parts : List Ident} {base : Ident} {others : List Ident}
    (qualifier : parts.dropLast = base :: others) :
    found.addQualifier source parts =
      if found.Admits (base :: others) then
        (base.offset? source).elim found fun start =>
          found.addOccurrence source (ObjectName.canonical (base :: others)) start .qualifier
      else found := by
  unfold addQualifier
  cases others with
  | nil =>
      have single : found.Admits [base] ↔ found.aliases.contains base.value = false := by
        simp [Admits, ObjectName.raw]
      simp only [qualifier, single]
      cases found.aliases.contains base.value with
      | true => rfl
      | false => cases base.offset? source <;> rfl
  | cons second others =>
      have several : found.Admits (base :: second :: others) ↔
          found.aliases.contains (ObjectName.raw (base :: second :: others)) = false ∧
            found.tables.contains (ObjectName.canonical (base :: second :: others)) = true := by
        simp [Admits, NameSet.contains]
      simp only [qualifier, several]
      cases found.aliases.contains (ObjectName.raw (base :: second :: others)) with
      | true => rfl
      | false =>
          cases found.tables.contains (ObjectName.canonical (base :: second :: others)) with
          | false => rfl
          | true => cases base.offset? source <;> rfl

/-- A qualifier that counts as the name of a table adds its occurrence if it has one, and any other
adds nothing. -/
theorem addQualifier_eq (parts : List Ident) :
    found.addQualifier source parts =
      if found.Admits parts.dropLast then
        { found with
          occurrences := found.occurrences ++
            (ObjectName.occurrence? source .qualifier parts.dropLast).toList }
      else found := by
  cases qualifier : parts.dropLast with
  | nil =>
      simp [addQualifier, qualifier, ObjectName.occurrence?, startOf?, ReferenceKind.placement]
  | cons base others =>
      rw [addQualifier_cons source found qualifier]
      congr 1
      have starts : startOf? source .qualifier (base :: others) = base.offset? source := rfl
      cases offset : base.offset? source with
      | none => simp [ObjectName.occurrence?, starts, offset]
      | some start =>
          cases spanned : Name.spanAt? source start (ObjectName.canonical (base :: others)) <;>
            simp [addOccurrence_eq, ObjectName.occurrence?, starts, offset, spanned]

end

end References

/-! ## Recorded occurrences -/

/-- What is known of an occurrence once it is recorded. -/
structure Recorded (source : List Char) (tables : NameSet) (occurrence : Occurrence) : Prop where
  placed : ∃ name : ObjectName, occurrence.text = name.canonical ∧
    References.startOf? source occurrence.kind name = some occurrence.start
  spanned : Name.spanAt? source occurrence.start occurrence.text =
    some (occurrence.start, occurrence.stop)
  listed : occurrence.kind ≠ .qualifier → occurrence.text ∈ tables.names

theorem Recorded.mono {source : List Char} {tables more : NameSet} {occurrence : Occurrence}
    (grows : ∀ name ∈ tables.names, name ∈ more.names)
    (recorded : Recorded source tables occurrence) : Recorded source more occurrence :=
  ⟨recorded.placed, recorded.spanned, fun named => grows _ (recorded.listed named)⟩

theorem Recorded.bounds {source : List Char} {tables : NameSet} {occurrence : Occurrence}
    (recorded : Recorded source tables occurrence) :
    occurrence.start < occurrence.stop ∧ occurrence.stop ≤ Text.byteLength source := by
  obtain ⟨before, c, after, -, -, -, positive, stops⟩ :=
    Name.spanAt?_eq_some_iff.mp recorded.spanned
  exact ⟨positive, stops ▸ Nat.min_le_right _ _⟩

theorem Recorded.of_occurrence? {source : List Char} {tables : NameSet} {kind : ReferenceKind}
    {name : ObjectName} {occurrence : Occurrence}
    (found : name.occurrence? source kind = some occurrence)
    (listed : kind ≠ .qualifier → name.canonical ∈ tables.names) :
    Recorded source tables occurrence := by
  obtain ⟨starts, spanned, text, rfl⟩ := ObjectName.occurrence?_eq_some_iff.mp found
  rw [← text] at spanned listed
  exact ⟨⟨name, text, starts⟩, spanned, listed⟩

namespace References

def AllRecorded (source : List Char) (found : References) : Prop :=
  ∀ occurrence ∈ found.occurrences, Recorded source found.tables occurrence

theorem AllRecorded.addName {source : List Char} {found : References}
    (all : found.AllRecorded source) (kind : ReferenceKind) (name : ObjectName) :
    (found.addName source kind name).AllRecorded source := by
  cases nameless : name.canonical.isEmpty with
  | true => simpa only [References.addName, nameless, ↓reduceIte] using all
  | false =>
      rw [addName_eq source found nameless]
      intro occurrence member
      rcases List.mem_append.mp member with old | new
      · exact (all occurrence old).mono fun other known => NameSet.mem_insert.mpr (Or.inl known)
      · exact .of_occurrence? (Option.mem_toList.mp new)
          fun _ => NameSet.mem_insert.mpr (Or.inr rfl)

theorem AllRecorded.addQualifier {source : List Char} {found : References}
    (all : found.AllRecorded source) (parts : List Ident) :
    (found.addQualifier source parts).AllRecorded source := by
  rw [addQualifier_eq]
  split
  case isTrue =>
    intro occurrence member
    rcases List.mem_append.mp member with old | new
    · exact all occurrence old
    · exact .of_occurrence? (Option.mem_toList.mp new) fun named => absurd rfl named
  case isFalse => exact all

end References

theorem Visit.allRecorded {source : List Char} (visit : Visit) {found : References}
    (all : found.AllRecorded source) : (visit.record source found).AllRecorded source := by
  cases visit with
  | declares calledAs => exact all
  | names kind name => exact all.addName kind name
  | qualifies parts => exact all.addQualifier parts

theorem Sql.collect_allRecorded (source : String) (statements : List Sql.Statement) :
    (Sql.collect source statements).AllRecorded source.toList := by
  rw [Sql.collect_eq_recordAll]
  exact Visit.recordAll_preserves (fun visit _ => visit.allRecorded) _
    (by simp [References.AllRecorded, References.empty])

end SqlTables
