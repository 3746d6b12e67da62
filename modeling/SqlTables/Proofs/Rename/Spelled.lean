import Mathlib.Control.Monad.Basic
import SqlTables.Proofs.Reference.Recorded
import SqlTables.Proofs.Rename.Order
import SqlTables.Proofs.Rename.Resolve
import SqlTables.Proofs.Rename.Stage
import SqlTables.Renamer

/-!
# Which occurrences can be renamed

The span of a recorded occurrence need not hold its name. It does so exactly if the source spells
the name in one piece from the start of the span. So a table that is listed, and that a mapping
covers, keeps its old name where it is written in any other way.
-/

namespace SqlTables

open Text (byteLength)

theorem Renamer.references_eq_ok {renamer : Renamer} {sql : String} {found : References}
    (readable : renamer.references sql = .ok found) :
    ∃ statements, renamer.statements sql = .ok statements ∧
      found = Sql.collect sql statements := by
  unfold references at readable
  cases read : renamer.statements sql with
  | error error => simp [read, bind, Except.bind] at readable
  | ok statements =>
      simp only [read, bind, Except.bind, pure, Except.pure, Except.ok.injEq] at readable
      exact ⟨statements, rfl, readable.symm⟩

theorem Renamer.references_allRecorded {renamer : Renamer} {sql : String} {found : References}
    (readable : renamer.references sql = .ok found) : found.AllRecorded sql.toList := by
  obtain ⟨statements, -, rfl⟩ := references_eq_ok readable
  exact Sql.collect_allRecorded sql statements

namespace Rename

/-! ## Spans that hold their names -/

theorem holds_iff_spelled {source : List Char} {tables : NameSet} {occurrence : Occurrence}
    (recorded : Recorded source tables occurrence) :
    holds source occurrence = true ↔
      Name.Spelled source occurrence.start occurrence.text :=
  holds_iff_spelled_of_spanAt? recorded.spanned

/-- A recorded span that holds its name is replaced if its text is a key as it stands or its name
is covered, and only then. -/
theorem newName?_isSome_iff {mapping : Mapping} {text : List Char} {occurrence : Occurrence} :
    (newName? mapping text occurrence).isSome = true ↔
      ∃ live, live? text occurrence = some live ∧ holdsName live occurrence.text = true ∧
        (mapping.contains (String.ofList live) = true ∨
          mapping.covers occurrence.text = true) := by
  rw [Option.isSome_iff_exists]
  constructor
  · rintro ⟨new, named⟩
    obtain ⟨live, name, found, held, resolved, -⟩ := newName?_eq_some_iff.mp named
    refine ⟨live, found, held, (resolve?_isSome_iff held).mp ?_⟩
    rw [resolved]
    rfl
  · rintro ⟨live, found, held, known⟩
    obtain ⟨name, resolved⟩ :=
      Option.isSome_iff_exists.mp ((resolve?_isSome_iff held).mpr known)
    exact ⟨_, newName?_eq_some_iff.mpr ⟨live, name, found, held, resolved, rfl⟩⟩

/-! ## Occurrences that no other overlaps -/

/-- No other span overlaps the one of an occurrence. -/
def Alone (occurrence : Occurrence) (occurrences : List Occurrence) : Prop :=
  ∀ other ∈ occurrences, other = occurrence ∨ other.stop ≤ occurrence.start ∨
    occurrence.stop ≤ other.start

section

variable {occurrence : Occurrence} {occurrences : List Occurrence}

theorem Alone.mem_inOrder (alone : Alone occurrence occurrences)
    (positive : occurrence.start < occurrence.stop) (member : occurrence ∈ occurrences) :
    occurrence ∈ inOrder occurrences := by
  have found : (inOrder occurrences).find? (sameSpan occurrence) =
      occurrences.find? (sameSpan occurrence) := by
    refine find?_inOrder ?_ ?_
    · intro left right same
      rw [Bool.eq_iff_iff, sameSpan_iff, sameSpan_iff]
      have spans := sameSpan_iff.mp same
      omega
    · intro left _ right _ sameLeft sameRight
      rw [sameSpan_iff] at sameLeft sameRight
      rw [comesFirst_iff]
      omega
  cases first : occurrences.find? (sameSpan occurrence) with
  | none =>
      have missing := List.find?_eq_none.mp first occurrence member
      simp [sameSpan_iff] at missing
  | some other =>
      have span := sameSpan_iff.mp (List.find?_some first)
      rcases alone other (List.mem_of_find?_eq_some first) with rfl | left | right
      · exact List.mem_of_find?_eq_some (found.trans first)
      · omega
      · omega

/-- Whatever is replaced before an occurrence that is alone lies to the right of it. -/
theorem Alone.inOrder_behind (alone : Alone occurrence occurrences)
    (nonempty : ∀ other ∈ occurrences, other.start < other.stop) :
    (inOrder occurrences).Pairwise fun earlier later =>
      later = occurrence → occurrence.stop ≤ earlier.start := by
  refine (inOrder_pairwise occurrences).imp_of_mem ?_
  rintro earlier later earlierMember - ⟨first, distinct⟩ rfl
  have positive := nonempty earlier (mem_of_mem_inOrder earlierMember)
  rw [comesFirst_iff] at first
  rcases alone earlier (mem_of_mem_inOrder earlierMember) with rfl | left | right
  · simp [sameSpan] at distinct
  · omega
  · exact right

section

variable {mapping : Mapping} {anchors : Anchors} {tables : NameSet} {source text : List Char}
  {pending : List Occurrence}

/-- A covered occurrence that is examined while the text still agrees with the source is replaced
if the source spells its name. -/
theorem exists_splice?_of_spelled (recorded : Recorded source tables occurrence)
    (covered : mapping.covers occurrence.text = true)
    (agree : AgreeUpTo occurrence.stop text source)
    (spelled : Name.Spelled source occurrence.start occurrence.text) :
    ∃ new, splice? mapping anchors occurrence pending text =
      some ⟨occurrence.start, occurrence.stop, new⟩ := by
  have clamped : min occurrence.stop (byteLength text) = occurrence.stop :=
    Nat.min_eq_left (agree.le_byteLength recorded.bounds.2)
  have held : holds text occurrence = true := by
    rwa [holds_congr agree, holds_iff_spelled recorded]
  obtain ⟨live, found, heldName⟩ := holds_eq_true_iff.mp held
  obtain ⟨new, named⟩ := Option.isSome_iff_exists.mp
    (newName?_isSome_iff.mpr ⟨live, found, heldName, Or.inr covered⟩)
  exact ⟨new, splice?_eq_some_iff.mpr (clamped ▸ Makes.atSpan named)⟩

/-- An operand of `FROM` that is examined while the text still agrees with the source is replaced
if the source spells its name and the name is covered, and is left alone if the source does not
spell it. -/
theorem splice?_of_agreeUpTo (recorded : Recorded source tables occurrence)
    (operand : occurrence.kind = .relation) (covered : mapping.covers occurrence.text = true)
    (agree : AgreeUpTo occurrence.stop text source) :
    (Name.Spelled source occurrence.start occurrence.text →
      ∃ new, splice? mapping anchors occurrence pending text =
        some ⟨occurrence.start, occurrence.stop, new⟩) ∧
    (¬ Name.Spelled source occurrence.start occurrence.text →
      splice? mapping anchors occurrence pending text = none) := by
  refine ⟨exists_splice?_of_spelled recorded covered agree, ?_⟩
  intro unspelled
  rw [Option.eq_none_iff_forall_ne_some]
  intro splice made
  cases splice?_eq_some_iff.mp made with
  | atSpan named =>
      refine unspelled ((holds_iff_spelled recorded).mp ?_)
      rw [← holds_congr agree]
      exact holds_of_newName? named
  | behindAnchor _ allowed => simp [operand, ReferenceKind.allowsAnchors] at allowed

/-- An occurrence that is alone is examined while the text still agrees with the source. -/
theorem Alone.exists_stage (alone : Alone occurrence occurrences)
    (nonempty : ∀ other ∈ occurrences, other.start < other.stop)
    (member : occurrence ∈ occurrences) :
    ∃ stage ∈ stages mapping anchors (inOrder occurrences) source,
      stage.occurrence = occurrence ∧ AgreeUpTo occurrence.stop stage.text source := by
  obtain ⟨stage, examined, rfl⟩ := exists_mem_stagesFrom mapping anchors source []
    (alone.mem_inOrder (nonempty _ member) member)
  exact ⟨stage, examined, rfl,
    agreeUpTo_of_mem_stagesFrom (alone.inOrder_behind nonempty) (.refl _ _) examined rfl⟩

end

end

/-! ## The references of a text -/

/-- Every occurrence of a text that can be read is placed by the identifiers of an object name,
and its span holds the name exactly if the text spells it there in one piece. An operand of `FROM`
or `JOIN` that is covered and that no other span overlaps is replaced in that case and stays as it
is in any other. -/
theorem holds_iff_spelled_of_references {renamer : Renamer} {sql : String} {found : References}
    {occurrence : Occurrence} (readable : renamer.references sql = .ok found)
    (member : occurrence ∈ found.occurrences) :
    (∃ name : ObjectName, occurrence.text = name.canonical ∧
      References.startOf? sql.toList occurrence.kind name = some occurrence.start) ∧
    (holds sql.toList occurrence = true ↔
      Name.Spelled sql.toList occurrence.start occurrence.text) ∧
    ∀ mapping : Mapping, occurrence.kind = .relation →
      mapping.covers occurrence.text = true → Alone occurrence found.occurrences →
      ∃ stage ∈ stages mapping renamer.anchors (inOrder found.occurrences) sql.toList,
        stage.occurrence = occurrence ∧
        (Name.Spelled sql.toList occurrence.start occurrence.text →
          ∃ new, stage.splice? mapping renamer.anchors =
            some ⟨occurrence.start, occurrence.stop, new⟩) ∧
        (¬ Name.Spelled sql.toList occurrence.start occurrence.text →
          stage.splice? mapping renamer.anchors = none) := by
  have all := renamer.references_allRecorded readable
  have recorded := all occurrence member
  refine ⟨recorded.placed, holds_iff_spelled recorded, ?_⟩
  intro mapping operand covered alone
  have nonempty : ∀ other ∈ found.occurrences, other.start < other.stop :=
    fun other known => (all other known).bounds.1
  obtain ⟨stage, examined, rfl⟩ := exists_mem_stagesFrom mapping renamer.anchors sql.toList []
    (alone.mem_inOrder recorded.bounds.1 member)
  have agree := agreeUpTo_of_mem_stagesFrom (alone.inOrder_behind nonempty) (.refl _ _) examined rfl
  exact ⟨stage, examined, rfl, splice?_of_agreeUpTo recorded operand covered agree⟩

/-- Of two listed tables, the one whose parts are delimited one by one is not renamed, and the one
that is delimited as a whole is. -/
theorem holds_iff_spelled_of_references_delimited :
    let sql := "SELECT * FROM \"a\".\"b\" JOIN \"C.D\" ON 1 = 1"
    let parts : Occurrence := ⟨"a.b", 14, 19, .relation⟩
    let whole : Occurrence := ⟨"c.d", 27, 32, .relation⟩
    let mapping := Mapping.ofList [("a.b", "v"), ("c.d", "w")]
    let run := stages mapping Anchors.default (inOrder [parts, whole]) sql.toList
    Renamer.default.references sql = .ok ⟨.ofList ["a.b", "c.d"], .empty, [parts, whole]⟩ ∧
      ¬ Name.Spelled sql.toList 14 "a.b" ∧
      (∃ stage ∈ run, stage.occurrence = parts ∧
        stage.splice? mapping Anchors.default = none) ∧
      ∃ stage ∈ run, stage.occurrence = whole ∧
        ∃ new, stage.splice? mapping Anchors.default = some ⟨27, 32, new⟩ := by
  intro sql parts whole mapping run
  have readable : Renamer.default.references sql =
      .ok ⟨.ofList ["a.b", "c.d"], .empty, [parts, whole]⟩ := by decide +kernel
  obtain ⟨-, heldParts, replacedParts⟩ :=
    holds_iff_spelled_of_references readable (List.mem_cons_self : parts ∈ [parts, whole])
  obtain ⟨-, heldWhole, replacedWhole⟩ :=
    holds_iff_spelled_of_references readable (by decide : whole ∈ [parts, whole])
  have unspelled : ¬ Name.Spelled sql.toList 14 "a.b" := by
    rw [← heldParts]
    decide +kernel
  have spelled : Name.Spelled sql.toList 27 "c.d" := heldWhole.mp (by decide +kernel)
  obtain ⟨first, firstRun, isParts, -, kept⟩ :=
    replacedParts mapping rfl (by decide +kernel) (by unfold Alone; decide)
  obtain ⟨second, secondRun, isWhole, replaced, -⟩ :=
    replacedWhole mapping rfl (by decide +kernel) (by unfold Alone; decide)
  exact ⟨readable, unspelled, ⟨first, firstRun, isParts, kept unspelled⟩,
    ⟨second, secondRun, isWhole, replaced spelled⟩⟩

end Rename

end SqlTables
