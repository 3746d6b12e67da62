import SqlTables.Proofs.Rename.Carry
import SqlTables.Proofs.Rename.Pending
import SqlTables.Proofs.Rename.Spelled
import SqlTables.Proofs.Sql.Readings

/-!
# Comments and string literals

Nothing in a renaming looks at comments and string literals: a span is taken where the positions
of identifiers put it, and an anchor is looked for in the raw text. So a splice can hit one of
them. They all come back as they were written exactly if every splice that a stage makes is clear
of them. If spans do not overlap and no target has to be searched for, this can be told from the
source alone: no span that is renamed may overlap a comment or a string literal.
-/

namespace SqlTables

open Text (byteLength slice? Span)

namespace Rename

/-! ## Runs over spans that do not overlap -/

section

variable {mapping : Mapping} {anchors : Anchors} {occurrences : List Occurrence}
  {source : List Char}

/-- If no target has to be searched for, a span of the source is clear of all splices exactly if
no renamed span overlaps it. -/
theorem Separate.clearAt_iff (separate : Separate occurrences)
    (inRange : ∀ occurrence ∈ occurrences, occurrence.stop ≤ byteLength source)
    (targets : ∀ occurrence ∈ occurrences, occurrence.kind.allowsAnchors = true →
      holds source occurrence = true) (span : Span) :
    (∀ stage ∈ stages mapping anchors (inOrder occurrences) source,
      ClearAt mapping anchors span stage) ↔
    ∀ occurrence ∈ inOrder occurrences, (newName? mapping source occurrence).isSome = true →
      span.stop ≤ occurrence.start ∨ occurrence.stop ≤ span.start := by
  have examined {stage : Stage}
      (member : stage ∈ stages mapping anchors (inOrder occurrences) source) :
      stage.occurrence ∈ occurrences :=
    mem_of_mem_inOrder (occurrence_mem_of_mem_stagesFrom member)
  have clamped {stage : Stage}
      (member : stage ∈ stages mapping anchors (inOrder occurrences) source) :
      min stage.occurrence.stop (byteLength stage.text) = stage.occurrence.stop :=
    Nat.min_eq_left ((separate.agreeUpTo member).le_byteLength (inRange _ (examined member)))
  have rightOf {stage : Stage}
      (member : stage ∈ stages mapping anchors (inOrder occurrences) source) :
      ∀ splice ∈ stage.made, splice.RightOf stage.occurrence.stop :=
    fun splice before =>
      rightOf_of_mem_made separate.inOrder_leftward (by simp) member before
  constructor
  · intro clear occurrence member renamed
    obtain ⟨stage, found, rfl⟩ := exists_mem_stagesFrom mapping anchors source [] member
    obtain ⟨new, named⟩ := Option.isSome_iff_exists.mp renamed
    rw [← newName?_congr mapping (separate.agreeUpTo found)] at named
    obtain ⟨place, carried⟩ : ∃ place, carryAll? stage.made span = some place := by
      have whole := (carryAll?_isSome_iff _ _ _ _ span).mpr clear
      obtain ⟨more, split⟩ := made_of_mem_stagesFrom found
      rw [List.nil_append] at split
      rw [← split, carryAll?_append] at whole
      cases carried : carryAll? stage.made span with
      | none => simp [carried] at whole
      | some place => exact ⟨place, rfl⟩
    have apart := clear stage found place _ carried (.atSpan named)
    rw [Splice.Clear, clamped found] at apart
    rcases carryAll?_eq_or (rightOf found) carried with rfl | ⟨spanRight, -⟩
    · exact apart
    · exact Or.inr spanRight
  · intro apart stage found place splice carried makes
    cases makes with
    | atSpan named =>
        rw [Splice.Clear, clamped found]
        rcases carryAll?_eq_or (rightOf found) carried with rfl | ⟨-, placeRight⟩
        · refine apart stage.occurrence (occurrence_mem_of_mem_stagesFrom found) ?_
          rw [← newName?_congr mapping (separate.agreeUpTo found), named]
          rfl
        · exact Or.inr placeRight
    | behindAnchor stale allowed =>
        rw [holds_congr (separate.agreeUpTo found), targets _ (examined found) allowed] at stale
        cases stale

end

end Rename

/-! ## The renamer -/

namespace Renamer

variable {renamer : Renamer} {sql : String} {found : References}

theorem exists_lex_of_references (readable : renamer.references sql = .ok found) :
    ∃ lexemes, Sql.lex renamer.dialect sql.toList = .ok lexemes := by
  obtain ⟨statements, read, -⟩ := references_eq_ok readable
  cases lexed : Sql.lex renamer.dialect sql.toList with
  | ok lexemes => exact ⟨lexemes, rfl⟩
  | error error =>
      have failed : Sql.parse renamer.dialect sql = .error (.lexical error) := by
        rw [Sql.parse, lexed]
      rw [Renamer.statements, failed] at read
      cases read

/-- Every comment and string literal of a text is left alone: no splice of the renaming replaces a
part of it, and what is written for it stands in the result where the splices have carried it. -/
def KeepsProtected (renamer : Renamer) (mapping : Mapping) (occurrences : List Occurrence)
    (sql : String) : Prop :=
  ∀ span ∈ Sql.protectedSpans renamer.dialect sql.toList, ∃ place written,
    Rename.carryAll?
        (Rename.splices mapping renamer.anchors (Rename.inOrder occurrences) sql.toList) span =
      some place ∧
    slice? sql.toList span.start span.stop = some written ∧
    slice? (Rename.apply mapping renamer.anchors occurrences sql).toList place.start place.stop =
      some written

theorem keepsProtected_iff_clearAt (readable : renamer.references sql = .ok found)
    (mapping : Mapping) :
    renamer.KeepsProtected mapping found.occurrences sql ↔
      ∀ span ∈ Sql.protectedSpans renamer.dialect sql.toList,
        ∀ stage ∈ Rename.stages mapping renamer.anchors (Rename.inOrder found.occurrences)
          sql.toList,
          Rename.ClearAt mapping renamer.anchors span stage := by
  obtain ⟨lexemes, lexed⟩ := exists_lex_of_references readable
  refine forall₂_congr fun span member => ?_
  rw [← Rename.carryAll?_isSome_iff, Option.isSome_iff_exists]
  constructor
  · rintro ⟨place, written, carried, -⟩
    exact ⟨place, carried⟩
  · rintro ⟨place, carried⟩
    obtain ⟨reading, -, -, written⟩ := Sql.slice?_of_mem_protectedSpans lexed member
    refine ⟨place, reading.written, carried, written, ?_⟩
    rw [Rename.apply_eq_ofList, String.toList_ofList]
    exact Rename.slice?_carryAll written carried

/-- The comments and string literals of a text that can be read come back as they were written
exactly if every stage of the renaming is clear of them. If spans do not overlap and every target
of a mutation is found at its span, that is: no renamed span overlaps one of them. -/
theorem keepsProtected_iff (readable : renamer.references sql = .ok found) (mapping : Mapping) :
    (renamer.KeepsProtected mapping found.occurrences sql ↔
      ∀ span ∈ Sql.protectedSpans renamer.dialect sql.toList,
        ∀ stage ∈ Rename.stages mapping renamer.anchors (Rename.inOrder found.occurrences)
          sql.toList,
          Rename.ClearAt mapping renamer.anchors span stage) ∧
    (Rename.Separate found.occurrences →
      (∀ occurrence ∈ found.occurrences, occurrence.kind.allowsAnchors = true →
        Rename.holds sql.toList occurrence = true) →
      (renamer.KeepsProtected mapping found.occurrences sql ↔
        ∀ span ∈ Sql.protectedSpans renamer.dialect sql.toList,
          ∀ occurrence ∈ Rename.inOrder found.occurrences,
            (Rename.newName? mapping sql.toList occurrence).isSome = true →
            span.stop ≤ occurrence.start ∨ occurrence.stop ≤ span.start)) := by
  refine ⟨keepsProtected_iff_clearAt readable mapping, ?_⟩
  intro separate targets
  rw [keepsProtected_iff_clearAt readable mapping]
  have inRange : ∀ occurrence ∈ found.occurrences, occurrence.stop ≤ byteLength sql.toList :=
    fun occurrence member => (references_allRecorded readable occurrence member).bounds.2
  exact forall₂_congr fun span _ => separate.clearAt_iff inRange targets span

/-- A comment and a literal that hold the name of a renamed table are kept. A comment that holds an
anchor before a target with blanks around its dot is not. -/
theorem keepsProtected_iff_comments :
    let kept := "SELECT t.a /* t */ FROM t WHERE t.b = 't'"
    let hit := "UPDATE /*UPDATE t.u */ t . u SET x = 1"
    let operands : References := ⟨.ofList ["t"], .empty,
      [⟨"t", 24, 25, .relation⟩, ⟨"t", 7, 8, .qualifier⟩, ⟨"t", 32, 33, .qualifier⟩]⟩
    let target : References := ⟨.ofList ["t.u"], .empty, [⟨"t.u", 25, 28, .updateTarget⟩]⟩
    let renamed := Mapping.ofList [("t", "orders"), ("t.u", "v")]
    default.references kept = .ok operands ∧
      default.KeepsProtected renamed operands.occurrences kept ∧
      default.references hit = .ok target ∧
      ∃ span ∈ Sql.protectedSpans .generic hit.toList,
        ∃ stage ∈ Rename.stages renamed Rename.Anchors.default
          (Rename.inOrder target.occurrences) hit.toList,
          ¬ Rename.ClearAt renamed Rename.Anchors.default span stage := by
  intro kept hit operands target renamed
  have readableKept : default.references kept = .ok operands := by decide +kernel
  have readableHit : default.references hit = .ok target := by decide +kernel
  refine ⟨readableKept, ?_, readableHit, ?_⟩
  · have apart : ∀ span ∈ Sql.protectedSpans .generic kept.toList,
        ∀ occurrence ∈ operands.occurrences,
          span.stop ≤ occurrence.start ∨ occurrence.stop ≤ span.start := by decide +kernel
    refine ((keepsProtected_iff readableKept renamed).2 ⟨?_, ?_⟩ ?_).mpr ?_
    · decide
    · decide
    · decide
    · exact fun span member occurrence examined _ =>
        apart span member occurrence (Rename.mem_of_mem_inOrder examined)
  · apply Classical.byContradiction
    intro unhit
    have clear := (keepsProtected_iff readableHit renamed).1.mpr fun span member stage found =>
      Classical.byContradiction fun touched => unhit ⟨span, member, stage, found, touched⟩
    obtain ⟨place, written, carried, -⟩ := clear ⟨7, 22⟩ (by decide +kernel)
    have lost : Rename.carryAll? (Rename.splices renamed Rename.Anchors.default
        (Rename.inOrder target.occurrences) hit.toList) ⟨7, 22⟩ = none := by decide +kernel
    exact absurd (carried.symm.trans lost) (by simp)

end Renamer

end SqlTables
