import SqlTables.Proofs.Rename.Order
import SqlTables.Proofs.Rename.Stage

/-!
# Pending occurrences are not disturbed

A run edits one text in two ways: at the span of an occurrence, and behind an anchor, which may
stand elsewhere. Where spans do not overlap, both kinds of edits lie to the right of every span
that is still pending, also of one that reaches beyond the end of the text or ends inside a
character. So a run reads at each span what the source has there, and which spans are replaced,
and by what, can be told from the source.
-/

namespace SqlTables.Rename

open Text (byteLength slice?)

/-! ## The text between two stages -/

/-- The text that a run has once it has examined some occurrences, with others pending. -/
def textAfter (mapping : Mapping) (anchors : Anchors) :
    List Occurrence → List Occurrence → List Char → List Char
  | [], _, text => text
  | occurrence :: examined, pending, text =>
    textAfter mapping anchors examined pending
      (replaceOne mapping anchors occurrence (examined ++ pending) text)

section

variable (mapping : Mapping) (anchors : Anchors)

theorem replaceEach_eq_textAfter (examined pending : List Occurrence) (text : List Char) :
    replaceEach mapping anchors (examined ++ pending) text =
      replaceEach mapping anchors pending (textAfter mapping anchors examined pending text) := by
  induction examined generalizing text with
  | nil => rfl
  | cons first examined ih => exact ih _

theorem exists_stage_textAfter (examined : List Occurrence) (occurrence : Occurrence)
    (pending : List Occurrence) (text : List Char) (made : List Splice) :
    ∃ stage ∈ stagesFrom mapping anchors (examined ++ occurrence :: pending) text made,
      stage.occurrence = occurrence ∧
        stage.text = textAfter mapping anchors examined (occurrence :: pending) text := by
  induction examined generalizing text made with
  | nil => exact ⟨_, List.mem_cons_self, rfl, rfl⟩
  | cons first examined ih =>
      rw [List.cons_append, stagesFrom, textAfter, replaceOne_eq]
      cases splice? mapping anchors first (examined ++ occurrence :: pending) text with
      | none =>
          obtain ⟨stage, member, same⟩ := ih text made
          exact ⟨stage, List.mem_cons_of_mem _ member, same⟩
      | some splice =>
          obtain ⟨stage, member, same⟩ := ih (splice.applyTo text) (made ++ [splice])
          exact ⟨stage, List.mem_cons_of_mem _ member, same⟩

end

/-! ## Spans that do not overlap -/

section

variable {mapping : Mapping} {anchors : Anchors} {occurrences : List Occurrence}

/-- In a run over spans that do not overlap, the text of each stage agrees with the source up to
the end of the span that it examines. -/
theorem Separate.agreeUpTo {source : List Char} (separate : Separate occurrences) {stage : Stage}
    (member : stage ∈ stages mapping anchors (inOrder occurrences) source) :
    AgreeUpTo stage.occurrence.stop stage.text source :=
  agreeUpTo_of_mem_stagesFrom
    (separate.inOrder_leftward.imp fun leftOf examined => examined ▸ leftOf) (.refl _ _) member rfl

theorem Separate.agreeUpTo_textAfter {source : List Char} (separate : Separate occurrences)
    {examined pending : List Occurrence} {occurrence : Occurrence}
    (order : inOrder occurrences = examined ++ occurrence :: pending) :
    AgreeUpTo occurrence.stop
      (textAfter mapping anchors examined (occurrence :: pending) source) source := by
  obtain ⟨stage, member, rfl, same⟩ :=
    exists_stage_textAfter mapping anchors examined occurrence pending source []
  rw [← order] at member
  rw [← same]
  exact separate.agreeUpTo member

/-- Texts that agree up to the end of a span have the same splice at it. -/
theorem AgreeUpTo.spanSplice?_eq {left right : List Char} {occurrence : Occurrence}
    (agree : AgreeUpTo occurrence.stop left right) :
    spanSplice? mapping left occurrence = spanSplice? mapping right occurrence := by
  have clamped : min occurrence.stop (byteLength left) =
      min occurrence.stop (byteLength right) := by
    rcases agree with rfl | ⟨shared, leftRest, rightRest, rfl, rfl, bound⟩
    · rfl
    · rw [Text.byteLength_append, Text.byteLength_append]
      omega
  rw [spanSplice?, spanSplice?, newName?_congr mapping agree, clamped]

/-- What one stage does: an occurrence whose span holds its name is spliced at its span or left
alone, any other is left alone or looked for behind an anchor. -/
theorem replaceOne_cases (mapping : Mapping) (anchors : Anchors) (occurrence : Occurrence)
    (pending : List Occurrence) (text : List Char) :
    replaceOne mapping anchors occurrence pending text =
      if holds text occurrence then
        (spanSplice? mapping text occurrence).elim text fun splice => splice.applyTo text
      else if occurrence.kind.allowsAnchors then
        (replaceAnchored? mapping anchors occurrence pending text).getD text
      else
        text := by
  rw [replaceOne_eq, splice?, replaceAnchored?_eq]
  split
  case isTrue => rfl
  case isFalse =>
    split
    case isTrue => cases anchoredSplice? mapping anchors occurrence pending text <;> rfl
    case isFalse => rfl

/-- When a run over spans that do not overlap examines an occurrence, it reads at its span what
the source has there, whatever was replaced before, at spans or behind anchors. So whether the
span is replaced, up to which end and by what, is told by the source, and only an occurrence whose
span does not hold its name in the source is looked for elsewhere. -/
theorem slice?_textAfter (mapping : Mapping) (anchors : Anchors) {occurrences : List Occurrence}
    (source : String) (separate : Separate occurrences) {examined pending : List Occurrence}
    {occurrence : Occurrence}
    (order : inOrder occurrences = examined ++ occurrence :: pending) :
    let text := textAfter mapping anchors examined (occurrence :: pending) source.toList
    apply mapping anchors occurrences source =
      String.ofList (replaceEach mapping anchors pending
        (replaceOne mapping anchors occurrence pending text)) ∧
    slice? text occurrence.start (min occurrence.stop (byteLength text)) =
      slice? source.toList occurrence.start
        (min occurrence.stop (byteLength source.toList)) ∧
    replaceOne mapping anchors occurrence pending text =
      if holds source.toList occurrence then
        (spanSplice? mapping source.toList occurrence).elim text fun splice =>
          splice.applyTo text
      else if occurrence.kind.allowsAnchors then
        (replaceAnchored? mapping anchors occurrence pending text).getD text
      else
        text := by
  intro text
  have agree : AgreeUpTo occurrence.stop text source.toList :=
    separate.agreeUpTo_textAfter order
  refine ⟨?_, agree.live?_eq, ?_⟩
  · rw [apply_eq_ofList, order, replaceEach_eq_textAfter, replaceEach]
  · rw [replaceOne_cases, holds_congr agree, agree.spanSplice?_eq]

end

/-- The target of the second statement is found behind its anchor, and the text grows before the
operand `u` is examined. Of the other spans, one ends inside a character, one reaches beyond the
end of the text and one begins there. -/
theorem slice?_textAfter_behind_hit :
    let sql := "UPDATE t SET é = (SELECT 1 FROM u); UPDATE  t SET b = 2"
    let mapping := Mapping.ofList [("t", "target"), ("u", "w")]
    let operand : Occurrence := ⟨"u", 33, 34, .relation⟩
    let earlier : List Occurrence :=
      [⟨"z", 90, 95, .deleteTarget⟩, ⟨"z", 50, 90, .relation⟩, ⟨"t", 46, 47, .updateTarget⟩]
    let later : List Occurrence := [⟨"x", 13, 14, .relation⟩, ⟨"t", 7, 8, .updateTarget⟩]
    let occurrences := earlier ++ operand :: later
    let text := "UPDATE t SET é = (SELECT 1 FROM u); UPDATE  target SET b = 2"
    Separate occurrences ∧ inOrder occurrences = occurrences ∧
      textAfter mapping Anchors.default earlier (operand :: later) sql.toList = text.toList ∧
      slice? text.toList 33 34 = slice? sql.toList 33 34 ∧
      apply mapping Anchors.default occurrences sql =
        "UPDATE target SET é = (SELECT 1 FROM w); UPDATE  target SET b = 2" := by
  intro sql mapping operand earlier later occurrences text
  have separate : Separate occurrences := ⟨by decide, by decide⟩
  have order : inOrder occurrences = occurrences := by
    rw [inOrder, List.mergeSort_of_pairwise (by decide)]
    decide
  have grown : textAfter mapping Anchors.default earlier (operand :: later) sql.toList =
      text.toList := by decide +kernel
  obtain ⟨result, same, -⟩ :=
    slice?_textAfter mapping Anchors.default sql separate order
  rw [grown] at result same
  have inText : min operand.stop (byteLength text.toList) = 34 := by decide +kernel
  have inSource : min operand.stop (byteLength sql.toList) = 34 := by decide +kernel
  rw [inText, inSource] at same
  refine ⟨separate, order, grown, same, result.trans ?_⟩
  decide +kernel

end SqlTables.Rename
