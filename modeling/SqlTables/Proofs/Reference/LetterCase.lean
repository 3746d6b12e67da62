import SqlTables.Proofs.Reference.Revised
import SqlTables.Proofs.Reference.WellFormed

/-!
# Letter case

Names, aliases and qualifiers are compared without regard to the case of ASCII letters, and
lowering a letter keeps its width. So a source and its tree have the same references, at the same
places, after all their ASCII letters are lowered. Other letters are told apart by their case.
-/

namespace SqlTables

/-! ## Lowered text -/

namespace Text

theorem skipLines?_map_toLower (text : List Char) (lines : Nat) :
    skipLines? (text.map Char.toLower) lines =
      (skipLines? text lines).map fun (offset, rest) => (offset, rest.map Char.toLower) := by
  induction text generalizing lines with
  | nil => cases lines <;> simp [skipLines?]
  | cons c rest ih =>
      cases lines with
      | zero => simp [skipLines?]
      | succ lines =>
          have feed : c.toLower = '\n' ↔ c = '\n' := toLower_eq_iff (by decide)
          simp only [List.map_cons, skipLines?, feed, ih, utf8Size_toLower]
          split <;> simp [Option.map_map, Function.comp_def]

theorem offsetAt_map_toLower (text : List Char) (position : Position) :
    offsetAt (text.map Char.toLower) position = offsetAt text position := by
  have feed : (fun c => decide (c ≠ '\n')) ∘ Char.toLower = fun c => decide (c ≠ '\n') := by
    funext c
    have same : c.toLower = '\n' ↔ c = '\n' := toLower_eq_iff (by decide)
    simp [same]
  unfold offsetAt
  cases position.line with
  | zero => rfl
  | succ line =>
      simp only [skipLines?_map_toLower]
      cases skipLines? text line with
      | none => rfl
      | some reached =>
          simp only [Option.map_some, List.takeWhile_map, feed, ← List.map_take,
            byteLength_map_toLower]

theorem cutAt?_map_toLower (text : List Char) (offset : Nat) :
    cutAt? (text.map Char.toLower) offset =
      (cutAt? text offset).map fun (before, after) =>
        (before.map Char.toLower, after.map Char.toLower) := by
  induction text generalizing offset with
  | nil => cases offset <;> simp [cutAt?]
  | cons c rest ih =>
      cases offset with
      | zero => simp [cutAt?]
      | succ offset =>
          simp only [List.map_cons, cutAt?, utf8Size_toLower, ih]
          split <;> simp [Option.map_map, Function.comp_def]

end Text

namespace Name

theorem isQuoteChar_eq_true_iff {c : Char} :
    isQuoteChar c = true ↔ c = '\x22' ∨ c = '\x60' ∨ c = '[' := by
  unfold isQuoteChar closingQuote?
  split <;> simp_all

theorem isQuoteChar_toLower (c : Char) : isQuoteChar c.toLower = isQuoteChar c := by
  rw [Bool.eq_iff_iff, isQuoteChar_eq_true_iff, isQuoteChar_eq_true_iff,
    Text.toLower_eq_iff (by decide), Text.toLower_eq_iff (by decide),
    Text.toLower_eq_iff (by decide)]

theorem spanAt?_map_toLower (source : List Char) (start : Nat) (name : String) :
    spanAt? (source.map Char.toLower) start name = spanAt? source start name := by
  unfold spanAt?
  rw [Text.cutAt?_map_toLower, Text.byteLength_map_toLower]
  rcases Text.cutAt? source start with _ | ⟨before, _ | ⟨first, after⟩⟩
  · rfl
  · rfl
  · simp [isQuoteChar_toLower]

end Name

/-! ## Lowered names -/

open Sql (Revision)

theorem AliasSet.insert_asciiLower (set : AliasSet) (name : String) :
    set.insert (Text.asciiLower name) = set.insert name := by
  have same : set.contains (Text.asciiLower name) = set.contains name := by
    rw [contains, contains, Text.asciiLower_asciiLower]
  cases known : set.contains name with
  | true => rw [insert, insert, dif_pos known, dif_pos (same.trans known)]
  | false => simp only [insert, same, known, Text.asciiLower_asciiLower]

theorem Ident.canonical_lowered (ident : Ident) :
    (Revision.lowered.ident ident).canonical = ident.canonical :=
  Text.asciiLower_asciiLower ident.value

theorem Ident.offset?_lowered (source : List Char) (ident : Ident) :
    (Revision.lowered.ident ident).offset? (source.map Char.toLower) = ident.offset? source := by
  rw [offset?, offset?, funext (Text.offsetAt_map_toLower source)]
  rfl

namespace ObjectName

theorem canonical_lowered (name : ObjectName) :
    (Revision.lowered.name name).canonical = name.canonical := by
  rw [canonical, canonical, Revision.name, List.map_map]
  exact congrArg _ (List.map_congr_left fun ident _ => ident.canonical_lowered)

theorem startOf?_lowered (source : List Char) (kind : ReferenceKind) (name : ObjectName) :
    References.startOf? (source.map Char.toLower) kind (Revision.lowered.name name) =
      References.startOf? source kind name := by
  unfold References.startOf?
  cases kind.placement with
  | nameOnly => rfl
  | nodeLocation =>
      cases name with
      | nil => rfl
      | cons first rest => exact Ident.offset?_lowered source first
  | lastIdentifier =>
      rw [canonical_lowered, Revision.name, List.getLast?_map]
      cases name.getLast? with
      | none => rfl
      | some last =>
          simp [Ident.offset?_lowered, Ident.canonical_lowered]

theorem occurrence?_lowered (source : List Char) (kind : ReferenceKind) (name : ObjectName) :
    ObjectName.occurrence? (source.map Char.toLower) kind (Revision.lowered.name name) =
      name.occurrence? source kind := by
  rw [occurrence?, occurrence?, startOf?_lowered, canonical_lowered]
  simp only [Name.spanAt?_map_toLower]

end ObjectName

/-! ## Lowered visits -/

theorem References.admits_lowered (found : References) (qualifier : ObjectName) :
    found.Admits (Revision.lowered.name qualifier) ↔ found.Admits qualifier := by
  rw [Admits, Admits, AliasSet.contains, AliasSet.contains, ObjectName.asciiLower_raw,
    ObjectName.asciiLower_raw, ObjectName.canonical_lowered, Revision.name, List.length_map]

theorem Visit.record_lowered (source : List Char) (visit : Visit) (found : References) :
    (visit.revise .lowered).record (source.map Char.toLower) found =
      visit.record source found := by
  cases visit with
  | declares calledAs =>
      exact congrArg (fun aliases => { found with aliases })
        (found.aliases.insert_asciiLower calledAs.name.value)
  | names kind name =>
      rw [revise, record, record]
      cases empty : name.canonical.isEmpty with
      | true => simp [References.addName, ObjectName.canonical_lowered, empty]
      | false =>
          rw [References.addName_eq _ _ empty, References.addName_eq, ObjectName.canonical_lowered,
            ObjectName.occurrence?_lowered]
          rwa [ObjectName.canonical_lowered]
  | qualifies parts =>
      have qualifier : (Revision.lowered.name parts).dropLast =
          Revision.lowered.name parts.dropLast := List.map_dropLast.symm
      rw [revise, record, record, References.addQualifier_eq, References.addQualifier_eq, qualifier,
        ObjectName.occurrence?_lowered]
      simp only [References.admits_lowered]

theorem Visit.recordAll_lowered (source : List Char) (visits : List Visit) (found : References) :
    recordAll (source.map Char.toLower) (visits.map (Visit.revise .lowered)) found =
      recordAll source visits found := by
  induction visits generalizing found with
  | nil => rfl
  | cons visit later ih => rw [List.map_cons, recordAll_cons, recordAll_cons, record_lowered, ih]

namespace Sql

/-- Lowering the ASCII letters of a source and of all identifiers in its tree changes none of its
references. So two sources that differ only in the case of ASCII letters, with trees that differ
only in the case of identifiers, have the same references. -/
theorem collect_lowered (source : String) (statements : List Statement) :
    collect (Text.asciiLower source) (statements.map (Statement.revise .lowered)) =
        collect source statements ∧
      ∀ (other : String) (others : List Statement),
        Text.asciiLower other = Text.asciiLower source →
        others.map (Statement.revise .lowered) = statements.map (Statement.revise .lowered) →
        collect other others = collect source statements := by
  have lowered (text : String) (script : List Statement) :
      collect (Text.asciiLower text) (script.map (Statement.revise .lowered)) =
        collect text script := by
    have visits := (Node.script script).visits_revise .lowered
    rw [Node.revise] at visits
    rw [collect_eq_recordAll, collect_eq_recordAll, visits, Text.asciiLower, String.toList_ofList,
      Visit.recordAll_lowered]
  refine ⟨lowered source statements, fun other others sameText sameTree => ?_⟩
  rw [← lowered other others, sameText, sameTree, lowered]

/-- The same query with the case of every ASCII letter turned round. -/
theorem collect_lowered_turned :
    let source := "SELECT A.B.c, O.c FROM A.B, É AS O"
    let other := "select a.b.C, o.C from a.b, É as o"
    let word (value : String) (column : Nat) : Ident := ⟨value, none, ⟨1, column⟩⟩
    let relation (name : ObjectName) (calledAs : Option RelationAlias) : TableWithJoins :=
      .mk (.table name calledAs none []) []
    let script (a b c o : String) : List Statement := [.query (.ofBody (.select (.mk [] none
      [.compound [word a 8, word b 10, word c 12], .compound [word o 15, word c 17]]
      [relation [word a 24, word b 26] none, relation [word "É" 29] (some ⟨word o 34, []⟩)]
      [] none none [] [] [] [] none [] none [])))]
    let statements := script "A" "B" "c" "O"
    let others := script "a" "b" "C" "o"
    Text.asciiLower other = Text.asciiLower source ∧
      others.map (Statement.revise .lowered) = statements.map (Statement.revise .lowered) ∧
      collect (Text.asciiLower source) (statements.map (Statement.revise .lowered)) =
        collect source statements ∧
      collect other others = collect source statements ∧
      collect source statements = ⟨.ofList ["a.b", "É"], .insert .empty "o",
        [⟨"a.b", 23, 26, .relation⟩, ⟨"É", 28, 30, .relation⟩, ⟨"a.b", 7, 10, .qualifier⟩]⟩ := by
  intro source other word relation script statements others
  have sameText : Text.asciiLower other = Text.asciiLower source := by decide +kernel
  have lowerA : Text.asciiLower "A" = Text.asciiLower "a" := by decide +kernel
  have lowerB : Text.asciiLower "B" = Text.asciiLower "b" := by decide +kernel
  have lowerC : Text.asciiLower "C" = Text.asciiLower "c" := by decide +kernel
  have lowerO : Text.asciiLower "O" = Text.asciiLower "o" := by decide +kernel
  have sameTree : others.map (Statement.revise .lowered) =
      statements.map (Statement.revise .lowered) := by
    simp [others, statements, script, relation, word, Query.ofBody, Statement.revise, Query.revise,
      Body.revise, Select.revise, TableWithJoins.revise, TableFactor.revise, Expr.revise,
      Revision.name, Revision.calledAs, Revision.lowered, lowerA, lowerB, lowerC, lowerO]
  obtain ⟨lowered, recased⟩ := collect_lowered source statements
  exact ⟨sameText, sameTree, lowered, recased other others sameText sameTree, by decide +kernel⟩

end Sql

end SqlTables
