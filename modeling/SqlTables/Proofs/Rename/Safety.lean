import SqlTables.Proofs.Rename.Pending
import SqlTables.Proofs.Rename.Relevant

/-!
# What a run may touch

Occurrences can be stale, overlap each other, lie beyond the end of the text, end before they begin
or cut a character in two, and earlier splices change the text under those that follow. Whatever
they are, a run slices its text between characters only, and `Reaches` says all that it does: each
span is replaced at most once, where something stands that reads as the name of its occurrence, and
by the value of a key that is relevant to that name.
-/

namespace SqlTables.Rename

open Text (byteLength slice? Span)

/-! ## The slices of a stage -/

/-- The spans at which a stage slices its text. -/
inductive Takes (mapping : Mapping) (anchors : Anchors) (occurrence : Occurrence)
    (pending : List Occurrence) (text : List Char) : Span → Prop where
  /-- The text at the span of the occurrence, which is looked at only if there is one. -/
  | live {found : List Char} (here : live? text occurrence = some found) :
      Takes mapping anchors occurrence pending text
        ⟨occurrence.start, min occurrence.stop (byteLength text)⟩
  /-- The same without its delimiters. -/
  | content {opening closing : Char} {inner : List Char}
      (here : live? text occurrence = some (opening :: inner ++ [closing]))
      (pair : Name.closingQuote? opening = some closing) :
      Takes mapping anchors occurrence pending text
        ⟨occurrence.start + opening.utf8Size,
          min occurrence.stop (byteLength text) - closing.utf8Size⟩
  /-- All that follows a match of an anchor, to see whether a name stands there. -/
  | candidate {phrase : String} {offset : Nat} (listed : phrase ∈ anchors.phrases)
      (matched : offset ∈ matchEnds (Text.splitBlanks phrase) text) :
      Takes mapping anchors occurrence pending text ⟨offset, byteLength text⟩
  /-- What stands before a hit. -/
  | beforeHit {name : String} {offset : Nat}
      (hit : windowHit? anchors occurrence pending text name = some offset) :
      Takes mapping anchors occurrence pending text ⟨0, offset⟩
  /-- What stands behind the name at a hit. -/
  | behindHit {name : String} {offset : Nat}
      (hit : windowHit? anchors occurrence pending text name = some offset) :
      Takes mapping anchors occurrence pending text
        ⟨offset + byteLength name.toList, byteLength text⟩
  /-- What a splice replaces. -/
  | replaced {splice : Splice}
      (made : splice? mapping anchors occurrence pending text = some splice) :
      Takes mapping anchors occurrence pending text ⟨splice.start, splice.stop⟩

section

variable {mapping : Mapping} {anchors : Anchors} {occurrence : Occurrence}
  {pending : List Occurrence} {text : List Char}

/-- Every slice that a stage takes is in range and begins and ends between characters. -/
theorem Takes.slice?_eq_some {span : Span}
    (takes : Takes mapping anchors occurrence pending text span) :
    ∃ inside, slice? text span.start span.stop = some inside := by
  cases takes with
  | live here => exact ⟨_, here⟩
  | @content opening closing inner here pair =>
      obtain ⟨before, after, whole, starts, stops⟩ := Text.slice?_eq_some_iff.mp here
      refine ⟨inner, Text.slice?_eq_some_iff.mpr
        ⟨before ++ [opening], [closing] ++ after, by simp [whole], ?_, ?_⟩⟩
      all_goals
        simp only [Text.byteLength_append, Text.byteLength_cons, Text.byteLength_nil,
          List.cons_append] at starts stops ⊢
        omega
  | candidate listed matched =>
      obtain ⟨front, rest, rfl, rfl⟩ := exists_append_of_mem_matchEnds matched
      refine ⟨rest, Text.slice?_eq_some_iff.mpr ⟨front, [], by simp, rfl, ?_⟩⟩
      rw [Text.byteLength_append]
  | @beforeHit name offset hit =>
      obtain ⟨before, after, rfl, rfl, -⟩ := standsAt_eq_true_iff.mp (windowHit?_spec hit).2.2
      exact ⟨before, Text.slice?_eq_some_iff.mpr
        ⟨[], name.toList ++ after, by simp, rfl, by simp⟩⟩
  | @behindHit name offset hit =>
      obtain ⟨before, after, rfl, rfl, -⟩ := standsAt_eq_true_iff.mp (windowHit?_spec hit).2.2
      refine ⟨after, Text.slice?_eq_some_iff.mpr ⟨before ++ name.toList, [], by simp, ?_, ?_⟩⟩
      all_goals simp only [Text.byteLength_append]
  | replaced made =>
      obtain ⟨before, inside, after, parts⟩ := (splice?_eq_some_iff.mp made).fits
      exact ⟨inside, Text.slice?_eq_some_iff.mpr ⟨before, after, parts⟩⟩

/-! ## What a stage replaces -/

/-- A text is a name up to the case of ASCII letters, as it stands or without one pair of
delimiters. -/
def ReadsAs (written : List Char) (name : String) : Prop :=
  Name.SameName written name ∨ Name.SameName (Name.stripQuoteChars written) name

/-- A stage replaces what reads as the name of its occurrence by the value of a relevant key. -/
theorem Makes.exists_entry {splice : Splice}
    (makes : Makes mapping anchors occurrence pending text splice) :
    ∃ before inside after, ∃ entry ∈ mapping.entries,
      text = before ++ inside ++ after ∧ ReadsAs inside occurrence.text ∧
        relevantTo occurrence.text entry.1 = true ∧
        splice = ⟨byteLength before, byteLength before + byteLength inside, entry.2.toList⟩ := by
  cases makes with
  | atSpan named =>
      obtain ⟨inside, name, found, held, resolved, rfl⟩ := newName?_eq_some_iff.mp named
      obtain ⟨before, after, whole, starts, stops⟩ := Text.slice?_eq_some_iff.mp found
      obtain ⟨entry, member, relevant, rfl⟩ := exists_entry_of_resolve? held resolved
      refine ⟨before, inside, after, entry, member, whole, ?_, relevant, ?_⟩
      · exact Or.inr (holdsName_eq_true_iff.mp held)
      · rw [starts] at stops ⊢
        rw [stops]
  | @behindAnchor key name replacement offset stale allowed entered spelled hit =>
      obtain ⟨before, after, whole, rfl, -⟩ := standsAt_eq_true_iff.mp (windowHit?_spec hit).2.2
      obtain ⟨member, same⟩ := entryFor?_spec entered
      refine ⟨before, name.toList, after, (key, replacement), member, whole, Or.inl ?_,
        relevantTo_of_same same, rfl⟩
      rcases spelled with rfl | ⟨rfl, -⟩
      · rfl
      · exact beq_iff_eq.mp same

/-- One stage leaves the text as it is, or makes one splice of this kind. -/
theorem replaceOne_eq_or (mapping : Mapping) (anchors : Anchors) (occurrence : Occurrence)
    (pending : List Occurrence) (text : List Char) :
    replaceOne mapping anchors occurrence pending text = text ∨
      ∃ before inside after, ∃ entry ∈ mapping.entries,
        text = before ++ inside ++ after ∧ ReadsAs inside occurrence.text ∧
          relevantTo occurrence.text entry.1 = true ∧
          replaceOne mapping anchors occurrence pending text =
            before ++ entry.2.toList ++ after := by
  rw [replaceOne_eq]
  cases made : splice? mapping anchors occurrence pending text with
  | none => exact Or.inl rfl
  | some splice =>
      obtain ⟨before, inside, after, entry, member, rfl, reads, relevant, rfl⟩ :=
        (splice?_eq_some_iff.mp made).exists_entry
      refine Or.inr ⟨before, inside, after, entry, member, rfl, reads, relevant, ?_⟩
      exact Splice.applyTo_append before inside after entry.2.toList

end

/-! ## What a run replaces -/

/-- A text turns into another one by at most one splice for each of some occurrences, in their
order. A splice replaces what reads as the name of its occurrence, wherever it stands, by the value
of a key that is relevant to the name. -/
inductive Reaches (mapping : Mapping) : List Occurrence → List Char → List Char → Prop where
  | done {text : List Char} : Reaches mapping [] text text
  | kept {occurrence : Occurrence} {others : List Occurrence} {text result : List Char}
      (rest : Reaches mapping others text result) :
      Reaches mapping (occurrence :: others) text result
  | spliced {occurrence : Occurrence} {others : List Occurrence}
      {before inside after result : List Char} {entry : String × String}
      (reads : ReadsAs inside occurrence.text) (member : entry ∈ mapping.entries)
      (relevant : relevantTo occurrence.text entry.1 = true)
      (rest : Reaches mapping others (before ++ entry.2.toList ++ after) result) :
      Reaches mapping (occurrence :: others) (before ++ inside ++ after) result

theorem reaches_textAfter (mapping : Mapping) (anchors : Anchors)
    (examined pending : List Occurrence) (text : List Char) :
    Reaches mapping examined text (textAfter mapping anchors examined pending text) := by
  induction examined generalizing text with
  | nil => exact .done
  | cons occurrence examined ih =>
      rw [textAfter]
      rcases replaceOne_eq_or mapping anchors occurrence (examined ++ pending) text with
        same | ⟨before, inside, after, entry, member, rfl, reads, relevant, changed⟩
      · rw [same]
        exact .kept (ih text)
      · rw [changed]
        exact .spliced reads member relevant (ih _)

/-- A run over any occurrences whatever: the order of replacement has each span of theirs once;
the text that is at hand when an occurrence is examined is reached from the source by splices for
the occurrences before it, and every slice of it is in range and on boundaries of characters; and
the result is reached by splices for the whole order. -/
theorem reaches_apply (mapping : Mapping) (anchors : Anchors) (occurrences : List Occurrence)
    (source : String) :
    (inOrder occurrences).Pairwise (fun left right => sameSpan left right = false) ∧
    (∀ occurrence ∈ inOrder occurrences,
      occurrences.find? (sameSpan occurrence) = some occurrence) ∧
    (∀ examined occurrence pending, inOrder occurrences = examined ++ occurrence :: pending →
      let text := textAfter mapping anchors examined (occurrence :: pending) source.toList
      Reaches mapping examined source.toList text ∧
        ∀ span, Takes mapping anchors occurrence pending text span →
          ∃ inside, slice? text span.start span.stop = some inside) ∧
    Reaches mapping (inOrder occurrences) source.toList
      (apply mapping anchors occurrences source).toList := by
  refine ⟨?_, fun occurrence member => find?_sameSpan_of_mem_inOrder member, ?_, ?_⟩
  · exact (inOrder_pairwise occurrences).imp fun ordered => ordered.2
  · intro examined occurrence pending order text
    exact ⟨reaches_textAfter mapping anchors examined (occurrence :: pending) source.toList,
      fun span takes => takes.slice?_eq_some⟩
  · have run := replaceEach_eq_textAfter mapping anchors (inOrder occurrences) [] source.toList
    rw [List.append_nil, replaceEach] at run
    rw [apply_eq_ofList, String.toList_ofList, run]
    exact reaches_textAfter mapping anchors (inOrder occurrences) [] source.toList

/-- The third span overlaps the second one and reads what was put there; the first one ends before
it begins, and the last one begins inside a character and is searched for in vain. -/
theorem reaches_apply_overlapping :
    let sql := "SELECT é FROM tu"
    let mapping := Mapping.ofList [("u", "x.y"), ("TX", "z"), ("e", "w")]
    let earlier : List Occurrence := [⟨"q", 90, 3, .relation⟩, ⟨"u", 16, 17, .relation⟩]
    let overlapping : Occurrence := ⟨"tx", 15, 17, .relation⟩
    let later : List Occurrence := [⟨"e", 8, 9, .updateTarget⟩]
    let occurrences := earlier ++ overlapping :: later
    let text := "SELECT é FROM tx.y".toList
    Reaches mapping earlier sql.toList text ∧
      (∃ inside, slice? text 15 17 = some inside) ∧
      Reaches mapping occurrences sql.toList "SELECT é FROM z.y".toList := by
  intro sql mapping earlier overlapping later occurrences text
  have order : inOrder occurrences = occurrences := by
    rw [inOrder, List.mergeSort_of_pairwise (by decide)]
    decide
  have changed : textAfter mapping Anchors.default earlier (overlapping :: later) sql.toList =
      text := by decide +kernel
  obtain ⟨-, -, stages, result⟩ := reaches_apply mapping Anchors.default occurrences sql
  obtain ⟨reached, slices⟩ := stages earlier overlapping later order
  rw [changed] at reached slices
  have replaced : apply mapping Anchors.default occurrences sql = "SELECT é FROM z.y" := by
    rw [apply_eq_ofList, order]
    decide +kernel
  rw [order, replaced] at result
  exact ⟨reached, slices ⟨15, 17⟩ (.live (by decide +kernel : live? text overlapping =
    some ['t', 'x'])), result⟩

end SqlTables.Rename
