import SqlTables.Proofs.Name.Spelling
import SqlTables.Proofs.Rename.Splice

/-!
# Which names have new names

A mapping covers a name that is one of its keys up to the case of ASCII letters. A span that holds
a name is looked up in four ways; together they ask for no more than whether the name is covered
or the text of the span, delimiters included, is a key letter for letter.
-/

namespace SqlTables

namespace Mapping

theorem covers_eq (mapping : Mapping) (name : String) :
    mapping.covers name = (mapping.findIgnoringCase? name).isSome := by
  unfold covers
  cases known : mapping.contains name with
  | false => rfl
  | true =>
      have entered : ∃ entry ∈ mapping.entries, entry.1 = name := by
        simpa [contains, get?] using known
      obtain ⟨entry, member, rfl⟩ := entered
      have found : (mapping.findIgnoringCase? entry.1).isSome = true := by
        rw [findIgnoringCase?, List.find?_isSome]
        exact ⟨entry, member, by simp [Text.sameIgnoringAsciiCase]⟩
      rw [found]
      rfl

/-- Whether a name is covered does not depend on the case of its letters. -/
theorem covers_congr (mapping : Mapping) {left right : String}
    (same : left.toList.map Char.toLower = right.toList.map Char.toLower) :
    mapping.covers left = mapping.covers right := by
  simp only [covers_eq, findIgnoringCase?, Text.sameIgnoringAsciiCase, same]

theorem covers_of_contains {mapping : Mapping} {key : String}
    (known : mapping.contains key = true) : mapping.covers key = true := by
  rw [covers, known]
  rfl

end Mapping

namespace Rename

theorem holdsName_eq_true_iff {live : List Char} {name : String} :
    holdsName live name = true ↔ Name.SameName (Name.stripQuoteChars live) name := by
  simp [holdsName, Text.sameIgnoringAsciiCase, Name.SameName]

/-- The span of a name holds the name exactly if the source spells it from there. -/
theorem holds_iff_spelled_of_spanAt? {source : List Char} {occurrence : Occurrence}
    (spanned : Name.spanAt? source occurrence.start occurrence.text =
      some (occurrence.start, occurrence.stop)) :
    holds source occurrence = true ↔
      Name.Spelled source occurrence.start occurrence.text := by
  have inRange : occurrence.stop ≤ Text.byteLength source := by
    obtain ⟨before, c, after, -, -, -, -, stops⟩ := Name.spanAt?_eq_some_iff.mp spanned
    exact stops ▸ Nat.min_le_right _ _
  rw [holds_eq_true_iff, Name.spelled_iff_of_spanAt? spanned, live?, Nat.min_eq_left inRange]
  simp only [holdsName_eq_true_iff]

theorem covers_stripped (mapping : Mapping) {live : List Char} {name : String}
    (held : holdsName live name = true) :
    mapping.covers (String.ofList (Name.stripQuoteChars live)) = mapping.covers name := by
  refine mapping.covers_congr ?_
  rw [String.toList_ofList]
  exact holdsName_eq_true_iff.mp held

/-- A span that holds a name gets a new one if its text is a key as it stands, delimiters
included, or if the name is covered. -/
theorem resolve?_isSome_iff {mapping : Mapping} {live : List Char} {name : String}
    (held : holdsName live name = true) :
    (resolve? mapping live name).isSome = true ↔
      mapping.contains (String.ofList live) = true ∨ mapping.covers name = true := by
  have covered := covers_stripped mapping held
  rw [← covered]
  unfold resolve?
  simp only [Option.orElse_eq_orElse, Option.orElse_eq_or, Option.isSome_or, Option.isSome_map,
    Bool.or_eq_true]
  constructor
  · rintro (asWritten | content | canonical | caseless)
    · exact Or.inl asWritten
    · split at content
      · cases content
      · exact Or.inr (Mapping.covers_of_contains content)
    · exact Or.inr (covered ▸ Mapping.covers_of_contains canonical)
    · exact Or.inr (mapping.covers_eq _ ▸ caseless)
  · rintro (asWritten | covers)
    · exact Or.inl asWritten
    · rw [Mapping.covers_eq] at covers
      exact Or.inr (Or.inr (Or.inr covers))

theorem covers_of_entryFor? {mapping : Mapping} {name : String} {entry : String × String}
    (entered : entryFor? mapping name = some entry) : mapping.covers name = true := by
  unfold entryFor? at entered
  cases known : mapping.get? name with
  | some replacement =>
      exact Mapping.covers_of_contains (by rw [Mapping.contains, known]; rfl)
  | none =>
      simp only [known] at entered
      rw [Mapping.covers_eq, entered]
      rfl

end Rename

end SqlTables
