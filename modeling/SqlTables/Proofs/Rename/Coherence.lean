import SqlTables.Proofs.Rename.Relevant

/-!
# One new name for every spelling

A span is looked up in four ways, the anchored search looks its name up in two, and the analysis of
a mapping asks in two more. They agree on mappings whose keys differ by more than letter case and
have no delimiters around them: there is one key for a name or none, and all of them answer with the
value of that key.
-/

namespace SqlTables

namespace Name

/-- A text stands between a pair of delimiters. -/
def Wrapped (text : String) : Prop :=
  ∃ opening closing inner, closingQuote? opening = some closing ∧
    text.toList = opening :: inner ++ [closing]

/-- Stripping changes exactly the texts that stand between delimiters. -/
theorem stripQuotes_eq_self_iff {text : String} : stripQuotes text = text ↔ ¬ Wrapped text := by
  constructor
  · rintro same ⟨opening, closing, inner, pair, written⟩
    have stripped : (stripQuotes text).toList = inner := by
      rw [stripQuotes, String.toList_ofList, written, stripQuoteChars_delimited pair]
    have shorter : inner.length = (opening :: inner ++ [closing]).length := by
      rw [← written, ← stripped, same]
    simp at shorter
    omega
  · intro bare
    rcases stripQuoteChars_cases text.toList with
      kept | ⟨opening, closing, inner, pair, written, -⟩
    · rw [stripQuotes, kept, String.ofList_toList]
    · exact absurd ⟨opening, closing, inner, pair, written⟩ bare

end Name

/-- A mapping in which every name has at most one key, whatever its letter case and delimiters. -/
structure Mapping.Plain (mapping : Mapping) : Prop where
  /-- Keys that are equal up to letter case are keys of the same entry. -/
  distinct : ∀ left ∈ mapping.entries, ∀ right ∈ mapping.entries,
    Text.sameIgnoringAsciiCase left.1 right.1 = true → left = right
  bare : ∀ entry ∈ mapping.entries, ¬ Name.Wrapped entry.1

namespace Mapping.Plain

variable {mapping : Mapping}

theorem unique (plain : mapping.Plain) {name : String} {left right : String × String}
    (leftKnown : left ∈ mapping.entries) (rightKnown : right ∈ mapping.entries)
    (leftSame : Text.sameIgnoringAsciiCase left.1 name = true)
    (rightSame : Text.sameIgnoringAsciiCase right.1 name = true) : left = right := by
  refine plain.distinct left leftKnown right rightKnown ?_
  rw [Text.sameIgnoringAsciiCase, beq_iff_eq] at leftSame rightSame ⊢
  rw [leftSame, rightSame]

theorem same_of_relevantTo (plain : mapping.Plain) {name : String} {entry : String × String}
    (known : entry ∈ mapping.entries) (relevant : Rename.relevantTo name entry.1 = true) :
    Text.sameIgnoringAsciiCase entry.1 name = true := by
  rw [Rename.relevantTo, Name.stripQuotes_eq_self_iff.mpr (plain.bare entry known),
    Bool.or_self] at relevant
  exact relevant

end Mapping.Plain

namespace Mapping

theorem covers_eq_true_iff {mapping : Mapping} {name : String} :
    mapping.covers name = true ↔
      ∃ entry ∈ mapping.entries, Text.sameIgnoringAsciiCase entry.1 name = true := by
  rw [covers_eq, findIgnoringCase?, List.find?_isSome]

end Mapping

namespace Rename

section

variable {mapping : Mapping} {live : List Char} {name key value : String}

theorem resolve?_eq_some (plain : mapping.Plain) (held : holdsName live name = true)
    (known : (key, value) ∈ mapping.entries)
    (same : Text.sameIgnoringAsciiCase key name = true) :
    resolve? mapping live name = some value := by
  have covered : mapping.covers name = true := Mapping.covers_eq_true_iff.mpr ⟨_, known, same⟩
  obtain ⟨new, resolved⟩ :=
    Option.isSome_iff_exists.mp ((resolve?_isSome_iff held).mpr (Or.inr covered))
  obtain ⟨entry, member, relevant, rfl⟩ := exists_entry_of_resolve? held resolved
  rw [resolved, plain.unique member known (plain.same_of_relevantTo member relevant) same]

theorem resolve?_eq_none (plain : mapping.Plain) (held : holdsName live name = true)
    (uncovered : mapping.covers name = false) : resolve? mapping live name = none := by
  cases resolved : resolve? mapping live name with
  | none => rfl
  | some new =>
      obtain ⟨entry, member, relevant, -⟩ := exists_entry_of_resolve? held resolved
      have covered : mapping.covers name = true :=
        Mapping.covers_eq_true_iff.mpr ⟨entry, member, plain.same_of_relevantTo member relevant⟩
      rw [uncovered] at covered
      cases covered

theorem entryFor?_eq_some (plain : mapping.Plain) (known : (key, value) ∈ mapping.entries)
    (same : Text.sameIgnoringAsciiCase key name = true) :
    entryFor? mapping name = some (key, value) := by
  have covered : mapping.covers name = true := Mapping.covers_eq_true_iff.mpr ⟨_, known, same⟩
  obtain ⟨⟨otherKey, otherValue⟩, entered⟩ : ∃ entry, entryFor? mapping name = some entry := by
    unfold entryFor?
    cases mapping.get? name with
    | some new => exact ⟨_, rfl⟩
    | none => exact Option.isSome_iff_exists.mp (mapping.covers_eq name ▸ covered)
  obtain ⟨member, sameEntry⟩ := entryFor?_spec entered
  rw [entered, plain.unique member known sameEntry same]

variable (anchors : Anchors) {occurrence : Occurrence} (pending : List Occurrence)
  (buffer : List Char)

/-- With an entry, the anchored search looks for the name as it stands and then for the key. -/
theorem replaceAnchored?_eq_findSome?
    (entered : entryFor? mapping occurrence.text = some (key, value)) :
    replaceAnchored? mapping anchors occurrence pending buffer =
      [occurrence.text, key].findSome? fun spelling =>
        anchors.replaceFirst? buffer spelling.toList value.toList
          (searchWindow anchors occurrence pending).1
          (searchWindow anchors occurrence pending).2 := by
  rw [replaceAnchored?_eq_bind, entered]
  simp only [Option.bind_some, List.findSome?_cons, List.findSome?_nil]
  generalize found : anchors.replaceFirst? buffer occurrence.text.toList value.toList
    (searchWindow anchors occurrence pending).1 (searchWindow anchors occurrence pending).2 = first
  cases first with
  | some result => rfl
  | none =>
      by_cases same : key = occurrence.text
      · simp [same, found]
      · simp only [same, ↓reduceIte, Option.orElse_eq_orElse, Option.orElse_eq_or, Option.none_or]
        cases anchors.replaceFirst? buffer key.toList value.toList
          (searchWindow anchors occurrence pending).1 (searchWindow anchors occurrence pending).2 <;>
          rfl

theorem replaceAnchored?_eq_none (uncovered : mapping.covers occurrence.text = false) :
    replaceAnchored? mapping anchors occurrence pending buffer = none := by
  rw [replaceAnchored?_eq_bind]
  cases entered : entryFor? mapping occurrence.text with
  | none => rfl
  | some entry =>
      rw [covers_of_entryFor? entered] at uncovered
      cases uncovered

end

/-- In a plain mapping every lookup answers for a name with the value of its one key. A span that
holds the name, however it is spelled, is given that value, and the anchored search writes that value.
Without a key for the name both of them leave the text alone. Whether there is one is what the
analysis tells. -/
theorem resolve?_coherent {mapping : Mapping} (plain : mapping.Plain) {live : List Char}
    {name : String} (held : holdsName live name = true) :
    (∀ key value, (key, value) ∈ mapping.entries → Text.sameIgnoringAsciiCase key name = true →
      (∀ entry ∈ mapping.entries, Text.sameIgnoringAsciiCase entry.1 name = true →
        entry = (key, value)) ∧
      resolve? mapping live name = some value ∧
      ∀ anchors occurrence pending buffer, occurrence.text = name →
        replaceAnchored? mapping anchors occurrence pending buffer =
          [name, key].findSome? fun spelling =>
            anchors.replaceFirst? buffer spelling.toList value.toList
              (searchWindow anchors occurrence pending).1
              (searchWindow anchors occurrence pending).2) ∧
    ((∀ entry ∈ mapping.entries, Text.sameIgnoringAsciiCase entry.1 name = false) →
      resolve? mapping live name = none ∧
      ∀ anchors occurrence pending buffer, occurrence.text = name →
        replaceAnchored? mapping anchors occurrence pending buffer = none) ∧
    (resolve? mapping live name).isSome = mapping.covers name ∧
    ∀ tables, name ∈ (Analysis.ofTables tables mapping).affectedTables ↔
      name ∈ tables ∧ (resolve? mapping live name).isSome = true := by
  have agrees : (resolve? mapping live name).isSome = mapping.covers name := by
    cases covered : mapping.covers name with
    | true => exact (resolve?_isSome_iff held).mpr (Or.inr covered)
    | false => rw [resolve?_eq_none plain held covered, Option.isSome_none]
  refine ⟨fun key value known same => ⟨?_, resolve?_eq_some plain held known same, ?_⟩,
    fun missing => ?_, agrees, fun tables => ?_⟩
  · exact fun entry member sameEntry => plain.unique member known sameEntry same
  · rintro anchors occurrence pending buffer rfl
    exact replaceAnchored?_eq_findSome? anchors pending buffer (entryFor?_eq_some plain known same)
  · have uncovered : mapping.covers name = false := by
      rw [Bool.eq_false_iff, ne_eq, Mapping.covers_eq_true_iff]
      rintro ⟨entry, member, same⟩
      rw [missing entry member] at same
      cases same
    refine ⟨resolve?_eq_none plain held uncovered, ?_⟩
    rintro anchors occurrence pending buffer rfl
    exact replaceAnchored?_eq_none anchors pending buffer uncovered
  · rw [agrees]
    exact List.mem_filter

/-- A span with delimiters and in other letters than the key, and a target that is found behind an
anchor, get the same new name. -/
theorem resolve?_coherent_delimited :
    let mapping : Mapping := .ofList [("Users", "accounts"), ("b.c", "\"D\"")]
    let target : Occurrence := ⟨"users", 6, 11, .updateTarget⟩
    resolve? mapping "\"uSERS\"".toList "users" = some "accounts" ∧
      replaceAnchored? mapping .default target [] "UPDATE  Users SET a = 1".toList =
        some "UPDATE  accounts SET a = 1".toList ∧
      resolve? mapping "[orders]".toList "orders" = none := by
  intro mapping target
  have stripped : ∀ entry ∈ mapping.entries, Name.stripQuotes entry.1 = entry.1 := by decide
  have plain : mapping.Plain :=
    ⟨by decide, fun entry member => Name.stripQuotes_eq_self_iff.mp (stripped entry member)⟩
  have heldUsers : holdsName "\"uSERS\"".toList "users" = true := by decide
  have heldOrders : holdsName "[orders]".toList "orders" = true := by decide
  obtain ⟨-, resolved, anchored⟩ :=
    (resolve?_coherent plain heldUsers).1 "Users" "accounts" (by decide) (by decide)
  obtain ⟨unresolved, -⟩ := (resolve?_coherent plain heldOrders).2.1 (by decide)
  refine ⟨resolved, ?_, unresolved⟩
  rw [anchored .default target [] _ rfl]
  decide +kernel

end Rename

end SqlTables
