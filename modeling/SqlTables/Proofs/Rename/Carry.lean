import SqlTables.Proofs.Rename.Stage

/-!
# Spans that a run leaves alone

A splice moves what stands behind it and replaces what it overlaps. `Splice.carry?` tells where a
span lies after a splice, if the splice leaves all of it alone, and `carryAll?` does so for the
splices of a run. What stands at a span is found again where the span is carried to, and a span
is carried through a whole run exactly if every splice that a stage makes is clear of it.
-/

namespace SqlTables.Rename

open Text (byteLength slice? Span)

/-! ## One splice -/

/-- A splice replaces no part of a span. -/
def Splice.Clear (splice : Splice) (span : Span) : Prop :=
  span.stop ≤ splice.start ∨ splice.stop ≤ span.start

/-- Where a span lies after a splice; `none` if the splice replaces a part of it. -/
def Splice.carry? (splice : Splice) (span : Span) : Option Span :=
  let moved (offset : Nat) := offset + byteLength splice.new - (splice.stop - splice.start)
  if span.stop ≤ splice.start then some span
  else if splice.stop ≤ span.start then some ⟨moved span.start, moved span.stop⟩
  else none

def carryAll? : List Splice → Span → Option Span
  | [], span => some span
  | splice :: rest, span => (splice.carry? span).bind (carryAll? rest)

theorem Splice.carry?_isSome_iff {splice : Splice} {span : Span} :
    (splice.carry? span).isSome = true ↔ splice.Clear span := by
  unfold carry? Clear
  dsimp only
  split
  case isTrue left => simp [left]
  case isFalse notLeft =>
    split
    case isTrue right => simp [right]
    case isFalse notRight => simp [notLeft, notRight]

theorem Splice.Fits.slice?_carry {splice : Splice} {text inside : List Char} {span place : Span}
    (fits : splice.Fits text) (found : slice? text span.start span.stop = some inside)
    (carried : splice.carry? span = some place) :
    slice? (splice.applyTo text) place.start place.stop = some inside := by
  obtain ⟨start, stop, new⟩ := splice
  obtain ⟨before, removed, after, whole, rfl, rfl⟩ := fits
  obtain ⟨left, right, parts, starts, stops⟩ := Text.slice?_eq_some_iff.mp found
  rw [whole, applyTo_append, Text.slice?_eq_some_iff]
  unfold carry? at carried
  dsimp only at carried
  split at carried
  case isTrue clear =>
    cases carried
    have same : left ++ inside ++ right = before ++ (removed ++ after) := by
      rw [← parts, whole, List.append_assoc]
    obtain ⟨middle, rfl, -⟩ := Text.exists_append_of_byteLength_le same
      (by rw [Text.byteLength_append]; omega)
    exact ⟨left, middle ++ new ++ after, by simp, starts, stops⟩
  case isFalse =>
    split at carried
    case isTrue clear =>
      cases carried
      have same : before ++ removed ++ after = left ++ (inside ++ right) := by
        rw [← whole, parts, List.append_assoc]
      obtain ⟨middle, rfl, rest⟩ := Text.exists_append_of_byteLength_le same
        (by rw [Text.byteLength_append]; omega)
      refine ⟨before ++ new ++ middle, right, by simp [rest], ?_, ?_⟩
      all_goals
        simp only [Text.byteLength_append] at starts stops ⊢
        omega
    case isFalse => cases carried

/-! ## A run -/

theorem carryAll?_append (first second : List Splice) (span : Span) :
    carryAll? (first ++ second) span = (carryAll? first span).bind (carryAll? second) := by
  induction first generalizing span with
  | nil => rfl
  | cons splice rest ih =>
      cases carried : splice.carry? span with
      | none => simp [carryAll?, carried]
      | some place => simp [carryAll?, carried, ih]

/-- Splices to the right of a limit do not carry a span across it. -/
theorem Splice.RightOf.carry? {splice : Splice} {limit : Nat} {span place : Span}
    (right : splice.RightOf limit) (carried : splice.carry? span = some place) :
    place = span ∨ limit ≤ span.start ∧ limit ≤ place.start := by
  obtain ⟨starts, ordered⟩ := right
  unfold Splice.carry? at carried
  dsimp only at carried
  split at carried
  case isTrue =>
    cases carried
    exact Or.inl rfl
  case isFalse =>
    split at carried
    case isTrue clear =>
      cases carried
      exact Or.inr ⟨by omega, by dsimp only; omega⟩
    case isFalse => cases carried

theorem carryAll?_eq_or {limit : Nat} {made : List Splice} {span place : Span}
    (right : ∀ splice ∈ made, splice.RightOf limit)
    (carried : carryAll? made span = some place) :
    place = span ∨ limit ≤ span.start ∧ limit ≤ place.start := by
  induction made generalizing span with
  | nil =>
      cases carried
      exact Or.inl rfl
  | cons splice rest ih =>
      obtain ⟨middle, moved, further⟩ := Option.bind_eq_some_iff.mp carried
      have first := (right splice List.mem_cons_self).carry? moved
      have later := ih (fun other known => right other (List.mem_cons_of_mem _ known)) further
      rcases first with rfl | ⟨spanRight, middleRight⟩
      · exact later
      · rcases later with rfl | ⟨-, placeRight⟩
        · exact Or.inr ⟨spanRight, middleRight⟩
        · exact Or.inr ⟨spanRight, placeRight⟩

section

variable {mapping : Mapping} {anchors : Anchors} {occurrences : List Occurrence}
  {text : List Char} {made : List Splice}

/-- The same text stands where a run carries a span. -/
theorem slice?_carryAll {inside : List Char} {span place : Span}
    (found : slice? text span.start span.stop = some inside)
    (carried : carryAll? (splices mapping anchors occurrences text) span = some place) :
    slice? (replaceEach mapping anchors occurrences text) place.start place.stop =
      some inside := by
  induction occurrences generalizing text span with
  | nil =>
      cases carried
      exact found
  | cons occurrence pending ih =>
      rw [replaceEach, replaceOne_eq]
      rw [splices] at carried
      cases next : splice? mapping anchors occurrence pending text with
      | none =>
          simp only [next] at carried
          exact ih found carried
      | some splice =>
          simp only [next, carryAll?, Option.bind_eq_some_iff] at carried
          obtain ⟨middle, moved, rest⟩ := carried
          have fits := (splice?_eq_some_iff.mp next).fits
          exact ih (fits.slice?_carry found moved) rest

/-- Every splice that a stage makes is clear of a span of the source, as far as the span has been
carried to that stage. -/
def ClearAt (mapping : Mapping) (anchors : Anchors) (span : Span) (stage : Stage) : Prop :=
  ∀ place splice, carryAll? stage.made span = some place →
    Makes mapping anchors stage.occurrence stage.pending stage.text splice → splice.Clear place

/-- A span that has been carried so far is carried through the rest of a run exactly if it is
clear of the splices of every stage to come. -/
theorem carryAll?_isSome_iff_of_carried {span place : Span}
    (carried : carryAll? made span = some place) :
    (carryAll? (splices mapping anchors occurrences text) place).isSome = true ↔
      ∀ stage ∈ stagesFrom mapping anchors occurrences text made,
        ClearAt mapping anchors span stage := by
  induction occurrences generalizing text made place with
  | nil => simp [splices, carryAll?, stagesFrom]
  | cons occurrence pending ih =>
      rw [stagesFrom, splices, List.forall_mem_cons]
      cases next : splice? mapping anchors occurrence pending text with
      | none =>
          have idle : ClearAt mapping anchors span ⟨occurrence, pending, text, made⟩ := by
            intro other splice _ makes
            rw [← splice?_eq_some_iff, next] at makes
            cases makes
          simp only [idle, true_and]
          exact ih carried
      | some splice =>
          have clear : ClearAt mapping anchors span ⟨occurrence, pending, text, made⟩ ↔
              (splice.carry? place).isSome = true := by
            rw [Splice.carry?_isSome_iff]
            constructor
            · intro all
              exact all place splice carried (splice?_eq_some_iff.mp next)
            · intro clear other splice' carriedTo makes
              rw [← splice?_eq_some_iff, next] at makes
              cases makes
              rw [carried] at carriedTo
              cases carriedTo
              exact clear
          rw [clear]
          cases moved : splice.carry? place with
          | none => simp [carryAll?, moved]
          | some further =>
              have carriedOn : carryAll? (made ++ [splice]) span = some further := by
                simp [carryAll?_append, carried, carryAll?, moved]
              simpa [carryAll?, moved] using ih carriedOn

/-- A span is carried through a run exactly if it is clear of the splices of every stage. -/
theorem carryAll?_isSome_iff (mapping : Mapping) (anchors : Anchors)
    (occurrences : List Occurrence) (text : List Char) (span : Span) :
    (carryAll? (splices mapping anchors occurrences text) span).isSome = true ↔
      ∀ stage ∈ stages mapping anchors occurrences text, ClearAt mapping anchors span stage :=
  carryAll?_isSome_iff_of_carried (show carryAll? [] span = some span from rfl)

end

end SqlTables.Rename
