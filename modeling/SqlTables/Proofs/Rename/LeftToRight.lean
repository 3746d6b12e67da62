import SqlTables.Proofs.Rename.Order
import SqlTables.Proofs.Rename.Splice

/-!
# Replacing from right to left is copying from left to right

A run edits one text in place, with offsets of the text it started from. The reference here never
edits anything: it walks over the source once, copies every character outside the spans, and puts
the new name where a renamed span begins. Both give the same text when the spans do not overlap
and no target of a mutation has to be searched for, however much longer or shorter the new names
are, and whatever stale occurrences or occurrences beyond the end there are besides.
-/

namespace SqlTables.Rename

open Text (byteLength)

/-! ## The reference -/

/-- The occurrence that decides about the span that begins at an offset: the first of the list.
Where spans do not overlap, the offset stands for one span. -/
def decidingAt? (occurrences : List Occurrence) (offset : Nat) : Option Occurrence :=
  occurrences.find? fun occurrence => occurrence.start == offset

/-- The end and the new name of the renamed span that begins at an offset. -/
def renamedAt? (mapping : Mapping) (occurrences : List Occurrence) (source : List Char)
    (offset : Nat) : Option (Nat × List Char) := do
  let occurrence ← decidingAt? occurrences offset
  let new ← newName? mapping source occurrence
  return (occurrence.stop, new)

/-- Copy a text that begins at an offset, given which spans are renamed. The text up to `covered`
belongs to a renamed span and is left out. -/
def copyFrom (renamed? : Nat → Option (Nat × List Char)) : Nat → Nat → List Char → List Char
  | offset, _, [] => ((renamed? offset).map Prod.snd).getD []
  | offset, covered, c :: rest =>
    match renamed? offset with
    | some (stop, new) => new ++ copyFrom renamed? (offset + c.utf8Size) stop rest
    | none =>
      if offset < covered then copyFrom renamed? (offset + c.utf8Size) covered rest
      else c :: copyFrom renamed? (offset + c.utf8Size) covered rest

/-- The source with the new names in place of the renamed spans. -/
def renamedCopy (mapping : Mapping) (occurrences : List Occurrence) (source : String) : String :=
  String.ofList
    (copyFrom (renamedAt? mapping occurrences source.toList) 0 0 source.toList)

/-! ## Laws of copying -/

/-- What was left out before does not matter once it lies behind. -/
theorem copyFrom_covered {renamed? : Nat → Option (Nat × List Char)} {offset covered : Nat}
    (behind : covered ≤ offset) (text : List Char) :
    copyFrom renamed? offset covered text = copyFrom renamed? offset 0 text := by
  induction text generalizing offset with
  | nil => rfl
  | cons c rest ih =>
      have next : covered ≤ offset + c.utf8Size := by omega
      have notCovered : ¬ offset < covered := by omega
      rw [copyFrom, copyFrom]
      cases renamed? offset with
      | some span => rfl
      | none => simp [notCovered, ih next]

theorem copyFrom_eq_self {renamed? : Nat → Option (Nat × List Char)} {offset : Nat}
    (kept : ∀ place, offset ≤ place → renamed? place = none) (text : List Char) :
    copyFrom renamed? offset 0 text = text := by
  induction text generalizing offset with
  | nil => simp [copyFrom, kept offset (Nat.le_refl _)]
  | cons c rest ih =>
      have later : ∀ place, offset + c.utf8Size ≤ place → renamed? place = none :=
        fun place bound => kept place (by omega)
      simp [copyFrom, kept offset (Nat.le_refl _), ih later]

/-- The rest of a renamed span is left out, and what follows the span is copied. -/
theorem copyFrom_inside {renamed? : Nat → Option (Nat × List Char)} {offset covered : Nat}
    {inside rest : List Char} (kept : ∀ place, offset ≤ place → renamed? place = none)
    (fits : offset + byteLength inside ≤ covered)
    (ends : covered = offset + byteLength inside ∨ rest = []) :
    copyFrom renamed? offset covered (inside ++ rest) = rest := by
  induction inside generalizing offset with
  | nil =>
      rcases ends with whole | rfl
      · rw [copyFrom_covered (by simpa using Nat.le_of_eq whole)]
        exact copyFrom_eq_self kept rest
      · simp [copyFrom, kept offset (Nat.le_refl _)]
  | cons c inside ih =>
      have positive := c.utf8Size_pos
      rw [Text.byteLength_cons] at fits ends
      have covers : offset < covered := by omega
      rw [List.cons_append, copyFrom]
      simp only [kept offset (Nat.le_refl _), covers, ↓reduceIte]
      exact ih (fun place bound => kept place (by omega)) (by omega)
        (ends.imp (fun whole => by omega) id)

/-- Where a renamed span begins its new name is put, and the text behind the span is copied. -/
theorem copyFrom_span {renamed? : Nat → Option (Nat × List Char)} {offset stop : Nat}
    {new inside rest : List Char} (here : renamed? offset = some (stop, new))
    (kept : ∀ place, offset < place → renamed? place = none) (nonempty : offset < stop)
    (fits : offset + byteLength inside ≤ stop)
    (ends : stop = offset + byteLength inside ∨ rest = []) :
    copyFrom renamed? offset 0 (inside ++ rest) = new ++ rest := by
  cases inside with
  | nil =>
      have notWhole : stop ≠ offset + byteLength [] := by
        rw [Text.byteLength_nil]
        omega
      have last : rest = [] := ends.resolve_left notWhole
      simp [last, copyFrom, here]
  | cons c inside =>
      have positive := c.utf8Size_pos
      rw [Text.byteLength_cons] at fits ends
      simp only [List.cons_append, copyFrom, here]
      rw [copyFrom_inside (fun place bound => kept place (by omega)) (by omega)
        (ends.imp (fun whole => by omega) id)]

/-- A text is copied in two parts if no renamed span reaches from the first into the second. -/
theorem copyFrom_append {renamed? inFirst? : Nat → Option (Nat × List Char)}
    {offset covered : Nat} {first : List Char} (second : List Char)
    (agree : ∀ place, place < offset + byteLength first → renamed? place = inFirst? place)
    (ends : inFirst? (offset + byteLength first) = none)
    (closed : ∀ place stop new, inFirst? place = some (stop, new) →
      stop ≤ offset + byteLength first)
    (reached : covered ≤ offset + byteLength first) :
    copyFrom renamed? offset covered (first ++ second) =
      copyFrom inFirst? offset covered first ++
        copyFrom renamed? (offset + byteLength first) 0 second := by
  induction first generalizing offset covered with
  | nil =>
      rw [Text.byteLength_nil, Nat.add_zero] at *
      simp [copyFrom, ends, copyFrom_covered reached]
  | cons c first ih =>
      have positive := c.utf8Size_pos
      rw [Text.byteLength_cons, ← Nat.add_assoc] at *
      have here : renamed? offset = inFirst? offset := agree offset (by omega)
      rw [List.cons_append, copyFrom, copyFrom, here]
      cases span : inFirst? offset with
      | some span' =>
          obtain ⟨stop, new⟩ := span'
          simp [ih agree ends closed (closed offset stop new span)]
      | none =>
          have rest := ih agree ends closed reached
          by_cases left : offset < covered <;> simp [left, rest]

/-! ## The run -/

/-- An occurrence that needs no search leads to the splice at its span, or to none. -/
theorem splice?_eq_spanSplice? {mapping : Mapping} {anchors : Anchors} {occurrence : Occurrence}
    {pending : List Occurrence} {text : List Char}
    (target : occurrence.kind.allowsAnchors = true → holds text occurrence = true) :
    splice? mapping anchors occurrence pending text = spanSplice? mapping text occurrence := by
  unfold splice?
  cases held : holds text occurrence with
  | true => rfl
  | false =>
      have plain : occurrence.kind.allowsAnchors = false := by
        cases allowed : occurrence.kind.allowsAnchors with
        | false => rfl
        | true =>
            have fresh := target allowed
            simp [held] at fresh
      have unnamed : newName? mapping text occurrence = none := by
        rw [Option.eq_none_iff_forall_ne_some]
        intro new named
        simp [holds_of_newName? named] at held
      simp [plain, spanSplice?, unnamed]

theorem renamedAt?_cons (mapping : Mapping) (occurrence : Occurrence)
    (others : List Occurrence) (text : List Char) (offset : Nat) :
    renamedAt? mapping (occurrence :: others) text offset =
      if offset = occurrence.start then
        (newName? mapping text occurrence).map fun new => (occurrence.stop, new)
      else renamedAt? mapping others text offset := by
  unfold renamedAt? decidingAt?
  by_cases here : offset = occurrence.start
  · cases named : newName? mapping text occurrence <;> simp [here, named]
  · simp [here, Ne.symm here]

theorem renamedAt?_stop {mapping : Mapping} {occurrences : List Occurrence}
    {text new : List Char} {offset stop : Nat}
    (renamed : renamedAt? mapping occurrences text offset = some (stop, new)) :
    ∃ occurrence ∈ occurrences, occurrence.stop = stop := by
  simp only [renamedAt?, Option.bind_eq_bind, Option.bind_eq_some_iff, Option.pure_def,
    Option.some.injEq, Prod.mk.injEq] at renamed
  obtain ⟨occurrence, found, name, -, rfl, -⟩ := renamed
  exact ⟨occurrence, List.mem_of_find?_eq_some found, rfl⟩

theorem renamedAt?_eq_none {mapping : Mapping} {occurrences : List Occurrence}
    {text : List Char} {offset : Nat}
    (left : ∀ occurrence ∈ occurrences, occurrence.start < offset) :
    renamedAt? mapping occurrences text offset = none := by
  have absent : decidingAt? occurrences offset = none := by
    rw [decidingAt?, List.find?_eq_none]
    intro occurrence member
    have bound := left occurrence member
    simp only [beq_iff_eq]
    omega
  rw [renamedAt?, absent]
  rfl

theorem renamedAt?_append_of_le {mapping : Mapping} {occurrences : List Occurrence}
    {text rest : List Char}
    (inside : ∀ occurrence ∈ occurrences, occurrence.stop ≤ byteLength text) (offset : Nat) :
    renamedAt? mapping occurrences (text ++ rest) offset =
      renamedAt? mapping occurrences text offset := by
  unfold renamedAt?
  cases found : decidingAt? occurrences offset with
  | none => rfl
  | some occurrence =>
      have member : occurrence ∈ occurrences := List.mem_of_find?_eq_some found
      simp only [Option.bind_eq_bind, Option.bind_some,
        newName?_append_of_le (inside occurrence member)]

/-- The copy of a text whose rightmost span is renamed. -/
theorem copyFrom_rightmost {mapping : Mapping} {occurrence : Occurrence}
    {others : List Occurrence} {before inside after new : List Char}
    (named : newName? mapping (before ++ inside ++ after) occurrence = some new)
    (starts : byteLength before = occurrence.start)
    (stops : byteLength before + byteLength inside =
      min occurrence.stop (byteLength (before ++ inside ++ after)))
    (positive : occurrence.start < occurrence.stop)
    (nonempty : ∀ other ∈ others, other.start < other.stop)
    (leftOf : ∀ other ∈ others, other.stop ≤ occurrence.start) :
    copyFrom (renamedAt? mapping (occurrence :: others) (before ++ inside ++ after)) 0 0
        (before ++ inside ++ after) =
      copyFrom (renamedAt? mapping others before) 0 0 before ++ (new ++ after) := by
  have startsLeft : ∀ other ∈ others, other.start < occurrence.start :=
    fun other member => Nat.lt_of_lt_of_le (nonempty other member) (leftOf other member)
  have inBefore : ∀ other ∈ others, other.stop ≤ byteLength before :=
    fun other member => starts ▸ leftOf other member
  have agree : ∀ place, place < 0 + byteLength before →
      renamedAt? mapping (occurrence :: others) (before ++ inside ++ after) place =
        renamedAt? mapping others before place := by
    intro place bound
    rw [renamedAt?_cons, if_neg (by omega), List.append_assoc]
    exact renamedAt?_append_of_le inBefore place
  have ends : renamedAt? mapping others before (0 + byteLength before) = none :=
    renamedAt?_eq_none fun other member => by
      have bound := startsLeft other member
      omega
  have closed : ∀ place stop name, renamedAt? mapping others before place = some (stop, name) →
      stop ≤ 0 + byteLength before := by
    intro place stop name renamed
    obtain ⟨other, member, rfl⟩ := renamedAt?_stop renamed
    have bound := inBefore other member
    omega
  have here : renamedAt? mapping (occurrence :: others) (before ++ inside ++ after)
      occurrence.start = some (occurrence.stop, new) := by
    rw [renamedAt?_cons, if_pos rfl, named]
    rfl
  have kept : ∀ place, occurrence.start < place →
      renamedAt? mapping (occurrence :: others) (before ++ inside ++ after) place = none := by
    intro place bound
    rw [renamedAt?_cons, if_neg (by omega)]
    exact renamedAt?_eq_none fun other member => Nat.lt_trans (startsLeft other member) bound
  have exactOrLast : occurrence.stop = occurrence.start + byteLength inside ∨ after = [] := by
    rw [Text.byteLength_append, Text.byteLength_append] at stops
    rcases Nat.eq_zero_or_pos (byteLength after) with empty | more
    · exact Or.inr (Text.byteLength_eq_zero_iff.mp empty)
    · left; omega
  have split := copyFrom_append (inside ++ after) agree ends closed (Nat.zero_le _)
  rw [← List.append_assoc] at split
  rw [split, Nat.zero_add, starts, copyFrom_span here kept positive (by omega) exactOrLast]

/-- The invariant of a run: the part of the text that holds all pending spans is the source, the
rest is whatever earlier replacements made of it, and the run copies the part and keeps the
rest. Only an occurrence that nothing was replaced before may reach beyond the text. -/
theorem replaceEach_append (mapping : Mapping) (anchors : Anchors)
    {occurrences : List Occurrence} (text rest : List Char)
    (leftward : occurrences.Pairwise fun earlier later => later.stop ≤ earlier.start)
    (nonempty : ∀ occurrence ∈ occurrences, occurrence.start < occurrence.stop)
    (targets : ∀ occurrence ∈ occurrences, occurrence.kind.allowsAnchors = true →
      holds text occurrence = true)
    (fits : rest = [] ∨ ∀ occurrence ∈ occurrences, occurrence.stop ≤ byteLength text) :
    replaceEach mapping anchors occurrences (text ++ rest) =
      copyFrom (renamedAt? mapping occurrences text) 0 0 text ++ rest := by
  induction occurrences generalizing text rest with
  | nil =>
      rw [copyFrom_eq_self (fun place _ => renamedAt?_eq_none (by simp))]
      rfl
  | cons occurrence pending ih =>
      obtain ⟨leftOf, leftwardRest⟩ := List.pairwise_cons.mp leftward
      have nonemptyRest : ∀ other ∈ pending, other.start < other.stop :=
        fun other member => nonempty other (List.mem_cons_of_mem _ member)
      have targetsRest : ∀ other ∈ pending, other.kind.allowsAnchors = true →
          holds text other = true :=
        fun other member => targets other (List.mem_cons_of_mem _ member)
      have startsLeft : ∀ other ∈ pending, other.start < occurrence.start :=
        fun other member => Nat.lt_of_lt_of_le (nonemptyRest other member) (leftOf other member)
      have sameLive : live? (text ++ rest) occurrence = live? text occurrence := by
        rcases fits with rfl | fits
        · rw [List.append_nil]
        · exact live?_append_of_le (fits occurrence List.mem_cons_self)
      have sameName : newName? mapping (text ++ rest) occurrence =
          newName? mapping text occurrence := by
        rw [newName?, newName?, sameLive]
      have target : occurrence.kind.allowsAnchors = true →
          holds (text ++ rest) occurrence = true := by
        rw [holds, sameLive]
        exact targets occurrence List.mem_cons_self
      rw [replaceEach, replaceOne_eq, splice?_eq_spanSplice? target, spanSplice?, sameName]
      cases named : newName? mapping text occurrence with
      | none =>
          have sameSpans : renamedAt? mapping (occurrence :: pending) text =
              renamedAt? mapping pending text := by
            funext offset
            rw [renamedAt?_cons]
            split
            case isTrue here =>
              rw [named, here, renamedAt?_eq_none startsLeft]
              rfl
            case isFalse => rfl
          rw [sameSpans]
          exact ih _ _ leftwardRest nonemptyRest targetsRest
            (fits.imp id fun fits other member => fits other (List.mem_cons_of_mem _ member))
      | some new =>
          obtain ⟨before, inside, after, rfl, starts, stops⟩ := newName?_cut named
          have inBefore : ∀ other ∈ pending, other.stop ≤ byteLength before :=
            fun other member => starts ▸ leftOf other member
          have clamped : min occurrence.stop (byteLength (before ++ inside ++ after ++ rest)) =
              byteLength before + byteLength inside := by
            rcases fits with rfl | fits
            · rw [List.append_nil, stops]
            · have bound := fits occurrence List.mem_cons_self
              rw [Text.byteLength_append]
              omega
          have spliced : (Splice.mk occurrence.start (min occurrence.stop
                (byteLength (before ++ inside ++ after ++ rest))) new).applyTo
                (before ++ inside ++ after ++ rest) =
              before ++ (new ++ after ++ rest) := by
            rw [clamped, ← starts, List.append_assoc _ after rest, Splice.applyTo_append]
            simp
          have targetsBefore : ∀ other ∈ pending, other.kind.allowsAnchors = true →
              holds before other = true := by
            intro other member allowed
            rw [← targetsRest other member allowed, List.append_assoc]
            exact (holds_append_of_le (inBefore other member)).symm
          rw [Option.map_some, Option.elim_some, spliced,
            ih _ _ leftwardRest nonemptyRest targetsBefore (Or.inr inBefore),
            copyFrom_rightmost named starts stops (nonempty occurrence List.mem_cons_self)
              nonemptyRest leftOf]
          simp

/-! ## The whole replacement -/

/-- Where spans do not overlap, the order of replacement keeps the occurrence that decides about
each of them. -/
theorem Separate.decidingAt?_inOrder {occurrences : List Occurrence}
    (separate : Separate occurrences) (offset : Nat) :
    decidingAt? (inOrder occurrences) offset = decidingAt? occurrences offset := by
  refine find?_inOrder ?_ ?_
  · intro left right same
    rw [(sameSpan_iff.mp same).1]
  · intro left leftMember right rightMember leftStarts rightStarts
    have leftPositive := separate.nonempty left leftMember
    have rightPositive := separate.nonempty right rightMember
    have apart := separate.apart left leftMember right rightMember
    rw [beq_iff_eq] at leftStarts rightStarts
    rw [comesFirst_iff]
    omega

/-- Replacing occurrences in place from right to left gives the copy of the source from left to
right, if spans are disjoint or the same and every target of a mutation is found at its span.
Other occurrences may be stale or lie beyond the end of the source. -/
theorem apply_eq_renamedCopy (mapping : Mapping) (anchors : Anchors)
    (occurrences : List Occurrence) (source : String) (separate : Separate occurrences)
    (targets : ∀ occurrence ∈ occurrences, occurrence.kind.allowsAnchors = true →
      holds source.toList occurrence = true) :
    apply mapping anchors occurrences source = renamedCopy mapping occurrences source := by
  have sameSpans : renamedAt? mapping (inOrder occurrences) source.toList =
      renamedAt? mapping occurrences source.toList := by
    funext offset
    rw [renamedAt?, renamedAt?, separate.decidingAt?_inOrder]
  have run := replaceEach_append mapping anchors source.toList []
    separate.inOrder_leftward
    (fun occurrence member => separate.nonempty occurrence (mem_of_mem_inOrder member))
    (fun occurrence member => targets occurrence (mem_of_mem_inOrder member))
    (Or.inl rfl)
  simp only [List.append_nil, sameSpans] at run
  rw [apply_eq_ofList, run, renamedCopy]

/-- A source with a repeated span, a stale occurrence and two beyond the end, where one new name
is longer and one is shorter than the old one. -/
theorem apply_eq_renamedCopy_mixed :
    let mapping := Mapping.ofList [("été", "hiver_froid"), ("sales.orders", "o")]
    let occurrences : List Occurrence :=
      [⟨"été", 14, 19, .relation⟩, ⟨"other", 14, 19, .relation⟩, ⟨"t", 3, 4, .qualifier⟩,
        ⟨"sales.orders", 21, 33, .deleteTarget⟩, ⟨"t", 33, 90, .relation⟩,
        ⟨"t", 100, 101, .relation⟩]
    Separate occurrences ∧
      apply mapping Anchors.default occurrences "SELECT * FROM été, Sales.Orders" =
        "SELECT * FROM hiver_froid, o" := by
  have separate : Separate
      [⟨"été", 14, 19, .relation⟩, ⟨"other", 14, 19, .relation⟩, ⟨"t", 3, 4, .qualifier⟩,
        ⟨"sales.orders", 21, 33, .deleteTarget⟩, ⟨"t", 33, 90, .relation⟩,
        ⟨"t", 100, 101, .relation⟩] := ⟨by decide, by decide⟩
  refine ⟨separate, ?_⟩
  rw [apply_eq_renamedCopy _ _ _ _ separate (by decide +kernel)]
  decide +kernel

end SqlTables.Rename
