import Mathlib.Data.List.Pairwise
import Mathlib.Data.List.Sort
import SqlTables.Proofs.Name.Lookup
import SqlTables.Proofs.Reference.LetterCase
import SqlTables.Proofs.Rename.Order
import SqlTables.Proofs.Rename.Splice

/-!
# Renaming back

If every span holds a key of an injective mapping, the new names can be renamed back. Each new name
stands where its span was, moved by what the occurrences to the left of it have gained or lost in
length. `Renames` says what a run over such spans makes of a text; it is turned around by the
inverse mapping at the new places, so that both runs are instances of one statement.
-/

namespace SqlTables.Rename

open Text (byteLength slice? cut? Cut Span)

/-! ## The text of a run over keys -/

/-- Occurrences, from right to left, hold their names, which are written as keys of a mapping; the
result has the new names in place of them. -/
inductive Renames (mapping : Mapping) : List Occurrence → List Char → List Char → Prop where
  | done {text : List Char} : Renames mapping [] text text
  | span {occurrence : Occurrence} {pending : List Occurrence}
      {before inside after new result : List Char}
      (starts : byteLength before = occurrence.start)
      (stops : byteLength before + byteLength inside = occurrence.stop)
      (held : holdsName inside occurrence.text = true)
      (bound : mapping.get? (String.ofList inside) = some (String.ofList new))
      (rest : Renames mapping pending before result) :
      Renames mapping (occurrence :: pending) (before ++ inside ++ after)
        (result ++ new ++ after)

section

variable {mapping : Mapping} {occurrences : List Occurrence} {text result : List Char}

theorem replaceOne_of_get? (anchors : Anchors) {occurrence : Occurrence}
    {pending : List Occurrence} {before inside after new : List Char}
    (starts : byteLength before = occurrence.start)
    (stops : byteLength before + byteLength inside = occurrence.stop)
    (held : holdsName inside occurrence.text = true)
    (bound : mapping.get? (String.ofList inside) = some (String.ofList new)) :
    replaceOne mapping anchors occurrence pending (before ++ inside ++ after) =
      before ++ new ++ after := by
  have inRange : min occurrence.stop (byteLength (before ++ inside ++ after)) =
      occurrence.stop := by
    rw [Text.byteLength_append, Text.byteLength_append]
    omega
  have cut : cut? (before ++ inside ++ after) occurrence.start occurrence.stop =
      some ⟨before, inside, after⟩ :=
    Text.cut?_eq_some_iff.mpr ⟨rfl, starts, stops⟩
  have resolved : resolve? mapping inside occurrence.text = some (String.ofList new) := by
    simp [resolve?, bound]
  simp only [replaceOne, inRange, cut, held, resolved, Cut.fill, ↓reduceIte, String.toList_ofList]

/-- A run turns a text into its result and leaves alone what follows the text. -/
theorem Renames.replaceEach_append (renames : Renames mapping occurrences text result)
    (anchors : Anchors) (rest : List Char) :
    replaceEach mapping anchors occurrences (text ++ rest) = result ++ rest := by
  induction renames generalizing rest with
  | done => rfl
  | @span occurrence pending before inside after new result starts stops held bound _ ih =>
      rw [replaceEach, List.append_assoc _ after rest,
        replaceOne_of_get? anchors starts stops held bound, List.append_assoc, ih]
      simp

theorem Renames.apply_eq {source : String}
    (renames : Renames mapping (inOrder occurrences) source.toList result) (anchors : Anchors) :
    apply mapping anchors occurrences source = String.ofList result := by
  have run := renames.replaceEach_append anchors []
  rw [List.append_nil, List.append_nil] at run
  rw [apply_eq_ofList, run]

theorem Renames.stop_le (renames : Renames mapping occurrences text result) :
    ∀ occurrence ∈ occurrences, occurrence.stop ≤ byteLength text := by
  induction renames with
  | done => simp
  | @span occurrence pending before inside after new result starts stops held bound rest ih =>
      simp only [Text.byteLength_append]
      intro other member
      rcases List.mem_cons.mp member with rfl | later
      · omega
      · have inBefore := ih other later
        omega

theorem Renames.leftward (renames : Renames mapping occurrences text result) :
    occurrences.Pairwise fun earlier later => later.stop ≤ earlier.start := by
  induction renames with
  | done => exact List.Pairwise.nil
  | span starts stops held bound rest ih =>
      exact List.pairwise_cons.mpr
        ⟨fun other member => starts ▸ rest.stop_le other member, ih⟩

/-! ## Spans that hold keys -/

/-- The span of an occurrence is not empty and holds its name, written as a key of the mapping. -/
structure HoldsKey (mapping : Mapping) (source : List Char) (occurrence : Occurrence) : Prop where
  nonempty : occurrence.start < occurrence.stop
  written : ∃ key, slice? source occurrence.start occurrence.stop = some key ∧
    mapping.contains (String.ofList key) = true ∧ holdsName key occurrence.text = true

theorem holdsKey_iff {source : List Char} {occurrence : Occurrence} :
    HoldsKey mapping source occurrence ↔
      occurrence.start < occurrence.stop ∧
        ((slice? source occurrence.start occurrence.stop).any fun key =>
          mapping.contains (String.ofList key) && holdsName key occurrence.text) = true := by
  simp only [Option.any_eq_true, Bool.and_eq_true]
  exact ⟨fun keyed => ⟨keyed.nonempty, keyed.written⟩, fun ⟨nonempty, written⟩ =>
    ⟨nonempty, written⟩⟩

instance decidableHoldsKey (source : List Char) (occurrence : Occurrence) :
    Decidable (HoldsKey mapping source occurrence) :=
  decidable_of_iff _ holdsKey_iff.symm

/-- Spans that hold keys and do not overlap can all be renamed. -/
theorem exists_renames
    (leftward : occurrences.Pairwise fun earlier later => later.stop ≤ earlier.start)
    (keys : ∀ occurrence ∈ occurrences, HoldsKey mapping text occurrence) :
    ∃ result, Renames mapping occurrences text result := by
  induction occurrences generalizing text with
  | nil => exact ⟨text, .done⟩
  | cons occurrence pending ih =>
      obtain ⟨leftOf, leftwardRest⟩ := List.pairwise_cons.mp leftward
      obtain ⟨keysHere, keysRest⟩ := List.forall_mem_cons.mp keys
      obtain ⟨inside, found, known, held⟩ := keysHere.written
      obtain ⟨before, after, rfl, starts, stops⟩ := Text.slice?_eq_some_iff.mp found
      obtain ⟨new, bound⟩ := Option.isSome_iff_exists.mp known
      have keysBefore : ∀ other ∈ pending, HoldsKey mapping before other := by
        intro other member
        have inBefore : other.stop ≤ byteLength before := starts ▸ leftOf other member
        obtain ⟨nonempty, written⟩ := keysRest other member
        rw [List.append_assoc, Text.slice?_append_of_le inBefore] at written
        exact ⟨nonempty, written⟩
      obtain ⟨result, renames⟩ := ih leftwardRest keysBefore
      exact ⟨result ++ new.toList ++ after,
        .span starts stops held (by rwa [String.ofList_toList]) renames⟩

/-! ## Where the new names stand -/

/-- The new name for the key that stands at the span of an occurrence; empty if none does. -/
def keyValue (mapping : Mapping) (source : List Char) (occurrence : Occurrence) : List Char :=
  (((slice? source occurrence.start occurrence.stop).bind fun key =>
    mapping.get? (String.ofList key)).getD "").toList

def totalWidth (width : Occurrence → Nat) : List Occurrence → Nat
  | [] => 0
  | occurrence :: others => width occurrence + totalWidth width others

def newBytes (mapping : Mapping) (source : List Char) : List Occurrence → Nat :=
  totalWidth fun occurrence => byteLength (keyValue mapping source occurrence)

def oldBytes : List Occurrence → Nat :=
  totalWidth fun occurrence => occurrence.stop - occurrence.start

/-- The occurrence of the new name after a run, given the occurrences to the left of it: they move
it by what they gain or lose in length. It is expected to hold the new name without delimiters and
in lower case. -/
def placed (mapping : Mapping) (source : List Char) (left : List Occurrence)
    (occurrence : Occurrence) : Occurrence :=
  let new := keyValue mapping source occurrence
  let start := occurrence.start + newBytes mapping source left - oldBytes left
  ⟨Text.asciiLower (Name.stripQuotes (String.ofList new)), start, start + byteLength new,
    occurrence.kind⟩

/-- The occurrences that end before another one begins. -/
def leftOf (occurrences : List Occurrence) (occurrence : Occurrence) : List Occurrence :=
  occurrences.filter fun other => other.stop ≤ occurrence.start

/-- The occurrences of the new names after a run from right to left. -/
def placedAll (mapping : Mapping) (source : List Char) : List Occurrence → List Occurrence
  | [] => []
  | occurrence :: pending =>
    placed mapping source pending occurrence :: placedAll mapping source pending

theorem keyValue_of_get? {occurrence : Occurrence} {before inside new : List Char}
    (starts : byteLength before = occurrence.start)
    (stops : byteLength before + byteLength inside = occurrence.stop)
    (bound : mapping.get? (String.ofList inside) = some (String.ofList new))
    (after : List Char) :
    keyValue mapping (before ++ inside ++ after) occurrence = new := by
  have found : slice? (before ++ inside ++ after) occurrence.start occurrence.stop =
      some inside :=
    Text.slice?_eq_some_iff.mpr ⟨before, after, rfl, starts, stops⟩
  simp only [keyValue, found, bound, Option.bind_some, Option.getD_some, String.toList_ofList]

/-- The result of a run is longer than its text by what the new names take up more. -/
theorem Renames.byteLength_eq (renames : Renames mapping occurrences text result)
    (rest : List Char) :
    byteLength result + oldBytes occurrences =
      byteLength text + newBytes mapping (text ++ rest) occurrences := by
  induction renames generalizing rest with
  | done => rfl
  | @span occurrence pending before inside after new result starts stops held bound _ ih =>
      have width : byteLength inside = occurrence.stop - occurrence.start := by omega
      have value := keyValue_of_get? starts stops bound (after ++ rest)
      have inner := ih (inside ++ (after ++ rest))
      simp only [← List.append_assoc] at value inner
      simp only [oldBytes, newBytes, totalWidth, value, Text.byteLength_append] at inner ⊢
      omega

theorem holdsName_lowered (new : List Char) :
    holdsName new (Text.asciiLower (Name.stripQuotes (String.ofList new))) = true := by
  have lowered := congrArg String.toList
    (Text.asciiLower_asciiLower (String.ofList (Name.stripQuoteChars new)))
  simp only [Text.asciiLower, String.toList_ofList] at lowered
  simp only [holdsName, Text.sameIgnoringAsciiCase, Text.asciiLower, Name.stripQuotes,
    String.toList_ofList, lowered, BEq.rfl]

/-- Renaming is turned around by the inverse mapping at the places of the new names. -/
theorem Renames.invert (renames : Renames mapping occurrences text result)
    (injective : mapping.Injective) (rest : List Char) :
    Renames mapping.invert (placedAll mapping (text ++ rest) occurrences) result text := by
  induction renames generalizing rest with
  | done => exact .done
  | @span occurrence pending before inside after new result starts stops held bound inner ih =>
      have value := keyValue_of_get? starts stops bound (after ++ rest)
      have lengths := inner.byteLength_eq (inside ++ (after ++ rest))
      have turned := ih (inside ++ (after ++ rest))
      have back := injective.get?_invert (Mapping.mem_entries_of_get? bound)
      simp only [← List.append_assoc] at value lengths turned
      rw [placedAll, placed]
      refine .span ?_ ?_ ?_ back turned
      · dsimp only
        omega
      · simp only [value]
        omega
      · rw [value]
        exact holdsName_lowered new

theorem Renames.slice?_placed (renames : Renames mapping occurrences text result)
    (injective : mapping.Injective) (rest : List Char) :
    (placedAll mapping (text ++ rest) occurrences).map
        (fun back => slice? result back.start back.stop) =
      occurrences.map fun occurrence => some (keyValue mapping (text ++ rest) occurrence) := by
  induction renames generalizing rest with
  | done => rfl
  | @span occurrence pending before inside after new result starts stops held bound inner ih =>
      have value := keyValue_of_get? starts stops bound (after ++ rest)
      have lengths := inner.byteLength_eq (inside ++ (after ++ rest))
      have standing := ih (inside ++ (after ++ rest))
      have inResult := (inner.invert injective (inside ++ (after ++ rest))).stop_le
      simp only [← List.append_assoc] at value lengths standing inResult
      rw [placedAll, List.map_cons, List.map_cons, value, ← standing]
      refine congrArg₂ List.cons ?_ (List.map_congr_left fun back member => ?_)
      · refine Text.slice?_eq_some_iff.mpr ⟨result, after, rfl, ?_, ?_⟩
        all_goals
          simp only [placed, value]
          omega
      · rw [List.append_assoc]
        exact Text.slice?_append_of_le (inResult back member)

end

/-! ## Places in the order of replacement -/

section

variable (mapping : Mapping) (source : List Char)

theorem totalWidth_eq_of_perm (width : Occurrence → Nat) {left other : List Occurrence}
    (same : left.Perm other) : totalWidth width left = totalWidth width other := by
  induction same with
  | nil => rfl
  | cons occurrence _ ih => rw [totalWidth, totalWidth, ih]
  | swap first second others =>
      simp only [totalWidth]
      omega
  | trans _ _ ihFirst ihSecond => exact ihFirst.trans ihSecond

/-- The place of a new name does not depend on the order of the occurrences to the left of it. -/
theorem placed_eq_of_perm {left other : List Occurrence} (same : left.Perm other)
    (occurrence : Occurrence) :
    placed mapping source left occurrence = placed mapping source other occurrence := by
  have sameNew : newBytes mapping source left = newBytes mapping source other :=
    totalWidth_eq_of_perm _ same
  have sameOld : oldBytes left = oldBytes other := totalWidth_eq_of_perm _ same
  rw [placed, placed, sameNew, sameOld]

/-- In a list from right to left, the occurrences to the left of one are those behind it. -/
theorem leftOf_append_cons {examined pending : List Occurrence} {occurrence : Occurrence}
    (leftward : (examined ++ occurrence :: pending).Pairwise fun earlier later =>
      later.stop ≤ earlier.start)
    (nonempty : ∀ other ∈ examined ++ occurrence :: pending, other.start < other.stop) :
    leftOf (examined ++ occurrence :: pending) occurrence = pending := by
  obtain ⟨-, leftwardHere, apart⟩ := List.pairwise_append.mp leftward
  obtain ⟨pendingLeft, -⟩ := List.pairwise_cons.mp leftwardHere
  have here : occurrence.start < occurrence.stop :=
    nonempty occurrence (List.mem_append_right _ List.mem_cons_self)
  have noneExamined : examined.filter (fun other => other.stop ≤ occurrence.start) = [] := by
    rw [List.filter_eq_nil_iff]
    intro other member
    have right := apart other member occurrence List.mem_cons_self
    have positive := nonempty other (List.mem_append_left _ member)
    simp only [decide_eq_true_eq]
    omega
  have allPending : pending.filter (fun other => other.stop ≤ occurrence.start) = pending := by
    rw [List.filter_eq_self]
    intro other member
    simpa using pendingLeft other member
  have notHere : ¬ occurrence.stop ≤ occurrence.start := by omega
  rw [leftOf, List.filter_append, noneExamined, List.filter_cons, allPending]
  simp [notHere]

theorem placedAll_eq_map (examined occurrences : List Occurrence)
    (leftward : (examined ++ occurrences).Pairwise fun earlier later =>
      later.stop ≤ earlier.start)
    (nonempty : ∀ occurrence ∈ examined ++ occurrences, occurrence.start < occurrence.stop) :
    placedAll mapping source occurrences =
      occurrences.map fun occurrence =>
        placed mapping source (leftOf (examined ++ occurrences) occurrence) occurrence := by
  induction occurrences generalizing examined with
  | nil => rfl
  | cons occurrence pending ih =>
      have whole : examined ++ occurrence :: pending = examined ++ [occurrence] ++ pending := by
        simp
      rw [placedAll, List.map_cons, leftOf_append_cons leftward nonempty]
      rw [whole] at leftward nonempty ⊢
      rw [ih (examined ++ [occurrence]) leftward nonempty]

/-- The places of new names in the order of replacement are those in the list. -/
theorem Separate.placedAll_inOrder {occurrences : List Occurrence}
    (separate : Separate occurrences) (rearranged : (inOrder occurrences).Perm occurrences) :
    placedAll mapping source (inOrder occurrences) =
      (inOrder occurrences).map fun occurrence =>
        placed mapping source (leftOf occurrences occurrence) occurrence := by
  have nonempty : ∀ occurrence ∈ inOrder occurrences, occurrence.start < occurrence.stop :=
    fun occurrence member => separate.nonempty occurrence (mem_of_mem_inOrder member)
  refine (placedAll_eq_map mapping source [] (inOrder occurrences) separate.inOrder_leftward
    nonempty).trans (List.map_congr_left fun occurrence _ => ?_)
  exact placed_eq_of_perm mapping source (rearranged.filter _) occurrence

end

/-! ## Expectations -/

/-- Which name an occurrence expects at which span. -/
def expected (occurrence : Occurrence) : String × Span :=
  (occurrence.text, ⟨occurrence.start, occurrence.stop⟩)

theorem expected_eq_iff {left right : Occurrence} :
    expected left = expected right ↔
      left.text = right.text ∧ left.start = right.start ∧ left.stop = right.stop := by
  simp [expected]

/-- Only what is expected matters to a run over keys. -/
theorem Renames.congr {mapping : Mapping} {occurrences others : List Occurrence}
    {text result : List Char} (renames : Renames mapping occurrences text result)
    (same : others.map expected = occurrences.map expected) :
    Renames mapping others text result := by
  induction renames generalizing others with
  | done =>
      rw [List.map_nil, List.map_eq_nil_iff] at same
      rw [same]
      exact .done
  | @span occurrence pending before inside after new result starts stops held bound _ ih =>
      obtain ⟨other, rest, rfl, sameHere, sameRest⟩ := List.map_eq_cons_iff.mp same
      obtain ⟨sameText, sameStart, sameStop⟩ := expected_eq_iff.mp sameHere
      exact .span (starts.trans sameStart.symm) (stops.trans sameStop.symm)
        (by rwa [sameText]) bound (ih sameRest)

def Behind (left right : String × Span) : Prop :=
  right.2.start < left.2.start

instance behind_irrefl : Std.Irrefl Behind :=
  ⟨fun _ => Nat.lt_irrefl _⟩

instance behind_antisymm : Std.Antisymm Behind :=
  ⟨fun _ _ left right => absurd left (Nat.lt_asymm right)⟩

section

variable {back target : List Occurrence}

/-- Disjoint spans expect one name at each start. -/
theorem expected_eq_of_start_eq
    (leftward : target.Pairwise fun earlier later => later.stop ≤ earlier.start)
    (nonempty : ∀ occurrence ∈ target, occurrence.start < occurrence.stop) :
    ∀ left ∈ target, ∀ right ∈ target, left.start = right.start →
      expected left = expected right := by
  have symm : Std.Symm fun left right : Occurrence =>
      left.start = right.start → expected left = expected right :=
    ⟨fun _ _ alike starts => (alike starts.symm).symm⟩
  have apart : target.Pairwise fun left right =>
      left.start = right.start → expected left = expected right := by
    refine leftward.imp_of_mem fun {left right} _ rightMember order starts => ?_
    have positive := nonempty right rightMember
    omega
  intro left leftMember right rightMember
  exact apart.forall_of_forall (fun _ _ _ => rfl) leftMember rightMember

/-- Of occurrences that expect one name at each start, the order of replacement keeps every
expectation, from right to left. -/
theorem pairwise_behind_inOrder
    (byStart : ∀ left ∈ back, ∀ right ∈ back, left.start = right.start →
      expected left = expected right) :
    ((inOrder back).map expected).Pairwise Behind ∧
      ∀ place, place ∈ (inOrder back).map expected ↔ place ∈ back.map expected := by
  constructor
  · rw [List.pairwise_map]
    refine (inOrder_pairwise back).imp_of_mem fun {left right} leftMember rightMember order => ?_
    rcases comesFirst_iff.mp order.1 with before | ⟨starts, -⟩
    · exact before
    · have alike := byStart left (mem_of_mem_inOrder leftMember) right
        (mem_of_mem_inOrder rightMember) starts
      have repeated := sameSpan_iff.mpr (expected_eq_iff.mp alike).2
      rw [order.2] at repeated
      cases repeated
  · intro place
    constructor
    · intro member
      obtain ⟨occurrence, kept, rfl⟩ := List.mem_map.mp member
      exact List.mem_map_of_mem (mem_of_mem_inOrder kept)
    · intro member
      obtain ⟨occurrence, given, rfl⟩ := List.mem_map.mp member
      obtain ⟨other, kept, span⟩ := exists_sameSpan_mem_inOrder given
      rw [byStart occurrence given other (mem_of_mem_inOrder kept) (sameSpan_iff.mp span).1]
      exact List.mem_map_of_mem kept

/-- A list that expects the same as occurrences from right to left, in any order and any number of
times, is brought into the order of these. -/
theorem map_expected_inOrder
    (leftward : target.Pairwise fun earlier later => later.stop ≤ earlier.start)
    (nonempty : ∀ occurrence ∈ target, occurrence.start < occurrence.stop)
    (same : ∀ place, place ∈ back.map expected ↔ place ∈ target.map expected) :
    (inOrder back).map expected = target.map expected := by
  have toTarget : ∀ left ∈ back, ∃ right ∈ target, expected right = expected left :=
    fun left member => List.mem_map.mp ((same _).mp (List.mem_map_of_mem member))
  have byStart : ∀ left ∈ back, ∀ right ∈ back, left.start = right.start →
      expected left = expected right := by
    intro left leftMember right rightMember starts
    obtain ⟨first, firstMember, sameFirst⟩ := toTarget left leftMember
    obtain ⟨second, secondMember, sameSecond⟩ := toTarget right rightMember
    rw [← sameFirst, ← sameSecond]
    refine expected_eq_of_start_eq leftward nonempty first firstMember second secondMember ?_
    rw [(expected_eq_iff.mp sameFirst).2.1, (expected_eq_iff.mp sameSecond).2.1, starts]
  obtain ⟨sortedBack, members⟩ := pairwise_behind_inOrder byStart
  have sortedTarget : (target.map expected).Pairwise Behind := by
    rw [List.pairwise_map]
    refine leftward.imp_of_mem fun {left right} _ rightMember order => ?_
    exact Nat.lt_of_lt_of_le (nonempty right rightMember) order
  exact sortedBack.eq_of_mem_iff sortedTarget fun place => (members place).trans (same place)

end

/-! ## There and back -/

theorem separate_of_disjoint {occurrences : List Occurrence}
    (nonempty : ∀ occurrence ∈ occurrences, occurrence.start < occurrence.stop)
    (disjoint : occurrences.Pairwise fun left right =>
      left.stop ≤ right.start ∨ right.stop ≤ left.start) :
    Separate occurrences ∧ (inOrder occurrences).Perm occurrences := by
  have symm : Std.Symm fun left right : Occurrence =>
      left.stop ≤ right.start ∨ right.stop ≤ left.start := ⟨fun _ _ apart => apart.symm⟩
  refine ⟨⟨nonempty, fun left leftMember right rightMember => ?_⟩, inOrder_perm ?_⟩
  · by_cases equal : left = right
    · exact Or.inr (Or.inr ⟨by rw [equal], by rw [equal]⟩)
    · have apart := disjoint.forall leftMember rightMember equal
      omega
  · refine disjoint.imp_of_mem fun {left right} leftMember rightMember apart => ?_
    have leftPositive := nonempty left leftMember
    have rightPositive := nonempty right rightMember
    rw [Bool.eq_false_iff, ne_eq, sameSpan_iff]
    omega

theorem HoldsKey.keyValue_ne_nil {mapping : Mapping} {source : List Char} {occurrence : Occurrence}
    (keyed : HoldsKey mapping source occurrence)
    (named : ∀ entry ∈ mapping.entries, entry.2 ≠ "") :
    keyValue mapping source occurrence ≠ [] := by
  obtain ⟨key, found, known, -⟩ := keyed.written
  obtain ⟨new, bound⟩ := Option.isSome_iff_exists.mp known
  have value : keyValue mapping source occurrence = new.toList := by
    simp only [keyValue, found, bound, Option.bind_some, Option.getD_some]
  rw [value, ne_eq, String.toList_eq_nil_iff]
  exact named _ (Mapping.mem_entries_of_get? bound)

/-- If pairwise disjoint spans hold keys of an injective mapping without empty values, the new names
stand at their places in the result, and any occurrences that expect them there, without
delimiters and in lower case, are renamed back to the source by the inverse mapping. -/
theorem apply_invert_apply (mapping : Mapping) (anchors backAnchors : Anchors)
    (occurrences back : List Occurrence) (source : String)
    (injective : mapping.Injective) (named : ∀ entry ∈ mapping.entries, entry.2 ≠ "")
    (disjoint : occurrences.Pairwise fun left right =>
      left.stop ≤ right.start ∨ right.stop ≤ left.start)
    (keys : ∀ occurrence ∈ occurrences, HoldsKey mapping source.toList occurrence)
    (places : ∀ place, place ∈ back.map expected ↔
      place ∈ (occurrences.map fun occurrence =>
        placed mapping source.toList (leftOf occurrences occurrence) occurrence).map expected) :
    (∀ occurrence ∈ occurrences,
      let place := placed mapping source.toList (leftOf occurrences occurrence) occurrence
      slice? (apply mapping anchors occurrences source).toList place.start place.stop =
        some (keyValue mapping source.toList occurrence)) ∧
    apply mapping.invert backAnchors back (apply mapping anchors occurrences source) = source := by
  have nonempty : ∀ occurrence ∈ occurrences, occurrence.start < occurrence.stop :=
    fun occurrence member => (keys occurrence member).nonempty
  obtain ⟨separate, rearranged⟩ := separate_of_disjoint nonempty disjoint
  obtain ⟨result, renames⟩ := exists_renames separate.inOrder_leftward
    fun occurrence member => keys occurrence (mem_of_mem_inOrder member)
  have turned := renames.invert injective []
  have standing := renames.slice?_placed injective []
  rw [List.append_nil, separate.placedAll_inOrder mapping source.toList rearranged]
    at turned standing
  rw [renames.apply_eq anchors, String.toList_ofList]
  constructor
  · intro occurrence member
    rw [List.map_map, List.map_inj_left] at standing
    exact standing occurrence (rearranged.mem_iff.mpr member)
  · have nonemptyBack : ∀ place ∈ (inOrder occurrences).map (fun occurrence =>
        placed mapping source.toList (leftOf occurrences occurrence) occurrence),
        place.start < place.stop := by
      intro place member
      obtain ⟨occurrence, kept, rfl⟩ := List.mem_map.mp member
      have filled := (keys occurrence (mem_of_mem_inOrder kept)).keyValue_ne_nil named
      rw [ne_eq, ← Text.byteLength_eq_zero_iff] at filled
      simp only [placed]
      omega
    have order := map_expected_inOrder turned.leftward nonemptyBack fun place =>
      (places place).trans ((rearranged.map _).map _).mem_iff.symm
    have backwards : Renames mapping.invert (inOrder back) (String.ofList result).toList
        source.toList := by
      rw [String.toList_ofList]
      exact turned.congr order
    rw [backwards.apply_eq backAnchors, String.ofList_toList]

/-- A chain of three names, one of them delimited, of which the last has letters of two bytes. The
occurrences of the new names are given in another order, with other kinds, and one of them
twice. -/
theorem apply_invert_apply_chain :
    let sql := "SELECT a.x FROM a JOIN \"B\""
    let mapping := Mapping.ofList [("a", "\"B\""), ("\"B\"", "Été.a"), ("c", "a")]
    let occurrences : List Occurrence :=
      [⟨"a", 7, 8, .qualifier⟩, ⟨"b", 23, 26, .deleteTarget⟩, ⟨"a", 16, 17, .relation⟩]
    let back : List Occurrence :=
      [⟨"b", 18, 21, .updateTarget⟩, ⟨"Été.a", 27, 34, .relation⟩, ⟨"b", 7, 10, .relation⟩,
        ⟨"b", 7, 10, .qualifier⟩]
    slice? (apply mapping Anchors.default occurrences sql).toList 27 34 = some "Été.a".toList ∧
      apply mapping.invert Anchors.default back
        (apply mapping Anchors.default occurrences sql) = sql := by
  intro sql mapping occurrences back
  have given : ∀ place ∈ back.map expected, place ∈ (occurrences.map fun occurrence =>
      placed mapping sql.toList (leftOf occurrences occurrence) occurrence).map expected := by
    decide +kernel
  have all : ∀ place ∈ (occurrences.map fun occurrence =>
      placed mapping sql.toList (leftOf occurrences occurrence) occurrence).map expected,
      place ∈ back.map expected := by
    decide +kernel
  obtain ⟨standing, restored⟩ := apply_invert_apply mapping Anchors.default Anchors.default
    occurrences back sql (by unfold Mapping.Injective; decide +kernel) (by decide +kernel)
    (by decide +kernel) (by decide +kernel) fun place => ⟨given place, all place⟩
  have target := standing ⟨"b", 23, 26, .deleteTarget⟩ (by decide +kernel)
  have value : keyValue mapping sql.toList ⟨"b", 23, 26, .deleteTarget⟩ = "Été.a".toList := by
    decide +kernel
  have place : placed mapping sql.toList (leftOf occurrences ⟨"b", 23, 26, .deleteTarget⟩)
      ⟨"b", 23, 26, .deleteTarget⟩ = ⟨"Été.a", 27, 34, .deleteTarget⟩ := by decide +kernel
  rw [place, value] at target
  exact ⟨target, restored⟩

end SqlTables.Rename
