import SqlTables.Proofs.Rename.Safety
import SqlTables.Proofs.Text.Folding
import SqlTables.Proofs.Text.Trimming

/-!
# What the anchored search finds

The search goes through a text once, from left to right, and does not look for a match of an anchor
inside another match of it. `Hit` says where a name stands behind an anchor without any such order
of events. The two agree for phrases such as the usual ones, whose first letter occurs in them once:
no match can then begin inside another one, so none is passed over, and the first hit that the
search comes to is the leftmost one.
-/

namespace SqlTables.Rename

open Text (byteLength isBlank isPlainLetter)

/-! ## Phrases as they are written -/

/-- A text consists of words, in any case of their ASCII letters, each followed by blanks. -/
inductive Phrased : List (List Char) → List Char → Prop where
  | nil : Phrased [] []
  | cons {word written blanks rest : List Char} {words : List (List Char)}
      (same : written.map Char.toLower = word.map Char.toLower) (spaced : blanks ≠ [])
      (blank : ∀ c ∈ blanks, isBlank c = true) (more : Phrased words rest) :
      Phrased (word :: words) (written ++ blanks ++ rest)

/-- Words of letters that only ASCII letters fold to. -/
def Lettered (words : List (List Char)) : Prop :=
  ∀ word ∈ words, word ≠ [] ∧ ∀ letter ∈ word, isPlainLetter letter = true

/-- Such words whose first letter does not occur in them again. -/
structure Distinctive (words : List (List Char)) : Prop where
  lettered : Lettered words
  once : ∃ first letters, words.flatten = first :: letters ∧
    ∀ letter ∈ letters, letter.toLower ≠ first.toLower

theorem isAlpha_of_isPlainLetter {letter : Char} (plain : isPlainLetter letter = true) :
    letter.isAlpha = true := by
  simp only [isPlainLetter, Bool.and_eq_true] at plain
  exact plain.1.1

theorem isBlank_eq_false_of_toLower {letter c : Char} (plain : isPlainLetter letter = true)
    (same : c.toLower = letter.toLower) : isBlank c = false := by
  obtain ⟨low, high⟩ := Text.toNat_toLower_of_isAlpha (isAlpha_of_isPlainLetter plain)
  rw [← same] at low high
  have bounds : 65 ≤ c.toNat ∧ c.toNat ≤ 122 := by
    cases upper : c.isUpper with
    | true =>
        have capital := of_decide_eq_true upper
        have first : 65 ≤ c.toNat := UInt32.le_iff_toNat_le.mp capital.1
        have last : c.toNat ≤ 90 := UInt32.le_iff_toNat_le.mp capital.2
        omega
    | false =>
        rw [Text.toLower_eq_self upper] at low high
        omega
  simp only [isBlank, Bool.or_eq_false_iff, Bool.and_eq_false_iff, decide_eq_false_iff_not,
    beq_eq_false_iff_ne]
  omega

section

variable {word : List Char} {words : List (List Char)} {text after matched : List Char}

theorem afterWord?_eq_some_iff (plain : ∀ letter ∈ word, isPlainLetter letter = true) :
    afterWord? word text = some after ↔
      ∃ written, text = written ++ after ∧ written.map Char.toLower = word.map Char.toLower := by
  induction word generalizing text with
  | nil =>
      simp only [afterWord?, Option.some.injEq, List.map_nil, List.map_eq_nil_iff]
      constructor
      · rintro rfl
        exact ⟨[], rfl, rfl⟩
      · rintro ⟨written, rfl, rfl⟩
        rfl
  | cons letter word ih =>
      obtain ⟨plainLetter, plainWord⟩ := List.forall_mem_cons.mp plain
      cases text with
      | nil =>
          simp only [afterWord?, reduceCtorEq, false_iff]
          rintro ⟨written, empty, same⟩
          rw [(List.append_eq_nil_iff.mp empty.symm).1] at same
          cases same
      | cons c text =>
          simp only [afterWord?, Option.ite_none_right_eq_some,
            Text.sameFold_eq_true_iff plainLetter, ih plainWord]
          constructor
          · rintro ⟨sameLetter, written, rfl, same⟩
            exact ⟨c :: written, rfl, by simp [sameLetter, same]⟩
          · rintro ⟨written, whole, same⟩
            cases written with
            | nil => cases same
            | cons d written =>
                obtain ⟨rfl, rfl⟩ := List.cons.inj whole
                obtain ⟨sameLetter, sameRest⟩ := List.cons.inj same
                exact ⟨sameLetter, written, rfl, sameRest⟩

theorem afterBlanks?_eq_some_iff :
    afterBlanks? text = some after ↔
      ∃ blanks, text = blanks ++ after ∧ blanks ≠ [] ∧ (∀ c ∈ blanks, isBlank c = true) ∧
        ∀ c ∈ after.head?, isBlank c = false := by
  cases text with
  | nil =>
      simp only [afterBlanks?, reduceCtorEq, false_iff]
      rintro ⟨blanks, empty, spaced, -⟩
      exact spaced (List.append_eq_nil_iff.mp empty.symm).1
  | cons c text =>
      simp only [afterBlanks?, Option.ite_none_right_eq_some, Option.some.injEq]
      constructor
      · rintro ⟨blank, rfl⟩
        obtain ⟨blanks, rest, rfl, blankRest, stops⟩ := Text.exists_blanks text
        rw [Text.dropWhile_isBlank_append blankRest stops]
        exact ⟨c :: blanks, rfl, List.cons_ne_nil _ _,
          List.forall_mem_cons.mpr ⟨blank, blankRest⟩, stops⟩
      · rintro ⟨blanks, whole, spaced, blank, stops⟩
        cases blanks with
        | nil => exact absurd rfl spaced
        | cons d blanks =>
            rw [List.cons_append] at whole
            obtain ⟨rfl, rfl⟩ := List.cons.inj whole
            obtain ⟨blankFirst, blankRest⟩ := List.forall_mem_cons.mp blank
            rw [Text.dropWhile_isBlank_append blankRest stops]
            exact ⟨blankFirst, rfl⟩

theorem Phrased.exists_cons (lettered : Lettered (word :: words))
    (phrased : Phrased (word :: words) matched) :
    ∃ c rest, matched = c :: rest ∧ isBlank c = false := by
  obtain ⟨nonempty, plain⟩ := lettered word List.mem_cons_self
  cases phrased with
  | @cons _ written blanks rest _ same spaced blank more =>
      cases word with
      | nil => exact absurd rfl nonempty
      | cons letter word =>
          cases written with
          | nil => cases same
          | cons c written =>
              have sameLetter : c.toLower = letter.toLower := (List.cons.inj same).1
              exact ⟨c, written ++ blanks ++ rest, rfl,
                isBlank_eq_false_of_toLower (plain letter List.mem_cons_self) sameLetter⟩

/-- The text behind words is what follows the words as they are written, with all their blanks. -/
theorem afterWords?_eq_some_iff (lettered : Lettered words) :
    afterWords? words text = some after ↔
      ∃ matched, text = matched ++ after ∧ Phrased words matched ∧
        (words ≠ [] → ∀ c ∈ after.head?, isBlank c = false) := by
  induction words generalizing text with
  | nil =>
      simp only [afterWords?, Option.some.injEq]
      constructor
      · rintro rfl
        exact ⟨[], rfl, .nil, fun some => absurd rfl some⟩
      · rintro ⟨matched, rfl, phrased, -⟩
        cases phrased
        rfl
  | cons word words ih =>
      obtain ⟨⟨-, plain⟩, letteredRest⟩ := List.forall_mem_cons.mp lettered
      simp only [afterWords?, Option.bind_eq_some_iff, afterWord?_eq_some_iff plain,
        afterBlanks?_eq_some_iff, ih letteredRest]
      constructor
      · rintro ⟨_, ⟨_, ⟨written, rfl, same⟩, blanks, rfl, spaced, blank, stops⟩, matched, rfl,
          phrased, stopsRest⟩
        refine ⟨written ++ blanks ++ matched, by simp, .cons same spaced blank phrased, ?_⟩
        intro _
        cases phrased with
        | nil => exact stops
        | cons => exact stopsRest (List.cons_ne_nil _ _)
      · rintro ⟨_, rfl, phrased, stops⟩
        cases phrased with
        | @cons _ written blanks matched _ same spaced blank more =>
            have stopsAfter := stops (List.cons_ne_nil _ _)
            refine ⟨matched ++ after, ⟨blanks ++ matched ++ after, ⟨written, by simp, same⟩, blanks,
              by simp, spaced, blank, ?_⟩, matched, rfl, more, fun _ => stopsAfter⟩
            cases words with
            | nil =>
                cases more
                exact stopsAfter
            | cons next words =>
                obtain ⟨c, rest, rfl, letter⟩ := more.exists_cons letteredRest
                intro d first
                cases first
                exact letter

/-- Nothing but the letters of the words and blanks is written for them. -/
theorem Phrased.isBlank_or_mem (phrased : Phrased words matched) {c : Char}
    (member : c ∈ matched) :
    isBlank c = true ∨ ∃ letter ∈ words.flatten, c.toLower = letter.toLower := by
  induction phrased with
  | nil => cases member
  | @cons word written blanks rest words same spaced blank more ih =>
      rw [List.mem_append, List.mem_append] at member
      rcases member with (inWord | inBlanks) | inRest
      · have lowered : c.toLower ∈ word.map Char.toLower := by
          rw [← same]
          exact List.mem_map_of_mem inWord
        obtain ⟨letter, known, sameLetter⟩ := List.mem_map.mp lowered
        exact Or.inr ⟨letter, by simp [known], sameLetter.symm⟩
      · exact Or.inl (blank c inBlanks)
      · rcases ih inRest with isBlank | ⟨letter, known, sameLetter⟩
        · exact Or.inl isBlank
        · exact Or.inr ⟨letter, by simp only [List.flatten_cons, List.mem_append, known, or_true],
            sameLetter⟩

/-! ## Matches do not overlap -/

/-- What is written for distinctive words begins with a letter that does not occur in it again. -/
theorem Distinctive.exists_first (distinct : Distinctive words) :
    ∃ first, ∀ matched, Phrased words matched →
      ∃ c rest, matched = c :: rest ∧ c.toLower = first ∧ ∀ d ∈ rest, d.toLower ≠ first := by
  obtain ⟨first, letters, flat, once⟩ := distinct.once
  refine ⟨first.toLower, ?_⟩
  intro matched phrased
  cases phrased with
  | nil => cases flat
  | @cons word written blanks rest words same spaced blank more =>
      obtain ⟨nonempty, plain⟩ := distinct.lettered word List.mem_cons_self
      cases word with
      | nil => exact absurd rfl nonempty
      | cons letter word =>
          obtain ⟨rfl, rfl⟩ : letter = first ∧ word ++ words.flatten = letters := by
            simpa using flat
          cases written with
          | nil => cases same
          | cons c written =>
              obtain ⟨sameLetter, sameWord⟩ := List.cons.inj same
              refine ⟨c, written ++ blanks ++ rest, rfl, sameLetter, ?_⟩
              intro d member again
              have phrasedRest : Phrased (word :: words) (written ++ blanks ++ rest) :=
                .cons sameWord spaced blank more
              rcases phrasedRest.isBlank_or_mem member with isBlank | ⟨other, known, sameOther⟩
              · rw [isBlank_eq_false_of_toLower (plain letter List.mem_cons_self) again] at isBlank
                cases isBlank
              · exact once other (by simpa using known) (sameOther.symm.trans again)

theorem Distinctive.ne_nil (distinct : Distinctive words) : words ≠ [] := by
  rintro rfl
  obtain ⟨first, letters, empty, -⟩ := distinct.once
  cases empty

/-- A match of distinctive words that begins behind the beginning of another one begins behind the
end of that one. -/
theorem length_le_of_afterWords? (distinct : Distinctive words) {front rest later : List Char}
    (behind : front ≠ []) (outer : afterWords? words (front ++ rest) = some after)
    (inner : afterWords? words rest = some later) : rest.length ≤ after.length := by
  obtain ⟨first, begins⟩ := distinct.exists_first
  obtain ⟨matched, whole, phrased, -⟩ := (afterWords?_eq_some_iff distinct.lettered).mp outer
  obtain ⟨other, rfl, phrasedOther, -⟩ := (afterWords?_eq_some_iff distinct.lettered).mp inner
  obtain ⟨c, matchedRest, rfl, -, onlyOnce⟩ := begins matched phrased
  obtain ⟨d, otherRest, rfl, isFirst, -⟩ := begins other phrasedOther
  rcases List.append_eq_append_iff.mp whole with ⟨middle, left, right⟩ | ⟨middle, left, rfl⟩
  · cases middle with
    | nil =>
        rw [right]
        exact Nat.le_refl _
    | cons e middle =>
        obtain ⟨rfl, -⟩ := List.cons.inj right
        cases front with
        | nil => exact absurd rfl behind
        | cons f front =>
            obtain ⟨-, rfl⟩ := List.cons.inj left
            exact absurd isFirst (onlyOnce d (by simp))
  · simp

end

/-! ## Every match is found -/

/-- Words match at the front of a text that stands behind another one, and `after` follows the
match. -/
structure MatchesAt (words : List (List Char)) (before text after : List Char) : Prop where
  boundary : ∀ c ∈ text.head?, isBoundary before.getLast? c = true
  matched : afterWords? words text = some after

/-- A match ends at a place of a text that stands behind another one, and begins behind a number of
its characters. -/
def EndsMatch (words : List (List Char)) (before text : List Char) (skipped place : Nat) : Prop :=
  ∃ front rest after, text = front ++ rest ∧ skipped ≤ front.length ∧
    MatchesAt words (before ++ front) rest after ∧
      place + byteLength after = byteLength (before ++ text)

section

variable {words : List (List Char)} {before text : List Char} {c : Char} {skipped place : Nat}

theorem matchesAt_cons_iff {after : List Char} :
    (if isBoundary before.getLast? c then afterWords? words (c :: text) else none) = some after ↔
      MatchesAt words before (c :: text) after := by
  rw [Option.ite_none_right_eq_some]
  constructor
  · rintro ⟨boundary, matched⟩
    exact ⟨fun d first => Option.some.inj first ▸ boundary, matched⟩
  · rintro ⟨boundary, matched⟩
    exact ⟨boundary c rfl, matched⟩

theorem endsMatch_cons :
    EndsMatch words before (c :: text) skipped place ↔
      (skipped = 0 ∧ ∃ after, MatchesAt words before (c :: text) after ∧
        place + byteLength after = byteLength (before ++ c :: text)) ∨
      EndsMatch words (before ++ [c]) text (skipped - 1) place := by
  constructor
  · rintro ⟨front, rest, after, whole, behind, matches', ends⟩
    cases front with
    | nil =>
        rw [List.nil_append] at whole
        subst whole
        rw [List.append_nil] at matches'
        exact Or.inl ⟨Nat.le_zero.mp behind, after, matches', ends⟩
    | cons d front =>
        obtain ⟨rfl, rfl⟩ := List.cons.inj whole
        rw [List.length_cons] at behind
        exact Or.inr ⟨front, rest, after, rfl, by omega, by simpa using matches',
          by simpa using ends⟩
  · rintro (⟨rfl, after, matches', ends⟩ | ⟨front, rest, after, rfl, behind, matches', ends⟩)
    · exact ⟨[], c :: text, after, rfl, Nat.le_refl _, by simpa using matches', ends⟩
    · refine ⟨c :: front, rest, after, rfl, ?_, by simpa using matches', by simpa using ends⟩
      rw [List.length_cons]
      omega

/-- Behind a match nothing is lost by going on where it ends. -/
theorem MatchesAt.endsMatch_iff (distinct : Distinctive words) {after : List Char}
    (matches' : MatchesAt words before (c :: text) after) :
    EndsMatch words (before ++ [c]) text 0 place ↔
      EndsMatch words (before ++ [c]) text (text.length - after.length) place := by
  constructor
  · rintro ⟨front, rest, later, rfl, -, inner, ends⟩
    have apart : rest.length ≤ after.length :=
      length_le_of_afterWords? distinct (List.cons_ne_nil c front) matches'.matched inner.matched
    refine ⟨front, rest, later, rfl, ?_, inner, ends⟩
    rw [List.length_append]
    omega
  · rintro ⟨front, rest, later, whole, -, inner, ends⟩
    exact ⟨front, rest, later, whole, Nat.zero_le _, inner, ends⟩

/-- The search lists the ends of all matches in what is left of a text. The induction follows the
search: what it has passed is put behind `before`. -/
theorem mem_matchEndsFrom_iff (distinct : Distinctive words) :
    place ∈ matchEndsFrom words before.getLast? (byteLength before) skipped text ↔
      EndsMatch words before text skipped place := by
  induction text generalizing before skipped with
  | nil =>
      simp only [matchEndsFrom, List.not_mem_nil, false_iff]
      rintro ⟨front, rest, after, empty, -, matches', -⟩
      obtain ⟨rfl, rfl⟩ := List.append_eq_nil_iff.mp empty.symm
      exact Nat.not_lt_zero _ (length_lt_of_afterWords? distinct.ne_nil matches'.matched)
  | cons c text ih =>
      have lastChar : some c = (before ++ [c]).getLast? := by simp
      have width : byteLength before + c.utf8Size = byteLength (before ++ [c]) := by simp
      rw [endsMatch_cons]
      cases skipped with
      | succ skipped =>
          rw [matchEndsFrom, lastChar, width, ih]
          simp
      | zero =>
          rw [matchEndsFrom]
          split
          case h_1 after found =>
            have matches' := matchesAt_cons_iff.mp found
            have bound := byteLength_le_of_afterWords? matches'.matched
            rw [List.mem_cons, lastChar, width, ih, ← matches'.endsMatch_iff distinct]
            refine or_congr ?_ Iff.rfl
            rw [Text.byteLength_append]
            constructor
            · intro here
              exact ⟨rfl, after, matches', by omega⟩
            · rintro ⟨-, other, matchesOther, ends⟩
              have same : after = other :=
                Option.some.inj (matches'.matched.symm.trans matchesOther.matched)
              subst same
              omega
          case h_2 missed =>
            rw [lastChar, width, ih, or_iff_right]
            rintro ⟨-, after, matches', -⟩
            rw [matchesAt_cons_iff.mpr matches'] at missed
            cases missed

end

/-! ## Hits -/

/-- A place is the end of all the blanks behind words that begin at a word boundary. -/
def BehindWords (words : List (List Char)) (text : List Char) (place : Nat) : Prop :=
  ∃ before matched after, text = before ++ matched ++ after ∧
    byteLength before + byteLength matched = place ∧ Phrased words matched ∧
    (∀ c ∈ matched.head?, isBoundary before.getLast? c = true) ∧
    ∀ c ∈ after.head?, isBlank c = false

/-- A name stands at a place behind a phrase, inside a window, and no letter, digit or underscore
follows it. -/
structure Hit (phrase : String) (text name : List Char) (start stop place : Nat) : Prop where
  behind : BehindWords (Text.splitBlanks phrase) text place
  inWindow : start ≤ place ∧ place < stop
  stands : ∃ before after, text = before ++ name ++ after ∧ byteLength before = place ∧
    ∀ c ∈ after.head?, Text.isAlphanumeric c = false ∧ c ≠ '_'

/-- The hit of a phrase that lies leftmost. -/
def LeastHit (phrase : String) (text name : List Char) (start stop place : Nat) : Prop :=
  Hit phrase text name start stop place ∧
    ∀ other, Hit phrase text name start stop other → place ≤ other

theorem mem_matchEnds_iff {words : List (List Char)} (distinct : Distinctive words)
    {text : List Char} {place : Nat} :
    place ∈ matchEnds words text ↔ BehindWords words text place := by
  have searched : place ∈ matchEnds words text ↔ EndsMatch words [] text 0 place :=
    @mem_matchEndsFrom_iff words [] text 0 place distinct
  rw [searched]
  constructor
  · rintro ⟨front, _, after, rfl, -, ⟨boundary, found⟩, ends⟩
    obtain ⟨matched, rfl, phrased, stops⟩ :=
      (afterWords?_eq_some_iff distinct.lettered).mp found
    refine ⟨front, matched, after, by simp, ?_, phrased, ?_, stops distinct.ne_nil⟩
    · simp only [List.nil_append, Text.byteLength_append] at ends
      omega
    · intro c first
      refine boundary c ?_
      rw [List.head?_append, Option.mem_def.mp first]
      rfl
  · rintro ⟨before, matched, after, rfl, rfl, phrased, boundary, stops⟩
    have found : afterWords? words (matched ++ after) = some after :=
      (afterWords?_eq_some_iff distinct.lettered).mpr ⟨matched, rfl, phrased, fun _ => stops⟩
    obtain ⟨first, begins⟩ := distinct.exists_first
    obtain ⟨c, rest, rfl, -⟩ := begins matched phrased
    refine ⟨before, c :: rest ++ after, after, by simp, Nat.zero_le _, ⟨?_, found⟩, ?_⟩
    · intro d here
      cases here
      exact boundary c rfl
    · simp only [List.nil_append, Text.byteLength_append]

/-- In an ascending list, the first number that fits is the least one. -/
theorem find?_eq_some_iff_least {places : List Nat} (ascending : places.Pairwise (· < ·))
    {fits : Nat → Bool} {place : Nat} :
    places.find? fits = some place ↔
      (place ∈ places ∧ fits place = true) ∧
        ∀ other, other ∈ places ∧ fits other = true → place ≤ other := by
  have leftmost {first : Nat} (found : places.find? fits = some first) :
      ∀ other, other ∈ places ∧ fits other = true → first ≤ other := by
    rintro other ⟨member, fitsOther⟩
    obtain ⟨-, left, right, rfl, unfit⟩ := List.find?_eq_some_iff_append.mp found
    rcases List.mem_append.mp member with before | behind
    · have misfit := unfit other before
      rw [fitsOther] at misfit
      cases misfit
    · rcases List.mem_cons.mp behind with rfl | later
      · exact Nat.le_refl _
      · have sorted := (List.pairwise_append.mp ascending).2.1
        exact Nat.le_of_lt ((List.pairwise_cons.mp sorted).1 other later)
  constructor
  · intro found
    exact ⟨⟨List.mem_of_find?_eq_some found, List.find?_some found⟩, leftmost found⟩
  · rintro ⟨known, least⟩
    obtain ⟨first, found⟩ :=
      Option.isSome_iff_exists.mp (List.find?_isSome.mpr ⟨place, known.1, known.2⟩)
    have below := least first ⟨List.mem_of_find?_eq_some found, List.find?_some found⟩
    have above := leftmost found place known
    rw [found, Nat.le_antisymm above below]

section

variable {phrase : String} {text name : List Char} {start stop place : Nat}

theorem standsAt_eq_true_iff_ends :
    standsAt text name place = true ↔
      ∃ before after, text = before ++ name ++ after ∧ byteLength before = place ∧
        ∀ c ∈ after.head?, Text.isAlphanumeric c = false ∧ c ≠ '_' := by
  simp only [standsAt_eq_true_iff, continuesName, Bool.or_eq_false_iff, beq_eq_false_iff_ne]

theorem mem_filter_matchEnds_iff (distinct : Distinctive (Text.splitBlanks phrase)) :
    (place ∈ (matchEnds (Text.splitBlanks phrase) text).filter (fun offset =>
        start ≤ offset && offset < stop) ∧ standsAt text name place = true) ↔
      Hit phrase text name start stop place := by
  simp only [List.mem_filter, mem_matchEnds_iff distinct, Bool.and_eq_true, decide_eq_true_eq,
    standsAt_eq_true_iff_ends]
  constructor
  · rintro ⟨⟨behind, inWindow⟩, stands⟩
    exact ⟨behind, inWindow, stands⟩
  · rintro ⟨behind, inWindow, stands⟩
    exact ⟨⟨behind, inWindow⟩, stands⟩

theorem Anchors.hitBehind?_eq_some_iff (distinct : Distinctive (Text.splitBlanks phrase)) :
    hitBehind? phrase text name start stop = some place ↔
      LeastHit phrase text name start stop place := by
  rw [hitBehind?, find?_eq_some_iff_least ((matchEnds_pairwise _ text).filter _), LeastHit]
  simp only [mem_filter_matchEnds_iff distinct]

theorem Anchors.hitBehind?_eq_none_iff (distinct : Distinctive (Text.splitBlanks phrase)) :
    hitBehind? phrase text name start stop = none ↔
      ∀ place, ¬ Hit phrase text name start stop place := by
  rw [hitBehind?, List.find?_eq_none]
  simp only [← mem_filter_matchEnds_iff distinct, not_and]

/-- The search behind several phrases finds the leftmost hit of the first phrase that has one. -/
theorem Anchors.hit?_eq_some_iff {anchors : Anchors} (named : name ≠ [])
    (distinct : ∀ phrase ∈ anchors.phrases, Distinctive (Text.splitBlanks phrase)) :
    anchors.hit? text name start stop = some place ↔
      ∃ earlier phrase later, anchors.phrases = earlier ++ phrase :: later ∧
        (∀ other ∈ earlier, ∀ place, ¬ Hit other text name start stop place) ∧
        LeastHit phrase text name start stop place := by
  rw [hit?, if_neg (by simpa using named), List.findSome?_eq_some_iff]
  constructor
  · rintro ⟨earlier, phrase, later, order, found, missed⟩
    rw [order] at distinct
    refine ⟨earlier, phrase, later, order, ?_, ?_⟩
    · intro other known
      exact (hitBehind?_eq_none_iff (distinct other (by simp [known]))).mp (missed other known)
    · exact (hitBehind?_eq_some_iff (distinct phrase (by simp))).mp found
  · rintro ⟨earlier, phrase, later, order, missed, least⟩
    rw [order] at distinct
    refine ⟨earlier, phrase, later, order, ?_, ?_⟩
    · exact (hitBehind?_eq_some_iff (distinct phrase (by simp))).mpr least
    · intro other known
      exact (hitBehind?_eq_none_iff (distinct other (by simp [known]))).mpr (missed other known)

theorem Anchors.hit?_eq_none_iff {anchors : Anchors} (named : name ≠ [])
    (distinct : ∀ phrase ∈ anchors.phrases, Distinctive (Text.splitBlanks phrase)) :
    anchors.hit? text name start stop = none ↔
      ∀ phrase ∈ anchors.phrases, ∀ place, ¬ Hit phrase text name start stop place := by
  rw [hit?, if_neg (by simpa using named), List.findSome?_eq_none_iff]
  constructor
  · intro missed phrase known
    exact (hitBehind?_eq_none_iff (distinct phrase known)).mp (missed phrase known)
  · intro missed phrase known
    exact (hitBehind?_eq_none_iff (distinct phrase known)).mpr (missed phrase known)

end

/-! ## The usual anchors -/

/-- Words are distinctive if running through their letters shows it. -/
theorem Distinctive.of_all {words : List (List Char)} {first : Char} {letters : List Char}
    (split : words.flatten = first :: letters)
    (lettered : (words.all fun word => !word.isEmpty && word.all isPlainLetter) = true)
    (once : (letters.all fun letter => letter.toLower != first.toLower) = true) :
    Distinctive words := by
  refine ⟨?_, first, letters, split, by simpa using once⟩
  intro word member
  have checked := List.all_eq_true.mp lettered word member
  rw [Bool.and_eq_true, List.all_eq_true] at checked
  exact ⟨by simpa using checked.1, checked.2⟩

/-- No letter of the usual phrases is reached from beyond ASCII, and the first one occurs once. -/
theorem distinctive_of_mem_default {phrase : String} (member : phrase ∈ Anchors.default.phrases) :
    Distinctive (Text.splitBlanks phrase) := by
  have words : Text.splitBlanks "UPDATE" = [['U', 'P', 'D', 'A', 'T', 'E']] ∧
      Text.splitBlanks "DELETE FROM" = [['D', 'E', 'L', 'E', 'T', 'E'], ['F', 'R', 'O', 'M']] ∧
      Text.splitBlanks "MERGE INTO" = [['M', 'E', 'R', 'G', 'E'], ['I', 'N', 'T', 'O']] := by
    decide +kernel
  simp only [Anchors.default, List.mem_cons, List.not_mem_nil, or_false] at member
  rcases member with rfl | rfl | rfl
  · rw [words.1]
    exact .of_all rfl (by decide) (by decide)
  · rw [words.2.1]
    exact .of_all rfl (by decide) (by decide)
  · rw [words.2.2]
    exact .of_all rfl (by decide) (by decide)

/-- The search behind the usual anchors for a name that is not empty: it fails exactly if no anchor
has a hit in the window; otherwise it replaces the name at the leftmost hit of the first anchor that
has one, and keeps the rest of the text. -/
theorem Anchors.replaceFirst?_default_iff (text new : List Char) {name : List Char}
    (start stop : Nat) (named : name ≠ []) :
    (default.replaceFirst? text name new start stop = none ↔
      ∀ phrase ∈ default.phrases, ∀ place, ¬ Hit phrase text name start stop place) ∧
    ∀ result, default.replaceFirst? text name new start stop = some result ↔
      ∃ earlier phrase later place, default.phrases = earlier ++ phrase :: later ∧
        (∀ other ∈ earlier, ∀ place, ¬ Hit other text name start stop place) ∧
        LeastHit phrase text name start stop place ∧
        ∃ before after, text = before ++ name ++ after ∧ byteLength before = place ∧
          result = before ++ new ++ after := by
  have distinct : ∀ phrase ∈ default.phrases, Distinctive (Text.splitBlanks phrase) :=
    fun phrase member => distinctive_of_mem_default member
  rw [replaceFirst?_eq, Option.map_eq_none_iff, hit?_eq_none_iff named distinct]
  refine ⟨Iff.rfl, fun result => ?_⟩
  simp only [Option.map_eq_some_iff, hit?_eq_some_iff named distinct]
  constructor
  · rintro ⟨place, ⟨earlier, phrase, later, order, missed, least⟩, rfl⟩
    refine ⟨earlier, phrase, later, place, order, missed, least, ?_⟩
    obtain ⟨before, after, rfl, rfl, -⟩ := least.1.stands
    exact ⟨before, after, rfl, rfl, Splice.applyTo_append before name after new⟩
  · rintro ⟨earlier, phrase, later, _, order, missed, least, before, after, rfl, rfl, rfl⟩
    exact ⟨byteLength before, ⟨earlier, phrase, later, order, missed, least⟩,
      Splice.applyTo_append before name after new⟩

/-- The first anchor stands twice in a row before a longer name, and then before the name, at which
the search replaces it although another anchor has a hit further left. A window may have no hit. -/
theorem Anchors.replaceFirst?_default_iff_repeated :
    let text := "DELETE FROM t; update Update t_1, é UPDATE\u2003\nt".toList
    let result := "DELETE FROM t; update Update t_1, é UPDATE\u2003\nv".toList
    (∃ earlier phrase later place, default.phrases = earlier ++ phrase :: later ∧
      (∀ other ∈ earlier, ∀ place, ¬ Hit other text ['t'] 0 99 place) ∧
      LeastHit phrase text ['t'] 0 99 place ∧
      ∃ before after, text = before ++ ['t'] ++ after ∧ byteLength before = place ∧
        result = before ++ ['v'] ++ after) ∧
      ∀ phrase ∈ default.phrases, ∀ place, ¬ Hit phrase text ['t'] 13 47 place := by
  intro text result
  have named : ['t'] ≠ [] := List.cons_ne_nil _ _
  have found : default.replaceFirst? text ['t'] ['v'] 0 99 = some result := by decide +kernel
  have missed : default.replaceFirst? text ['t'] ['v'] 13 47 = none := by decide +kernel
  exact ⟨((replaceFirst?_default_iff text ['v'] 0 99 named).2 result).mp found,
    (replaceFirst?_default_iff text ['v'] 13 47 named).1.mp missed⟩

end SqlTables.Rename
