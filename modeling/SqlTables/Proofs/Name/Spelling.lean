import SqlTables.Name.Quotes
import SqlTables.Proofs.Text.Folding

/-!
# How a name is written in a text

The span of a name is as long as the name, with two bytes more where it begins with an opening
delimiter. It holds the name exactly if the text spells the name in one piece from there:
`Spelling` lists the ways to do so. A name whose parts are delimited one by one, that has blanks
or comments around its dots, or in which a delimiter is written twice is not in one piece.
-/

namespace SqlTables

namespace Name

open Text (byteLength)

/-- A text is a name up to the case of ASCII letters. -/
def SameName (written : List Char) (name : String) : Prop :=
  written.map Char.toLower = name.toList.map Char.toLower

theorem SameName.byteLength_eq {written : List Char} {name : String}
    (same : SameName written name) : byteLength written = Text.bytes name := by
  rw [← Text.byteLength_map_toLower written, same, Text.byteLength_map_toLower, Text.bytes]

theorem sameName_asciiLower_iff {written : List Char} {name : String} :
    SameName written (Text.asciiLower name) ↔ SameName written name := by
  have lowered : (Char.toLower ∘ Char.toLower) = Char.toLower := funext Text.toLower_toLower
  rw [SameName, Text.asciiLower, String.toList_ofList, List.map_map, lowered, SameName]

/-! ## Delimiters -/

theorem isQuoteChar_of_closingQuote? {opening closing : Char}
    (pair : closingQuote? opening = some closing) : isQuoteChar opening = true := by
  rw [isQuoteChar, pair]
  rfl

theorem utf8Size_of_closingQuote? {opening closing : Char}
    (pair : closingQuote? opening = some closing) :
    opening.utf8Size = 1 ∧ closing.utf8Size = 1 := by
  unfold closingQuote? at pair
  split at pair
  all_goals cases pair
  all_goals exact ⟨rfl, rfl⟩

theorem byteLength_delimited {opening closing : Char}
    (pair : closingQuote? opening = some closing) (inner : List Char) :
    byteLength (opening :: inner ++ [closing]) = byteLength inner + 2 := by
  obtain ⟨narrowOpening, narrow⟩ := utf8Size_of_closingQuote? pair
  simp only [List.cons_append, Text.byteLength_cons, Text.byteLength_append, Text.byteLength_nil]
  omega

theorem stripQuoteChars_delimited {opening closing : Char}
    (pair : closingQuote? opening = some closing) (inner : List Char) :
    stripQuoteChars (opening :: inner ++ [closing]) = inner := by
  cases inner with
  | nil => simp [stripQuoteChars, pair]
  | cons c rest =>
      have last : ((c :: rest) ++ [closing]).getLast? = some closing := List.getLast?_concat
      have front : ((c :: rest) ++ [closing]).dropLast = c :: rest := List.dropLast_concat
      rw [List.cons_append] at last front
      simp only [List.cons_append, stripQuoteChars, pair, last, front, ↓reduceIte]

theorem stripQuoteChars_bare {first : Char} (plain : isQuoteChar first = false)
    (rest : List Char) : stripQuoteChars (first :: rest) = first :: rest := by
  have opens : closingQuote? first = none := by simpa [isQuoteChar] using plain
  cases rest with
  | nil => rfl
  | cons second rest => simp [stripQuoteChars, opens]

theorem stripQuoteChars_cases (text : List Char) :
    stripQuoteChars text = text ∨
      ∃ opening closing inner, closingQuote? opening = some closing ∧
        text = opening :: inner ++ [closing] ∧ stripQuoteChars text = inner := by
  fun_cases stripQuoteChars text with
  | case1 => exact Or.inl rfl
  | case2 c => exact Or.inl rfl
  | case3 first second rest inner close opens closes =>
      refine Or.inr ⟨first, close, inner.dropLast, opens, ?_, rfl⟩
      obtain ⟨front, whole⟩ := List.getLast?_eq_some_iff.mp closes
      rw [whole, List.dropLast_concat]
      exact congrArg (first :: ·) whole
  | case4 first second rest inner close opens closes => exact Or.inl rfl
  | case5 first second rest inner opens => exact Or.inl rfl

/-! ## Spans -/

/-- The span of a name begins at a character of the text, and reaches as far as the name is
long, two bytes farther behind an opening delimiter, but not beyond the end. -/
theorem spanAt?_eq_some_iff {source : List Char} {start first stop : Nat} {name : String} :
    spanAt? source start name = some (first, stop) ↔
      ∃ before c after, source = before ++ c :: after ∧ byteLength before = start ∧
        first = start ∧ start < stop ∧
        stop = min (start + if isQuoteChar c then Text.bytes name + 2 else Text.bytes name)
          (byteLength source) := by
  unfold spanAt?
  split
  case h_1 before c after cut =>
    obtain ⟨same, length⟩ := Text.cutAt?_eq_some_iff.mp cut
    simp only [Option.ite_none_right_eq_some, Option.some.injEq, Prod.mk.injEq]
    constructor
    · rintro ⟨positive, rfl, rfl⟩
      exact ⟨before, c, after, same, length, rfl, positive, rfl⟩
    · rintro ⟨other, d, rest, sameOther, lengthOther, rfl, positive, stops⟩
      obtain ⟨rfl, tails⟩ := Text.append_inj_of_byteLength (same.symm.trans sameOther)
        (length.trans lengthOther.symm)
      obtain ⟨rfl, rfl⟩ := List.cons.inj tails
      exact ⟨stops ▸ positive, rfl, stops.symm⟩
  case h_2 missing =>
    simp only [reduceCtorEq, false_iff]
    rintro ⟨before, c, after, rfl, rfl, -⟩
    exact missing before c after (Text.cutAt?_append _ _)

/-! ## Spellings -/

/-- A text spells a name in one piece: `written` stands for the name, and `rest` follows. -/
inductive Spelling (name : String) : List Char → List Char → Prop where
  /-- The name stands there without delimiters. -/
  | bare {first : Char} {more rest : List Char} (plain : isQuoteChar first = false)
      (same : SameName (first :: more) name) : Spelling name (first :: more) rest
  /-- One pair of delimiters stands around the whole name. -/
  | delimited {opening closing : Char} {inner rest : List Char}
      (pair : closingQuote? opening = some closing) (same : SameName inner name) :
      Spelling name (opening :: inner ++ [closing]) rest
  /-- The name begins with a delimiter that it does not end with, and the text ends with it. -/
  | unclosed {first : Char} {more : List Char} (opens : isQuoteChar first = true)
      (kept : stripQuoteChars (first :: more) = first :: more)
      (same : SameName (first :: more) name) : Spelling name (first :: more) []

/-- A text spells a name from an offset on. -/
def Spelled (source : List Char) (start : Nat) (name : String) : Prop :=
  ∃ before written rest, source = before ++ written ++ rest ∧ byteLength before = start ∧
    Spelling name written rest

theorem Spelling.stripped {name : String} {written rest : List Char}
    (spelling : Spelling name written rest) : SameName (stripQuoteChars written) name := by
  cases spelling with
  | bare plain same => rwa [stripQuoteChars_bare plain]
  | delimited pair same => rwa [stripQuoteChars_delimited pair]
  | unclosed opens kept same => rwa [kept]

theorem Spelling.spanAt?_eq {name : String} {written rest : List Char}
    (spelling : Spelling name written rest) (before : List Char) :
    spanAt? (before ++ written ++ rest) (byteLength before) name =
      some (byteLength before, byteLength before + byteLength written) := by
  cases spelling with
  | @bare first more _ plain same =>
      have width := same.byteLength_eq
      have positive := first.utf8Size_pos
      refine spanAt?_eq_some_iff.mpr ⟨before, first, more ++ rest, by simp, rfl, rfl, ?_, ?_⟩
      · rw [Text.byteLength_cons]
        omega
      · simp only [plain, Bool.false_eq_true, ↓reduceIte, Text.byteLength_append]
        omega
  | @delimited opening closing inner _ pair same =>
      have width := same.byteLength_eq
      rw [byteLength_delimited pair]
      refine spanAt?_eq_some_iff.mpr
        ⟨before, opening, inner ++ [closing] ++ rest, by simp, rfl, rfl, by omega, ?_⟩
      rw [if_pos (isQuoteChar_of_closingQuote? pair), Text.byteLength_append,
        Text.byteLength_append, byteLength_delimited pair]
      omega
  | @unclosed first more opens kept same =>
      have width := same.byteLength_eq
      have positive := first.utf8Size_pos
      refine spanAt?_eq_some_iff.mpr ⟨before, first, more, by simp, rfl, rfl, ?_, ?_⟩
      · rw [Text.byteLength_cons]
        omega
      · simp only [opens, ↓reduceIte, Text.byteLength_append, Text.byteLength_nil]
        omega

/-- A span that holds a name, stripped of delimiters or not, is a spelling of it. -/
theorem spelling_of_stripped {name : String} {before inside after : List Char}
    (span : spanAt? (before ++ inside ++ after) (byteLength before) name =
      some (byteLength before, byteLength before + byteLength inside))
    (same : SameName (stripQuoteChars inside) name) : Spelling name inside after := by
  obtain ⟨front, c, rest, sameText, length, -, positive, stops⟩ := spanAt?_eq_some_iff.mp span
  rw [List.append_assoc] at sameText
  obtain ⟨rfl, tails⟩ := Text.append_inj_of_byteLength sameText.symm length
  cases inside with
  | nil => simp at positive
  | cons first more =>
      obtain ⟨rfl, -⟩ := List.cons.inj tails
      rcases stripQuoteChars_cases (c :: more) with
        kept | ⟨opening, closing, inner, pair, whole, stripped⟩
      · rw [kept] at same
        cases opens : isQuoteChar c with
        | false => exact .bare opens same
        | true =>
            -- the span is two bytes too short for a delimited name: the text must have ended
            have width := same.byteLength_eq
            simp only [opens, ↓reduceIte, Text.byteLength_append] at stops
            have last : after = [] := Text.byteLength_eq_zero_iff.mp (by omega)
            subst last
            exact .unclosed opens kept same
      · rw [stripped] at same
        rw [whole]
        exact .delimited pair same

/-- The span of a name can be cut out and holds the name exactly if the text spells it there. -/
theorem spelled_iff_of_spanAt? {source : List Char} {start stop : Nat} {name : String}
    (span : spanAt? source start name = some (start, stop)) :
    Spelled source start name ↔
      ∃ live, Text.slice? source start stop = some live ∧
        SameName (stripQuoteChars live) name := by
  constructor
  · rintro ⟨before, written, rest, rfl, rfl, spelling⟩
    refine ⟨written, ?_, spelling.stripped⟩
    rw [spelling.spanAt?_eq before] at span
    obtain ⟨-, rfl⟩ := Prod.mk.inj (Option.some.inj span)
    exact Text.slice?_eq_some_iff.mpr ⟨before, rest, rfl, rfl, rfl⟩
  · rintro ⟨live, found, same⟩
    obtain ⟨before, after, rfl, rfl, rfl⟩ := Text.slice?_eq_some_iff.mp found
    exact ⟨before, live, after, rfl, rfl, spelling_of_stripped span same⟩

end Name

end SqlTables
