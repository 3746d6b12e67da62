import SqlTables.Proofs.Rename.Spelled

/-!
# Delimiters inside delimited names

A closing delimiter inside a delimited name is written twice. The span of the name is as long as the
name with its two delimiters, so it is too short by one byte for each of them. Mostly it does not
hold the name then and is left alone. But where the name ends with closing delimiters and has no
others, the span looks like the whole name: it is replaced, and as many closing delimiters as the
name ends with stay behind in the text.
-/

namespace SqlTables

open Text (byteLength)

namespace Name

/-! ## Writing delimiters twice -/

/-- A value with each of its closing delimiters written twice. -/
def doubled (closing : Char) : List Char → List Char
  | [] => []
  | c :: rest => if c = closing then c :: c :: doubled closing rest else c :: doubled closing rest

def enclosed (opening closing : Char) (value : List Char) : List Char :=
  opening :: doubled closing value ++ [closing]

/-- A value ends in a number of closing delimiters and has no others. -/
def EndsIn (closing : Char) (count : Nat) (value : List Char) : Prop :=
  ∃ front, value = front ++ List.replicate count closing ∧ closing ∉ front

section

variable {opening closing : Char} {value : List Char}

theorem doubled_cons_closing : doubled closing (closing :: value) =
    closing :: closing :: doubled closing value := by
  simp [doubled]

theorem doubled_cons_of_ne {c : Char} (other : c ≠ closing) :
    doubled closing (c :: value) = c :: doubled closing value := by
  simp [doubled, other]

theorem isAlpha_of_closingQuote? (pair : closingQuote? opening = some closing) :
    closing.isAlpha = false := by
  unfold closingQuote? at pair
  split at pair
  all_goals cases pair
  all_goals rfl

theorem byteLength_doubled (narrow : closing.utf8Size = 1) :
    byteLength (doubled closing value) = byteLength value + value.count closing := by
  induction value with
  | nil => rfl
  | cons c rest ih =>
      by_cases same : c = closing
      · subst same
        rw [doubled_cons_closing, List.count_cons_self]
        simp only [Text.byteLength_cons, ih]
        omega
      · rw [doubled_cons_of_ne same, List.count_cons_of_ne same]
        simp only [Text.byteLength_cons, ih]
        omega

theorem byteLength_enclosed (pair : closingQuote? opening = some closing) :
    byteLength (enclosed opening closing value) =
      byteLength value + value.count closing + 2 := by
  rw [enclosed, byteLength_delimited pair, byteLength_doubled (utf8Size_of_closingQuote? pair).2]

theorem doubled_append (first second : List Char) :
    doubled closing (first ++ second) = doubled closing first ++ doubled closing second := by
  induction first with
  | nil => rfl
  | cons c first ih =>
      by_cases same : c = closing
      · subst same
        rw [List.cons_append, doubled_cons_closing, ih, doubled_cons_closing]
        rfl
      · rw [List.cons_append, doubled_cons_of_ne same, ih, doubled_cons_of_ne same]
        rfl

theorem doubled_eq_self (absent : closing ∉ value) : doubled closing value = value := by
  induction value with
  | nil => rfl
  | cons c rest ih =>
      rw [List.mem_cons, not_or] at absent
      rw [doubled_cons_of_ne (Ne.symm absent.1), ih absent.2]

theorem replicate_append_singleton (count : Nat) :
    List.replicate count closing ++ [closing] = closing :: List.replicate count closing := by
  rw [← List.replicate_succ', List.replicate_succ]

theorem doubled_replicate (count : Nat) :
    doubled closing (List.replicate count closing) =
      List.replicate count closing ++ List.replicate count closing := by
  induction count with
  | zero => rfl
  | succ count ih =>
      rw [List.replicate_succ, doubled_cons_closing, ih, List.cons_append, List.append_cons,
        replicate_append_singleton]
      rfl

/-- The delimiters at the end of a value are written behind each other, and the closing one of the
identifier comes among them. -/
theorem EndsIn.enclosed_eq {count : Nat} (ends : EndsIn closing count value) :
    enclosed opening closing value =
      opening :: value ++ [closing] ++ List.replicate count closing := by
  obtain ⟨front, rfl, absent⟩ := ends
  have moved : List.replicate count closing ++ List.replicate count closing ++ [closing] =
      List.replicate count closing ++ [closing] ++ List.replicate count closing := by
    rw [List.append_assoc, replicate_append_singleton, List.append_cons,
      replicate_append_singleton]
  rw [enclosed, doubled_append, doubled_eq_self absent, doubled_replicate]
  simp only [List.cons_append, List.append_assoc] at moved ⊢
  rw [moved]

theorem EndsIn.count_eq {count : Nat} (ends : EndsIn closing count value) :
    value.count closing = count := by
  obtain ⟨front, rfl, absent⟩ := ends
  rw [List.count_append, List.count_eq_zero.mpr absent, List.count_replicate_self, Nat.zero_add]

/-- A value whose written form begins with as many delimiters too many consists of delimiters, if
the written form spells it. -/
theorem eq_replicate_of_doubled (plain : closing.isAlpha = false) {inner others rest : List Char}
    {count : Nat}
    (whole : List.replicate (count + 1) closing ++ doubled closing value ++ rest =
      inner ++ others)
    (same : inner.map Char.toLower = value.map Char.toLower) :
    value = List.replicate value.length closing := by
  induction value generalizing inner count with
  | nil => rfl
  | cons c value ih =>
      cases inner with
      | nil => cases same
      | cons d inner =>
          rw [List.replicate_succ, List.cons_append, List.cons_append, List.cons_append] at whole
          obtain ⟨rfl, tails⟩ := List.cons.inj whole
          obtain ⟨sameChar, sameRest⟩ := List.cons.inj same
          have lowered : closing.toLower = closing := (Text.toLower_eq_iff plain).mpr rfl
          have isClosing : c = closing := by
            rw [← Text.toLower_eq_iff plain, ← sameChar, lowered]
          subst isClosing
          -- one delimiter of the lead is used up, and two more come in
          have shifted : List.replicate count c ++ doubled c (c :: value) =
              List.replicate (count + 1 + 1) c ++ doubled c value := by
            rw [doubled_cons_closing, List.replicate_succ', List.replicate_succ']
            simp
          rw [shifted] at tails
          rw [List.length_cons, List.replicate_succ, ← ih tails sameRest]

/-- If the written form of a value begins with the value, in any letter case, and a closing
delimiter, then all closing delimiters of the value stand at its end. -/
theorem exists_endsIn_of_doubled (plain : closing.isAlpha = false) {inner others rest : List Char}
    (whole : doubled closing value ++ closing :: rest = inner ++ closing :: others)
    (same : inner.map Char.toLower = value.map Char.toLower) :
    ∃ count, EndsIn closing count value := by
  induction value generalizing inner with
  | nil => exact ⟨0, [], rfl, List.not_mem_nil⟩
  | cons c value ih =>
      cases inner with
      | nil => cases same
      | cons d inner =>
          obtain ⟨sameChar, sameRest⟩ := List.cons.inj same
          by_cases isClosing : c = closing
          · subst isClosing
            rw [doubled_cons_closing] at whole
            obtain ⟨rfl, tails⟩ := List.cons.inj whole
            have onlyClosing : value = List.replicate value.length c :=
              @eq_replicate_of_doubled c value plain inner (c :: others) (c :: rest) 0 tails
                sameRest
            refine ⟨value.length + 1, [], ?_, List.not_mem_nil⟩
            rw [List.nil_append, List.replicate_succ, ← onlyClosing]
          · rw [doubled_cons_of_ne isClosing] at whole
            obtain ⟨rfl, tails⟩ := List.cons.inj whole
            obtain ⟨count, front, rfl, absent⟩ := ih tails sameRest
            refine ⟨count, c :: front, rfl, ?_⟩
            rw [List.mem_cons, not_or]
            exact ⟨Ne.symm isClosing, absent⟩

/-- A text spells a value from where it is written as a delimited identifier exactly if all closing
delimiters of the value stand at its end. -/
theorem spelled_enclosed_iff (pair : closingQuote? opening = some closing)
    (before rest : List Char) :
    Spelled (before ++ enclosed opening closing value ++ rest) (byteLength before)
        (Text.asciiLower (String.ofList value)) ↔
      ∃ count, EndsIn closing count value := by
  constructor
  · rintro ⟨front, written, others, whole, length, spelling⟩
    rw [List.append_assoc, List.append_assoc] at whole
    obtain ⟨rfl, tails⟩ := Text.append_inj_of_byteLength whole length.symm
    cases spelling with
    | bare plain same =>
        obtain ⟨rfl, -⟩ := List.cons.inj tails
        rw [isQuoteChar_of_closingQuote? pair] at plain
        cases plain
    | @delimited other closingOther inner _ pairOther same =>
        simp only [enclosed, List.cons_append, List.append_assoc, List.nil_append] at tails
        obtain ⟨rfl, bodies⟩ := List.cons.inj tails
        obtain rfl : closing = closingOther := Option.some.inj (pair.symm.trans pairOther)
        rw [sameName_asciiLower_iff, SameName, String.toList_ofList] at same
        exact exists_endsIn_of_doubled (isAlpha_of_closingQuote? pair) bodies same
    | unclosed opens kept same =>
        have width := same.byteLength_eq
        rw [Text.bytes_asciiLower, Text.bytes, String.toList_ofList] at width
        have longer := congrArg byteLength tails
        rw [List.append_nil, Text.byteLength_append, byteLength_enclosed pair] at longer
        omega
  · rintro ⟨count, ends⟩
    rw [ends.enclosed_eq]
    refine ⟨before, opening :: value ++ [closing], List.replicate count closing ++ rest, by simp,
      rfl, .delimited pair ?_⟩
    rw [sameName_asciiLower_iff, SameName, String.toList_ofList]

end

end Name

namespace Rename

/-! ## The span of a delimited name -/

/-- The reader of delimited identifiers reads a value back from how it is written. -/
theorem delimitedBody?_doubled (closing : Char) (value : List Char) {rest : List Char}
    (stops : ∀ c ∈ rest.head?, c ≠ closing) (position : Text.Position) :
    ∃ behind, Sql.delimitedBody? closing (Name.doubled closing value ++ closing :: rest) position =
      some (value, ⟨rest, behind⟩) := by
  induction value generalizing position with
  | nil =>
      cases rest with
      | nil => exact ⟨_, if_pos rfl⟩
      | cons d rest =>
          have other : d ≠ closing := stops d rfl
          refine ⟨Sql.advance position closing, ?_⟩
          simp [Name.doubled, Sql.delimitedBody?, other]
  | cons c value ih =>
      by_cases same : c = closing
      · subst same
        obtain ⟨behind, read⟩ := ih (Sql.advance (Sql.advance position c) c)
        refine ⟨behind, ?_⟩
        simp [Name.doubled_cons_closing, Sql.delimitedBody?, read, Sql.consRead]
      · obtain ⟨behind, read⟩ := ih (Sql.advance position c)
        refine ⟨behind, ?_⟩
        rw [Name.doubled_cons_of_ne same, List.cons_append]
        cases tail : Name.doubled closing value ++ closing :: rest with
        | nil => simp at tail
        | cons d others =>
            rw [tail] at read
            simp [Sql.delimitedBody?, same, read, Sql.consRead]

/-- A value is written as a delimited identifier, from which the reader reads it back; closing
delimiters inside it are written twice. Its span is too short by the number of these, so it ends
where the identifier does only if the value has none. Yet it holds the name also if all of them
stand at the end of the value; then a replacement of the span leaves that number of closing
delimiters behind. -/
theorem holds_enclosed_iff {opening closing : Char}
    (pair : Name.closingQuote? opening = some closing) (value before rest : List Char)
    (kind : ReferenceKind) :
    let written := Name.enclosed opening closing value
    let source := before ++ written ++ rest
    let start := byteLength before
    let stop := start + byteLength value + 2
    let name := Text.asciiLower (String.ofList value)
    ((∀ c ∈ rest.head?, c ≠ closing) → ∀ position, ∃ behind,
      Sql.delimitedBody? closing (written.tail ++ rest) position = some (value, ⟨rest, behind⟩)) ∧
    Name.spanAt? source start name = some (start, stop) ∧
    (holds source ⟨name, start, stop, kind⟩ = true ↔
      ∃ count, Name.EndsIn closing count value) ∧
    (stop = byteLength (before ++ written) ↔ closing ∉ value) ∧
    ∀ count, Name.EndsIn closing count value →
      stop + count = byteLength (before ++ written) ∧
      ∀ new, Splice.applyTo ⟨start, stop, new⟩ source =
        before ++ new ++ List.replicate count closing ++ rest := by
  intro written source start stop name
  have width : byteLength written = byteLength value + value.count closing + 2 :=
    Name.byteLength_enclosed pair
  have spanned : Name.spanAt? source start name = some (start, stop) := by
    refine Name.spanAt?_eq_some_iff.mpr ⟨before, opening,
      Name.doubled closing value ++ [closing] ++ rest, ?_, rfl, rfl, ?_, ?_⟩
    · simp [source, written, Name.enclosed]
    · omega
    · rw [if_pos (Name.isQuoteChar_of_closingQuote? pair), Text.bytes_asciiLower, Text.bytes,
        String.toList_ofList, Text.byteLength_append, Text.byteLength_append]
      omega
  refine ⟨?_, spanned, ?_, ?_, ?_⟩
  · intro stops position
    have inside : written.tail ++ rest = Name.doubled closing value ++ closing :: rest := by
      simp [written, Name.enclosed]
    rw [inside]
    exact delimitedBody?_doubled closing value stops position
  · exact (holds_iff_spelled_of_spanAt? spanned).trans
      (Name.spelled_enclosed_iff pair before rest)
  · rw [← List.count_eq_zero, Text.byteLength_append]
    omega
  · intro count ends
    rw [Text.byteLength_append, width, ends.count_eq]
    refine ⟨by omega, ?_⟩
    intro new
    have whole : source = before ++ (opening :: value ++ [closing]) ++
        (List.replicate count closing ++ rest) := by
      simp [source, written, ends.enclosed_eq]
    have length : stop = start + byteLength (opening :: value ++ [closing]) := by
      rw [Name.byteLength_delimited pair]
      omega
    rw [whole, length, Splice.applyTo_append, List.append_assoc _ _ rest]

/-- Of two listed tables, the one whose name ends with a closing delimiter is replaced but for that
delimiter, and the one that has the delimiter in the middle of its name is left alone. -/
theorem holds_enclosed_iff_trailing :
    let sql := "SELECT * FROM \"A\"\"\", \"b\"\"c\""
    let trailing : Occurrence := ⟨"a\"", 14, 18, .relation⟩
    let middle : Occurrence := ⟨"b\"c", 21, 26, .relation⟩
    Renamer.default.references sql = .ok ⟨.ofList ["a\"", "b\"c"], .empty, [trailing, middle]⟩ ∧
      holds sql.toList trailing = true ∧ holds sql.toList middle = false ∧
      Splice.applyTo ⟨14, 18, ['v']⟩ sql.toList = "SELECT * FROM v\", \"b\"\"c\"".toList := by
  intro sql trailing middle
  have pair : Name.closingQuote? '\x22' = some '\x22' := rfl
  have ends : Name.EndsIn '\x22' 1 ['A', '\x22'] := ⟨['A'], rfl, by decide⟩
  have inside : ¬ ∃ count, Name.EndsIn '\x22' count ['b', '\x22', 'c'] := by
    rintro ⟨count, ends⟩
    have once : count = 1 := ends.count_eq.symm
    obtain ⟨front, shape, -⟩ := ends
    rw [once] at shape
    have last := congrArg List.getLast? shape
    simp at last
  obtain ⟨-, -, heldTrailing, -, left⟩ := holds_enclosed_iff pair ['A', '\x22']
    "SELECT * FROM ".toList ", \"b\"\"c\"".toList .relation
  obtain ⟨-, -, heldMiddle, -⟩ := holds_enclosed_iff pair ['b', '\x22', 'c']
    "SELECT * FROM \"A\"\"\", ".toList [] .relation
  have spliced := (left 1 ends).2 ['v']
  rw [show "SELECT * FROM ".toList ++ Name.enclosed '\x22' '\x22' ['A', '\x22'] ++
      ", \"b\"\"c\"".toList = sql.toList by decide +kernel,
    show byteLength "SELECT * FROM ".toList = 14 by decide +kernel] at heldTrailing spliced
  rw [show "SELECT * FROM \"A\"\"\", ".toList ++
      Name.enclosed '\x22' '\x22' ['b', '\x22', 'c'] ++ [] = sql.toList by decide +kernel,
    show byteLength "SELECT * FROM \"A\"\"\", ".toList = 21 by decide +kernel,
    show Text.asciiLower (String.ofList ['b', '\x22', 'c']) = "b\"c" by decide +kernel]
    at heldMiddle
  rw [show Text.asciiLower (String.ofList ['A', '\x22']) = "a\"" by decide +kernel] at heldTrailing
  refine ⟨by decide +kernel, heldTrailing.mpr ⟨1, ends⟩, ?_, spliced.trans (by decide +kernel)⟩
  exact Bool.eq_false_iff.mpr fun held => inside (heldMiddle.mp held)

end Rename

end SqlTables
