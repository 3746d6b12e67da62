import SqlTables.Proofs.Text.Cutting
import SqlTables.Text.Lines

/-!
# Positions and offsets

The line behind a text is one more than its line feeds, and the column is one more than the
characters of its last line. Such a position resolves to the length of the text in bytes, whatever
follows the text. Any other position resolves to a place in its line if there is such a line, and to
the start of the text otherwise, so that the text can always be cut there.
-/

namespace SqlTables.Text

def Position.behind (text : List Char) : Position :=
  ⟨text.count '\n' + 1, (text.reverse.takeWhile fun c => c ≠ '\n').length + 1⟩

theorem Position.isKnown_behind (text : List Char) : (behind text).isKnown = true := rfl

/-! ## Lines -/

/-- A text is one line, or its last line stands behind a line feed. -/
theorem last_line_cases (text : List Char) :
    '\n' ∉ text ∨ ∃ lines last, text = lines ++ '\n' :: last ∧ '\n' ∉ last := by
  by_cases member : '\n' ∈ text
  · obtain ⟨last, lines, split, clean⟩ :=
      List.eq_append_cons_of_mem (List.mem_reverse.mpr member)
    refine Or.inr ⟨lines.reverse, last.reverse, ?_, by simpa using clean⟩
    rw [← text.reverse_reverse, split]
    simp
  · exact Or.inl member

theorem takeWhile_line {line : List Char} (clean : '\n' ∉ line) (rest : List Char) :
    (line ++ rest).takeWhile (fun c => c ≠ '\n') =
      line ++ rest.takeWhile fun c => c ≠ '\n' := by
  refine List.takeWhile_append_of_pos ?_
  intro c member
  exact decide_eq_true fun feed => clean (feed ▸ member)

theorem Position.behind_line {line : List Char} (clean : '\n' ∉ line) :
    behind line = ⟨1, line.length + 1⟩ := by
  have cleanReverse : '\n' ∉ line.reverse := by simpa using clean
  have whole := takeWhile_line cleanReverse []
  simp only [List.append_nil, List.takeWhile_nil] at whole
  simp only [behind, List.count_eq_zero.mpr clean, whole, List.length_reverse]

theorem Position.behind_last_line (lines : List Char) {last : List Char} (clean : '\n' ∉ last) :
    behind (lines ++ '\n' :: last) = ⟨lines.count '\n' + 2, last.length + 1⟩ := by
  have reversed : (lines ++ '\n' :: last).reverse = last.reverse ++ '\n' :: lines.reverse := by simp
  rw [behind, reversed, takeWhile_line (by simpa using clean), List.count_append,
    List.count_cons_self, List.count_eq_zero.mpr clean]
  simp

/-- Skipping the line feeds of a text and the one behind it leads to the text behind both. -/
theorem skipLines?_lines (lines rest : List Char) :
    skipLines? (lines ++ '\n' :: rest) (lines.count '\n' + 1) =
      some (byteLength lines + 1, rest) := by
  induction lines with
  | nil =>
      simp only [List.nil_append, List.count_nil, skipLines?, ↓reduceIte, Option.map_some]
      rfl
  | cons c lines ih =>
      by_cases feed : c = '\n'
      · subst feed
        rw [List.cons_append, List.count_cons_self, skipLines?, if_pos rfl, ih]
        simp [Nat.add_assoc]
      · rw [List.cons_append, List.count_cons_of_ne feed, skipLines?, if_neg feed, ih]
        simp [Nat.add_assoc]

theorem take_takeWhile_line {line : List Char} (clean : '\n' ∉ line) (rest : List Char) :
    ((line ++ rest).takeWhile fun c => c ≠ '\n').take line.length = line := by
  rw [takeWhile_line clean, List.take_left]

/-- The position behind a text resolves to the length of the text. -/
theorem offsetAt_behind (before after : List Char) :
    offsetAt (before ++ after) (Position.behind before) = byteLength before := by
  rcases last_line_cases before with clean | ⟨lines, last, rfl, clean⟩
  · rw [Position.behind_line clean, offsetAt]
    simp only [skipLines?, Nat.add_sub_cancel, take_takeWhile_line clean, Nat.zero_add]
  · have reached : skipLines? (lines ++ '\n' :: last ++ after) (lines.count '\n' + 1) =
        some (byteLength lines + 1, last ++ after) := by
      rw [List.append_assoc, List.cons_append, skipLines?_lines]
    have feed : ('\n' : Char).utf8Size = 1 := rfl
    rw [Position.behind_last_line lines clean, offsetAt]
    simp only [reached, Nat.add_sub_cancel, take_takeWhile_line clean, byteLength_append,
      byteLength_cons, feed]
    omega

/-! ## Any position -/

def lineCount (text : List Char) : Nat :=
  text.count '\n' + 1

/-- A line of a text under its number, with what stands before and behind it. It begins at the start
of the text or behind a line feed, and goes up to the next line feed or the end of the text. -/
structure LineAt (source : List Char) (number : Nat) (before line after : List Char) : Prop where
  whole : source = before ++ line ++ after
  numbered : number = lineCount before
  begins : before = [] ∨ ∃ lines, before = lines ++ ['\n']
  clean : '\n' ∉ line
  ends : after = [] ∨ ∃ rest, after = '\n' :: rest

/-- A text that has enough line feeds can be split at one of them by its number. -/
theorem exists_lines_of_lt_count {text : List Char} {skipped : Nat}
    (enough : skipped < text.count '\n') :
    ∃ lines rest, text = lines ++ '\n' :: rest ∧ lines.count '\n' = skipped := by
  induction text generalizing skipped with
  | nil => simp at enough
  | cons c text ih =>
      by_cases feed : c = '\n'
      · subst feed
        cases skipped with
        | zero => exact ⟨[], text, rfl, rfl⟩
        | succ skipped =>
            rw [List.count_cons_self] at enough
            obtain ⟨lines, rest, rfl, counted⟩ := ih (Nat.lt_of_succ_lt_succ enough)
            exact ⟨'\n' :: lines, rest, rfl, by rw [List.count_cons_self, counted]⟩
      · rw [List.count_cons_of_ne feed] at enough
        obtain ⟨lines, rest, rfl, counted⟩ := ih enough
        exact ⟨c :: lines, rest, rfl, by rw [List.count_cons_of_ne feed, counted]⟩

theorem first_line_cases (text : List Char) :
    ∃ line after, text = line ++ after ∧ '\n' ∉ line ∧
      (after = [] ∨ ∃ rest, after = '\n' :: rest) := by
  by_cases member : '\n' ∈ text
  · obtain ⟨line, rest, rfl, clean⟩ := List.eq_append_cons_of_mem member
    exact ⟨line, '\n' :: rest, rfl, clean, Or.inr ⟨rest, rfl⟩⟩
  · exact ⟨text, [], by simp, member, Or.inl rfl⟩

/-- The lines of a text are numbered from one on. -/
theorem exists_lineAt {source : List Char} {number : Nat} (positive : number ≠ 0)
    (inRange : number ≤ lineCount source) :
    ∃ before line after, LineAt source number before line after := by
  obtain ⟨skipped, rfl⟩ := Nat.exists_eq_succ_of_ne_zero positive
  cases skipped with
  | zero =>
      obtain ⟨line, after, rfl, clean, ends⟩ := first_line_cases source
      exact ⟨[], line, after, rfl, rfl, Or.inl rfl, clean, ends⟩
  | succ skipped =>
      obtain ⟨lines, rest, rfl, counted⟩ :=
        exists_lines_of_lt_count (Nat.lt_of_succ_lt_succ inRange)
      obtain ⟨line, after, rfl, clean, ends⟩ := first_line_cases rest
      refine ⟨lines ++ ['\n'], line, after, by simp, ?_, Or.inr ⟨lines, rfl⟩, clean, ends⟩
      simp [lineCount, counted]

/-- A text has no more lines than it has line feeds and one. -/
theorem skipLines?_eq_none {text : List Char} {skipped : Nat} (few : text.count '\n' < skipped) :
    skipLines? text skipped = none := by
  fun_induction skipLines? text skipped with
  | case1 text => exact absurd few (Nat.not_lt_zero _)
  | case2 skipped => rfl
  | case3 c rest skipped later ihFeed ihOther =>
      unfold later
      by_cases feed : c = '\n'
      · subst feed
        rw [List.count_cons_self] at few
        rw [if_pos rfl, ihFeed (Nat.lt_of_succ_lt_succ few), Option.map_none]
      · rw [List.count_cons_of_ne feed] at few
        rw [if_neg feed, ihOther few, Option.map_none]

namespace LineAt

variable {source before line after : List Char} {number : Nat}

theorem skipLines?_eq (lineAt : LineAt source number before line after) :
    skipLines? source (number - 1) = some (byteLength before, line ++ after) := by
  rw [lineAt.whole, lineAt.numbered, lineCount, Nat.add_sub_cancel, List.append_assoc]
  rcases lineAt.begins with rfl | ⟨lines, rfl⟩
  · simp [skipLines?]
  · have feed : byteLength ['\n'] = 1 := rfl
    rw [List.append_assoc, List.count_append, byteLength_append, feed]
    exact skipLines?_lines lines (line ++ after)

theorem takeWhile_eq (lineAt : LineAt source number before line after) :
    (line ++ after).takeWhile (fun c => c ≠ '\n') = line := by
  rw [takeWhile_line lineAt.clean]
  rcases lineAt.ends with rfl | ⟨rest, rfl⟩ <;> simp

/-- A position resolves to the place behind the characters of its line that stand before it, or
behind the whole line if there are too few. -/
theorem offsetAt_eq (lineAt : LineAt source number before line after) (column : Nat) :
    offsetAt source ⟨number, column⟩ = byteLength before + byteLength (line.take (column - 1)) := by
  have reached := lineAt.skipLines?_eq
  rw [lineAt.numbered, lineCount] at reached ⊢
  rw [Nat.add_sub_cancel] at reached
  simp only [offsetAt, reached, lineAt.takeWhile_eq]

theorem exists_parts (lineAt : LineAt source number before line after) (column : Nat) :
    ∃ first rest, line = first ++ rest ∧
      offsetAt source ⟨number, column⟩ = byteLength before + byteLength first :=
  ⟨line.take (column - 1), line.drop (column - 1), (List.take_append_drop _ _).symm,
    lineAt.offsetAt_eq column⟩

end LineAt

theorem offsetAt_eq_zero {source : List Char} {position : Position}
    (missing : position.line = 0 ∨ lineCount source < position.line) :
    offsetAt source position = 0 := by
  obtain ⟨number, column⟩ := position
  unfold offsetAt
  cases number with
  | zero => rfl
  | succ skipped =>
      have few : source.count '\n' < skipped := by
        simp only [lineCount] at missing
        omega
      simp only [skipLines?_eq_none few]

/-- A text can be cut where a position resolves to. -/
theorem exists_cutAt?_offsetAt (source : List Char) (position : Position) :
    ∃ before after, cutAt? source (offsetAt source position) = some (before, after) := by
  by_cases missing : position.line = 0 ∨ lineCount source < position.line
  · rw [offsetAt_eq_zero missing]
    exact ⟨[], source, cutAt?_append [] source⟩
  · have positive : position.line ≠ 0 := by omega
    have inRange : position.line ≤ lineCount source := by omega
    obtain ⟨before, line, after, lineAt⟩ := exists_lineAt positive inRange
    obtain ⟨first, rest, rfl, resolved⟩ := lineAt.exists_parts position.column
    refine ⟨before ++ first, rest ++ after, cutAt?_eq_some_iff.mpr ⟨?_, ?_⟩⟩
    · rw [lineAt.whole]
      simp
    · rw [byteLength_append, resolved]

/-- The position of every place of a text resolves to that place. Every position resolves to a place
at which the text can be cut: to the start of the text if there is no such line, else to a place from
the beginning of the line up to its end. -/
theorem offsetAt_resolves (source : List Char) :
    (∀ offset before after, cutAt? source offset = some (before, after) →
      offsetAt source (Position.behind before) = offset) ∧
    ∀ position : Position,
      (∃ before after, cutAt? source (offsetAt source position) = some (before, after)) ∧
      (position.line = 0 ∨ lineCount source < position.line → offsetAt source position = 0) ∧
      (position.line ≠ 0 → position.line ≤ lineCount source →
        ∃ before line after, LineAt source position.line before line after) ∧
      ∀ before line after, LineAt source position.line before line after →
        slice? source (byteLength before) (byteLength before + byteLength line) = some line ∧
        byteLength before ≤ offsetAt source position ∧
        offsetAt source position ≤ byteLength before + byteLength line := by
  refine ⟨fun offset before after cut => ?_, fun position => ⟨exists_cutAt?_offsetAt source position,
    offsetAt_eq_zero, exists_lineAt, fun before line after lineAt => ⟨?_, ?_⟩⟩⟩
  · obtain ⟨rfl, rfl⟩ := cutAt?_eq_some_iff.mp cut
    exact offsetAt_behind before after
  · exact slice?_eq_some_iff.mpr ⟨before, after, lineAt.whole, rfl, rfl⟩
  · obtain ⟨first, rest, rfl, resolved⟩ := lineAt.exists_parts position.column
    rw [resolved, byteLength_append]
    omega

/-- A text with a wide character, an empty line and a line feed at its end: a place in its third
line, a column far behind its first line, the empty line at its end, and a line that is not there. -/
theorem offsetAt_resolves_wide :
    let source := ['é', '\n', '\n', 'a', 'b', '\n']
    Position.behind ['é', '\n', '\n', 'a'] = ⟨3, 2⟩ ∧ offsetAt source ⟨3, 2⟩ = 5 ∧
      offsetAt source ⟨1, 18446744073709551615⟩ ≤ 2 ∧ 7 ≤ offsetAt source ⟨4, 0⟩ ∧
      offsetAt source ⟨18446744073709551615, 1⟩ = 0 := by
  intro source
  obtain ⟨inverse, positions⟩ := offsetAt_resolves source
  obtain ⟨-, -, -, inFirst⟩ := positions ⟨1, 18446744073709551615⟩
  obtain ⟨-, -, -, inLast⟩ := positions ⟨4, 0⟩
  obtain ⟨-, missing, -, -⟩ := positions ⟨18446744073709551615, 1⟩
  have first : LineAt source 1 [] ['é'] ['\n', '\n', 'a', 'b', '\n'] :=
    ⟨rfl, rfl, Or.inl rfl, by decide, Or.inr ⟨_, rfl⟩⟩
  have last : LineAt source 4 source [] [] :=
    ⟨rfl, rfl, Or.inr ⟨['é', '\n', '\n', 'a', 'b'], rfl⟩, by decide, Or.inl rfl⟩
  exact ⟨rfl, inverse 5 ['é', '\n', '\n', 'a'] ['b', '\n'] rfl, (inFirst _ _ _ first).2.2,
    (inLast _ _ _ last).2.1, missing (Or.inr (by decide))⟩

end SqlTables.Text
