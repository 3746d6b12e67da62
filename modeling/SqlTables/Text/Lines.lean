import SqlTables.Text.Bytes

/-!
# Lines and columns

A position is a line counted from 1 and a column counted from 1 in characters. Lines end at
line feeds only. Positions resolve to byte offsets of the text they were taken from.
-/

namespace SqlTables.Text

/-- A line and a column; zero in either of them stands for an unknown position. -/
structure Position where
  line : Nat
  column : Nat
deriving DecidableEq, Repr

namespace Position

def unknown : Position :=
  ⟨0, 0⟩

def isKnown (position : Position) : Bool :=
  position.line ≠ 0 && position.column ≠ 0

end Position

/-- Skip a number of line feeds: the byte offset of the line reached, and the text from there
on. `none` when the text has too few lines. -/
def skipLines? : List Char → Nat → Option (Nat × List Char)
  | text, 0 => some (0, text)
  | [], _ + 1 => none
  | c :: rest, lines + 1 =>
    let skipped := if c = '\n' then skipLines? rest lines else skipLines? rest (lines + 1)
    skipped.map fun (offset, text) => (c.utf8Size + offset, text)

/-- Byte offset of a position. A line that does not exist resolves to the start of the text,
a column past the end of its line to the end of that line. -/
def offsetAt (source : List Char) (position : Position) : Nat :=
  match position.line with
  | 0 => 0
  | line + 1 =>
    match skipLines? source line with
    | none => 0
    | some (start, text) =>
      start + byteLength ((text.takeWhile fun c => c ≠ '\n').take (position.column - 1))

end SqlTables.Text
