import SqlTables.Text.Lines

/-!
# A cursor into text

The characters still to be read, with the line and column of the first of them.
-/

namespace SqlTables.Sql

open Text (Position)

/-- The position behind a character: a line feed starts a new line. -/
def advance (position : Position) (c : Char) : Position :=
  if c = '\n' then ⟨position.line + 1, 1⟩ else ⟨position.line, position.column + 1⟩

structure Cursor where
  rest : List Char
  position : Position

namespace Cursor

def start (text : List Char) : Cursor :=
  ⟨text, ⟨1, 1⟩⟩

def peek? (cursor : Cursor) : Option Char :=
  cursor.rest.head?

def peekSecond? (cursor : Cursor) : Option Char :=
  cursor.rest.tail.head?

def skip (cursor : Cursor) : Cursor :=
  match cursor.rest with
  | [] => cursor
  | c :: rest => ⟨rest, advance cursor.position c⟩

def skipMany : Nat → Cursor → Cursor
  | 0, cursor => cursor
  | count + 1, cursor => skipMany count cursor.skip

/-- Split off the longest run of characters of a class. -/
def spanFrom (inClass : Char → Bool) : List Char → Position → List Char × Cursor
  | [], position => ([], ⟨[], position⟩)
  | c :: rest, position =>
    if inClass c then
      let (taken, cursor) := spanFrom inClass rest (advance position c)
      (c :: taken, cursor)
    else
      ([], ⟨c :: rest, position⟩)

def span (cursor : Cursor) (inClass : Char → Bool) : List Char × Cursor :=
  spanFrom inClass cursor.rest cursor.position

end Cursor

end SqlTables.Sql
