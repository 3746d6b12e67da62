/-!
# Text measured in UTF-8 bytes

Offsets into a text count the bytes of its UTF-8 form. A text is held as its list of
characters, so an offset is usable only when it lies on a character boundary: every
cutting operation here answers `none` for an offset inside a character or past the end.
-/

namespace SqlTables.Text

def byteLength : List Char → Nat
  | [] => 0
  | c :: rest => c.utf8Size + byteLength rest

def bytes (text : String) : Nat :=
  byteLength text.toList

/-- Cut a text at a byte offset; `none` unless the offset is a character boundary. -/
def cutAt? : List Char → Nat → Option (List Char × List Char)
  | text, 0 => some ([], text)
  | [], _ + 1 => none
  | c :: rest, offset@(_ + 1) =>
    if c.utf8Size ≤ offset then
      (cutAt? rest (offset - c.utf8Size)).map fun (before, after) => (c :: before, after)
    else
      none

/-- The part of a text before, inside and after a span of bytes. -/
structure Cut where
  before : List Char
  inside : List Char
  after : List Char

/-- Cut a text at both ends of a span; `none` unless the span is in range, does not end
before it starts, and has both ends on character boundaries. -/
def cut? (text : List Char) (start stop : Nat) : Option Cut :=
  if start ≤ stop then do
    let (before, rest) ← cutAt? text start
    let (inside, after) ← cutAt? rest (stop - start)
    pure { before, inside, after }
  else
    none

def slice? (text : List Char) (start stop : Nat) : Option (List Char) :=
  (cut? text start stop).map Cut.inside

def Cut.fill (cut : Cut) (replacement : List Char) : List Char :=
  cut.before ++ replacement ++ cut.after

end SqlTables.Text
