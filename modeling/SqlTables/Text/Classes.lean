import SqlTables.Text.LetterTable
import SqlTables.Text.NumberTable
import SqlTables.Text.WordTable

/-!
# Character classes

The classes of characters that the lexer, the trimming of texts and the anchored search
distinguish. Each class decides ASCII characters by themselves and looks other characters up
in a table of code point ranges.
-/

namespace SqlTables.Text

def inRanges (ranges : List (Nat × Nat)) (code : Nat) : Bool :=
  ranges.any fun range => range.1 ≤ code && code ≤ range.2

def isAscii (c : Char) : Bool :=
  c.toNat < 128

/-- Characters with the property White_Space. -/
def isBlank (c : Char) : Bool :=
  let code := c.toNat
  (9 ≤ code && code ≤ 13) || code == 32 || code == 0x85 || code == 0xA0 || code == 0x1680 ||
    (0x2000 ≤ code && code ≤ 0x200A) || code == 0x2028 || code == 0x2029 || code == 0x202F ||
    code == 0x205F || code == 0x3000

def isLetter (c : Char) : Bool :=
  if isAscii c then c.isAlpha else inRanges letterRanges c.toNat

/-- Characters of a numeric category: decimal digits, letter numbers and other numbers. -/
def isNumeric (c : Char) : Bool :=
  if isAscii c then c.isDigit else inRanges numberRanges c.toNat

def isAlphanumeric (c : Char) : Bool :=
  isLetter c || isNumeric c

/-- Characters of words in the sense of word boundaries: letters, marks, decimal digits,
connector punctuation and join controls. -/
def isWordChar (c : Char) : Bool :=
  if isAscii c then c.isAlphanum || c == '_'
  else inRanges letterRanges c.toNat || inRanges wordExtraRanges c.toNat

def trim (text : String) : String :=
  String.ofList (((text.toList.dropWhile isBlank).reverse.dropWhile isBlank).reverse)

/-- Collect the maximal runs of characters that are not blank, the current run reversed. -/
def splitBlanksFrom : List Char → List Char → List (List Char)
  | [], [] => []
  | run@(_ :: _), [] => [run.reverse]
  | run, c :: rest =>
    if isBlank c then
      match run with
      | [] => splitBlanksFrom [] rest
      | _ :: _ => run.reverse :: splitBlanksFrom [] rest
    else
      splitBlanksFrom (c :: run) rest

def splitBlanks (text : String) : List (List Char) :=
  splitBlanksFrom [] text.toList

end SqlTables.Text
