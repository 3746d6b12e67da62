import SqlTables.Text.Bytes

/-!
# Delimiters of identifiers

A delimited identifier is written between double quotes, backticks or square brackets.
-/

namespace SqlTables.Name

/-- The delimiter that closes what a character opens, if it opens a delimited identifier. -/
def closingQuote? : Char → Option Char
  | '\x22' => some '\x22'
  | '\x60' => some '\x60'
  | '[' => some ']'
  | _ => none

def isQuoteChar (c : Char) : Bool :=
  (closingQuote? c).isSome

/-- Strip one matching pair of delimiters; any other text stays as it is. -/
def stripQuoteChars : List Char → List Char
  | [] => []
  | [c] => [c]
  | first :: second :: rest =>
    let inner := second :: rest
    match closingQuote? first with
    | some close => if inner.getLast? = some close then inner.dropLast else first :: inner
    | none => first :: inner

def stripQuotes (text : String) : String :=
  String.ofList (stripQuoteChars text.toList)

/-- Write a quote inside a quoted text twice, unless a backslash stands before it or it is written
twice already. `escaped` tells whether the character before the text is a backslash. -/
def doubleQuotes (quote : Char) : Bool → List Char → List Char
  | _, [] => []
  | escaped, [c] => if c = quote && !escaped then [c, c] else [c]
  | escaped, c :: d :: rest =>
    if c = quote then
      if escaped then c :: doubleQuotes quote true (d :: rest)
      else if d = quote then c :: d :: doubleQuotes quote false rest
      else c :: c :: doubleQuotes quote false (d :: rest)
    else
      c :: doubleQuotes quote (c = '\\') (d :: rest)

def quoted (quote : Char) (text : String) : String :=
  String.ofList (quote :: doubleQuotes quote false text.toList ++ [quote])

/-- The span of a reference whose first character is at `start`: as long as `text`, two bytes
longer when that character opens a delimited identifier, and clamped to the end of the source.
`none` when `start` is not the boundary of a character of the source or the span is empty. -/
def spanAt? (source : List Char) (start : Nat) (text : String) : Option (Nat × Nat) :=
  match Text.cutAt? source start with
  | some (_, first :: _) =>
    let width := if isQuoteChar first then Text.bytes text + 2 else Text.bytes text
    let stop := min (start + width) (Text.byteLength source)
    if start < stop then some (start, stop) else none
  | _ => none

end SqlTables.Name
