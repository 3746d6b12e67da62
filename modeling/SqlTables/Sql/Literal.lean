import SqlTables.Sql.Cursor
import SqlTables.Sql.LexError

/-!
# Literals, delimited identifiers and comments

The bodies of tokens that run to a closing delimiter. A closing delimiter written twice
stands for itself; escapes with a backslash are read where the form of the literal has them.
-/

namespace SqlTables.Sql

open Text (Position)

def singleQuote : Char := '\x27'

def doubleQuote : Char := '\x22'

def consRead (c : Char) (read : List Char × Cursor) : List Char × Cursor :=
  (c :: read.1, read.2)

/-- Read up to a closing delimiter, which stands for itself when written twice. `none` when
the text ends first. -/
def delimitedBody? (close : Char) : List Char → Position → Option (List Char × Cursor)
  | [], _ => none
  | [c], position => if c = close then some ([], ⟨[], advance position c⟩) else none
  | c :: d :: rest, position =>
    if c = close then
      if d = close then
        (delimitedBody? close rest (advance (advance position c) d)).map (consRead c)
      else
        some ([], ⟨d :: rest, advance position c⟩)
    else
      (delimitedBody? close (d :: rest) (advance position c)).map (consRead c)

def backslashEscape : Char → Char
  | '0' => Char.ofNat 0
  | 'a' => Char.ofNat 7
  | 'b' => Char.ofNat 8
  | 'f' => Char.ofNat 12
  | 'n' => '\n'
  | 'r' => '\r'
  | 't' => '\t'
  | 'Z' => Char.ofNat 26
  | c => c

/-- Read a string literal up to its closing quote, with backslash escapes if `escapes`. -/
def stringBody? (escapes : Bool) (quote : Char) :
    List Char → Position → Option (List Char × Cursor)
  | [], _ => none
  | [c], position => if c = quote then some ([], ⟨[], advance position c⟩) else none
  | c :: d :: rest, position =>
    if c = quote then
      if d = quote then
        (stringBody? escapes quote rest (advance (advance position c) d)).map (consRead c)
      else
        some ([], ⟨d :: rest, advance position c⟩)
    else if escapes && c == '\\' then
      (stringBody? escapes quote rest (advance (advance position c) d)).map
        (consRead (backslashEscape d))
    else
      (stringBody? escapes quote (d :: rest) (advance position c)).map (consRead c)

/-- Read a string literal up to three closing quotes in a row; `run` counts the quotes just
read and `seen` holds the value so far, reversed. -/
def tripleBody? (escapes : Bool) (quote : Char) :
    Nat → List Char → List Char → Position → Option (List Char × Cursor)
  | _, _, [], _ => none
  | run, seen, c :: rest, position =>
    if c = quote then
      if run + 1 = 3 then some ((seen.drop 2).reverse, ⟨rest, advance position c⟩)
      else tripleBody? escapes quote (run + 1) (c :: seen) rest (advance position c)
    else if escapes && c == '\\' then
      match rest with
      | [] => none
      | d :: rest' =>
        tripleBody? escapes quote 0 (backslashEscape d :: seen) rest'
          (advance (advance position c) d)
    else
      tripleBody? escapes quote 0 (c :: seen) rest (advance position c)

/-- Read a comment up to its end; `depth` counts the comments that are open. -/
def commentBody? (nests : Bool) : Nat → List Char → Position → Except Position Cursor
  | _, [], position => .error position
  | _, [c], position => .error (advance position c)
  | depth, c :: d :: rest, position =>
    let behind := advance (advance position c) d
    if nests && c == '/' && d == '*' then
      commentBody? nests (depth + 1) rest behind
    else if c == '*' && d == '/' then
      if depth ≤ 1 then .ok ⟨rest, behind⟩ else commentBody? nests (depth - 1) rest behind
    else
      commentBody? nests depth (d :: rest) (advance position c)

def hexDigit? (c : Char) : Option Nat :=
  if c.isDigit then some (c.toNat - '0'.toNat)
  else if 'a' ≤ c && c ≤ 'f' then some (c.toNat - 'a'.toNat + 10)
  else if 'A' ≤ c && c ≤ 'F' then some (c.toNat - 'A'.toNat + 10)
  else none

def isCodePoint (code : Nat) : Bool :=
  code < 0xD800 || (0xE000 ≤ code && code ≤ 0x10FFFF)

/-- Read the character of an escape of exactly `count` hexadecimal digits, `value` being the
number read so far. -/
def hexEscape (count value : Nat) (cursor : Cursor) : Except LexError (Char × Cursor) :=
  match count, cursor.rest with
  | 0, _ =>
    if isCodePoint value then .ok (Char.ofNat value, cursor)
    else .error ⟨.badCodePoint value, cursor.position⟩
  | _ + 1, [] => .error ⟨.endInHexDigits, cursor.position⟩
  | count + 1, c :: _ =>
    match hexDigit? c with
    | some digit => hexEscape count (value * 16 + digit) cursor.skip
    | none => .error ⟨.badHexDigit c, cursor.skip.position⟩

/-- Read a literal with escapes by code point up to its closing quote. The fuel bounds the
number of characters. -/
def unicodeBody : Nat → List Char → Cursor → Except LexError (List Char × Cursor)
  | 0, _, cursor => .error ⟨.openUnicodeString, cursor.position⟩
  | fuel + 1, seen, cursor =>
    match cursor.rest with
    | [] => .error ⟨.openUnicodeString, cursor.position⟩
    | c :: rest =>
      let behind := cursor.skip
      if c = singleQuote then
        if rest.head? = some singleQuote then unicodeBody fuel (c :: seen) behind.skip
        else .ok (seen.reverse, behind)
      else if c = '\\' then
        match rest.head? with
        | some '\\' => unicodeBody fuel (c :: seen) behind.skip
        | some '+' => do
          let (value, after) ← hexEscape 6 0 behind.skip
          unicodeBody fuel (value :: seen) after
        | _ => do
          let (value, after) ← hexEscape 4 0 behind
          unicodeBody fuel (value :: seen) after
      else
        unicodeBody fuel (c :: seen) behind

def digitRun (base : Nat) : Nat → Nat → Cursor → Nat × Cursor
  | 0, value, cursor => (value, cursor)
  | count + 1, value, cursor =>
    match cursor.peek?.bind hexDigit? with
    | some digit =>
      if digit < base then digitRun base count (value * base + digit) cursor.skip
      else (value, cursor)
    | none => (value, cursor)

/-- The number that hexadecimal digits stand for, a plus sign before them being allowed. -/
def hexNumber? (digits : List Char) : Option Nat :=
  let digits := match digits with
    | '+' :: rest => rest
    | _ => digits
  if digits.isEmpty then none
  else digits.foldl (fun value? c => do return (← value?) * 16 + (← hexDigit? c)) (some 0)

def fixedHex? (count : Nat) (cursor : Cursor) : Option (Char × Cursor) := do
  let digits := cursor.rest.take count
  let value ← hexNumber? digits
  if digits.length = count && isCodePoint value then
    some (Char.ofNat value, cursor.skipMany count)
  else
    none

def asciiByte? (value : Nat) : Option Char :=
  if value % 256 < 128 then some (Char.ofNat (value % 256)) else none

def escapedChar? (c : Char) (cursor : Cursor) : Option (Char × Cursor) :=
  match c with
  | 'b' => some (Char.ofNat 8, cursor)
  | 'f' => some (Char.ofNat 12, cursor)
  | 'n' => some ('\n', cursor)
  | 'r' => some ('\r', cursor)
  | 't' => some ('\t', cursor)
  | 'u' => fixedHex? 4 cursor
  | 'U' => fixedHex? 8 cursor
  | 'x' =>
    if (cursor.peek?.bind hexDigit?).isNone then some ('x', cursor)
    else
      let (value, behind) := digitRun 16 2 0 cursor
      (asciiByte? value).map fun value => (value, behind)
  | c =>
    if '0' ≤ c && c ≤ '7' then
      let (value, behind) := digitRun 8 2 (c.toNat - '0'.toNat) cursor
      (asciiByte? value).map fun value => (value, behind)
    else
      some (c, cursor)

/-- Read a literal with backslash escapes up to its closing quote; `none` when it is left open
or has a malformed escape. The fuel bounds the number of characters. -/
def escapedBody? : Nat → List Char → Cursor → Option (List Char × Cursor)
  | 0, _, _ => none
  | fuel + 1, seen, cursor =>
    match cursor.rest with
    | [] => none
    | c :: rest =>
      let behind := cursor.skip
      if c = singleQuote then
        if rest.head? = some singleQuote then escapedBody? fuel (c :: seen) behind.skip
        else some (seen.reverse, behind)
      else if c = '\\' then
        match rest with
        | [] => none
        | d :: _ => do
          let (value, after) ← escapedChar? d behind.skip
          if value.toNat = 0 then none else escapedBody? fuel (value :: seen) after
      else
        escapedBody? fuel (c :: seen) behind

/-- Read up to two dollar signs in a row. A single dollar sign is kept with the character
behind it; `afterDollar` tells whether the character before was one. -/
def dollarBody? : Bool → List Char → Position → Option (List Char × Cursor)
  | _, [], _ => none
  | afterDollar, c :: rest, position =>
    if afterDollar then
      if c = '$' then some ([], ⟨rest, advance position c⟩)
      else (dollarBody? false rest (advance position c)).map
        fun read => ('$' :: c :: read.1, read.2)
    else if c = '$' then
      dollarBody? true rest (advance position c)
    else
      (dollarBody? false rest (advance position c)).map (consRead c)

/-- Read up to a closing tag, the text so far being held reversed. -/
def taggedBody? (tag : List Char) : List Char → List Char → Position →
    Option (List Char × Cursor)
  | _, [], _ => none
  | seen, c :: rest, position =>
    let seen := c :: seen
    if tag.reverse.isPrefixOf seen then
      some ((seen.drop tag.length).reverse, ⟨rest, advance position c⟩)
    else
      taggedBody? tag seen rest (advance position c)

end SqlTables.Sql
