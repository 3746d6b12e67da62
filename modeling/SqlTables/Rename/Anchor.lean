import SqlTables.Text.Bytes
import SqlTables.Text.Classes
import SqlTables.Text.Fold

/-!
# Anchored search

An anchor is a phrase such as `DELETE FROM`. It matches where its words stand in the text one
after the other with blanks between and behind them, in any letter case, beginning at a word
boundary. The place behind the last blanks is where a name is looked for: a hit is such a place
at which the name stands and does not go on.
-/

namespace SqlTables.Rename

open Text (byteLength isBlank isWordChar isAlphanumeric sameFold)

def afterWord? : List Char → List Char → Option (List Char)
  | [], text => some text
  | _ :: _, [] => none
  | letter :: word, c :: text => if sameFold letter c then afterWord? word text else none

def afterBlanks? : List Char → Option (List Char)
  | [] => none
  | c :: text => if isBlank c then some (text.dropWhile isBlank) else none

/-- The text behind words that it begins with, each followed by blanks. -/
def afterWords? : List (List Char) → List Char → Option (List Char)
  | [], text => some text
  | word :: words, text => (afterWord? word text).bind afterBlanks? |>.bind (afterWords? words)

/-- Whether there is a word boundary between the character before a place and the one at it. -/
def isBoundary (before : Option Char) (c : Char) : Bool :=
  before.any isWordChar != isWordChar c

/-- The byte offsets behind the matches of words in a text, from left to right. A match does not
overlap the one before it: `skipped` characters still belong to that one. -/
def matchEndsFrom (words : List (List Char)) :
    Option Char → Nat → Nat → List Char → List Nat
  | _, _, _, [] => []
  | _, offset, skipped + 1, c :: rest =>
    matchEndsFrom words (some c) (offset + c.utf8Size) skipped rest
  | before, offset, 0, c :: rest =>
    match if isBoundary before c then afterWords? words (c :: rest) else none with
    | some after =>
      (offset + (byteLength (c :: rest) - byteLength after))
        :: matchEndsFrom words (some c) (offset + c.utf8Size) (rest.length - after.length) rest
    | none => matchEndsFrom words (some c) (offset + c.utf8Size) 0 rest

def matchEnds (words : List (List Char)) (text : List Char) : List Nat :=
  matchEndsFrom words none 0 0 text

def continuesName (c : Char) : Bool :=
  isAlphanumeric c || c == '_'

/-- The text behind a name, if the name stands at the front of a text and ends there. -/
def afterName? (name text : List Char) : Option (List Char) :=
  match name, text with
  | [], c :: _ => if continuesName c then none else some text
  | [], [] => some []
  | _ :: _, [] => none
  | letter :: name, c :: text => if letter = c then afterName? name text else none

def replaceAt? (text name replacement : List Char) (offset : Nat) : Option (List Char) := do
  let (before, rest) ← Text.cutAt? text offset
  let after ← afterName? name rest
  return before ++ replacement ++ after

structure Anchors where
  phrases : List String
deriving DecidableEq, Repr

namespace Anchors

/-- Mutations name their target behind one of these phrases. -/
def default : Anchors :=
  ⟨["UPDATE", "DELETE FROM", "MERGE INTO"]⟩

/-- The search for given phrases. A phrase without words is the error. -/
def ofPhrases (phrases : List String) : Except String Anchors :=
  match phrases.find? fun phrase => (Text.splitBlanks phrase).isEmpty with
  | some phrase => .error phrase
  | none => .ok ⟨phrases⟩

/-- How many bytes before a name its anchor may begin. -/
def reach (anchors : Anchors) : Nat :=
  (anchors.phrases.map Text.bytes).foldl max 0 + 16

/-- Replace a name at the first of some offsets that lies in a window and at which the name stands.
The offsets ascend: the search breaks off at the first one behind the window. -/
def replaceAmong? (text name replacement : List Char) (start stop : Nat) :
    List Nat → Option (List Char)
  | [] => none
  | offset :: later =>
    if stop ≤ offset then none
    else if offset < start then replaceAmong? text name replacement start stop later
    else
      replaceAt? text name replacement offset
        <|> replaceAmong? text name replacement start stop later

/-- Replace the first hit of one phrase whose name begins in a window of byte offsets. -/
def replaceBehind? (phrase : String) (text name replacement : List Char) (start stop : Nat) :
    Option (List Char) :=
  replaceAmong? text name replacement start stop (matchEnds (Text.splitBlanks phrase) text)

/-- Replace a name behind the first phrase that has a hit, at its first hit. -/
def replaceFirst? (anchors : Anchors) (text name replacement : List Char) (start stop : Nat) :
    Option (List Char) :=
  if name.isEmpty then none
  else anchors.phrases.findSome? fun phrase =>
    replaceBehind? phrase text name replacement start stop

end Anchors

end SqlTables.Rename
