import SqlTables.Name.Mapping
import SqlTables.Name.Quotes
import SqlTables.Reference.Kind
import SqlTables.Rename.Anchor

/-!
# Replacing occurrences

Occurrences are replaced from right to left, so that the offsets of those still pending stay
valid. A span is replaced only if it still holds the name, with or without delimiters and in any
letter case. Where it does not, the target of a mutation is looked for behind an anchor.
-/

namespace SqlTables.Rename

/-- Whether one occurrence is replaced before another: the later start first, then the later
end. -/
def comesFirst (left right : Occurrence) : Bool :=
  right.start < left.start || (left.start == right.start && right.stop ≤ left.stop)

def sameSpan (left right : Occurrence) : Bool :=
  left.start == right.start && left.stop == right.stop

/-- Keep the first of neighbouring occurrences with the same span. -/
def dropRepeats : List Occurrence → List Occurrence
  | [] => []
  | first :: rest =>
    match dropRepeats rest with
    | [] => [first]
    | second :: others =>
      if sameSpan first second then first :: others else first :: second :: others

/-- Occurrences in the order of their replacement, each span once. -/
def inOrder (occurrences : List Occurrence) : List Occurrence :=
  dropRepeats (occurrences.mergeSort comesFirst)

/-- Whether the text of a span is a name, ignoring one pair of delimiters and the case of ASCII
letters. -/
def holdsName (live : List Char) (name : String) : Bool :=
  Text.sameIgnoringAsciiCase (String.ofList (Name.stripQuoteChars live)) name

/-- The new name for a span. The text of the span is looked up as it stands, then without its
delimiters, then the canonical name, and last the text without delimiters in any letter case. -/
def resolve? (mapping : Mapping) (live : List Char) (name : String) : Option String :=
  let written := String.ofList live
  let content := String.ofList (Name.stripQuoteChars live)
  mapping.get? written
    <|> (if content = written then none else mapping.get? content)
    <|> mapping.get? name
    <|> (mapping.findIgnoringCase? content).map Prod.snd

/-- The window of an anchored search: behind the occurrences that are still pending, within
reach of the expected place, and before its end. -/
def searchWindow (anchors : Anchors) (occurrence : Occurrence) (pending : List Occurrence) :
    Nat × Nat :=
  (max ((pending.map Occurrence.stop).foldl max 0) (occurrence.start - anchors.reach),
    occurrence.stop)

/-- Replace an occurrence behind an anchor, spelled canonically or as the key of the mapping. -/
def replaceAnchored? (mapping : Mapping) (anchors : Anchors) (occurrence : Occurrence)
    (pending : List Occurrence) (buffer : List Char) : Option (List Char) := do
  let (key, replacement) ←
    match mapping.get? occurrence.text with
    | some replacement => some (occurrence.text, replacement)
    | none => mapping.findIgnoringCase? occurrence.text
  let (start, stop) := searchWindow anchors occurrence pending
  let search (name : String) :=
    anchors.replaceFirst? buffer name.toList replacement.toList start stop
  search occurrence.text <|> if key = occurrence.text then none else search key

def replaceOne (mapping : Mapping) (anchors : Anchors) (occurrence : Occurrence)
    (pending : List Occurrence) (buffer : List Char) : List Char :=
  let fallback :=
    if occurrence.kind.allowsAnchors then
      (replaceAnchored? mapping anchors occurrence pending buffer).getD buffer
    else
      buffer
  match Text.cut? buffer occurrence.start (min occurrence.stop (Text.byteLength buffer)) with
  | some cut =>
    if holdsName cut.inside occurrence.text then
      match resolve? mapping cut.inside occurrence.text with
      | some replacement => cut.fill replacement.toList
      | none => buffer
    else
      fallback
  | none => fallback

def replaceEach (mapping : Mapping) (anchors : Anchors) :
    List Occurrence → List Char → List Char
  | [], buffer => buffer
  | occurrence :: pending, buffer =>
    replaceEach mapping anchors pending
      (replaceOne mapping anchors occurrence pending buffer)

def apply (mapping : Mapping) (anchors : Anchors) (occurrences : List Occurrence)
    (source : String) : String :=
  if mapping.isEmpty || occurrences.isEmpty then source
  else String.ofList (replaceEach mapping anchors (inOrder occurrences) source.toList)

end SqlTables.Rename
