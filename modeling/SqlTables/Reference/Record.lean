import SqlTables.Name.Ident
import SqlTables.Name.Quotes
import SqlTables.Name.Sets
import SqlTables.Reference.Kind

/-!
# Recording references

What has been found in statements so far: the names of the tables, the aliases of relations, and
the occurrences of names in the source. A name is placed by the positions of its identifiers as
its kind demands; a qualifier counts only if it is not an alias.
-/

namespace SqlTables

/-- The references found in statements, the occurrences in the order of their discovery. -/
structure References where
  tables : NameSet
  aliases : AliasSet
  occurrences : List Occurrence
deriving DecidableEq, Repr

def Ident.offset? (source : List Char) (ident : Ident) : Option Nat :=
  ident.place?.map (Text.offsetAt source)

namespace References

def empty : References :=
  ⟨NameSet.empty, AliasSet.empty, []⟩

/-- Add an occurrence whose first character is at `start`, if that is a character of the source. -/
def addOccurrence (source : List Char) (text : String) (start : Nat) (kind : ReferenceKind)
    (found : References) : References :=
  match Name.spanAt? source start text with
  | some (start, stop) =>
    { found with occurrences := found.occurrences ++ [⟨text, start, stop, kind⟩] }
  | none => found

/-- Where the occurrence of a name of some kind starts. A name that is placed by its last
identifier starts before it, by the length of the qualifiers and their dots. -/
def startOf? (source : List Char) (kind : ReferenceKind) (name : ObjectName) : Option Nat :=
  match kind.placement with
  | .nameOnly => none
  | .nodeLocation => name.head?.bind (Ident.offset? source)
  | .lastIdentifier => do
    let last ← name.getLast?
    let offset ← last.offset? source
    let qualifiers := Text.bytes name.canonical - Text.bytes last.canonical
    if qualifiers ≤ offset then some (offset - qualifiers) else none

/-- Record a name of some kind, with its occurrence if the name can be placed. -/
def addName (source : List Char) (kind : ReferenceKind) (name : ObjectName)
    (found : References) : References :=
  let canonical := name.canonical
  if canonical.isEmpty then
    found
  else
    let found := { found with tables := found.tables.insert canonical }
    match startOf? source kind name with
    | some start => found.addOccurrence source canonical start kind
    | none => found

def addAlias (calledAs : Option RelationAlias) (found : References) : References :=
  match calledAs with
  | some calledAs => { found with aliases := found.aliases.insert calledAs.name.value }
  | none => found

/-- Record the qualifier of a column reference. A qualifier of one part must not be an alias. A
longer one must not be an alias either, and must be the name of a table found before. -/
def addQualifier (source : List Char) (parts : List Ident) (found : References) : References :=
  match parts.dropLast with
  | [] => found
  | [base] =>
    if found.aliases.contains base.value then found
    else
      match base.offset? source with
      | some start => found.addOccurrence source base.canonical start .qualifier
      | none => found
  | qualifier@(base :: _) =>
    if found.aliases.contains (ObjectName.raw qualifier) then found
    else if !found.tables.contains (ObjectName.canonical qualifier) then found
    else
      match base.offset? source with
      | some start =>
        found.addOccurrence source (ObjectName.canonical qualifier) start .qualifier
      | none => found

end References

end SqlTables
