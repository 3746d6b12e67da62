import SqlTables.Text.Classes
import SqlTables.Text.Fold

/-!
# Mappings from old names to new names

A mapping is a list of entries whose keys ascend, so that each key has one entry. Keys are ordered
by code points, which is the order of their UTF-8 bytes. Keys and values are kept verbatim.
-/

namespace SqlTables

@[ext]
structure Mapping where
  entries : List (String × String)
  ascending : entries.Pairwise fun left right => left.1 < right.1
deriving DecidableEq, Repr

namespace Mapping

def empty : Mapping :=
  ⟨[], List.Pairwise.nil⟩

def isEmpty (mapping : Mapping) : Bool :=
  mapping.entries.isEmpty

def get? (mapping : Mapping) (key : String) : Option String :=
  (mapping.entries.find? fun entry => entry.1 == key).map Prod.snd

def contains (mapping : Mapping) (key : String) : Bool :=
  (mapping.get? key).isSome

/-- The first entry, in key order, whose key equals a name up to the case of ASCII letters. -/
def findIgnoringCase? (mapping : Mapping) (name : String) : Option (String × String) :=
  mapping.entries.find? fun entry => Text.sameIgnoringAsciiCase entry.1 name

/-- Whether a name is a key, possibly up to the case of ASCII letters. -/
def covers (mapping : Mapping) (name : String) : Bool :=
  mapping.contains name || (mapping.findIgnoringCase? name).isSome

/-- Put an entry at its place in a sorted list, replacing the entry of the same key. -/
def insertEntry (key value : String) : List (String × String) → List (String × String)
  | [] => [(key, value)]
  | entry :: rest =>
    if key = entry.1 then (key, value) :: rest
    else if key < entry.1 then (key, value) :: entry :: rest
    else entry :: insertEntry key value rest

theorem mem_insertEntry {key value : String} {entries : List (String × String)}
    {entry : String × String} (member : entry ∈ insertEntry key value entries) :
    entry = (key, value) ∨ entry ∈ entries := by
  induction entries with
  | nil => exact Or.inl (List.mem_singleton.mp member)
  | cons first rest ih =>
      rw [insertEntry] at member
      split at member
      case isTrue =>
        exact (List.mem_cons.mp member).imp_right (List.mem_cons_of_mem first)
      case isFalse =>
        split at member
        case isTrue => exact List.mem_cons.mp member
        case isFalse =>
          rcases List.mem_cons.mp member with rfl | later
          · exact Or.inr List.mem_cons_self
          · exact (ih later).imp_right (List.mem_cons_of_mem first)

theorem insertEntry_ascending (key value : String) {entries : List (String × String)}
    (ascending : entries.Pairwise fun left right => left.1 < right.1) :
    (insertEntry key value entries).Pairwise fun left right => left.1 < right.1 := by
  induction entries with
  | nil => exact List.pairwise_singleton _ _
  | cons first rest ih =>
      obtain ⟨above, ascendingRest⟩ := List.pairwise_cons.mp ascending
      rw [insertEntry]
      split
      case isTrue same => exact List.pairwise_cons.mpr ⟨same ▸ above, ascendingRest⟩
      case isFalse apart =>
        split
        case isTrue below =>
          refine List.pairwise_cons.mpr ⟨?_, ascending⟩
          intro entry member
          rcases List.mem_cons.mp member with rfl | later
          · exact below
          · exact String.lt_trans below (above entry later)
        case isFalse notBelow =>
          have reached : first.1 < key := by
            by_cases less : first.1 < key
            · exact less
            · exact absurd (String.le_antisymm (String.not_lt.mp less) (String.not_lt.mp notBelow))
                apart
          refine List.pairwise_cons.mpr ⟨?_, ih ascendingRest⟩
          intro entry member
          rcases mem_insertEntry member with rfl | later
          · exact reached
          · exact above entry later

def insert (mapping : Mapping) (key value : String) : Mapping :=
  ⟨insertEntry key value mapping.entries, insertEntry_ascending key value mapping.ascending⟩

/-- The mapping of a list of pairs; the last pair of a key wins. -/
def ofList (pairs : List (String × String)) : Mapping :=
  pairs.foldl (fun mapping pair => mapping.insert pair.1 pair.2) empty

def override (mapping other : Mapping) : Mapping :=
  other.entries.foldl (fun merged pair => merged.insert pair.1 pair.2) mapping

/-- The mapping from new names back to old names; among equal new names the one of the last
key wins. -/
def invert (mapping : Mapping) : Mapping :=
  ofList (mapping.entries.map Prod.swap)

def splitAtEquals : List Char → Option (List Char × List Char)
  | [] => none
  | '=' :: rest => some ([], rest)
  | c :: rest => (splitAtEquals rest).map fun (left, right) => (c :: left, right)

/-- Read an entry `old=new`: split at the first equals sign, trim both sides, and refuse an
empty side. -/
def parsePair? (entry : String) : Option (String × String) := do
  let (left, right) ← splitAtEquals entry.toList
  let old := Text.trim (String.ofList left)
  let new := Text.trim (String.ofList right)
  if old.isEmpty || new.isEmpty then none else some (old, new)

/-- Read entries `old=new`, the last entry of a key winning; the first entry that cannot be
read is the error. -/
def parseEntries (entries : List String) : Except String Mapping := do
  let pairs ← entries.mapM fun entry =>
    match parsePair? entry with
    | some pair => .ok pair
    | none => .error entry
  pure (ofList pairs)

end Mapping

structure Analysis where
  allTables : List String
  affectedTables : List String
  mapping : Mapping
deriving DecidableEq, Repr

namespace Analysis

def ofTables (tables : List String) (mapping : Mapping) : Analysis :=
  ⟨tables, tables.filter mapping.covers, mapping⟩

def hasChanges (analysis : Analysis) : Bool :=
  !analysis.affectedTables.isEmpty

end Analysis

end SqlTables
