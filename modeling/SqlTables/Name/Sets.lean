import SqlTables.Text.Fold

/-!
# Sets of names

Table names keep the order of their discovery. Aliases are a set up to the case of ASCII
letters.
-/

namespace SqlTables

/-- Table names in the order in which they were first inserted. -/
structure NameSet where
  names : List String
  distinct : names.Nodup
deriving DecidableEq, Repr

namespace NameSet

def empty : NameSet :=
  ⟨[], List.nodup_nil⟩

def contains (set : NameSet) (name : String) : Bool :=
  set.names.contains name

theorem nodup_append_of_not_contains {set : NameSet} {name : String}
    (unknown : ¬ set.contains name = true) : (set.names ++ [name]).Nodup := by
  have absent : name ∉ set.names := by simpa [contains] using unknown
  refine List.nodup_append.mpr ⟨set.distinct, by simp, ?_⟩
  intro other member added isName same
  obtain rfl := List.mem_singleton.mp isName
  exact absent (same ▸ member)

/-- Insert a name behind the others unless it is there already. -/
def insert (set : NameSet) (name : String) : NameSet :=
  if known : set.contains name then set
  else ⟨set.names ++ [name], nodup_append_of_not_contains known⟩

def ofList (names : List String) : NameSet :=
  names.foldl insert empty

end NameSet

/-- Aliases of relations, with their ASCII letters lowered. -/
structure AliasSet where
  aliases : List String
  lowered : ∀ name ∈ aliases, Text.asciiLower name = name
  distinct : aliases.Nodup
deriving DecidableEq, Repr

namespace AliasSet

def empty : AliasSet :=
  ⟨[], List.forall_mem_nil _, List.nodup_nil⟩

/-- Whether a name is an alias, ignoring the case of ASCII letters. -/
def contains (set : AliasSet) (name : String) : Bool :=
  set.aliases.contains (Text.asciiLower name)

theorem nodup_cons_of_not_contains {set : AliasSet} {name : String}
    (unknown : ¬ set.contains name = true) : (Text.asciiLower name :: set.aliases).Nodup :=
  List.nodup_cons.mpr ⟨by simpa [contains] using unknown, set.distinct⟩

def insert (set : AliasSet) (name : String) : AliasSet :=
  if known : set.contains name then set
  else
    { aliases := Text.asciiLower name :: set.aliases
      lowered := List.forall_mem_cons.mpr ⟨Text.asciiLower_asciiLower name, set.lowered⟩
      distinct := nodup_cons_of_not_contains known }

end AliasSet

end SqlTables
