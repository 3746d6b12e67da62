/-!
# Kinds of table references

Where a reference stands in a statement decides how its span is located in the source, and
whether the anchored search may step in when the located span does not hold the name.
-/

namespace SqlTables

inductive ReferenceKind where
  /-- Operand of `FROM` or `JOIN`. -/
  | relation
  /-- Qualifier of a column reference. -/
  | qualifier
  /-- Target of `UPDATE`. -/
  | updateTarget
  /-- Target of `DELETE`. -/
  | deleteTarget
  /-- Target of `MERGE`. -/
  | mergeTarget
  /-- Table created with a column list. -/
  | createTableTarget
  /-- Table altered by adding a column. -/
  | addColumnTarget
  /-- Target of `INSERT`. -/
  | insertTarget
  /-- Table created from a query. -/
  | createAsSelectTarget
  /-- Name of a view being defined. -/
  | viewDefinition
  /-- Table or view being dropped. -/
  | dropTarget
  /-- Table being truncated. -/
  | truncateTarget
  /-- Table altered in any other way. -/
  | alterTarget
  /-- New name of a renamed table. -/
  | renameTarget
  /-- Table named by comments, privileges, listings and statistics. -/
  | administrative
deriving DecidableEq, Repr

/-- How the span of a reference is derived from the positions of its identifiers. -/
inductive Placement where
  /-- The span starts at the first identifier. -/
  | nodeLocation
  /-- The span starts before the last identifier, by the length of the qualifiers. -/
  | lastIdentifier
  /-- The name is recorded without a span. -/
  | nameOnly
deriving DecidableEq, Repr

namespace ReferenceKind

def placement : ReferenceKind → Placement
  | relation | qualifier => .nodeLocation
  | updateTarget | deleteTarget | mergeTarget | createTableTarget | addColumnTarget =>
    .lastIdentifier
  | insertTarget | createAsSelectTarget | viewDefinition | dropTarget | truncateTarget
  | alterTarget | renameTarget | administrative => .nameOnly

/-- Whether the anchored search is tried when the span does not hold the name. -/
def allowsAnchors : ReferenceKind → Bool
  | updateTarget | deleteTarget | mergeTarget => true
  | _ => false

def label : ReferenceKind → String
  | relation => "relation"
  | qualifier => "qualifier"
  | updateTarget => "update_target"
  | deleteTarget => "delete_target"
  | mergeTarget => "merge_target"
  | createTableTarget => "create_table_target"
  | addColumnTarget => "add_column_target"
  | insertTarget => "insert_target"
  | createAsSelectTarget => "create_as_select_target"
  | viewDefinition => "view_definition"
  | dropTarget => "drop_target"
  | truncateTarget => "truncate_target"
  | alterTarget => "alter_target"
  | renameTarget => "rename_target"
  | administrative => "administrative"

def title : ReferenceKind → String
  | relation => "Relation"
  | qualifier => "Qualifier"
  | updateTarget => "UpdateTarget"
  | deleteTarget => "DeleteTarget"
  | mergeTarget => "MergeTarget"
  | createTableTarget => "CreateTableTarget"
  | addColumnTarget => "AddColumnTarget"
  | insertTarget => "InsertTarget"
  | createAsSelectTarget => "CreateAsSelectTarget"
  | viewDefinition => "ViewDefinition"
  | dropTarget => "DropTarget"
  | truncateTarget => "TruncateTarget"
  | alterTarget => "AlterTarget"
  | renameTarget => "RenameTarget"
  | administrative => "Administrative"

def all : List ReferenceKind :=
  [relation, qualifier, updateTarget, deleteTarget, mergeTarget, createTableTarget,
    addColumnTarget, insertTarget, createAsSelectTarget, viewDefinition, dropTarget,
    truncateTarget, alterTarget, renameTarget, administrative]

def ofLabel? (text : String) : Option ReferenceKind :=
  all.find? fun kind => kind.label == text

end ReferenceKind

def Placement.label : Placement → String
  | nodeLocation => "node_location"
  | lastIdentifier => "last_identifier"
  | nameOnly => "name_only"

/-- A span of the source that is expected to hold a table name. The text is the canonical
name; the span counts bytes, includes the delimiters of a delimited identifier, and excludes
its end. -/
structure Occurrence where
  text : String
  start : Nat
  stop : Nat
  kind : ReferenceKind
deriving DecidableEq, Repr

end SqlTables
