import SqlTables.Name.Quotes
import SqlTables.Text.Fold
import SqlTables.Text.Lines

/-!
# Identifiers and object names

An identifier keeps its value with delimiters removed, the delimiter it was written with, and
the position where it was read. An object name is a list of identifiers joined by dots. Names
are compared in canonical form: every value with its ASCII letters lowered, joined by dots.
-/

namespace SqlTables

open Text (Position)

structure Ident where
  value : String
  quote : Option Char
  position : Position
deriving DecidableEq, Repr

/-- A dotted name, from the outermost qualifier to the object itself. -/
abbrev ObjectName := List Ident

namespace Ident

def plain (value : String) : Ident :=
  ⟨value, none, Position.unknown⟩

def canonical (ident : Ident) : String :=
  Text.asciiLower ident.value

def shown (ident : Ident) : String :=
  match ident.quote with
  | none => ident.value
  | some '[' => "[" ++ ident.value ++ "]"
  | some quote => Name.quoted quote ident.value

def place? (ident : Ident) : Option Position :=
  if ident.position.isKnown then some ident.position else none

end Ident

namespace ObjectName

def canonical (name : ObjectName) : String :=
  ".".intercalate (name.map Ident.canonical)

/-- Dotted form of the values as they were read. -/
def raw (name : ObjectName) : String :=
  ".".intercalate (name.map Ident.value)

def shown (name : ObjectName) : String :=
  ".".intercalate (name.map Ident.shown)

end ObjectName

/-- The alias of a relation: its name, and the columns that it names as they are shown in
messages. -/
structure RelationAlias where
  name : Ident
  columns : List String
deriving DecidableEq, Repr

def RelationAlias.shown (calledAs : RelationAlias) : String :=
  if calledAs.columns.isEmpty then calledAs.name.shown
  else calledAs.name.shown ++ " (" ++ ", ".intercalate calledAs.columns ++ ")"

end SqlTables
