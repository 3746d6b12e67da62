/-!
# JSON values

Members of an object keep their order, and a key may occur more than once. Numbers are natural,
negative, or real.
-/

namespace SqlTables

inductive JsonNumber where
  | natural (value : Nat)
  /-- A whole number below zero, by its magnitude. -/
  | negative (magnitude : Nat)
  | real (value : Float)
deriving Repr

inductive Json where
  | null
  | bool (value : Bool)
  | number (value : JsonNumber)
  | string (value : String)
  | array (items : List Json)
  | object (members : List (String × Json))
deriving Repr

namespace Json

def optional : Option String → Json
  | some text => string text
  | none => null

def strings (texts : List String) : Json :=
  array (texts.map string)

def natural (value : Nat) : Json :=
  number (.natural value)

end Json

end SqlTables
