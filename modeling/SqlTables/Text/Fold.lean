import SqlTables.Text.FoldTable

/-!
# Letter case

Names, aliases and mapping keys are compared without regard to the case of ASCII letters
only. Anchor words are compared under simple case folding, which also identifies letters
beyond ASCII.
-/

namespace SqlTables.Text

/-- Lower the case of the ASCII letters of a text. -/
def asciiLower (text : String) : String :=
  String.ofList (text.toList.map Char.toLower)

theorem isUpper_eq_false_iff {c : Char} :
    c.isUpper = false ↔ ¬ (65 ≤ c.val.toNat ∧ c.val.toNat ≤ 90) := by
  refine decide_eq_false_iff_not.trans (not_congr ?_)
  exact and_congr UInt32.le_iff_toNat_le UInt32.le_iff_toNat_le

theorem isUpper_toLower (c : Char) : c.toLower.isUpper = false := by
  unfold Char.toLower
  split
  case isTrue upper =>
    have low : 65 ≤ c.val.toNat := UInt32.le_iff_toNat_le.mp upper.1
    have high : c.val.toNat ≤ 90 := UInt32.le_iff_toNat_le.mp upper.2
    have shift : ('a'.val - 'A'.val).toNat = 32 := by decide
    rw [isUpper_eq_false_iff, UInt32.toNat_add, shift]
    omega
  case isFalse other =>
    rw [isUpper_eq_false_iff]
    exact fun upper =>
      other ⟨UInt32.le_iff_toNat_le.mpr upper.1, UInt32.le_iff_toNat_le.mpr upper.2⟩

theorem toLower_eq_self {c : Char} (small : c.isUpper = false) : c.toLower = c := by
  rw [isUpper_eq_false_iff] at small
  unfold Char.toLower
  split
  case isTrue upper =>
    exact absurd ⟨UInt32.le_iff_toNat_le.mp upper.1, UInt32.le_iff_toNat_le.mp upper.2⟩ small
  case isFalse => rfl

theorem toLower_toLower (c : Char) : c.toLower.toLower = c.toLower :=
  toLower_eq_self (isUpper_toLower c)

theorem asciiLower_asciiLower (text : String) :
    asciiLower (asciiLower text) = asciiLower text := by
  have lowered : ∀ c ∈ text.toList, c.toLower.toLower = c.toLower :=
    fun c _ => toLower_toLower c
  rw [asciiLower, asciiLower, String.toList_ofList, List.map_map]
  exact congrArg String.ofList (List.map_congr_left lowered)

def sameIgnoringAsciiCase (left right : String) : Bool :=
  left.toList.map Char.toLower == right.toList.map Char.toLower

/-- Simple case folding of one character. -/
def simpleFold (c : Char) : Char :=
  if c.toNat < 128 then
    c.toLower
  else
    match foldTable.find? fun entry => entry.covers c.toNat with
    | some entry => Char.ofNat (entry.apply c.toNat)
    | none => c

def sameFold (left right : Char) : Bool :=
  simpleFold left == simpleFold right

end SqlTables.Text
