import SqlTables.Proofs.Text.Cutting
import SqlTables.Text.Fold

/-!
# Letter case

Lowering moves capital ASCII letters to small ones, keeps every other character as it is, and so
keeps the length of a text. The folding of anchor words goes beyond ASCII; but of the small ASCII
letters only `k` and `s` are reached from there, by the sign of the kelvin and the long `s`. For the
other letters, to agree under folding is to agree up to the case of ASCII letters.
-/

namespace SqlTables.Text

/-! ## Lowering ASCII letters -/

theorem isLower_toLower {c : Char} (upper : c.isUpper = true) : c.toLower.isLower = true := by
  have bounds := of_decide_eq_true upper
  have low : 65 ≤ c.val.toNat := UInt32.le_iff_toNat_le.mp bounds.1
  have high : c.val.toNat ≤ 90 := UInt32.le_iff_toNat_le.mp bounds.2
  have shift : ('a'.val - 'A'.val).toNat = 32 := by decide
  have moved : (c.val + ('a'.val - 'A'.val)).toNat = c.val.toNat + 32 := by
    rw [UInt32.toNat_add, shift]
    omega
  have first : 'a'.val.toNat = 97 := by decide
  have last : 'z'.val.toNat = 122 := by decide
  have above : 'a'.val ≤ c.val + ('a'.val - 'A'.val) := UInt32.le_iff_toNat_le.mpr (by omega)
  have below : c.val + ('a'.val - 'A'.val) ≤ 'z'.val := UInt32.le_iff_toNat_le.mpr (by omega)
  unfold Char.toLower
  rw [dif_pos bounds]
  exact Bool.and_eq_true_iff.mpr ⟨decide_eq_true above, decide_eq_true below⟩

/-- Only letters are lowered, and to letters, so a character that is no letter comes from itself
alone. -/
theorem toLower_eq_iff {c mark : Char} (plain : mark.isAlpha = false) :
    c.toLower = mark ↔ c = mark := by
  obtain ⟨notUpper, notLower⟩ := Bool.or_eq_false_iff.mp plain
  cases upper : c.isUpper with
  | false => rw [toLower_eq_self upper]
  | true =>
      refine iff_of_false ?_ ?_
      · rintro rfl
        rw [isLower_toLower upper] at notLower
        cases notLower
      · rintro rfl
        rw [upper] at notUpper
        cases notUpper

theorem toNat_le_of_isAlpha {c : Char} (letter : c.isAlpha = true) : c.toNat ≤ 122 := by
  rcases Bool.or_eq_true_iff.mp letter with upper | lower
  · have last : c.toNat ≤ 90 := UInt32.le_iff_toNat_le.mp (of_decide_eq_true upper).2
    omega
  · exact UInt32.le_iff_toNat_le.mp (of_decide_eq_true (Bool.and_eq_true_iff.mp lower).2)

theorem toNat_toLower_of_isAlpha {c : Char} (letter : c.isAlpha = true) :
    97 ≤ c.toLower.toNat ∧ c.toLower.toNat ≤ 122 := by
  have small : c.toLower.isLower = true := by
    rcases Bool.or_eq_true_iff.mp letter with upper | lower
    · exact isLower_toLower upper
    · cases upper : c.isUpper with
      | true => exact isLower_toLower upper
      | false => rwa [toLower_eq_self upper]
  obtain ⟨low, high⟩ := Bool.and_eq_true_iff.mp small
  exact ⟨UInt32.le_iff_toNat_le.mp (of_decide_eq_true low),
    UInt32.le_iff_toNat_le.mp (of_decide_eq_true high)⟩

/-- Only ASCII letters are lowered, and to ASCII letters. -/
theorem utf8Size_toLower (c : Char) : c.toLower.utf8Size = c.utf8Size := by
  unfold Char.toLower
  split
  case isTrue upper =>
    have high : c.val.toNat ≤ 90 := UInt32.le_iff_toNat_le.mp upper.2
    have shift : ('a'.val - 'A'.val).toNat = 32 := by decide
    have ascii : (127 : UInt32).toNat = 127 := by decide
    have small : c.utf8Size = 1 := by
      rw [Char.utf8Size_eq_one_iff, UInt32.le_iff_toNat_le, ascii]
      omega
    rw [small, Char.utf8Size_eq_one_iff, UInt32.le_iff_toNat_le, UInt32.toNat_add, shift, ascii]
    omega
  case isFalse => rfl

theorem byteLength_map_toLower (text : List Char) :
    byteLength (text.map Char.toLower) = byteLength text := by
  induction text with
  | nil => rfl
  | cons c rest ih => simp [utf8Size_toLower, ih]

theorem bytes_asciiLower (text : String) : bytes (asciiLower text) = bytes text := by
  rw [bytes, asciiLower, String.toList_ofList, byteLength_map_toLower, bytes]

/-! ## Folding beyond ASCII -/

/-- The runs of the table stay beyond ASCII, apart from those of the long `s` and of the sign of the
kelvin. -/
theorem foldTable_beyond : ∀ run ∈ foldTable,
    (128 : Int) ≤ run.first + run.shift ∨
      run.first = run.last ∧ (run.first + run.shift = 107 ∨ run.first + run.shift = 115) := by
  decide +kernel

theorem apply_of_covers {run : FoldRun} {code : Nat} (member : run ∈ foldTable)
    (covered : run.covers code = true) :
    128 ≤ run.apply code ∨ run.apply code = 107 ∨ run.apply code = 115 := by
  simp only [FoldRun.covers, Bool.and_eq_true, decide_eq_true_eq] at covered
  obtain ⟨⟨above, below⟩, -⟩ := covered
  unfold FoldRun.apply
  rcases foldTable_beyond run member with beyond | ⟨single, kelvin | long⟩
  · omega
  · omega
  · omega

/-- The character of a number has that number, or is the null character. -/
theorem toNat_ofNat_eq_or (code : Nat) :
    (Char.ofNat code).toNat = code ∨ (Char.ofNat code).toNat = 0 := by
  by_cases valid : code.isValidChar
  · rw [Char.ofNat, dif_pos valid]
    exact Or.inl rfl
  · rw [Char.ofNat, dif_neg valid]
    exact Or.inr rfl

/-- No character beyond ASCII folds to an ASCII letter other than `k` and `s`. -/
theorem toNat_simpleFold_beyond {c : Char} (beyond : 128 ≤ c.toNat) :
    (simpleFold c).toNat = 0 ∨ (simpleFold c).toNat = 107 ∨ (simpleFold c).toNat = 115 ∨
      128 ≤ (simpleFold c).toNat := by
  unfold simpleFold
  rw [if_neg (by omega)]
  split
  case h_1 run found =>
    have covered : run.covers c.toNat = true := by simpa using List.find?_some found
    have target := apply_of_covers (List.mem_of_find?_eq_some found) covered
    have character := toNat_ofNat_eq_or (run.apply c.toNat)
    omega
  case h_2 => omega

def isPlainLetter (letter : Char) : Bool :=
  letter.isAlpha && letter.toLower != 'k' && letter.toLower != 's'

/-- A character agrees with such a letter exactly if it is the letter in either case. -/
theorem sameFold_eq_true_iff {letter c : Char} (plain : isPlainLetter letter = true) :
    sameFold letter c = true ↔ c.toLower = letter.toLower := by
  simp only [isPlainLetter, Bool.and_eq_true, bne_iff_ne, ne_eq] at plain
  obtain ⟨⟨alpha, notKelvin⟩, notLong⟩ := plain
  obtain ⟨low, high⟩ := toNat_toLower_of_isAlpha alpha
  have ascii : letter.toNat < 128 := Nat.lt_of_le_of_lt (toNat_le_of_isAlpha alpha) (by decide)
  rw [sameFold, beq_iff_eq, simpleFold, if_pos ascii]
  by_cases beyond : 128 ≤ c.toNat
  · have kept : c.toLower = c := by
      refine toLower_eq_self (isUpper_eq_false_iff.mpr ?_)
      rw [Char.toNat_val]
      omega
    have folded := toNat_simpleFold_beyond beyond
    rw [← Char.toNat_inj] at notKelvin notLong
    have kelvin : 'k'.toNat = 107 := rfl
    have long : 's'.toNat = 115 := rfl
    rw [kept, ← Char.toNat_inj, ← Char.toNat_inj]
    omega
  · rw [simpleFold, if_pos (by omega)]
    exact eq_comm

end SqlTables.Text
