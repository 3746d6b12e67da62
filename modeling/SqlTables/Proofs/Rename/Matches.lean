import SqlTables.Proofs.Text.Cutting
import SqlTables.Rename.Anchor

/-!
# Where anchors match

Matches of an anchor end between characters, and their ends are listed from left to right. A search
that breaks off at the first end behind its window therefore misses none inside it.
-/

namespace SqlTables.Rename

open Text (byteLength)

/-! ## What follows a match -/

theorem afterWord?_suffix {word text after : List Char}
    (found : afterWord? word text = some after) : after <:+ text := by
  fun_induction afterWord? word text with
  | case1 text =>
      cases found
      exact List.suffix_refl _
  | case2 => cases found
  | case3 letter word c rest same ih => exact (ih found).trans (List.suffix_cons c rest)
  | case4 => cases found

theorem exists_cons_of_afterBlanks? {text after : List Char}
    (found : afterBlanks? text = some after) : ∃ c rest, text = c :: rest ∧ after <:+ rest := by
  cases text with
  | nil => cases found
  | cons c rest =>
      obtain ⟨-, dropped⟩ := Option.ite_none_right_eq_some.mp found
      cases dropped
      exact ⟨c, rest, rfl, List.dropWhile_suffix _⟩

section

variable {words : List (List Char)} {text after : List Char} {before : Option Char}
  {offset skipped place : Nat}

/-- A match is a prefix of the text, which is not empty if there is at least one word. -/
theorem suffix_and_length_lt_of_afterWords? (found : afterWords? words text = some after) :
    after <:+ text ∧ (words ≠ [] → after.length < text.length) := by
  induction words generalizing text with
  | nil =>
      cases found
      exact ⟨List.suffix_refl _, fun worded => absurd rfl worded⟩
  | cons word words ih =>
      obtain ⟨behindBlanks, blanks, rest⟩ := Option.bind_eq_some_iff.mp found
      obtain ⟨behindWord, matched, spaced⟩ := Option.bind_eq_some_iff.mp blanks
      obtain ⟨c, others, rfl, behind⟩ := exists_cons_of_afterBlanks? spaced
      have inner : after <:+ others := (ih rest).1.trans behind
      have outer : c :: others <:+ text := afterWord?_suffix matched
      refine ⟨(inner.trans (List.suffix_cons c others)).trans outer, fun _ => ?_⟩
      have shorter := inner.length_le
      have longer := outer.length_le
      rw [List.length_cons] at longer
      omega

theorem afterWords?_suffix (found : afterWords? words text = some after) : after <:+ text :=
  (suffix_and_length_lt_of_afterWords? found).1

theorem byteLength_le_of_afterWords? (found : afterWords? words text = some after) :
    byteLength after ≤ byteLength text := by
  obtain ⟨front, rfl⟩ := afterWords?_suffix found
  rw [Text.byteLength_append]
  exact Nat.le_add_left _ _

theorem length_lt_of_afterWords? (worded : words ≠ [])
    (found : afterWords? words text = some after) : after.length < text.length :=
  (suffix_and_length_lt_of_afterWords? found).2 worded

theorem exists_front_of_afterWords? {c : Char} (worded : words ≠ [])
    (found : afterWords? words (c :: text) = some after) : ∃ front, text = front ++ after := by
  obtain ⟨front, whole⟩ := afterWords?_suffix found
  cases front with
  | nil =>
      have shorter := length_lt_of_afterWords? worded found
      rw [← whole] at shorter
      exact absurd shorter (Nat.lt_irrefl _)
  | cons d front => exact ⟨front, (List.cons.inj whole).2.symm⟩

/-! ## The ends of matches -/

/-- A match ends behind a part of the text that is still to be searched. -/
theorem exists_append_of_mem_matchEndsFrom
    (member : place ∈ matchEndsFrom words before offset skipped text) :
    ∃ front rest, text = front ++ rest ∧ place = offset + byteLength front := by
  have further {c : Char} {rest : List Char} {here : Nat}
      (later : ∃ front back, rest = front ++ back ∧
        place = here + c.utf8Size + byteLength front) :
      ∃ front back, c :: rest = front ++ back ∧ place = here + byteLength front := by
    obtain ⟨front, back, rfl, ends⟩ := later
    refine ⟨c :: front, back, rfl, ?_⟩
    rw [ends, Text.byteLength_cons, Nat.add_assoc]
  fun_induction matchEndsFrom words before offset skipped text with
  | case1 => cases member
  | case2 before offset skipped c rest ih => exact further (ih member)
  | case3 before offset c rest after found ih =>
      rcases List.mem_cons.mp member with rfl | later
      · obtain ⟨-, matched⟩ := Option.ite_none_right_eq_some.mp found
        obtain ⟨front, whole⟩ := afterWords?_suffix matched
        refine ⟨front, after, whole.symm, ?_⟩
        rw [← whole, Text.byteLength_append]
        omega
      · exact further (ih later)
  | case4 before offset c rest found ih => exact further (ih member)

theorem exists_append_of_mem_matchEnds (member : place ∈ matchEnds words text) :
    ∃ front rest, text = front ++ rest ∧ byteLength front = place := by
  obtain ⟨front, rest, whole, ends⟩ := exists_append_of_mem_matchEndsFrom member
  rw [Nat.zero_add] at ends
  exact ⟨front, rest, whole, ends.symm⟩

/-- No match ends in what is skipped, and a match of at least one word ends behind it. -/
theorem skipped_le_of_mem_matchEndsFrom
    (member : place ∈ matchEndsFrom words before offset skipped text) :
    offset + byteLength (text.take skipped) ≤ place ∧
      (words ≠ [] → offset + byteLength (text.take skipped) < place) := by
  fun_induction matchEndsFrom words before offset skipped text with
  | case1 => cases member
  | case2 before offset skipped c rest ih =>
      obtain ⟨weak, strict⟩ := ih member
      rw [List.take_succ_cons, Text.byteLength_cons, ← Nat.add_assoc]
      exact ⟨weak, strict⟩
  | case3 before offset c rest after found ih =>
      rw [List.take_zero, Text.byteLength_nil]
      rcases List.mem_cons.mp member with rfl | later
      · refine ⟨by omega, fun worded => ?_⟩
        obtain ⟨-, matched⟩ := Option.ite_none_right_eq_some.mp found
        obtain ⟨front, rfl⟩ := exists_front_of_afterWords? worded matched
        have positive := c.utf8Size_pos
        rw [Text.byteLength_cons, Text.byteLength_append]
        omega
      · obtain ⟨weak, -⟩ := ih later
        have positive := c.utf8Size_pos
        omega
  | case4 before offset c rest found ih =>
      obtain ⟨weak, -⟩ := ih member
      have positive := c.utf8Size_pos
      rw [List.take_zero, Text.byteLength_nil] at weak ⊢
      omega

theorem matchEndsFrom_pairwise :
    (matchEndsFrom words before offset skipped text).Pairwise (· < ·) := by
  fun_induction matchEndsFrom words before offset skipped text with
  | case1 => exact List.Pairwise.nil
  | case2 before offset skipped c rest ih => exact ih
  | case3 before offset c rest after found ih =>
      refine List.pairwise_cons.mpr ⟨fun place later => ?_, ih⟩
      obtain ⟨-, matched⟩ := Option.ite_none_right_eq_some.mp found
      obtain ⟨weak, strict⟩ := skipped_le_of_mem_matchEndsFrom later
      have positive := c.utf8Size_pos
      by_cases worded : words = []
      · subst worded
        cases matched
        omega
      · obtain ⟨front, rfl⟩ := exists_front_of_afterWords? worded matched
        have behind := strict worded
        rw [List.length_append, Nat.add_sub_cancel, List.take_left] at behind
        rw [Text.byteLength_cons, Text.byteLength_append]
        omega
  | case4 before offset c rest found ih => exact ih

end

/-- The ends of matches are listed from left to right. -/
theorem matchEnds_pairwise (words : List (List Char)) (text : List Char) :
    (matchEnds words text).Pairwise (· < ·) :=
  matchEndsFrom_pairwise

/-! ## The search in a window -/

namespace Anchors

/-- Of ascending offsets, the search tries exactly those in its window. -/
theorem replaceAmong?_eq (text name replacement : List Char) (start stop : Nat)
    {offsets : List Nat} (ascending : offsets.Pairwise (· < ·)) :
    replaceAmong? text name replacement start stop offsets =
      (offsets.filter fun offset => start ≤ offset && offset < stop).findSome?
        (replaceAt? text name replacement) := by
  induction offsets with
  | nil => rfl
  | cons offset later ih =>
      obtain ⟨above, ascendingLater⟩ := List.pairwise_cons.mp ascending
      rw [replaceAmong?]
      split
      case isTrue beyond =>
        have nothing :
            (offset :: later).filter (fun offset => start ≤ offset && offset < stop) = [] := by
          refine List.filter_eq_nil_iff.mpr fun other member => ?_
          rcases List.mem_cons.mp member with rfl | behind
          · simpa using fun _ => beyond
          · have further := above other behind
            simp only [Bool.and_eq_true, decide_eq_true_eq]
            omega
        rw [nothing, List.findSome?_nil]
      case isFalse below =>
        split
        case isTrue early =>
          have outside : ¬ (decide (start ≤ offset) && decide (offset < stop)) = true := by
            simp only [Bool.and_eq_true, decide_eq_true_eq]
            omega
          rw [ih ascendingLater, List.filter_cons, if_neg outside]
        case isFalse reached =>
          have inside : (decide (start ≤ offset) && decide (offset < stop)) = true := by
            simp only [Bool.and_eq_true, decide_eq_true_eq]
            omega
          rw [ih ascendingLater, List.filter_cons, if_pos inside, List.findSome?_cons]
          cases replaceAt? text name replacement offset <;> rfl

/-- Breaking off at the first match that ends behind the window loses none of those inside it. -/
theorem replaceBehind?_eq_findSome? (phrase : String) (text name replacement : List Char)
    (start stop : Nat) :
    replaceBehind? phrase text name replacement start stop =
      ((matchEnds (Text.splitBlanks phrase) text).filter fun offset =>
        start ≤ offset && offset < stop).findSome? (replaceAt? text name replacement) :=
  replaceAmong?_eq text name replacement start stop (matchEnds_pairwise _ text)

end Anchors

end SqlTables.Rename
