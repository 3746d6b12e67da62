import SqlTables.Text.Classes

/-!
# Blanks around a text

Trimming takes a text out of the blanks around it: what is left neither begins nor ends with a
blank, and nothing but blanks is taken away. There is only one way to do so.
-/

namespace SqlTables.Text

structure Trimmed (text : List Char) : Prop where
  head : ∀ c ∈ text.head?, isBlank c = false
  last : ∀ c ∈ text.getLast?, isBlank c = false

def Padded (padded text : List Char) : Prop :=
  ∃ front back, padded = front ++ text ++ back ∧ (∀ c ∈ front, isBlank c = true) ∧
    (∀ c ∈ back, isBlank c = true) ∧ Trimmed text

theorem Trimmed.padded {text : List Char} (trimmed : Trimmed text) : Padded text text :=
  ⟨[], [], by simp, by simp, by simp, trimmed⟩

theorem dropWhile_isBlank_eq_self {text : List Char} (stops : ∀ c ∈ text.head?, isBlank c = false) :
    text.dropWhile isBlank = text := by
  cases text with
  | nil => rfl
  | cons c text => exact List.dropWhile_cons_of_neg (by simp [stops c rfl])

/-- Blanks in front of a text are dropped, and nothing else. -/
theorem dropWhile_isBlank_append {front text : List Char} (blank : ∀ c ∈ front, isBlank c = true)
    (stops : ∀ c ∈ text.head?, isBlank c = false) :
    (front ++ text).dropWhile isBlank = text := by
  rw [List.dropWhile_append_of_pos blank, dropWhile_isBlank_eq_self stops]

theorem exists_blanks (text : List Char) :
    ∃ blanks rest, text = blanks ++ rest ∧ (∀ c ∈ blanks, isBlank c = true) ∧
      ∀ c ∈ rest.head?, isBlank c = false := by
  refine ⟨text.takeWhile isBlank, text.dropWhile isBlank,
    List.takeWhile_append_dropWhile.symm, ?_, ?_⟩
  · intro c member
    exact List.all_eq_true.mp List.all_takeWhile c member
  · intro c first
    have stops := List.head?_dropWhile_not isBlank text
    rw [first] at stops
    exact stops

theorem exists_padded (padded : List Char) : ∃ text, Padded padded text := by
  obtain ⟨front, rest, rfl, blankFront, starts⟩ := exists_blanks padded
  obtain ⟨back, text, reversed, blankBack, stops⟩ := exists_blanks rest.reverse
  have whole : rest = text.reverse ++ back.reverse := by
    rw [← List.reverse_append, ← reversed, List.reverse_reverse]
  subst whole
  refine ⟨text.reverse, front, back.reverse, by simp, blankFront, by simpa using blankBack, ?_, ?_⟩
  · intro c first
    refine starts c ?_
    rw [List.head?_append, Option.mem_def.mp first]
    rfl
  · simpa using stops

/-- Trimming leaves exactly the text that stands between the blanks. -/
theorem Padded.trim_eq {padded text : List Char} (stands : Padded padded text) :
    trim (String.ofList padded) = String.ofList text := by
  obtain ⟨front, back, rfl, blankFront, blankBack, trimmed⟩ := stands
  rw [trim, String.toList_ofList]
  cases text with
  | nil =>
      have blank : ∀ c ∈ front ++ back, isBlank c = true := by
        intro c member
        exact (List.mem_append.mp member).elim (blankFront c) (blankBack c)
      have dropped : (front ++ back ++ []).dropWhile isBlank = [] :=
        dropWhile_isBlank_append blank (by simp)
      rw [List.append_nil] at dropped ⊢
      rw [dropped]
      rfl
  | cons first text =>
      have behind : (front ++ (first :: text) ++ back).dropWhile isBlank =
          (first :: text) ++ back := by
        rw [List.append_assoc]
        exact dropWhile_isBlank_append blankFront trimmed.head
      have before : ((first :: text) ++ back).reverse.dropWhile isBlank =
          (first :: text).reverse := by
        rw [List.reverse_append]
        refine dropWhile_isBlank_append (by simpa using blankBack) ?_
        rw [List.head?_reverse]
        exact trimmed.last
      rw [behind, before, List.reverse_reverse]

theorem trim_ofList_eq_iff {padded : List Char} {text : String} :
    trim (String.ofList padded) = text ↔ Padded padded text.toList := by
  constructor
  · rintro rfl
    obtain ⟨text, stands⟩ := exists_padded padded
    rwa [stands.trim_eq, String.toList_ofList]
  · intro stands
    rw [stands.trim_eq, String.ofList_toList]

/-- Trimming changes exactly the texts that begin or end with a blank. -/
theorem trim_eq_self_iff {text : String} : trim text = text ↔ Trimmed text.toList := by
  have between : trim (String.ofList text.toList) = text ↔ Padded text.toList text.toList :=
    trim_ofList_eq_iff
  rw [String.ofList_toList] at between
  rw [between]
  constructor
  · rintro ⟨front, back, -, -, -, trimmed⟩
    exact trimmed
  · exact Trimmed.padded

end SqlTables.Text
