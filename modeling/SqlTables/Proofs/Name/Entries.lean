import SqlTables.Proofs.Name.Answers
import SqlTables.Proofs.Text.Trimming

/-!
# Mappings from entries

An entry binds what stands before its first sign of equality to what stands behind it, both without
the blanks around them. Entries are read up to the first one that is malformed. If there is none, the
last entry of a key tells its value. A mapping whose entries can be written down in this form is read
back from them in whatever order they are given.
-/

namespace SqlTables.Mapping

/-! ## One entry -/

/-- The two sides of an entry around its first sign of equality. -/
def Sides (entry : String) (left right : List Char) : Prop :=
  entry.toList = left ++ '=' :: right ∧ '=' ∉ left

/-- An entry binds an old name to a new one: they are its sides without the blanks around them, and
neither is empty. -/
def Binds (entry old new : String) : Prop :=
  ∃ left right, Sides entry left right ∧ Text.Padded left old.toList ∧
    Text.Padded right new.toList ∧ old ≠ "" ∧ new ≠ ""

/-- An entry has no sign of equality, or nothing but blanks before or behind the first one. -/
def Malformed (entry : String) : Prop :=
  '=' ∉ entry.toList ∨
    ∃ left right, Sides entry left right ∧ (Text.Padded left [] ∨ Text.Padded right [])

theorem splitAtEquals_eq_some_iff {text left right : List Char} :
    splitAtEquals text = some (left, right) ↔ text = left ++ '=' :: right ∧ '=' ∉ left := by
  fun_induction splitAtEquals text generalizing left right with
  | case1 => simp
  | case2 rest =>
      simp only [Option.some.injEq, Prod.mk.injEq]
      constructor
      · rintro ⟨rfl, rfl⟩
        exact ⟨rfl, List.not_mem_nil⟩
      · rintro ⟨whole, clean⟩
        cases left with
        | nil => exact ⟨rfl, (List.cons.inj whole).2⟩
        | cons c left => exact absurd ((List.cons.inj whole).1 ▸ List.mem_cons_self) clean
  | case3 c rest other ih =>
      simp only [Option.map_eq_some_iff, Prod.exists, Prod.mk.injEq, ih]
      constructor
      · rintro ⟨inner, behind, ⟨rfl, clean⟩, rfl, rfl⟩
        exact ⟨rfl, List.not_mem_cons_of_ne_of_not_mem (Ne.symm other) clean⟩
      · rintro ⟨whole, clean⟩
        cases left with
        | nil => exact absurd (List.cons.inj whole).1 other
        | cons d left =>
            obtain ⟨rfl, rfl⟩ := List.cons.inj whole
            exact ⟨left, right, ⟨rfl, List.not_mem_of_not_mem_cons clean⟩, rfl, rfl⟩

theorem splitAtEquals_eq_none_iff {text : List Char} :
    splitAtEquals text = none ↔ '=' ∉ text := by
  fun_induction splitAtEquals text with
  | case1 => simp
  | case2 rest => simp
  | case3 c rest other ih =>
      have apart : '=' ≠ c := Ne.symm other
      rw [Option.map_eq_none_iff, ih]
      simp [apart]

theorem sides_or_not_mem (entry : String) :
    '=' ∉ entry.toList ∨ ∃ left right, Sides entry left right := by
  cases split : splitAtEquals entry.toList with
  | none => exact Or.inl (splitAtEquals_eq_none_iff.mp split)
  | some sides => exact Or.inr ⟨sides.1, sides.2, splitAtEquals_eq_some_iff.mp split⟩

theorem parsePair?_of_not_mem {entry : String} (missing : '=' ∉ entry.toList) :
    parsePair? entry = none := by
  rw [parsePair?, splitAtEquals_eq_none_iff.mpr missing]
  rfl

/-- An entry with two sides is read as these sides without the blanks around them. -/
theorem Sides.parsePair?_eq {entry : String} {left right : List Char}
    (sides : Sides entry left right) :
    parsePair? entry =
      if Text.trim (String.ofList left) = "" ∨ Text.trim (String.ofList right) = "" then none
      else some (Text.trim (String.ofList left), Text.trim (String.ofList right)) := by
  simp only [parsePair?, splitAtEquals_eq_some_iff.mpr sides, Option.bind_eq_bind,
    Option.bind_some, Bool.or_eq_true, String.isEmpty_iff]

/-- An entry is read exactly if it binds an old name to a new one. -/
theorem parsePair?_eq_some_iff {entry old new : String} :
    parsePair? entry = some (old, new) ↔ Binds entry old new := by
  constructor
  · intro read
    rcases sides_or_not_mem entry with missing | ⟨left, right, sides⟩
    · rw [parsePair?_of_not_mem missing] at read
      cases read
    · rw [sides.parsePair?_eq, Option.ite_none_left_eq_some, not_or, Option.some.injEq,
        Prod.mk.injEq] at read
      obtain ⟨⟨namedOld, namedNew⟩, rfl, rfl⟩ := read
      exact ⟨left, right, sides, Text.trim_ofList_eq_iff.mp rfl, Text.trim_ofList_eq_iff.mp rfl,
        namedOld, namedNew⟩
  · rintro ⟨left, right, sides, oldSide, newSide, namedOld, namedNew⟩
    rw [sides.parsePair?_eq, Text.trim_ofList_eq_iff.mpr oldSide,
      Text.trim_ofList_eq_iff.mpr newSide, if_neg (not_or.mpr ⟨namedOld, namedNew⟩)]

/-- An entry is refused exactly if it is malformed. -/
theorem parsePair?_eq_none_iff {entry : String} :
    parsePair? entry = none ↔ Malformed entry := by
  constructor
  · intro refused
    rcases sides_or_not_mem entry with missing | ⟨left, right, sides⟩
    · exact Or.inl missing
    · rw [sides.parsePair?_eq] at refused
      split at refused
      case isTrue empty =>
        exact Or.inr ⟨left, right, sides,
          empty.imp Text.trim_ofList_eq_iff.mp Text.trim_ofList_eq_iff.mp⟩
      case isFalse => cases refused
  · rintro (missing | ⟨left, right, sides, empty⟩)
    · exact parsePair?_of_not_mem missing
    · rw [sides.parsePair?_eq, if_pos]
      exact empty.imp Text.trim_ofList_eq_iff.mpr Text.trim_ofList_eq_iff.mpr

/-! ## Many entries -/

/-- Read one entry; an entry that cannot be read is the error. -/
def readPair (entry : String) : Except String (String × String) :=
  (parsePair? entry).elim (.error entry) .ok

theorem parseEntries_eq_bind (entries : List String) :
    parseEntries entries = (entries.mapM readPair).bind fun pairs => .ok (ofList pairs) := by
  unfold parseEntries
  refine congrArg (fun read : String → Except String (String × String) =>
    (List.mapM read entries).bind fun pairs => .ok (ofList pairs)) (funext fun entry => ?_)
  unfold readPair
  cases parsePair? entry <;> rfl

/-- The first of the entries that is malformed. -/
def FirstMalformed (entries : List String) (entry : String) : Prop :=
  ∃ before after, entries = before ++ entry :: after ∧ Malformed entry ∧
    ∀ earlier ∈ before, ¬ Malformed earlier

/-- The value that the last entry of a key binds it to. -/
def LastBinds (entries : List String) (key value : String) : Prop :=
  ∃ before entry after, entries = before ++ entry :: after ∧ Binds entry key value ∧
    ∀ later ∈ after, ∀ other, ¬ Binds later key other

theorem readPair_of_malformed {entry : String} (malformed : Malformed entry) :
    readPair entry = .error entry := by
  rw [readPair, parsePair?_eq_none_iff.mpr malformed]
  rfl

theorem exists_readPair_eq {entry : String} (wellFormed : ¬ Malformed entry) :
    ∃ pair, parsePair? entry = some pair ∧ readPair entry = .ok pair := by
  cases read : parsePair? entry with
  | none => exact absurd (parsePair?_eq_none_iff.mp read) wellFormed
  | some pair => exact ⟨pair, rfl, by rw [readPair, read]; rfl⟩

theorem parseEntries_eq_ok {entries : List String}
    (wellFormed : ∀ entry ∈ entries, ¬ Malformed entry) :
    parseEntries entries = .ok (ofList (entries.filterMap parsePair?)) := by
  have pairs : entries.mapM readPair = .ok (entries.filterMap parsePair?) := by
    induction entries with
    | nil => rfl
    | cons entry rest ih =>
        obtain ⟨wellFormedHere, wellFormedRest⟩ := List.forall_mem_cons.mp wellFormed
        obtain ⟨pair, read, readHere⟩ := exists_readPair_eq wellFormedHere
        rw [List.mapM_cons, readHere, ih wellFormedRest, List.filterMap_cons_some read]
        rfl
  rw [parseEntries_eq_bind, pairs]
  rfl

theorem FirstMalformed.parseEntries_eq {entries : List String} {bad : String}
    (first : FirstMalformed entries bad) : parseEntries entries = .error bad := by
  obtain ⟨before, after, rfl, malformed, wellFormed⟩ := first
  have stopped : (before ++ bad :: after).mapM readPair = .error bad := by
    induction before with
    | nil =>
        rw [List.nil_append, List.mapM_cons, readPair_of_malformed malformed]
        rfl
    | cons entry before ih =>
        obtain ⟨wellFormedHere, wellFormedRest⟩ := List.forall_mem_cons.mp wellFormed
        obtain ⟨pair, -, readHere⟩ := exists_readPair_eq wellFormedHere
        rw [List.cons_append, List.mapM_cons, readHere, ih wellFormedRest]
        rfl
  rw [parseEntries_eq_bind, stopped]
  rfl

theorem exists_firstMalformed {entries : List String}
    (present : ∃ entry ∈ entries, Malformed entry) : ∃ bad, FirstMalformed entries bad := by
  induction entries with
  | nil => simp at present
  | cons entry rest ih =>
      by_cases malformed : Malformed entry
      · exact ⟨entry, [], rest, rfl, malformed, by simp⟩
      · have later : ∃ entry ∈ rest, Malformed entry := by simpa [malformed] using present
        obtain ⟨bad, before, after, rfl, malformedBad, wellFormed⟩ := ih later
        exact ⟨bad, entry :: before, after, rfl, malformedBad,
          List.forall_mem_cons.mpr ⟨malformed, wellFormed⟩⟩

theorem parseEntries_eq_error_iff {entries : List String} {bad : String} :
    parseEntries entries = .error bad ↔ FirstMalformed entries bad := by
  refine ⟨fun failed => ?_, FirstMalformed.parseEntries_eq⟩
  by_cases malformed : ∃ entry ∈ entries, Malformed entry
  · obtain ⟨other, first⟩ := exists_firstMalformed malformed
    rw [first.parseEntries_eq] at failed
    cases failed
    exact first
  · have wellFormed : ∀ entry ∈ entries, ¬ Malformed entry :=
      fun entry member bad => malformed ⟨entry, member, bad⟩
    rw [parseEntries_eq_ok wellFormed] at failed
    cases failed

/-! ## Answers -/

def valueFor? (key entry : String) : Option String :=
  (parsePair? entry).bind fun pair => if pair.1 = key then some pair.2 else none

theorem valueFor?_eq_some_iff {key entry value : String} :
    valueFor? key entry = some value ↔ Binds entry key value := by
  rw [← parsePair?_eq_some_iff, valueFor?, Option.bind_eq_some_iff]
  constructor
  · rintro ⟨⟨old, new⟩, read, same⟩
    obtain ⟨rfl, rfl⟩ : old = key ∧ new = value := by simpa using same
    exact read
  · intro read
    exact ⟨_, read, if_pos rfl⟩

theorem valueFor?_eq_none_iff {key entry : String} :
    valueFor? key entry = none ↔ ∀ value, ¬ Binds entry key value := by
  simp only [Option.eq_none_iff_forall_ne_some, ne_eq, valueFor?_eq_some_iff]

theorem find?_filterMap_parsePair? (entries : List String) (key : String) :
    ((entries.filterMap parsePair?).find? fun pair => pair.1 == key).map Prod.snd =
      entries.findSome? (valueFor? key) := by
  induction entries with
  | nil => rfl
  | cons entry rest ih =>
      cases read : parsePair? entry with
      | none =>
          have silent : valueFor? key entry = none := by rw [valueFor?, read, Option.bind_none]
          rw [List.filterMap_cons_none read, ih, List.findSome?_cons, silent]
      | some pair =>
          rw [List.filterMap_cons_some read, List.findSome?_cons]
          by_cases same : pair.1 = key
          · have answer : valueFor? key entry = some pair.2 := by
              rw [valueFor?, read, Option.bind_some, if_pos same]
            rw [answer, List.find?_cons_of_pos (by simpa using same), Option.map_some]
          · have silent : valueFor? key entry = none := by
              rw [valueFor?, read, Option.bind_some, if_neg same]
            rw [silent, List.find?_cons_of_neg (by simpa using same), ih]

theorem get?_ofList_filterMap (entries : List String) (key : String) :
    (ofList (entries.filterMap parsePair?)).get? key =
      entries.reverse.findSome? (valueFor? key) := by
  rw [get?_ofList, ← List.filterMap_reverse, find?_filterMap_parsePair?]

theorem get?_eq_some_iff_lastBinds {entries : List String} {key value : String} :
    (ofList (entries.filterMap parsePair?)).get? key = some value ↔
      LastBinds entries key value := by
  rw [get?_ofList_filterMap, List.findSome?_eq_some_iff]
  simp only [valueFor?_eq_some_iff, valueFor?_eq_none_iff]
  constructor
  · rintro ⟨after, entry, before, reversed, binds, silent⟩
    refine ⟨before.reverse, entry, after.reverse, ?_, binds, by simpa using silent⟩
    rw [← entries.reverse_reverse, reversed]
    simp
  · rintro ⟨before, entry, after, rfl, binds, silent⟩
    exact ⟨after.reverse, entry, before.reverse, by simp, binds, by simpa using silent⟩

theorem get?_eq_none_iff_of_entries {entries : List String} {key : String} :
    (ofList (entries.filterMap parsePair?)).get? key = none ↔
      ∀ entry ∈ entries, ∀ value, ¬ Binds entry key value := by
  simp only [get?_ofList_filterMap, List.findSome?_eq_none_iff, List.mem_reverse,
    valueFor?_eq_none_iff]

/-! ## Entries written down -/

def written (pair : String × String) : String :=
  pair.1 ++ "=" ++ pair.2

/-- A pair that can be read back from its entry. -/
structure Writable (pair : String × String) : Prop where
  clean : '=' ∉ pair.1.toList
  trimmedOld : Text.Trimmed pair.1.toList
  trimmedNew : Text.Trimmed pair.2.toList
  namedOld : pair.1 ≠ ""
  namedNew : pair.2 ≠ ""

theorem Writable.binds {pair : String × String} (writable : Writable pair) :
    Binds (written pair) pair.1 pair.2 := by
  refine ⟨pair.1.toList, pair.2.toList, ⟨?_, writable.clean⟩, writable.trimmedOld.padded,
    writable.trimmedNew.padded, writable.namedOld, writable.namedNew⟩
  simp [written]

theorem filterMap_parsePair?_written {pairs : List (String × String)}
    (readable : ∀ pair ∈ pairs, parsePair? (written pair) = some pair) :
    (pairs.map written).filterMap parsePair? = pairs := by
  induction pairs with
  | nil => rfl
  | cons pair rest ih =>
      obtain ⟨here, later⟩ := List.forall_mem_cons.mp readable
      rw [List.map_cons, List.filterMap_cons_some here, ih later]

/-- A mapping is read back from its entries, in whatever order they are given. -/
theorem parseEntries_written {mapping : Mapping}
    (writable : ∀ pair ∈ mapping.entries, Writable pair) {pairs : List (String × String)}
    (shuffled : pairs.Perm mapping.entries) : parseEntries (pairs.map written) = .ok mapping := by
  have readable : ∀ pair ∈ pairs, parsePair? (written pair) = some pair := fun pair member =>
    parsePair?_eq_some_iff.mpr (writable pair (shuffled.mem_iff.mp member)).binds
  have wellFormed : ∀ entry ∈ pairs.map written, ¬ Malformed entry := by
    intro entry member malformed
    obtain ⟨pair, known, rfl⟩ := List.mem_map.mp member
    rw [← parsePair?_eq_none_iff, readable pair known] at malformed
    cases malformed
  rw [parseEntries_eq_ok wellFormed, filterMap_parsePair?_written readable, ofList_eq shuffled]

end SqlTables.Mapping
