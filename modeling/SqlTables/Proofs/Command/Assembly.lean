import Mathlib.Control.Monad.Basic
import SqlTables.Command.Run
import SqlTables.Proofs.Name.Entries

/-!
# The mapping of a command

A command takes its mapping from a file and from entries on top of it. Where the entries bind a key,
the last one that does so decides; the file decides for the other keys. There is no such mapping if
an entry is malformed, or if neither the file nor the entries bind anything.
-/

namespace SqlTables.Command

open Mapping (Malformed FirstMalformed LastBinds Binds Writable written parseEntries)

namespace MappingSource

def base (surroundings : Surroundings) (source : MappingSource) : Except Complaint Mapping :=
  source.file.elim (.ok Mapping.empty) (readMappingFile surroundings)

def nothingMapped : Complaint :=
  ⟨"Table mapping cannot be empty (use --map old=new or --mapping-file)", none⟩

variable {surroundings : Surroundings} {source : MappingSource} {below above : Mapping}

theorem read_of_error {bad : String} (based : source.base surroundings = .ok below)
    (failed : parseEntries source.entries = .error bad) :
    source.read surroundings = .error (.ofError (.malformedEntry bad)) := by
  obtain ⟨entries, file⟩ := source
  cases file with
  | none => simp only [read, failed, bind, Except.bind]
  | some path =>
      have read : readMappingFile surroundings path = .ok below := based
      simp only [MappingSource.read, read, failed, bind, Except.bind]

theorem read_of_ok (based : source.base surroundings = .ok below)
    (parsed : parseEntries source.entries = .ok above) :
    source.read surroundings =
      if (below.override above).isEmpty then .error nothingMapped
      else .ok (below.override above) := by
  obtain ⟨entries, file⟩ := source
  cases file with
  | none =>
      have nothing : below = Mapping.empty := (Except.ok.inj based).symm
      simp only [nothing, MappingSource.read, parsed, bind, Except.bind, nothingMapped]
  | some path =>
      have read : readMappingFile surroundings path = .ok below := based
      simp only [MappingSource.read, read, parsed, bind, Except.bind, nothingMapped]

/-- The mapping of a command answers with the last entry of a key, else with the file. -/
theorem get?_override_entries {entries : List String} {key : String} :
    (∀ value, LastBinds entries key value →
      (below.override (.ofList (entries.filterMap Mapping.parsePair?))).get? key = some value) ∧
    ((∀ value, ¬ LastBinds entries key value) →
      (below.override (.ofList (entries.filterMap Mapping.parsePair?))).get? key =
        below.get? key) := by
  rw [Mapping.get?_override]
  constructor
  · intro value last
    rw [Mapping.get?_eq_some_iff_lastBinds.mpr last, Option.some_or]
  · intro unbound
    have silent : (Mapping.ofList (entries.filterMap Mapping.parsePair?)).get? key = none :=
      Option.eq_none_iff_forall_ne_some.mpr fun value answer =>
        unbound value (Mapping.get?_eq_some_iff_lastBinds.mp answer)
    rw [silent, Option.none_or]

theorem isEmpty_override_entries (below : Mapping) {entries : List String}
    (wellFormed : ∀ entry ∈ entries, ¬ Malformed entry) :
    (below.override (.ofList (entries.filterMap Mapping.parsePair?))).isEmpty = true ↔
      entries = [] ∧ below.isEmpty = true := by
  constructor
  · intro empty
    simp only [Mapping.isEmpty_eq_true_iff, Mapping.get?_override,
      Option.or_eq_none_iff, Mapping.get?_eq_none_iff_of_entries] at empty
    refine ⟨List.eq_nil_iff_forall_not_mem.mpr fun entry member => ?_,
      Mapping.isEmpty_eq_true_iff.mpr fun key => (empty key).2⟩
    obtain ⟨pair, read, -⟩ := Mapping.exists_readPair_eq (wellFormed entry member)
    exact (empty pair.1).1 entry member pair.2 (Mapping.parsePair?_eq_some_iff.mp read)
  · rintro ⟨rfl, empty⟩
    exact empty

end MappingSource

/-- How mappings come about. Entries are refused exactly if one of them is malformed, and the first
such entry is told; otherwise the last entry of a key decides. A mapping, which is kept sorted by its
keys, is read back from its entries in any order. The mapping of a command has the values of its
entries, and for the other keys those of its file. -/
theorem parseEntries_and_read :
    (∀ entries : List String,
      ((∃ bad, parseEntries entries = .error bad) ↔ ∃ entry ∈ entries, Malformed entry) ∧
      (∀ bad, parseEntries entries = .error bad ↔ FirstMalformed entries bad) ∧
      ((∀ entry ∈ entries, ¬ Malformed entry) → ∃ mapping, parseEntries entries = .ok mapping ∧
        (∀ key value, mapping.get? key = some value ↔ LastBinds entries key value) ∧
        ∀ key, mapping.get? key = none ↔ ∀ entry ∈ entries, ∀ value, ¬ Binds entry key value)) ∧
    (∀ mapping : Mapping, (∀ pair ∈ mapping.entries, Writable pair) →
      ∀ pairs : List (String × String), pairs.Perm mapping.entries →
        parseEntries (pairs.map written) = .ok mapping) ∧
    ∀ (surroundings : Surroundings) (source : MappingSource) (below : Mapping),
      source.base surroundings = .ok below →
      (∀ bad, FirstMalformed source.entries bad →
        source.read surroundings = .error (.ofError (.malformedEntry bad))) ∧
      ((∀ entry ∈ source.entries, ¬ Malformed entry) →
        (source.entries = [] ∧ below.isEmpty = true →
          source.read surroundings = .error MappingSource.nothingMapped) ∧
        (¬ (source.entries = [] ∧ below.isEmpty = true) →
          ∃ mapping, source.read surroundings = .ok mapping ∧
            ∀ key, (∀ value, LastBinds source.entries key value →
                mapping.get? key = some value) ∧
              ((∀ value, ¬ LastBinds source.entries key value) →
                mapping.get? key = below.get? key))) := by
  refine ⟨fun entries => ⟨?_, fun bad => Mapping.parseEntries_eq_error_iff, fun wellFormed => ?_⟩,
    fun mapping writable pairs shuffled => Mapping.parseEntries_written writable shuffled,
    fun surroundings source below based => ⟨fun bad first => ?_, fun wellFormed => ?_⟩⟩
  · constructor
    · rintro ⟨bad, failed⟩
      obtain ⟨before, after, rfl, malformed, -⟩ := Mapping.parseEntries_eq_error_iff.mp failed
      exact ⟨bad, by simp, malformed⟩
    · intro malformed
      obtain ⟨bad, first⟩ := Mapping.exists_firstMalformed malformed
      exact ⟨bad, first.parseEntries_eq⟩
  · exact ⟨_, Mapping.parseEntries_eq_ok wellFormed,
      fun key value => Mapping.get?_eq_some_iff_lastBinds,
      fun key => Mapping.get?_eq_none_iff_of_entries⟩
  · exact MappingSource.read_of_error based first.parseEntries_eq
  · have read := MappingSource.read_of_ok based (Mapping.parseEntries_eq_ok wellFormed)
    have empty := MappingSource.isEmpty_override_entries below wellFormed
    refine ⟨fun nothing => ?_, fun something => ?_⟩
    · rw [read, if_pos (empty.mpr nothing)]
    · rw [read, if_neg (mt empty.mp something)]
      exact ⟨_, rfl, fun key => MappingSource.get?_override_entries⟩

/-- Entries with blanks of several kinds, two of them for one key; an entry whose side before the sign
of equality is blank; a mapping from its entries in reverse, with a sign of equality in a value; and a
file of which one value is overridden. -/
theorem parseEntries_and_read_spaced :
    let files := [("m.json", "\x7b\"a\": \"1\", \"b\": \"2\"\x7d")]
    (∃ mapping, parseEntries [" a = b", "c=d=e", "\u00a0a\t=f "] = .ok mapping ∧
      mapping.get? "a" = some "f") ∧
    parseEntries ["a=b", " = x", "nope"] = .error " = x" ∧
    parseEntries ["b=[c d]", "a=1=2"] = .ok (.ofList [("a", "1=2"), ("b", "[c d]")]) ∧
    ∃ mapping, MappingSource.read (.ofFiles files "") ⟨["a=3"], some "m.json"⟩ = .ok mapping ∧
      mapping.get? "a" = some "3" ∧ mapping.get? "b" = some "2" := by
  intro files
  obtain ⟨reads, restores, commands⟩ := parseEntries_and_read
  have fine {entries : List String}
      (read : entries.all fun entry => (Mapping.parsePair? entry).isSome) :
      ∀ entry ∈ entries, ¬ Malformed entry := by
    intro entry member malformed
    have readHere := List.all_eq_true.mp read entry member
    rw [Mapping.parsePair?_eq_none_iff.mpr malformed] at readHere
    cases readHere
  refine ⟨?_, ?_, ?_, ?_⟩
  · obtain ⟨mapping, parsed, answers, -⟩ :=
      (reads [" a = b", "c=d=e", "\u00a0a\t=f "]).2.2 (fine (by decide +kernel))
    refine ⟨mapping, parsed, (answers "a" "f").mpr ⟨[" a = b", "c=d=e"], _, [], rfl, ?_, by simp⟩⟩
    exact Mapping.parsePair?_eq_some_iff.mp (by decide +kernel)
  · refine ((reads ["a=b", " = x", "nope"]).2.1 " = x").mpr ⟨["a=b"], ["nope"], rfl, ?_, ?_⟩
    · exact Mapping.parsePair?_eq_none_iff.mp (by decide +kernel)
    · exact fine (by decide +kernel)
  · have trimmed {text : String} (same : Text.trim text = text) : Text.Trimmed text.toList :=
      Text.trim_eq_self_iff.mp same
    have writable : ∀ pair ∈ [("a", "1=2"), ("b", "[c d]")], Writable pair := by
      refine List.forall_mem_cons.mpr ⟨?_, List.forall_mem_cons.mpr ⟨?_, by simp⟩⟩
      · exact ⟨by decide, trimmed (by decide), trimmed (by decide), by decide, by decide⟩
      · exact ⟨by decide, trimmed (by decide), trimmed (by decide), by decide, by decide⟩
    exact restores (.ofList [("a", "1=2"), ("b", "[c d]")]) writable
      [("b", "[c d]"), ("a", "1=2")] (List.Perm.swap _ _ _)
  · have based : MappingSource.base (.ofFiles files "") ⟨["a=3"], some "m.json"⟩ =
        .ok (.ofList [("a", "1"), ("b", "2")]) := by decide +kernel
    have parsed : Mapping.parsePair? "a=3" = some ("a", "3") := by decide +kernel
    obtain ⟨mapping, read, answers⟩ :=
      ((commands _ _ _ based).2 (fine (by decide +kernel))).2 (by simp)
    refine ⟨mapping, read, (answers "a").1 "3" ⟨[], "a=3", [], rfl, ?_, by simp⟩,
      (answers "b").2 ?_⟩
    · exact Mapping.parsePair?_eq_some_iff.mp parsed
    · rintro value ⟨before, entry, after, split, bound, -⟩
      have single : entry = "a=3" := by
        have member : entry ∈ before ++ entry :: after := by simp
        rw [← split] at member
        exact List.mem_singleton.mp member
      rw [← Mapping.parsePair?_eq_some_iff, single, parsed] at bound
      simp at bound

end SqlTables.Command
