import SqlTables.Proofs.Name.Lookup
import SqlTables.Proofs.Rename.Idle

/-!
# Entries that matter

A run looks names up in many ways: the text of a span as it stands, without its delimiters, the
canonical name, each letter for letter or in any letter case, and all that in a text that earlier
splices may have changed. Whatever it finds is an entry whose key is relevant to the occurrence
that is examined. So the other entries of a mapping may as well be missing.
-/

namespace SqlTables

namespace Rename

/-! ## Relevant keys -/

/-- Whether a key is a name up to the case of ASCII letters, as it stands or without its
delimiters. -/
def relevantTo (name key : String) : Bool :=
  Text.sameIgnoringAsciiCase key name ||
    Text.sameIgnoringAsciiCase (Name.stripQuotes key) name

def relevantToAny (occurrences : List Occurrence) (key : String) : Bool :=
  occurrences.any fun occurrence => relevantTo occurrence.text key

theorem relevantTo_of_same {name key : String}
    (same : Text.sameIgnoringAsciiCase key name = true) : relevantTo name key = true := by
  rw [relevantTo, same]
  rfl

theorem relevantTo_self (name : String) : relevantTo name name = true :=
  relevantTo_of_same (by simp [Text.sameIgnoringAsciiCase])

section

variable {mapping : Mapping} {live : List Char} {name : String}

theorem relevantTo_live (held : holdsName live name = true) :
    relevantTo name (String.ofList live) = true := by
  rw [relevantTo, Name.stripQuotes, String.toList_ofList, Bool.or_eq_true]
  exact Or.inr held

theorem relevantTo_of_sameContent {key : String} (held : holdsName live name = true)
    (same : Text.sameIgnoringAsciiCase key
      (String.ofList (Name.stripQuoteChars live)) = true) : relevantTo name key = true := by
  refine relevantTo_of_same ?_
  rw [Text.sameIgnoringAsciiCase, beq_iff_eq] at same ⊢
  rw [same, String.toList_ofList]
  exact holdsName_eq_true_iff.mp held

/-! ## Where new names come from -/

theorem exists_entry_of_get? {key value : String} (found : mapping.get? key = some value)
    (relevant : relevantTo name key = true) :
    ∃ entry ∈ mapping.entries, relevantTo name entry.1 = true ∧ entry.2 = value :=
  ⟨(key, value), Mapping.mem_entries_of_get? found, relevant, rfl⟩

/-- The new name of a span that holds a name is the value of a relevant key. -/
theorem exists_entry_of_resolve? {new : String} (held : holdsName live name = true)
    (resolved : resolve? mapping live name = some new) :
    ∃ entry ∈ mapping.entries, relevantTo name entry.1 = true ∧ entry.2 = new := by
  simp only [resolve?, Option.orElse_eq_orElse, Option.orElse_eq_or, Option.or_eq_some_iff]
    at resolved
  rcases resolved with asWritten | ⟨-, content | ⟨-, canonical | ⟨-, caseless⟩⟩⟩
  · exact exists_entry_of_get? asWritten (relevantTo_live held)
  · split at content
    case isTrue => cases content
    case isFalse =>
      exact exists_entry_of_get? content
        (relevantTo_of_sameContent held (by simp [Text.sameIgnoringAsciiCase]))
  · exact exists_entry_of_get? canonical (relevantTo_self name)
  · obtain ⟨entry, found, rfl⟩ := Option.map_eq_some_iff.mp caseless
    obtain ⟨member, same⟩ := Mapping.findIgnoringCase?_spec found
    exact ⟨entry, member, relevantTo_of_sameContent held same, rfl⟩

/-- The entry that a name is searched for with is the name itself or differs from it in letter case
only. -/
theorem entryFor?_spec {key value : String} (entered : entryFor? mapping name = some (key, value)) :
    (key, value) ∈ mapping.entries ∧ Text.sameIgnoringAsciiCase key name = true := by
  unfold entryFor? at entered
  cases found : mapping.get? name with
  | some replacement =>
      simp only [found, Option.some.injEq, Prod.mk.injEq] at entered
      obtain ⟨rfl, rfl⟩ := entered
      exact ⟨Mapping.mem_entries_of_get? found, by simp [Text.sameIgnoringAsciiCase]⟩
  | none =>
      simp only [found] at entered
      exact Mapping.findIgnoringCase?_spec entered

/-! ## Restricted mappings -/

variable {keep : String → Bool}

theorem resolve?_restrict (held : holdsName live name = true)
    (kept : ∀ key, relevantTo name key = true → keep key = true) :
    resolve? (mapping.restrict keep) live name = resolve? mapping live name := by
  have asWritten : keep (String.ofList live) = true := kept _ (relevantTo_live held)
  have caseless : ∀ key, Text.sameIgnoringAsciiCase key
      (String.ofList (Name.stripQuoteChars live)) = true → keep key = true :=
    fun key same => kept key (relevantTo_of_sameContent held same)
  have content : keep (String.ofList (Name.stripQuoteChars live)) = true :=
    caseless _ (by simp [Text.sameIgnoringAsciiCase])
  have canonical : keep name = true := kept name (relevantTo_self name)
  simp only [resolve?, Mapping.get?_restrict asWritten, Mapping.get?_restrict content,
    Mapping.get?_restrict canonical, Mapping.findIgnoringCase?_restrict caseless]

theorem entryFor?_restrict (kept : ∀ key, relevantTo name key = true → keep key = true) :
    entryFor? (mapping.restrict keep) name = entryFor? mapping name := by
  rw [entryFor?, entryFor?, Mapping.get?_restrict (kept name (relevantTo_self name)),
    Mapping.findIgnoringCase?_restrict fun key same => kept key (relevantTo_of_same same)]

end

section

variable {mapping : Mapping} {anchors : Anchors} {keep : String → Bool}

/-- One stage makes the same splice without the entries that are not relevant to it. -/
theorem splice?_restrict {occurrence : Occurrence} {pending : List Occurrence} {text : List Char}
    (kept : ∀ key, relevantTo occurrence.text key = true → keep key = true) :
    splice? (mapping.restrict keep) anchors occurrence pending text =
      splice? mapping anchors occurrence pending text := by
  have sameName : newName? (mapping.restrict keep) text occurrence =
      newName? mapping text occurrence := by
    unfold newName?
    cases live? text occurrence with
    | none => rfl
    | some live =>
        cases held : holdsName live occurrence.text with
        | false => simp [held]
        | true => simp [held, resolve?_restrict held kept]
  have sameSearch : anchoredSplice? (mapping.restrict keep) anchors occurrence pending text =
      anchoredSplice? mapping anchors occurrence pending text := by
    rw [anchoredSplice?, anchoredSplice?, entryFor?_restrict kept]
  rw [splice?, splice?, spanSplice?, spanSplice?, sameName, sameSearch]

/-- A run makes the same splices without the entries that are relevant to none of its
occurrences. -/
theorem splices_restrict {occurrences : List Occurrence} {text : List Char}
    (kept : ∀ occurrence ∈ occurrences, ∀ key,
      relevantTo occurrence.text key = true → keep key = true) :
    splices (mapping.restrict keep) anchors occurrences text =
      splices mapping anchors occurrences text := by
  induction occurrences generalizing text with
  | nil => rfl
  | cons occurrence pending ih =>
      obtain ⟨keptHere, keptLater⟩ := List.forall_mem_cons.mp kept
      simp only [splices, splice?_restrict keptHere, ih keptLater]

theorem apply_restrict {occurrences : List Occurrence} (source : String)
    (kept : ∀ key, relevantToAny occurrences key = true → keep key = true) :
    apply (mapping.restrict keep) anchors occurrences source =
      apply mapping anchors occurrences source := by
  have keptInOrder : ∀ occurrence ∈ inOrder occurrences, ∀ key,
      relevantTo occurrence.text key = true → keep key = true :=
    fun occurrence member key relevant =>
      kept key (List.any_eq_true.mpr ⟨occurrence, mem_of_mem_inOrder member, relevant⟩)
  rw [apply_eq_ofList, apply_eq_ofList, replaceEach_eq_foldl, replaceEach_eq_foldl,
    splices_restrict keptInOrder]

theorem apply_eq_self_of_irrelevant {occurrences : List Occurrence} (source : String)
    (irrelevant : ∀ entry ∈ mapping.entries, relevantToAny occurrences entry.1 = false) :
    apply mapping anchors occurrences source = source := by
  have noEntries : (mapping.restrict (relevantToAny occurrences)).isEmpty = true := by
    rw [Mapping.isEmpty, Mapping.restrict, List.isEmpty_iff, List.filter_eq_nil_iff]
    intro entry member relevant
    rw [irrelevant entry member] at relevant
    cases relevant
  rw [← apply_restrict source fun key relevant => relevant, apply, noEntries]
  rfl

end

end Rename

/-! ## The renamer -/

namespace Renamer

theorem references_of_statements {renamer : Renamer} {sql : String}
    {statements : List Sql.Statement} (read : renamer.statements sql = .ok statements) :
    renamer.references sql = .ok (Sql.collect sql statements) := by
  simp [references, read, bind, Except.bind, pure, Except.pure]

/-- The entries of a mapping whose keys are relevant to no occurrence have no effect, whatever the
occurrences are, on the replacement and on the renaming of a text. If no key is relevant, the
replacement gives back the source, and the renaming succeeds with every text that can be read. -/
theorem apply_eq_apply_relevant (mapping : Mapping) (anchors : Rename.Anchors)
    (occurrences : List Occurrence) (source : String) :
    Rename.apply mapping anchors occurrences source =
      Rename.apply (mapping.restrict (Rename.relevantToAny occurrences)) anchors occurrences
        source ∧
    ((∀ entry ∈ mapping.entries, Rename.relevantToAny occurrences entry.1 = false) →
      Rename.apply mapping anchors occurrences source = source) ∧
    ∀ (renamer : Renamer) (sql : String) (statements : List Sql.Statement),
      renamer.statements sql = .ok statements →
      renamer.rename sql mapping =
        renamer.rename sql (mapping.restrict
          (Rename.relevantToAny (Sql.collect sql statements).occurrences)) ∧
      ((∀ entry ∈ mapping.entries,
          Rename.relevantToAny (Sql.collect sql statements).occurrences entry.1 = false) →
        renamer.rename sql mapping = .ok sql) := by
  refine ⟨?_, Rename.apply_eq_self_of_irrelevant source, ?_⟩
  · exact (Rename.apply_restrict source fun key relevant => relevant).symm
  · intro renamer sql statements read
    have readable := references_of_statements read
    refine ⟨?_, fun irrelevant => ?_⟩
    · rw [rename, rename, readable]
      simp only [bind, Except.bind]
      rw [Rename.apply_restrict sql fun key relevant => relevant]
    · exact rename_eq_ok_self readable (Rename.apply_eq_self_of_irrelevant sql irrelevant)

/-- Of the keys below two are relevant, one of them with its delimiters. The alias of the table and
the part of a name are not, also if a span overlaps another one, reaches beyond the end of the text
or ends before it begins. -/
theorem apply_eq_apply_relevant_overlapping :
    let sql := "SELECT u.id FROM \"Users\" AS u"
    let occurrences : List Occurrence :=
      [⟨"users", 17, 24, .relation⟩, ⟨"users", 18, 60, .updateTarget⟩,
        ⟨"users", 90, 20, .deleteTarget⟩]
    let mixed := Mapping.ofList [("[uSERS]", "x"), ("u", "y"), ("Users", "z"), ("user", "w")]
    let relevant := Mapping.ofList [("Users", "z"), ("[uSERS]", "x")]
    let unused := Mapping.ofList [("u", "y"), ("user", "w")]
    Rename.apply mixed Rename.Anchors.default occurrences sql =
        Rename.apply relevant Rename.Anchors.default occurrences sql ∧
      Rename.apply unused Rename.Anchors.default occurrences sql = sql ∧
      default.rename sql unused = .ok sql := by
  intro sql occurrences mixed relevant unused
  have readable : default.references sql =
      .ok ⟨.ofList ["users"], .insert .empty "u", [⟨"users", 17, 24, .relation⟩]⟩ := by
    decide +kernel
  obtain ⟨statements, read, collected⟩ := references_eq_ok readable
  have restricted : mixed.restrict (Rename.relevantToAny occurrences) = relevant := by
    decide +kernel
  obtain ⟨same, -, -⟩ := apply_eq_apply_relevant mixed Rename.Anchors.default occurrences sql
  obtain ⟨-, unchanged, renamed⟩ :=
    apply_eq_apply_relevant unused Rename.Anchors.default occurrences sql
  refine ⟨restricted ▸ same, unchanged (by decide +kernel), ?_⟩
  refine (renamed default sql statements read).2 ?_
  rw [← collected]
  decide +kernel

end Renamer

end SqlTables
