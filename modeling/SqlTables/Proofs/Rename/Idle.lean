import SqlTables.Proofs.Rename.Spelled

/-!
# Analyses without changes

An analysis looks at the listed tables only, and at their canonical names. A renaming looks at
every recorded span, and at its text as it is written. So a renaming can make a splice although
the analysis reports no change, in two cases: a delimited name is a key of the mapping with its
delimiters, or the mapping covers a qualifier that is no listed table. `Stray` is the case
distinction, and without such an occurrence the text comes back as it was.
-/

namespace SqlTables

open Text (byteLength slice?)

namespace Rename

/-- An occurrence whose span is replaced although no listed table is covered. -/
inductive Stray (mapping : Mapping) (source : List Char) (tables : NameSet)
    (occurrence : Occurrence) : Prop where
  /-- The text of the span is a key together with its delimiters. -/
  | delimitedKey {live : List Char} (found : live? source occurrence = some live)
      (held : holdsName live occurrence.text = true)
      (delimited : Name.stripQuoteChars live ≠ live)
      (known : mapping.contains (String.ofList live) = true)
  /-- A qualifier that is no listed table is covered. -/
  | unlistedQualifier (held : holds source occurrence = true)
      (qualifies : occurrence.kind = .qualifier) (unlisted : occurrence.text ∉ tables.names)
      (covered : mapping.covers occurrence.text = true)

section

variable {mapping : Mapping} {tables : NameSet} {source : List Char} {occurrence : Occurrence}

/-- If no listed table is covered, the spans that are replaced are those of stray occurrences. -/
theorem newName?_isSome_iff_stray
    (idle : ∀ name ∈ tables.names, mapping.covers name = false)
    (recorded : Recorded source tables occurrence) :
    (newName? mapping source occurrence).isSome = true ↔
      Stray mapping source tables occurrence := by
  rw [newName?_isSome_iff]
  constructor
  · rintro ⟨live, found, held, known⟩
    by_cases key : Name.stripQuoteChars live ≠ live ∧
        mapping.contains (String.ofList live) = true
    · exact .delimitedKey found held key.1 key.2
    · have covered : mapping.covers occurrence.text = true := by
        rcases known with asWritten | covered
        · have plain : Name.stripQuoteChars live = live :=
            Decidable.byContradiction fun delimited => key ⟨delimited, asWritten⟩
          rw [← covers_stripped mapping held, plain]
          exact Mapping.covers_of_contains asWritten
        · exact covered
      have unlisted : occurrence.text ∉ tables.names := by
        intro listed
        simp [idle _ listed] at covered
      have qualifies : occurrence.kind = .qualifier :=
        Decidable.byContradiction fun named => unlisted (recorded.listed named)
      exact .unlistedQualifier (holds_eq_true_iff.mpr ⟨live, found, held⟩) qualifies unlisted
        covered
  · rintro (⟨found, held, -, known⟩ | ⟨held, -, -, covered⟩)
    · exact ⟨_, found, held, Or.inl known⟩
    · obtain ⟨live, found, heldName⟩ := holds_eq_true_iff.mp held
      exact ⟨live, found, heldName, Or.inr covered⟩

/-- If no listed table is covered, nothing is searched for behind an anchor. -/
theorem splice?_eq_spanSplice?_of_idle (anchors : Anchors) (pending : List Occurrence)
    (idle : ∀ name ∈ tables.names, mapping.covers name = false)
    (recorded : Recorded source tables occurrence) :
    splice? mapping anchors occurrence pending source =
      spanSplice? mapping source occurrence := by
  refine Option.ext fun splice => ?_
  rw [splice?_eq_some_iff, spanSplice?, Option.map_eq_some_iff]
  constructor
  · intro makes
    cases makes with
    | atSpan named => exact ⟨_, named, rfl⟩
    | behindAnchor stale allowed entered =>
        have named : occurrence.kind ≠ .qualifier := by
          intro qualifies
          simp [qualifies, ReferenceKind.allowsAnchors] at allowed
        have covered := covers_of_entryFor? entered
        simp [idle _ (recorded.listed named)] at covered
  · rintro ⟨new, named, rfl⟩
    exact .atSpan named

end

/-! ## Splices that change nothing -/

/-- A splice writes what stands there already. -/
def Splice.Keeps (splice : Splice) (text : List Char) : Prop :=
  slice? text splice.start splice.stop = some splice.new

theorem Splice.Keeps.applyTo_eq {splice : Splice} {text : List Char}
    (keeps : splice.Keeps text) : splice.applyTo text = text := by
  obtain ⟨start, stop, new⟩ := splice
  have standing : slice? text start stop = some new := keeps
  obtain ⟨before, after, rfl, rfl, rfl⟩ := Text.slice?_eq_some_iff.mp standing
  exact applyTo_append before new after new

theorem foldl_applyTo_eq_self {run : List Splice} {text : List Char}
    (keeps : ∀ splice ∈ run, splice.Keeps text) :
    run.foldl (fun text splice => splice.applyTo text) text = text := by
  induction run with
  | nil => rfl
  | cons first rest ih =>
      obtain ⟨keepsFirst, keepsRest⟩ := List.forall_mem_cons.mp keeps
      rw [List.foldl_cons, keepsFirst.applyTo_eq]
      exact ih keepsRest

section

variable {mapping : Mapping} {anchors : Anchors} {occurrences : List Occurrence}
  {text : List Char}

/-- A run that only looks at spans makes no splice exactly if no span has a new name. -/
theorem splices_eq_nil_iff
    (atSpans : ∀ occurrence ∈ occurrences, ∀ pending,
      splice? mapping anchors occurrence pending text = spanSplice? mapping text occurrence) :
    splices mapping anchors occurrences text = [] ↔
      ∀ occurrence ∈ occurrences, newName? mapping text occurrence = none := by
  induction occurrences with
  | nil => simp [splices]
  | cons first pending ih =>
      obtain ⟨atFirst, atRest⟩ := List.forall_mem_cons.mp atSpans
      rw [splices, atFirst, spanSplice?, List.forall_mem_cons]
      cases newName? mapping text first with
      | some new => simp
      | none => simpa using ih atRest

/-- A run that only looks at spans writes what stands there already exactly if every new name is
the text of its span. -/
theorem splices_keep_iff
    (atSpans : ∀ occurrence ∈ occurrences, ∀ pending,
      splice? mapping anchors occurrence pending text = spanSplice? mapping text occurrence) :
    (∀ splice ∈ splices mapping anchors occurrences text, splice.Keeps text) ↔
      ∀ occurrence ∈ occurrences, (newName? mapping text occurrence).isSome = true →
        newName? mapping text occurrence = live? text occurrence := by
  induction occurrences with
  | nil => simp [splices]
  | cons first pending ih =>
      obtain ⟨atFirst, atRest⟩ := List.forall_mem_cons.mp atSpans
      rw [splices, atFirst, spanSplice?, List.forall_mem_cons]
      cases newName? mapping text first with
      | none => simpa using ih atRest
      | some new =>
          simp only [Option.map_some, List.forall_mem_cons, Option.isSome_some, forall_const]
          constructor
          · rintro ⟨keepsFirst, keepsRest⟩
            rw [keepsFirst.applyTo_eq] at keepsRest
            exact ⟨keepsFirst.symm, (ih atRest).mp keepsRest⟩
          · rintro ⟨sameFirst, sameRest⟩
            have keepsFirst : Splice.Keeps ⟨first.start, min first.stop (byteLength text), new⟩
                text := sameFirst.symm
            rw [keepsFirst.applyTo_eq]
            exact ⟨keepsFirst, (ih atRest).mpr sameRest⟩

theorem apply_eq_self_of_keeps {sql : String}
    (keeps : ∀ splice ∈ splices mapping anchors (inOrder occurrences) sql.toList,
      splice.Keeps sql.toList) :
    apply mapping anchors occurrences sql = sql := by
  rw [apply_eq_ofList, replaceEach_eq_foldl, foldl_applyTo_eq_self keeps, String.ofList_toList]

end

end Rename

/-! ## The renamer -/

namespace Renamer

variable {renamer : Renamer} {sql : String} {mapping : Mapping}

theorem analyze_eq_ok {analysis : Analysis} {found : References}
    (readable : renamer.references sql = .ok found)
    (analyzed : renamer.analyze sql mapping = .ok analysis) :
    analysis = Analysis.ofTables found.tables.names mapping := by
  simp only [analyze, tables, readable, bind, Except.bind, pure, Except.pure,
    Except.ok.injEq] at analyzed
  exact analyzed.symm

theorem rename_eq_ok_self {found : References} (readable : renamer.references sql = .ok found)
    (unchanged : Rename.apply mapping renamer.anchors found.occurrences sql = sql) :
    renamer.rename sql mapping = .ok sql := by
  obtain ⟨statements, read, -⟩ := references_eq_ok readable
  simp [rename, readable, bind, Except.bind, unchanged, read]

/-- Where the analysis reports no change, the renaming makes no splice exactly if no occurrence is
stray, and it makes none that changes the text exactly if every stray occurrence is given the text
that it has. Then the renaming succeeds with the text as it was. -/
theorem splices_eq_nil_iff_of_no_changes {found : References} {analysis : Analysis}
    (readable : renamer.references sql = .ok found)
    (analyzed : renamer.analyze sql mapping = .ok analysis)
    (unaffected : analysis.hasChanges = false) :
    (Rename.splices mapping renamer.anchors (Rename.inOrder found.occurrences) sql.toList = [] ↔
      ∀ occurrence ∈ Rename.inOrder found.occurrences,
        ¬ Rename.Stray mapping sql.toList found.tables occurrence) ∧
    ((∀ splice ∈ Rename.splices mapping renamer.anchors (Rename.inOrder found.occurrences)
        sql.toList, splice.Keeps sql.toList) ↔
      ∀ occurrence ∈ Rename.inOrder found.occurrences,
        Rename.Stray mapping sql.toList found.tables occurrence →
          Rename.newName? mapping sql.toList occurrence = Rename.live? sql.toList occurrence) ∧
    ((∀ occurrence ∈ Rename.inOrder found.occurrences,
        Rename.Stray mapping sql.toList found.tables occurrence →
          Rename.newName? mapping sql.toList occurrence = Rename.live? sql.toList occurrence) →
      Rename.apply mapping renamer.anchors found.occurrences sql = sql ∧
        renamer.rename sql mapping = .ok sql) := by
  have idle : ∀ name ∈ found.tables.names, mapping.covers name = false := by
    obtain rfl := analyze_eq_ok readable analyzed
    simpa [Analysis.hasChanges, Analysis.ofTables] using unaffected
  have recorded : ∀ occurrence ∈ Rename.inOrder found.occurrences,
      Recorded sql.toList found.tables occurrence :=
    fun occurrence member =>
      references_allRecorded readable occurrence (Rename.mem_of_mem_inOrder member)
  have atSpans := fun occurrence member pending =>
    Rename.splice?_eq_spanSplice?_of_idle renamer.anchors pending idle (recorded occurrence member)
  have stray := fun occurrence member =>
    Rename.newName?_isSome_iff_stray idle (recorded occurrence member)
  have keeps := (Rename.splices_keep_iff atSpans).trans
    (forall₂_congr fun occurrence member => imp_congr_left (stray occurrence member))
  refine ⟨(Rename.splices_eq_nil_iff atSpans).trans ?_, keeps, fun same => ?_⟩
  · refine forall₂_congr fun occurrence member => ?_
    rw [← stray occurrence member, Option.not_isSome_iff_eq_none]
  · have unchanged := Rename.apply_eq_self_of_keeps (keeps.mpr same)
    exact ⟨unchanged, rename_eq_ok_self readable unchanged⟩

/-- A key with delimiters renames a table that the analysis does not report as affected. With a
key that is only the alias of the table, both leave the text alone. -/
theorem splices_eq_nil_iff_of_no_changes_delimited :
    let sql := "SELECT u.id FROM \"Users\" AS u"
    let found : References :=
      ⟨.ofList ["users"], .insert .empty "u", [⟨"users", 17, 24, .relation⟩]⟩
    let quoted := Mapping.ofList [("\"Users\"", "x")]
    let calledAs := Mapping.ofList [("u", "x")]
    default.references sql = .ok found ∧
      (Analysis.ofTables found.tables.names quoted).hasChanges = false ∧
      (∃ occurrence ∈ Rename.inOrder found.occurrences,
        Rename.Stray quoted sql.toList found.tables occurrence) ∧
      default.rename sql calledAs = .ok sql := by
  intro sql found quoted calledAs
  have readable : default.references sql = .ok found := by decide +kernel
  obtain ⟨made, -, -⟩ := splices_eq_nil_iff_of_no_changes readable
    (by decide +kernel : default.analyze sql quoted =
      .ok (Analysis.ofTables found.tables.names quoted)) (by decide +kernel)
  obtain ⟨unmade, -, unchanged⟩ := splices_eq_nil_iff_of_no_changes readable
    (by decide +kernel : default.analyze sql calledAs =
      .ok (Analysis.ofTables found.tables.names calledAs)) (by decide +kernel)
  refine ⟨readable, by decide +kernel, ?_, ?_⟩
  · apply Classical.byContradiction
    intro unstray
    have idle := made.mpr fun occurrence member stray => unstray ⟨occurrence, member, stray⟩
    revert idle
    decide +kernel
  · have unstray := unmade.mp (by decide +kernel)
    exact (unchanged fun occurrence member stray => absurd stray (unstray occurrence member)).2

end Renamer

end SqlTables
