import SqlTables.Proofs.Reference.History

/-!
# Where a walk stands

A walk comes to a node inside a script on one path. What it has walked over by then are the nodes
that stand before this path. They alone decide which aliases are known there; whether the aliases
belong to relations that are in scope there plays no part.
-/

namespace SqlTables

/-! ## What a table and its qualifier yield -/

namespace Visit

variable {source : List Char} {seen : List Visit}

theorem yield?_qualifies_pair (base column : Ident) :
    (qualifies [base, column]).yield? source seen =
      if base.canonical ∈ aliases seen then none
      else ObjectName.occurrence? source .qualifier [base] := by
  have admits : Admits seen [base] ↔ base.canonical ∉ aliases seen := by simp [Admits]
  by_cases declared : base.canonical ∈ aliases seen <;> simp [yield?, admits, declared]

theorem yield?_names {kind : ReferenceKind} {name : ObjectName} {occurrence : Occurrence}
    (written : name.canonical ≠ "") (placed : name.occurrence? source kind = some occurrence) :
    (names kind name).yield? source seen = some occurrence := by
  simp [yield?, written, placed]

end Visit

namespace Sql

/-! ## Paths of a walk -/

namespace Node

/-- A walk over a node comes to another one through parts that are all passable. The list holds
what it has walked over before. -/
inductive Reaches (passable : Node → Prop) : Node → List Node → Node → Prop where
  | here (node : Node) : Reaches passable node [] node
  | inside {node part inner : Node} {before after within : List Node}
      (split : node.parts = before ++ part :: after) (passed : passable part)
      (reaches : Reaches passable part within inner) :
      Reaches passable node (before ++ within) inner

/-- A node is no query of its own. What is reached through such nodes stands directly in the query
that it is reached from. -/
def Direct (node : Node) : Prop :=
  ∀ inner, node ≠ query inner

theorem visits_compound (parts : List Ident) :
    (expr (.compound parts)).visits = [.qualifies parts] := by
  simp [visits_eq_flatMap, Node.parts]

theorem visits_plainTable (name : ObjectName) (extras : List Expr) :
    (factor .operand (.table name none none extras)).visits = [.names .relation name] := by
  simp [visits_eq_flatMap, parts, TableFactor.parts, declared, named]

namespace Reaches

variable {passable weaker : Node → Prop} {node middle inner : Node} {before within : List Node}

theorem mono (reaches : Reaches passable node before inner)
    (weaken : ∀ part, passable part → weaker part) : Reaches weaker node before inner := by
  induction reaches with
  | here node => exact .here node
  | inside split passed _ ih => exact .inside split (weaken _ passed) ih

theorem trans (first : Reaches passable node before middle)
    (second : Reaches passable middle within inner) :
    Reaches passable node (before ++ within) inner := by
  induction first with
  | here node => exact second
  | inside split passed _ ih =>
      rw [List.append_assoc]
      exact .inside split passed (ih second)

/-- The visits of a walk are those before a node that it comes to, those of the node, and those
behind it. -/
theorem visits_eq (reaches : Reaches passable node before inner) :
    ∃ after, node.visits = before.flatMap visits ++ inner.visits ++ after := by
  induction reaches with
  | here node => exact ⟨[], by simp⟩
  | @inside node part inner before rest within split passed _ ih =>
      obtain ⟨after, inPart⟩ := ih
      have composite : ∀ visited, node ≠ visit visited := by
        rintro visited rfl
        simp [parts] at split
      refine ⟨after ++ rest.flatMap visits, ?_⟩
      rw [visits_eq_flatMap composite, split]
      simp [inPart]

end Reaches

end Node

/-! ## What a visit adds to a script -/

/-- The occurrences of a source around one of its visits. -/
theorem collect_occurrences_around {statements : List Statement} {seen later : List Visit}
    {visit : Visit} (split : (Node.script statements).visits = seen ++ visit :: later)
    (source : String) :
    (collect source statements).occurrences =
      (Visit.origins source.toList [] seen).map Prod.snd ++
        (visit.yield? source.toList seen).toList ++
        (Visit.origins source.toList (seen ++ [visit]) later).map Prod.snd := by
  rw [collect_occurrences, split, Visit.origins_append, Visit.origins, List.nil_append]
  cases visit.yield? source.toList seen <;> simp

namespace Node.Reaches

variable {passable : Node → Prop} {source : String} {statements : List Statement}
  {before : List Node}

theorem mem_occurrences {name : ObjectName} {extras : List Expr} {occurrence : Occurrence}
    (reaches : Reaches passable (.script statements) before
      (.factor .operand (.table name none none extras)))
    (written : name.canonical ≠ "")
    (placed : name.occurrence? source.toList .relation = some occurrence) :
    occurrence ∈ (Sql.collect source statements).occurrences := by
  obtain ⟨later, split⟩ := reaches.visits_eq
  rw [visits_plainTable, List.append_assoc, List.singleton_append] at split
  rw [collect_occurrences_around split, Visit.yield?_names written placed]
  simp

/-- A qualifier of one part adds its occurrence, if it has one, unless it is an alias of what was
walked over before. -/
theorem occurrences_around_pair {base column : Ident}
    (reaches : Reaches passable (.script statements) before (.expr (.compound [base, column])))
    (source : String) :
    let seen := before.flatMap visits
    ∃ later, (Node.script statements).visits = seen ++ .qualifies [base, column] :: later ∧
      (Sql.collect source statements).occurrences =
        (Visit.origins source.toList [] seen).map Prod.snd ++
          (if base.canonical ∈ Visit.aliases seen then []
            else (ObjectName.occurrence? source.toList .qualifier [base]).toList) ++
          (Visit.origins source.toList (seen ++ [.qualifies [base, column]]) later).map
            Prod.snd := by
  intro seen
  obtain ⟨later, split⟩ := reaches.visits_eq
  rw [visits_compound, List.append_assoc, List.singleton_append] at split
  refine ⟨later, split, ?_⟩
  rw [collect_occurrences_around split, Visit.yield?_qualifies_pair]
  split <;> rfl

/-- A qualifier of one part is recorded unless it is an alias of what was walked over before. -/
theorem occurrences_around {base column : Ident} {token : Occurrence}
    (reaches : Reaches passable (.script statements) before (.expr (.compound [base, column])))
    (placed : ObjectName.occurrence? source.toList .qualifier [base] = some token) :
    let seen := before.flatMap visits
    ∃ later, (Node.script statements).visits = seen ++ .qualifies [base, column] :: later ∧
      (Sql.collect source statements).occurrences =
        (Visit.origins source.toList [] seen).map Prod.snd ++
          (if base.canonical ∈ Visit.aliases seen then [] else [token]) ++
          (Visit.origins source.toList (seen ++ [.qualifies [base, column]]) later).map
            Prod.snd := by
  simpa [placed] using reaches.occurrences_around_pair source

end Node.Reaches

end Sql

end SqlTables
