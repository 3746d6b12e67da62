import SqlTables.Proofs.Name.Lookup

/-!
# Mappings and their answers

The keys of a mapping ascend, so each of them stands in one entry. A mapping is therefore known by
its answers alone, and the order in which its entries were bound leaves no trace.
-/

namespace SqlTables.Mapping

/-! ## One entry for a key -/

theorem eq_of_key_eq (mapping : Mapping) {left right : String × String}
    (leftIn : left ∈ mapping.entries) (rightIn : right ∈ mapping.entries)
    (same : left.1 = right.1) : left = right := by
  obtain ⟨entries, ascending⟩ := mapping
  induction entries with
  | nil => exact absurd leftIn List.not_mem_nil
  | cons first rest ih =>
      obtain ⟨above, ascendingRest⟩ := List.pairwise_cons.mp ascending
      rcases List.mem_cons.mp leftIn with rfl | leftLater <;>
        rcases List.mem_cons.mp rightIn with rfl | rightLater
      · rfl
      · exact absurd (same ▸ above right rightLater) (String.lt_irrefl _)
      · exact absurd (same ▸ above left leftLater) (String.lt_irrefl _)
      · exact ih ascendingRest leftLater rightLater

theorem get?_eq_some_iff {mapping : Mapping} {key value : String} :
    mapping.get? key = some value ↔ (key, value) ∈ mapping.entries := by
  refine ⟨mem_entries_of_get?, fun member => ?_⟩
  cases found : mapping.entries.find? fun entry => entry.1 == key with
  | none =>
      have absent := List.find?_eq_none.mp found (key, value) member
      simp at absent
  | some entry =>
      have same : entry.1 = key := by simpa using List.find?_some found
      have whole := mapping.eq_of_key_eq (List.mem_of_find?_eq_some found) member same
      rw [get?, found, whole]
      rfl

/-- A search through the entries of a mapping finds the same in whatever order they stand. -/
theorem find?_eq_get? {mapping : Mapping} {pairs : List (String × String)}
    (members : ∀ pair, pair ∈ pairs ↔ pair ∈ mapping.entries) (key : String) :
    (pairs.find? fun pair => pair.1 == key).map Prod.snd = mapping.get? key := by
  cases found : pairs.find? fun pair => pair.1 == key with
  | none =>
      refine (Option.eq_none_iff_forall_ne_some.mpr fun value answer => ?_).symm
      have absent := List.find?_eq_none.mp found (key, value)
        ((members _).mpr (get?_eq_some_iff.mp answer))
      simp at absent
  | some pair =>
      obtain rfl : pair.1 = key := by simpa using List.find?_some found
      have member : pair ∈ mapping.entries := (members pair).mp (List.mem_of_find?_eq_some found)
      exact (get?_eq_some_iff.mpr member).symm

/-! ## Answers decide -/

theorem nodup (mapping : Mapping) : mapping.entries.Nodup := by
  refine List.Pairwise.imp ?_ mapping.ascending
  rintro entry _ below rfl
  exact String.lt_irrefl _ below

/-- A mapping is known by its answers. -/
theorem eq_of_get?_eq {mapping other : Mapping}
    (answers : ∀ key, mapping.get? key = other.get? key) : mapping = other := by
  have members : ∀ entry, entry ∈ mapping.entries ↔ entry ∈ other.entries := by
    rintro ⟨key, value⟩
    rw [← get?_eq_some_iff, answers, get?_eq_some_iff]
  have shuffled := (List.perm_ext_iff_of_nodup mapping.nodup other.nodup).mpr members
  exact Mapping.ext (shuffled.eq_of_pairwise
    (fun left right _ _ below above => absurd above (String.lt_asymm below))
    mapping.ascending other.ascending)

theorem ofList_eq {mapping : Mapping} {pairs : List (String × String)}
    (shuffled : pairs.Perm mapping.entries) : ofList pairs = mapping := by
  refine eq_of_get?_eq fun key => ?_
  rw [get?_ofList]
  exact find?_eq_get? (fun pair => List.mem_reverse.trans shuffled.mem_iff) key

/-- A mapping on top of another one answers for its own keys, and the other one for the rest. -/
theorem get?_override (mapping other : Mapping) (key : String) :
    (mapping.override other).get? key = (other.get? key).or (mapping.get? key) := by
  rw [override, get?_foldl_insert, find?_eq_get? fun _ => List.mem_reverse]

theorem isEmpty_eq_true_iff {mapping : Mapping} :
    mapping.isEmpty = true ↔ ∀ key, mapping.get? key = none := by
  obtain ⟨entries, ascending⟩ := mapping
  cases entries with
  | nil => exact iff_of_true rfl fun _ => rfl
  | cons entry rest =>
      refine iff_of_false (by simp [isEmpty]) fun silent => ?_
      have answer := silent entry.1
      simp [get?] at answer

end SqlTables.Mapping
