import SqlTables.Name.Mapping

/-!
# Laws of lookup in mappings

A mapping answers for a key with the value that was bound to it last, whatever the order of its
entries. A lookup that only looks for some keys does not see the others, so it answers the same in
a mapping that is restricted to these keys.
-/

namespace SqlTables.Mapping

/-! ## Bound keys -/

theorem mem_entries_of_get? {mapping : Mapping} {key value : String}
    (found : mapping.get? key = some value) : (key, value) ∈ mapping.entries := by
  obtain ⟨entry, first, rfl⟩ := Option.map_eq_some_iff.mp found
  have same : entry.1 = key := by simpa using List.find?_some first
  rw [← same]
  exact List.mem_of_find?_eq_some first

theorem findIgnoringCase?_spec {mapping : Mapping} {name : String} {entry : String × String}
    (found : mapping.findIgnoringCase? name = some entry) :
    entry ∈ mapping.entries ∧ Text.sameIgnoringAsciiCase entry.1 name = true := by
  have same := List.find?_some found
  exact ⟨List.mem_of_find?_eq_some found, same⟩

theorem get?_insert (mapping : Mapping) (key value wanted : String) :
    (mapping.insert key value).get? wanted =
      if wanted = key then some value else mapping.get? wanted := by
  obtain ⟨entries, ascending⟩ := mapping
  simp only [insert, get?]
  clear ascending
  induction entries with
  | nil =>
      by_cases same : wanted = key
      · simp [insertEntry, same]
      · simp [insertEntry, same, Ne.symm same]
  | cons entry rest ih =>
      rw [insertEntry]
      split
      case isTrue atEntry =>
        by_cases same : wanted = key
        · simp [same]
        · have other : ¬ entry.1 = wanted := fun equal => same (equal.symm.trans atEntry.symm)
          simp [same, Ne.symm same, other]
      case isFalse apart =>
        split
        case isTrue =>
          by_cases same : wanted = key
          · simp [same]
          · simp [same, Ne.symm same]
        case isFalse =>
          by_cases here : entry.1 = wanted
          · have other : ¬ wanted = key := fun equal => apart (equal.symm.trans here.symm)
            simp [here, other]
          · simpa [here] using ih

/-- A mapping with pairs on top of it answers with the last pair of a key, if there is one. -/
theorem get?_foldl_insert (pairs : List (String × String)) (mapping : Mapping) (key : String) :
    (pairs.foldl (fun mapping pair => mapping.insert pair.1 pair.2) mapping).get? key =
      ((pairs.reverse.find? fun pair => pair.1 == key).map Prod.snd).or (mapping.get? key) := by
  induction pairs generalizing mapping with
  | nil => rfl
  | cons pair rest ih =>
      rw [List.foldl_cons, ih, get?_insert, List.reverse_cons, List.find?_append]
      by_cases same : key = pair.1
      · cases rest.reverse.find? fun pair => pair.1 == key <;> simp [same]
      · have other : ¬ pair.1 = key := Ne.symm same
        simp [same, other]

theorem get?_ofList (pairs : List (String × String)) (key : String) :
    (ofList pairs).get? key =
      (pairs.reverse.find? fun pair => pair.1 == key).map Prod.snd := by
  rw [ofList, get?_foldl_insert]
  exact Option.or_none

/-! ## Injective mappings -/

/-- Different keys have different new names. -/
def Injective (mapping : Mapping) : Prop :=
  ∀ left ∈ mapping.entries, ∀ right ∈ mapping.entries, left.2 = right.2 → left.1 = right.1

/-- The inverse of an injective mapping leads every new name back to its key. -/
theorem Injective.get?_invert {mapping : Mapping} (injective : mapping.Injective)
    {key value : String} (member : (key, value) ∈ mapping.entries) :
    mapping.invert.get? value = some key := by
  rw [invert, get?_ofList]
  cases found : (mapping.entries.map Prod.swap).reverse.find? fun pair => pair.1 == value with
  | none =>
      have absent := List.find?_eq_none.mp found (value, key)
        (List.mem_reverse.mpr (List.mem_map.mpr ⟨(key, value), member, rfl⟩))
      simp at absent
  | some pair =>
      have same : pair.1 = value := by simpa using List.find?_some found
      obtain ⟨entry, known, rfl⟩ :=
        List.mem_map.mp (List.mem_reverse.mp (List.mem_of_find?_eq_some found))
      exact congrArg some (injective entry known (key, value) member same)

/-! ## Restricted mappings -/

def restrict (mapping : Mapping) (keep : String → Bool) : Mapping :=
  ⟨mapping.entries.filter fun entry => keep entry.1, mapping.ascending.filter _⟩

section

variable {mapping : Mapping} {keep : String → Bool}

theorem find?_restrict {wanted : String × String → Bool}
    (kept : ∀ entry, wanted entry = true → keep entry.1 = true) :
    (mapping.restrict keep).entries.find? wanted = mapping.entries.find? wanted := by
  have test : (fun entry : String × String =>
      decide (keep entry.1 = true ∧ wanted entry = true)) = wanted := by
    funext entry
    cases fits : wanted entry with
    | false => simp
    | true => simp [kept entry fits]
  rw [restrict, List.find?_filter, test]

theorem get?_restrict {key : String} (kept : keep key = true) :
    (mapping.restrict keep).get? key = mapping.get? key := by
  rw [get?, get?, find?_restrict]
  intro entry same
  rw [beq_iff_eq] at same
  exact same ▸ kept

theorem findIgnoringCase?_restrict {name : String}
    (kept : ∀ key, Text.sameIgnoringAsciiCase key name = true → keep key = true) :
    (mapping.restrict keep).findIgnoringCase? name = mapping.findIgnoringCase? name :=
  find?_restrict fun entry same => kept entry.1 same

end

end SqlTables.Mapping
