import SqlTables.Text.Bytes

/-!
# Laws of cutting

A text is cut at an offset exactly when the offset is the length of one of its prefixes. So a cut
inside a prefix of a text does not depend on what follows the prefix, which is what keeps the
offsets of pending occurrences valid while the text behind them changes.
-/

namespace SqlTables.Text

structure Span where
  start : Nat
  stop : Nat
deriving DecidableEq, Repr

/-! ## Lengths -/

@[simp]
theorem byteLength_nil : byteLength [] = 0 := rfl

@[simp]
theorem byteLength_cons (c : Char) (rest : List Char) :
    byteLength (c :: rest) = c.utf8Size + byteLength rest := rfl

@[simp]
theorem byteLength_append (first second : List Char) :
    byteLength (first ++ second) = byteLength first + byteLength second := by
  induction first with
  | nil => simp
  | cons c rest ih => simp [ih, Nat.add_assoc]

theorem byteLength_eq_zero_iff {text : List Char} : byteLength text = 0 ↔ text = [] := by
  cases text with
  | nil => simp
  | cons c rest =>
      have positive := c.utf8Size_pos
      simp only [byteLength_cons, reduceCtorEq, iff_false]
      omega

/-- Two prefixes of one text that have the same length are the same. -/
theorem append_inj_of_byteLength {first second rest other : List Char}
    (same : first ++ rest = second ++ other) (length : byteLength first = byteLength second) :
    first = second ∧ rest = other := by
  induction first generalizing second with
  | nil =>
      have empty : second = [] := byteLength_eq_zero_iff.mp length.symm
      subst empty
      exact ⟨rfl, same⟩
  | cons c first ih =>
      cases second with
      | nil =>
          have positive := c.utf8Size_pos
          simp only [byteLength_cons, byteLength_nil] at length
          omega
      | cons d second =>
          obtain ⟨rfl, tails⟩ := List.cons.inj same
          obtain ⟨rfl, rfl⟩ := ih tails (by simpa using length)
          exact ⟨rfl, rfl⟩

/-- Of two prefixes of one text, the one that is not longer is a prefix of the other. -/
theorem exists_append_of_byteLength_le {first second rest other : List Char}
    (same : first ++ rest = second ++ other) (length : byteLength first ≤ byteLength second) :
    ∃ middle, second = first ++ middle ∧ rest = middle ++ other := by
  rcases List.append_eq_append_iff.mp same with ⟨middle, rfl, rfl⟩ | ⟨middle, rfl, rfl⟩
  · exact ⟨middle, rfl, rfl⟩
  · have empty : middle = [] := by
      rw [byteLength_append] at length
      exact byteLength_eq_zero_iff.mp (by omega)
    subst empty
    exact ⟨[], by simp, by simp⟩

/-! ## Cutting at one offset -/

/-- A cut gives back the text, and the offset is the length of the first part. -/
theorem cutAt?_eq_some_iff {text before after : List Char} {offset : Nat} :
    cutAt? text offset = some (before, after) ↔
      text = before ++ after ∧ byteLength before = offset := by
  fun_induction cutAt? text offset generalizing before after with
  | case1 text =>
      constructor
      · intro cut
        simp only [Option.some.injEq, Prod.mk.injEq] at cut
        obtain ⟨rfl, rfl⟩ := cut
        exact ⟨rfl, rfl⟩
      · rintro ⟨rfl, length⟩
        rw [byteLength_eq_zero_iff.mp length]
        rfl
  | case2 offset =>
      simp only [reduceCtorEq, false_iff, not_and]
      intro empty
      simp [(List.append_eq_nil_iff.mp empty.symm).1]
  | case3 c rest offset fits ih =>
      simp only [Option.map_eq_some_iff, Prod.exists, Prod.mk.injEq, ih]
      constructor
      · rintro ⟨inner, behind, ⟨rfl, length⟩, rfl, rfl⟩
        refine ⟨rfl, ?_⟩
        rw [byteLength_cons]
        omega
      · rintro ⟨same, length⟩
        cases before with
        | nil => simp at length
        | cons d before =>
            obtain ⟨rfl, rfl⟩ := List.cons.inj same
            rw [byteLength_cons] at length
            exact ⟨before, after, ⟨rfl, by omega⟩, rfl, rfl⟩
  | case4 c rest offset short =>
      simp only [reduceCtorEq, false_iff, not_and]
      intro same length
      cases before with
      | nil => simp at length
      | cons d before =>
          obtain ⟨rfl, rfl⟩ := List.cons.inj same
          rw [byteLength_cons] at length
          omega

theorem cutAt?_append (before after : List Char) :
    cutAt? (before ++ after) (byteLength before) = some (before, after) :=
  cutAt?_eq_some_iff.mpr ⟨rfl, rfl⟩

/-! ## Cutting at both ends of a span -/

/-- A cut at both ends gives back the text, and the ends are lengths of prefixes. -/
theorem cut?_eq_some_iff {text : List Char} {start stop : Nat} {cut : Cut} :
    cut? text start stop = some cut ↔
      text = cut.before ++ cut.inside ++ cut.after ∧ byteLength cut.before = start ∧
        byteLength cut.before + byteLength cut.inside = stop := by
  obtain ⟨before, inside, after⟩ := cut
  unfold cut?
  split
  case isTrue ordered =>
    simp only [Option.bind_eq_bind, Option.pure_def, Option.bind_eq_some_iff, Option.some.injEq,
      Cut.mk.injEq, Prod.exists]
    constructor
    · rintro ⟨first, rest, outer, second, last, inner, rfl, rfl, rfl⟩
      obtain ⟨rfl, rfl⟩ := cutAt?_eq_some_iff.mp outer
      obtain ⟨rfl, length⟩ := cutAt?_eq_some_iff.mp inner
      exact ⟨by simp, rfl, by omega⟩
    · rintro ⟨rfl, rfl, rfl⟩
      refine ⟨before, inside ++ after, ?_, inside, after, ?_, rfl, rfl, rfl⟩
      · rw [List.append_assoc]
        exact cutAt?_append _ _
      · rw [Nat.add_sub_cancel_left]
        exact cutAt?_append _ _
  case isFalse unordered =>
    simp only [reduceCtorEq, false_iff]
    rintro ⟨-, rfl, rfl⟩
    omega

theorem cut?_append_of_le {text rest : List Char} {start stop : Nat}
    (inside : stop ≤ byteLength text) :
    cut? (text ++ rest) start stop =
      (cut? text start stop).map fun cut => { cut with after := cut.after ++ rest } := by
  cases found : cut? text start stop with
  | some cut =>
      obtain ⟨rfl, starts, stops⟩ := cut?_eq_some_iff.mp found
      exact cut?_eq_some_iff.mpr ⟨by simp, starts, stops⟩
  | none =>
      rw [Option.map_none, Option.eq_none_iff_forall_ne_some]
      intro cut other
      obtain ⟨same, starts, stops⟩ := cut?_eq_some_iff.mp other
      obtain ⟨middle, rfl, -⟩ := exists_append_of_byteLength_le same.symm
        (by rw [byteLength_append]; omega)
      have whole : cut? (cut.before ++ cut.inside ++ middle) start stop =
          some ⟨cut.before, cut.inside, middle⟩ :=
        cut?_eq_some_iff.mpr ⟨rfl, starts, stops⟩
      rw [found] at whole
      cases whole

theorem slice?_append_of_le {text rest : List Char} {start stop : Nat}
    (inside : stop ≤ byteLength text) :
    slice? (text ++ rest) start stop = slice? text start stop := by
  rw [slice?, cut?_append_of_le inside, Option.map_map]
  rfl

/-- The parts of a text found by a cut have the lengths that the span says. -/
theorem slice?_eq_some_iff {text inside : List Char} {start stop : Nat} :
    slice? text start stop = some inside ↔
      ∃ before after, text = before ++ inside ++ after ∧ byteLength before = start ∧
        byteLength before + byteLength inside = stop := by
  simp only [slice?, Option.map_eq_some_iff]
  constructor
  · rintro ⟨cut, found, rfl⟩
    exact ⟨cut.before, cut.after, cut?_eq_some_iff.mp found⟩
  · rintro ⟨before, after, parts⟩
    exact ⟨⟨before, inside, after⟩, cut?_eq_some_iff.mpr parts, rfl⟩

end SqlTables.Text
