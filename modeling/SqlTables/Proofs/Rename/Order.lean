import SqlTables.Rename.Apply

/-!
# The order of replacement

Occurrences are sorted by their spans, from right to left, and of those with the same span only
the first is kept. The sorting is stable, so the occurrence that is kept is the first of its span
in the list that was given. Nothing else of that list matters: where a span has one occurrence only,
neither the order in which occurrences were collected nor how often one was collected shows in the
result.
-/

namespace SqlTables.Rename

/-! ## Spans -/

theorem sameSpan_iff {left right : Occurrence} :
    sameSpan left right = true ↔ left.start = right.start ∧ left.stop = right.stop := by
  simp [sameSpan]

theorem comesFirst_iff {left right : Occurrence} :
    comesFirst left right = true ↔
      right.start < left.start ∨ left.start = right.start ∧ right.stop ≤ left.stop := by
  simp [comesFirst]

theorem comesFirst_trans (first second third : Occurrence)
    (left : comesFirst first second = true) (right : comesFirst second third = true) :
    comesFirst first third = true := by
  rw [comesFirst_iff] at *
  omega

theorem comesFirst_total (left right : Occurrence) :
    (comesFirst left right || comesFirst right left) = true := by
  rw [Bool.or_eq_true, comesFirst_iff, comesFirst_iff]
  omega

/-! ## Repeated spans -/

/-- The first occurrence stays in front; only the one right behind it can be dropped. -/
theorem dropRepeats_cons (first : Occurrence) (rest : List Occurrence) :
    ∃ kept, dropRepeats (first :: rest) = first :: kept ∧ kept.Sublist (dropRepeats rest) := by
  rw [dropRepeats]
  cases dropRepeats rest with
  | nil => exact ⟨[], rfl, List.Sublist.refl _⟩
  | cons second others =>
      cases same : sameSpan first second with
      | true => exact ⟨others, by simp [same], List.sublist_cons_self second others⟩
      | false => exact ⟨second :: others, by simp [same], List.Sublist.refl _⟩

theorem dropRepeats_sublist (occurrences : List Occurrence) :
    (dropRepeats occurrences).Sublist occurrences := by
  induction occurrences with
  | nil => exact List.Sublist.refl _
  | cons first rest ih =>
      obtain ⟨kept, unfolded, smaller⟩ := dropRepeats_cons first rest
      rw [unfolded]
      exact (smaller.trans ih).cons_cons first

theorem dropRepeats_pairwise {occurrences : List Occurrence}
    (sorted : occurrences.Pairwise fun left right => comesFirst left right = true) :
    (dropRepeats occurrences).Pairwise fun left right =>
      comesFirst left right = true ∧ sameSpan left right = false := by
  induction occurrences with
  | nil => exact List.Pairwise.nil
  | cons first rest ih =>
      obtain ⟨before, sortedRest⟩ := List.pairwise_cons.mp sorted
      have inner := ih sortedRest
      have members : ∀ other ∈ dropRepeats rest, comesFirst first other = true :=
        fun other member => before other ((dropRepeats_sublist rest).subset member)
      rw [dropRepeats]
      cases shape : dropRepeats rest with
      | nil => exact List.pairwise_singleton _ _
      | cons second others =>
          rw [shape] at inner members
          obtain ⟨behind, distinct⟩ := List.pairwise_cons.mp inner
          cases same : sameSpan first second with
          | true =>
              simp only [same, ↓reduceIte]
              refine List.pairwise_cons.mpr ⟨fun other member => ?_, distinct⟩
              refine ⟨members other (List.mem_cons_of_mem _ member), ?_⟩
              have apart := (behind other member).2
              have equal := sameSpan_iff.mp same
              rw [Bool.eq_false_iff, ne_eq, sameSpan_iff] at apart ⊢
              omega
          | false =>
              simp only [same, Bool.false_eq_true, ↓reduceIte]
              refine List.pairwise_cons.mpr ⟨fun other member => ⟨members other member, ?_⟩, inner⟩
              rcases List.mem_cons.mp member with rfl | later
              · exact same
              · -- an occurrence behind `second` with the span of `first` would force the span
                -- of `second`, which lies between them, to be the same one too
                have between := (behind other later).1
                have above := members second List.mem_cons_self
                rw [comesFirst_iff] at between above
                rw [Bool.eq_false_iff, ne_eq, sameSpan_iff] at same ⊢
                omega

/-- A search that asks only for the span finds the same occurrence after repeats are dropped. -/
theorem find?_dropRepeats {wanted : Occurrence → Bool}
    (bySpan : ∀ left right, sameSpan left right = true → wanted left = wanted right)
    (occurrences : List Occurrence) :
    (dropRepeats occurrences).find? wanted = occurrences.find? wanted := by
  induction occurrences with
  | nil => rfl
  | cons first rest ih =>
      rw [dropRepeats, List.find?_cons, ← ih]
      cases shape : dropRepeats rest with
      | nil => simp [List.find?_cons]
      | cons second others =>
          cases same : sameSpan first second with
          | true =>
              have alike := bySpan first second same
              cases found : wanted first <;> simp [same, ← alike, found]
          | false => cases found : wanted first <;> simp [same, List.find?_cons, found]

/-! ## The order as a whole -/

theorem inOrder_pairwise (occurrences : List Occurrence) :
    (inOrder occurrences).Pairwise fun left right =>
      comesFirst left right = true ∧ sameSpan left right = false :=
  dropRepeats_pairwise
    (List.pairwise_mergeSort comesFirst_trans comesFirst_total occurrences)

theorem mem_of_mem_inOrder {occurrences : List Occurrence} {occurrence : Occurrence}
    (member : occurrence ∈ inOrder occurrences) : occurrence ∈ occurrences :=
  List.mem_mergeSort.mp ((dropRepeats_sublist _).subset member)

/-- Sorting keeps the order of occurrences among which none has to come before another. -/
theorem filter_mergeSort {wanted : Occurrence → Bool} {occurrences : List Occurrence}
    (tied : ∀ left ∈ occurrences, ∀ right ∈ occurrences, wanted left = true →
      wanted right = true → comesFirst left right = true) :
    (occurrences.mergeSort comesFirst).filter wanted = occurrences.filter wanted := by
  have sorted : (occurrences.filter wanted).Pairwise fun left right =>
      comesFirst left right = true := by
    refine List.pairwise_of_forall_mem_list fun left leftMember right rightMember => ?_
    rw [List.mem_filter] at leftMember rightMember
    exact tied left leftMember.1 right rightMember.1 leftMember.2 rightMember.2
  have kept : (occurrences.filter wanted).Sublist (occurrences.mergeSort comesFirst) :=
    List.sublist_mergeSort comesFirst_trans comesFirst_total sorted List.filter_sublist
  have filtered := kept.filter wanted
  simp only [List.filter_filter, Bool.and_self] at filtered
  have sameLength :=
    ((List.mergeSort_perm occurrences comesFirst).filter wanted).length_eq
  exact (filtered.eq_of_length (by simpa using sameLength.symm)).symm

/-- Among occurrences that tie, the order looks at the first one of the list. -/
theorem find?_inOrder {wanted : Occurrence → Bool} {occurrences : List Occurrence}
    (bySpan : ∀ left right, sameSpan left right = true → wanted left = wanted right)
    (tied : ∀ left ∈ occurrences, ∀ right ∈ occurrences, wanted left = true →
      wanted right = true → comesFirst left right = true) :
    (inOrder occurrences).find? wanted = occurrences.find? wanted := by
  rw [inOrder, find?_dropRepeats bySpan, ← List.head?_filter, filter_mergeSort tied,
    List.head?_filter]

/-- The order has the same occurrence for a span as the list: the first one. -/
theorem find?_sameSpan_inOrder (occurrences : List Occurrence) (occurrence : Occurrence) :
    (inOrder occurrences).find? (sameSpan occurrence) =
      occurrences.find? (sameSpan occurrence) := by
  refine find?_inOrder ?_ ?_
  · intro left right same
    rw [sameSpan_iff] at same
    rw [sameSpan, sameSpan, same.1, same.2]
  · intro left _ right _ sameLeft sameRight
    rw [sameSpan_iff] at sameLeft sameRight
    rw [comesFirst_iff]
    omega

theorem exists_sameSpan_mem_inOrder {occurrences : List Occurrence} {occurrence : Occurrence}
    (member : occurrence ∈ occurrences) :
    ∃ kept ∈ inOrder occurrences, sameSpan occurrence kept = true := by
  have found : ((inOrder occurrences).find? (sameSpan occurrence)).isSome = true := by
    rw [find?_sameSpan_inOrder, List.find?_isSome]
    exact ⟨occurrence, member, by simp [sameSpan]⟩
  exact List.find?_isSome.mp found

/-- The order of replacement has each span once, by the first of its occurrences. -/
theorem find?_sameSpan_of_mem_inOrder {occurrences : List Occurrence} {occurrence : Occurrence}
    (member : occurrence ∈ inOrder occurrences) :
    occurrences.find? (sameSpan occurrence) = some occurrence := by
  rw [← find?_sameSpan_inOrder]
  obtain ⟨examined, pending, order⟩ := List.append_of_mem member
  have distinct := inOrder_pairwise occurrences
  rw [order] at distinct ⊢
  have notBefore : ∀ other ∈ examined, sameSpan occurrence other = false := by
    intro other earlier
    have apart := ((List.pairwise_append.mp distinct).2.2 other earlier occurrence
      List.mem_cons_self).2
    rw [Bool.eq_false_iff, ne_eq, sameSpan_iff] at apart ⊢
    omega
  refine List.find?_eq_some_iff_append.mpr ⟨by simp [sameSpan], examined, pending, rfl, ?_⟩
  intro other earlier
  rw [notBefore other earlier]
  rfl

theorem dropRepeats_eq_self {occurrences : List Occurrence}
    (distinct : occurrences.Pairwise fun left right => sameSpan left right = false) :
    dropRepeats occurrences = occurrences := by
  induction occurrences with
  | nil => rfl
  | cons first rest ih =>
      obtain ⟨apart, distinctRest⟩ := List.pairwise_cons.mp distinct
      rw [dropRepeats, ih distinctRest]
      cases rest with
      | nil => rfl
      | cons second others => simp [apart second List.mem_cons_self]

/-- Where no span is repeated, the order only rearranges the occurrences. -/
theorem inOrder_perm {occurrences : List Occurrence}
    (distinct : occurrences.Pairwise fun left right => sameSpan left right = false) :
    (inOrder occurrences).Perm occurrences := by
  have sorted := List.mergeSort_perm occurrences comesFirst
  have distinctSorted : (occurrences.mergeSort comesFirst).Pairwise fun left right =>
      sameSpan left right = false := by
    refine (sorted.pairwise_iff ?_).mpr distinct
    intro left right apart
    rw [Bool.eq_false_iff, ne_eq, sameSpan_iff] at apart ⊢
    omega
  rw [inOrder, dropRepeats_eq_self distinctSorted]
  exact sorted

/-! ## Lists with the same order -/

/-- The order of replacement consists of the first occurrences of spans. -/
theorem mem_inOrder_iff {occurrences : List Occurrence} {occurrence : Occurrence} :
    occurrence ∈ inOrder occurrences ↔
      occurrences.find? (sameSpan occurrence) = some occurrence := by
  constructor
  · exact find?_sameSpan_of_mem_inOrder
  · intro first
    rw [← find?_sameSpan_inOrder] at first
    exact List.mem_of_find?_eq_some first

theorem inOrder_nodup (occurrences : List Occurrence) : (inOrder occurrences).Nodup := by
  refine (inOrder_pairwise occurrences).imp ?_
  rintro left right ⟨-, distinct⟩ rfl
  simp [sameSpan] at distinct

/-- Two lists are replaced in the same order exactly if every span has the same first occurrence in
both. -/
theorem inOrder_eq_iff {left right : List Occurrence} :
    inOrder left = inOrder right ↔
      ∀ occurrence, left.find? (sameSpan occurrence) = right.find? (sameSpan occurrence) := by
  constructor
  · intro same occurrence
    rw [← find?_sameSpan_inOrder, same, find?_sameSpan_inOrder]
  · intro same
    have members (occurrence : Occurrence) :
        occurrence ∈ inOrder left ↔ occurrence ∈ inOrder right := by
      rw [mem_inOrder_iff, mem_inOrder_iff, same]
    have rearranged : (inOrder left).Perm (inOrder right) :=
      (List.perm_ext_iff_of_nodup (inOrder_nodup left) (inOrder_nodup right)).mpr members
    refine rearranged.eq_of_pairwise ?_ (inOrder_pairwise left) (inOrder_pairwise right)
    rintro first second - - ⟨forth, distinct⟩ ⟨back, -⟩
    rw [comesFirst_iff] at forth back
    rw [Bool.eq_false_iff, ne_eq, sameSpan_iff] at distinct
    omega

/-- Spans are told apart by where they begin and end: of each, there is one occurrence only. -/
def OnePerSpan (occurrences : List Occurrence) : Prop :=
  ∀ left ∈ occurrences, ∀ right ∈ occurrences,
    left.start = right.start → left.stop = right.stop → left = right

/-- The occurrence of a span that has only one is found wherever it stands in the list. -/
theorem OnePerSpan.find?_eq_some_iff {occurrences : List Occurrence}
    (one : OnePerSpan occurrences) {wanted found : Occurrence} :
    occurrences.find? (sameSpan wanted) = some found ↔
      found ∈ occurrences ∧ sameSpan wanted found = true := by
  constructor
  · intro first
    exact ⟨List.mem_of_find?_eq_some first, List.find?_some first⟩
  · rintro ⟨member, same⟩
    obtain ⟨first, isFirst⟩ := Option.isSome_iff_exists.mp
      (List.find?_isSome.mpr ⟨found, member, same⟩)
    have sameFirst := sameSpan_iff.mp (List.find?_some isFirst)
    rw [sameSpan_iff] at same
    rw [isFirst, one first (List.mem_of_find?_eq_some isFirst) found member (by omega) (by omega)]

/-- The result depends on the set of the occurrences only, if no two of them share a span: they may
be listed in any order and any number of times. This needs no assumption on where they lie, so it
also holds of spans that overlap, that are stale, or that are looked for behind an anchor. -/
theorem apply_eq_of_mem_iff (mapping : Mapping) (anchors : Anchors) {left right : List Occurrence}
    (source : String) (sameMembers : ∀ occurrence, occurrence ∈ left ↔ occurrence ∈ right)
    (one : OnePerSpan left) :
    apply mapping anchors left source = apply mapping anchors right source := by
  have oneRight : OnePerSpan right := by
    intro first firstMember second secondMember
    exact one first ((sameMembers first).mpr firstMember) second
      ((sameMembers second).mpr secondMember)
  have order : inOrder left = inOrder right := by
    refine inOrder_eq_iff.mpr fun wanted => Option.ext fun found => ?_
    rw [one.find?_eq_some_iff, oneRight.find?_eq_some_iff, sameMembers]
  have emptiness : left.isEmpty = right.isEmpty := by
    rw [Bool.eq_iff_iff, List.isEmpty_iff, List.isEmpty_iff, List.eq_nil_iff_forall_not_mem,
      List.eq_nil_iff_forall_not_mem]
    simp only [sameMembers]
  rw [apply, apply, order, emptiness]

/-- A target that is found behind its anchor and two spans that overlap, each listed out of order
and some of them twice. -/
theorem apply_eq_of_mem_iff_overlapping :
    let sql := "SELECT é FROM tu; UPDATE  t SET b = 2"
    let mapping := Mapping.ofList [("u", "x.y"), ("TX", "z"), ("t", "target")]
    let target : Occurrence := ⟨"t", 26, 28, .updateTarget⟩
    let inner : Occurrence := ⟨"u", 16, 17, .relation⟩
    let outer : Occurrence := ⟨"tx", 15, 17, .relation⟩
    OnePerSpan [target, inner, outer] ∧
      apply mapping Anchors.default [outer, target, inner, target, outer] sql =
        "SELECT é FROM z.y; UPDATE  target SET b = 2" := by
  intro sql mapping target inner outer
  have one : OnePerSpan [target, inner, outer] := by unfold OnePerSpan; decide
  have sameMembers (occurrence : Occurrence) : occurrence ∈ [target, inner, outer] ↔
      occurrence ∈ [outer, target, inner, target, outer] := by
    have forth : ∀ known ∈ [target, inner, outer],
        known ∈ [outer, target, inner, target, outer] := by decide
    have back : ∀ known ∈ [outer, target, inner, target, outer],
        known ∈ [target, inner, outer] := by decide
    exact ⟨forth occurrence, back occurrence⟩
  have sorted : inOrder [target, inner, outer] = [target, inner, outer] := by
    rw [inOrder, List.mergeSort_of_pairwise (by decide)]
    decide
  have result : apply mapping Anchors.default [target, inner, outer] sql =
      "SELECT é FROM z.y; UPDATE  target SET b = 2" := by
    rw [apply, sorted]
    decide +kernel
  exact ⟨one, (apply_eq_of_mem_iff mapping Anchors.default sql sameMembers one).symm.trans result⟩

/-! ## Spans that do not overlap -/

/-- The spans of occurrences are not empty, and two of them are disjoint or the same. -/
structure Separate (occurrences : List Occurrence) : Prop where
  nonempty : ∀ occurrence ∈ occurrences, occurrence.start < occurrence.stop
  apart : ∀ left ∈ occurrences, ∀ right ∈ occurrences,
    left.stop ≤ right.start ∨ right.stop ≤ left.start ∨
      left.start = right.start ∧ left.stop = right.stop

/-- Occurrences that do not overlap are replaced strictly from right to left. -/
theorem Separate.inOrder_leftward {occurrences : List Occurrence}
    (separate : Separate occurrences) :
    (inOrder occurrences).Pairwise fun earlier later => later.stop ≤ earlier.start := by
  refine (inOrder_pairwise occurrences).imp_of_mem ?_
  rintro earlier later earlierMember laterMember ⟨first, distinct⟩
  have positive := separate.nonempty earlier (mem_of_mem_inOrder earlierMember)
  have apart := separate.apart earlier (mem_of_mem_inOrder earlierMember) later
    (mem_of_mem_inOrder laterMember)
  rw [comesFirst_iff] at first
  rw [Bool.eq_false_iff, ne_eq, sameSpan_iff] at distinct
  omega

end SqlTables.Rename
