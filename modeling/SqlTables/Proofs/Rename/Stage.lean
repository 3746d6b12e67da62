import SqlTables.Proofs.Rename.Splice

/-!
# The stages of a run

A run examines one occurrence after the other. A stage is what it has before it then: the
occurrence, those still pending, the text as it stands, and the splices made so far. `Makes` says
once what can happen at a stage; from it follows what a stage leaves as it was. The splices of
earlier stages lie to the right of whatever is pending, so the text of a later stage agrees with
the source up to the end of a span that no other span overlaps.
-/

namespace SqlTables.Rename

open Text (byteLength)

/-! ## What a stage can do -/

/-- The splices that an occurrence can lead to. -/
inductive Makes (mapping : Mapping) (anchors : Anchors) (occurrence : Occurrence)
    (pending : List Occurrence) (text : List Char) : Splice → Prop where
  /-- The span holds the name, and the name has a new one. -/
  | atSpan {new : List Char} (named : newName? mapping text occurrence = some new) :
      Makes mapping anchors occurrence pending text
        ⟨occurrence.start, min occurrence.stop (byteLength text), new⟩
  /-- The span does not hold the name, which is the target of a mutation and stands behind an
  anchor: in its canonical spelling, or else as the key of the mapping. -/
  | behindAnchor {key name replacement : String} {offset : Nat}
      (stale : holds text occurrence = false)
      (allowed : occurrence.kind.allowsAnchors = true)
      (entered : entryFor? mapping occurrence.text = some (key, replacement))
      (spelled : name = occurrence.text ∨
        name = key ∧ windowHit? anchors occurrence pending text occurrence.text = none)
      (hit : windowHit? anchors occurrence pending text name = some offset) :
      Makes mapping anchors occurrence pending text
        ⟨offset, offset + byteLength name.toList, replacement.toList⟩

section

variable {mapping : Mapping} {anchors : Anchors} {occurrence : Occurrence}
  {pending : List Occurrence} {text : List Char} {splice : Splice}

theorem anchoredSplice?_eq_some_iff :
    anchoredSplice? mapping anchors occurrence pending text = some splice ↔
      ∃ key name replacement offset, entryFor? mapping occurrence.text = some (key, replacement) ∧
        (name = occurrence.text ∨
          name = key ∧ windowHit? anchors occurrence pending text occurrence.text = none) ∧
        windowHit? anchors occurrence pending text name = some offset ∧
        ⟨offset, offset + byteLength name.toList, replacement.toList⟩ = splice := by
  unfold anchoredSplice?
  cases entered : entryFor? mapping occurrence.text with
  | none => simp
  | some entry =>
      obtain ⟨key, replacement⟩ := entry
      cases canonical : windowHit? anchors occurrence pending text occurrence.text with
      | some offset =>
          constructor
          · intro made
            refine ⟨key, occurrence.text, replacement, offset, rfl, Or.inl rfl, canonical, ?_⟩
            simpa [canonical] using made
          · rintro ⟨_, name, _, place, ⟨⟩, rfl | ⟨-, ⟨⟩⟩, hit, rfl⟩
            rw [canonical] at hit
            cases hit
            simp [canonical]
      | none =>
          by_cases same : key = occurrence.text
          · constructor
            · intro made
              simp [canonical, same] at made
            · rintro ⟨_, name, _, place, ⟨⟩, rfl | ⟨rfl, -⟩, hit, rfl⟩
              · simp [canonical] at hit
              · simp [same, canonical] at hit
          · constructor
            · intro made
              obtain ⟨place, hit, rfl⟩ : ∃ place,
                  windowHit? anchors occurrence pending text key = some place ∧
                    ⟨place, place + byteLength key.toList, replacement.toList⟩ = splice := by
                simpa [canonical, same] using made
              exact ⟨key, key, replacement, place, rfl, Or.inr ⟨rfl, rfl⟩, hit, rfl⟩
            · rintro ⟨_, name, _, place, ⟨⟩, rfl | ⟨rfl, -⟩, hit, rfl⟩
              · simp [canonical] at hit
              · simp [canonical, same, hit]

/-- An occurrence leads to a splice exactly if it can. -/
theorem splice?_eq_some_iff :
    splice? mapping anchors occurrence pending text = some splice ↔
      Makes mapping anchors occurrence pending text splice := by
  unfold splice?
  cases held : holds text occurrence with
  | true =>
      simp only [↓reduceIte, spanSplice?, Option.map_eq_some_iff]
      constructor
      · rintro ⟨new, named, rfl⟩
        exact .atSpan named
      · intro makes
        cases makes with
        | atSpan named => exact ⟨_, named, rfl⟩
        | behindAnchor stale => simp [held] at stale
  | false =>
      simp only [Bool.false_eq_true, ↓reduceIte, Option.ite_none_right_eq_some,
        anchoredSplice?_eq_some_iff]
      constructor
      · rintro ⟨allowed, key, name, replacement, offset, entered, spelled, hit, rfl⟩
        exact .behindAnchor held allowed entered spelled hit
      · intro makes
        cases makes with
        | atSpan named => simp [holds_of_newName? named] at held
        | behindAnchor stale allowed entered spelled hit =>
            exact ⟨allowed, _, _, _, _, entered, spelled, hit, rfl⟩

/-! ## Where a splice lies -/

/-- A splice replaces a stretch of whole characters of a text. -/
def Splice.Fits (splice : Splice) (text : List Char) : Prop :=
  ∃ before inside after, text = before ++ inside ++ after ∧ byteLength before = splice.start ∧
    byteLength before + byteLength inside = splice.stop

theorem Splice.Fits.start_le_stop (fits : splice.Fits text) : splice.start ≤ splice.stop := by
  obtain ⟨before, inside, after, -, starts, stops⟩ := fits
  omega

theorem windowHit?_spec {name : String} {offset : Nat}
    (hit : windowHit? anchors occurrence pending text name = some offset) :
    (searchWindow anchors occurrence pending).1 ≤ offset ∧ offset < occurrence.stop ∧
      standsAt text name.toList offset = true := by
  obtain ⟨-, begins, ends, stands⟩ := Anchors.hit?_spec hit
  exact ⟨begins, ends, stands⟩

theorem Makes.fits (makes : Makes mapping anchors occurrence pending text splice) :
    splice.Fits text := by
  cases makes with
  | atSpan named => exact newName?_cut named
  | behindAnchor stale allowed entered spelled hit =>
      obtain ⟨before, after, whole, rfl, -⟩ :=
        standsAt_eq_true_iff.mp (windowHit?_spec hit).2.2
      exact ⟨before, _, after, whole, rfl, rfl⟩

/-- A search window begins behind everything that is pending. -/
theorem stop_le_searchWindow {other : Occurrence} (member : other ∈ pending) :
    other.stop ≤ (searchWindow anchors occurrence pending).1 := by
  have bound (stops : List Nat) (least : Nat) :
      least ≤ stops.foldl max least ∧ ∀ stop ∈ stops, stop ≤ stops.foldl max least := by
    induction stops generalizing least with
    | nil => simp
    | cons first rest ih =>
        obtain ⟨above, all⟩ := ih (max least first)
        rw [List.foldl_cons]
        refine ⟨by omega, fun stop member => ?_⟩
        rcases List.mem_cons.mp member with rfl | later
        · omega
        · exact all stop later
  have below := (bound (pending.map Occurrence.stop) 0).2 other.stop (List.mem_map_of_mem member)
  exact Nat.le_trans below (Nat.le_max_left _ _)

/-- A splice begins where the occurrence does, or behind everything that is pending. -/
theorem Makes.start_eq_or (makes : Makes mapping anchors occurrence pending text splice) :
    splice.start = occurrence.start ∨ ∀ other ∈ pending, other.stop ≤ splice.start := by
  cases makes with
  | atSpan named => exact Or.inl rfl
  | behindAnchor stale allowed entered spelled hit =>
      refine Or.inr fun other member => ?_
      exact Nat.le_trans (stop_le_searchWindow member) (windowHit?_spec hit).1

end

/-! ## Texts that agree up to an offset -/

/-- Two texts are the same, or share at least the characters up to an offset. -/
def AgreeUpTo (limit : Nat) (left right : List Char) : Prop :=
  left = right ∨ ∃ shared leftRest rightRest, left = shared ++ leftRest ∧
    right = shared ++ rightRest ∧ limit ≤ byteLength shared

theorem AgreeUpTo.refl (limit : Nat) (text : List Char) : AgreeUpTo limit text text :=
  Or.inl rfl

theorem AgreeUpTo.trans {limit : Nat} {first second third : List Char}
    (left : AgreeUpTo limit first second) (right : AgreeUpTo limit second third) :
    AgreeUpTo limit first third := by
  rcases left with rfl | ⟨shared, rest, middle, rfl, rfl, bound⟩
  · exact right
  rcases right with rfl | ⟨other, middleRest, last, same, rfl, otherBound⟩
  · exact Or.inr ⟨shared, rest, middle, rfl, rfl, bound⟩
  rcases Nat.le_total (byteLength shared) (byteLength other) with shorter | shorter
  · obtain ⟨more, rfl, -⟩ := Text.exists_append_of_byteLength_le same shorter
    exact Or.inr ⟨shared, rest, more ++ last, rfl, by simp, bound⟩
  · obtain ⟨more, rfl, -⟩ := Text.exists_append_of_byteLength_le same.symm shorter
    exact Or.inr ⟨other, more ++ rest, last, by simp, rfl, otherBound⟩

/-- The same stands at a span in two texts that agree up to its end. -/
theorem AgreeUpTo.live?_eq {left right : List Char} {occurrence : Occurrence}
    (agree : AgreeUpTo occurrence.stop left right) :
    live? left occurrence = live? right occurrence := by
  rcases agree with rfl | ⟨shared, leftRest, rightRest, rfl, rfl, bound⟩
  · rfl
  · rw [live?_append_of_le bound, live?_append_of_le bound]

theorem holds_congr {left right : List Char} {occurrence : Occurrence}
    (agree : AgreeUpTo occurrence.stop left right) :
    holds left occurrence = holds right occurrence := by
  rw [holds, holds, agree.live?_eq]

theorem newName?_congr (mapping : Mapping) {left right : List Char} {occurrence : Occurrence}
    (agree : AgreeUpTo occurrence.stop left right) :
    newName? mapping left occurrence = newName? mapping right occurrence := by
  rw [newName?, newName?, agree.live?_eq]

theorem AgreeUpTo.le_byteLength {limit : Nat} {left right : List Char}
    (agree : AgreeUpTo limit left right) (inRange : limit ≤ byteLength right) :
    limit ≤ byteLength left := by
  rcases agree with rfl | ⟨shared, leftRest, rightRest, rfl, rfl, bound⟩
  · exact inRange
  · rw [Text.byteLength_append]
    omega

/-- A splice changes nothing to the left of its start. -/
theorem Splice.Fits.agreeUpTo {splice : Splice} {text : List Char} {limit : Nat}
    (fits : splice.Fits text) (left : limit ≤ splice.start) :
    AgreeUpTo limit (splice.applyTo text) text := by
  obtain ⟨start, stop, new⟩ := splice
  obtain ⟨before, inside, after, rfl, rfl, rfl⟩ := fits
  rw [applyTo_append, List.append_assoc, List.append_assoc]
  exact Or.inr ⟨before, new ++ after, inside ++ after, rfl, rfl, left⟩

/-! ## Stages -/

/-- What a run has before it when it examines an occurrence. -/
structure Stage where
  occurrence : Occurrence
  pending : List Occurrence
  text : List Char
  /-- The splices of earlier stages, in their order. -/
  made : List Splice

def stagesFrom (mapping : Mapping) (anchors : Anchors) :
    List Occurrence → List Char → List Splice → List Stage
  | [], _, _ => []
  | occurrence :: pending, text, made =>
    ⟨occurrence, pending, text, made⟩ ::
      match splice? mapping anchors occurrence pending text with
      | some splice =>
        stagesFrom mapping anchors pending (splice.applyTo text) (made ++ [splice])
      | none => stagesFrom mapping anchors pending text made

def stages (mapping : Mapping) (anchors : Anchors) (occurrences : List Occurrence)
    (text : List Char) : List Stage :=
  stagesFrom mapping anchors occurrences text []

/-- The splice that a stage makes. -/
def Stage.splice? (mapping : Mapping) (anchors : Anchors) (stage : Stage) : Option Splice :=
  Rename.splice? mapping anchors stage.occurrence stage.pending stage.text

section

variable {mapping : Mapping} {anchors : Anchors} {occurrences : List Occurrence}
  {text : List Char} {made : List Splice}

theorem occurrence_mem_of_mem_stagesFrom {stage : Stage}
    (member : stage ∈ stagesFrom mapping anchors occurrences text made) :
    stage.occurrence ∈ occurrences := by
  induction occurrences generalizing text made with
  | nil => simp [stagesFrom] at member
  | cons occurrence pending ih =>
      rcases List.mem_cons.mp member with rfl | later
      · exact List.mem_cons_self
      · refine List.mem_cons_of_mem _ ?_
        split at later
        · exact ih later
        · exact ih later

theorem exists_mem_stagesFrom (mapping : Mapping) (anchors : Anchors) (text : List Char)
    (made : List Splice) {occurrence : Occurrence} (member : occurrence ∈ occurrences) :
    ∃ stage ∈ stagesFrom mapping anchors occurrences text made,
      stage.occurrence = occurrence := by
  induction occurrences generalizing text made with
  | nil => simp at member
  | cons first pending ih =>
      rcases List.mem_cons.mp member with rfl | later
      · exact ⟨_, List.mem_cons_self, rfl⟩
      · rw [stagesFrom]
        split
        all_goals
          obtain ⟨stage, found, same⟩ := ih _ _ later
          exact ⟨stage, List.mem_cons_of_mem _ found, same⟩

/-- When an occurrence is examined, the text is the source up to the end of its span, if the spans
examined before lie to the right of it. -/
theorem agreeUpTo_of_mem_stagesFrom {occurrence : Occurrence} {source : List Char}
    {stage : Stage}
    (behind : occurrences.Pairwise fun earlier later =>
      later = occurrence → occurrence.stop ≤ earlier.start)
    (agree : AgreeUpTo occurrence.stop text source)
    (member : stage ∈ stagesFrom mapping anchors occurrences text made)
    (examined : stage.occurrence = occurrence) :
    AgreeUpTo occurrence.stop stage.text source := by
  induction occurrences generalizing text made with
  | nil => simp [stagesFrom] at member
  | cons first pending ih =>
      obtain ⟨fromFirst, behindRest⟩ := List.pairwise_cons.mp behind
      rcases List.mem_cons.mp member with rfl | later
      · exact agree
      split at later
      case h_1 splice found =>
        have makes := splice?_eq_some_iff.mp found
        have left : occurrence.stop ≤ splice.start := by
          have waits : occurrence ∈ pending :=
            examined ▸ occurrence_mem_of_mem_stagesFrom later
          rcases makes.start_eq_or with atFirst | behindPending
          · rw [atFirst]
            exact fromFirst occurrence waits rfl
          · exact behindPending occurrence waits
        exact ih behindRest ((makes.fits.agreeUpTo left).trans agree) later
      case h_2 => exact ih behindRest agree later

theorem made_of_mem_stagesFrom {stage : Stage}
    (member : stage ∈ stagesFrom mapping anchors occurrences text made) :
    stage.made <+: made ++ splices mapping anchors occurrences text := by
  induction occurrences generalizing text made with
  | nil => simp [stagesFrom] at member
  | cons occurrence pending ih =>
      rw [splices]
      rcases List.mem_cons.mp member with rfl | later
      · exact List.prefix_append _ _
      split at later
      case h_1 splice found => simpa [found] using ih later
      case h_2 found => simpa [found] using ih later

/-- A splice replaces something to the right of a limit. -/
def Splice.RightOf (splice : Splice) (limit : Nat) : Prop :=
  limit ≤ splice.start ∧ splice.start ≤ splice.stop

/-- Where spans do not overlap, the splices made before a stage lie to the right of its span. -/
theorem rightOf_of_mem_made {stage : Stage} {splice : Splice}
    (leftward : occurrences.Pairwise fun earlier later => later.stop ≤ earlier.start)
    (behind : ∀ splice ∈ made, ∀ occurrence ∈ occurrences, splice.RightOf occurrence.stop)
    (member : stage ∈ stagesFrom mapping anchors occurrences text made)
    (before : splice ∈ stage.made) : splice.RightOf stage.occurrence.stop := by
  induction occurrences generalizing text made with
  | nil => simp [stagesFrom] at member
  | cons first pending ih =>
      obtain ⟨leftOf, leftwardRest⟩ := List.pairwise_cons.mp leftward
      have behindRest : ∀ splice ∈ made, ∀ occurrence ∈ pending,
          splice.RightOf occurrence.stop :=
        fun splice known occurrence waits =>
          behind splice known occurrence (List.mem_cons_of_mem _ waits)
      rcases List.mem_cons.mp member with rfl | later
      · exact behind splice before first List.mem_cons_self
      split at later
      case h_1 newest found =>
        refine ih leftwardRest ?_ later
        intro splice known occurrence waits
        rcases List.mem_append.mp known with old | new
        · exact behindRest splice old occurrence waits
        · obtain rfl := List.mem_singleton.mp new
          have makes := splice?_eq_some_iff.mp found
          refine ⟨?_, makes.fits.start_le_stop⟩
          rcases makes.start_eq_or with atFirst | behindPending
          · exact atFirst ▸ leftOf occurrence waits
          · exact behindPending occurrence waits
      case h_2 => exact ih leftwardRest behindRest later

end

end SqlTables.Rename
