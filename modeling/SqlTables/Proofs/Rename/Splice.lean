import SqlTables.Proofs.Rename.Matches
import SqlTables.Rename.Apply

/-!
# The splices of a run

Replacing an occurrence changes at most one stretch of the text. Here that stretch is made
explicit: `splice?` is the splice that an occurrence leads to, `splices` lists those of a whole
run, and the run is shown to do nothing but carry them out one after the other.
-/

namespace SqlTables.Rename

open Text (byteLength cutAt? cut? slice? Cut)

/-! ## One splice -/

/-- The bytes of a text from `start` up to `stop` are to be replaced. -/
structure Splice where
  start : Nat
  stop : Nat
  new : List Char
deriving DecidableEq, Repr

namespace Splice

/-- Carry out a splice. A text that cannot be cut at its ends stays as it is. -/
def applyTo (splice : Splice) (text : List Char) : List Char :=
  match cut? text splice.start splice.stop with
  | some cut => cut.fill splice.new
  | none => text

theorem applyTo_append (before inside after new : List Char) :
    applyTo ⟨byteLength before, byteLength before + byteLength inside, new⟩
      (before ++ inside ++ after) = before ++ new ++ after := by
  have cut : cut? (before ++ inside ++ after) (byteLength before)
      (byteLength before + byteLength inside) = some ⟨before, inside, after⟩ :=
    Text.cut?_eq_some_iff.mpr ⟨rfl, rfl, rfl⟩
  simp only [applyTo, cut, Cut.fill]

end Splice

/-! ## The splice at a span -/

/-- The text that stands at the span of an occurrence, as far as the text reaches. -/
def live? (text : List Char) (occurrence : Occurrence) : Option (List Char) :=
  slice? text occurrence.start (min occurrence.stop (byteLength text))

def holds (text : List Char) (occurrence : Occurrence) : Bool :=
  (live? text occurrence).any fun live => holdsName live occurrence.text

/-- The new name for an occurrence whose span holds its name. -/
def newName? (mapping : Mapping) (text : List Char) (occurrence : Occurrence) :
    Option (List Char) := do
  let live ← live? text occurrence
  if holdsName live occurrence.text then
    (resolve? mapping live occurrence.text).map String.toList
  else
    none

def spanSplice? (mapping : Mapping) (text : List Char) (occurrence : Occurrence) :
    Option Splice :=
  (newName? mapping text occurrence).map fun new =>
    ⟨occurrence.start, min occurrence.stop (byteLength text), new⟩

theorem holds_eq_true_iff {text : List Char} {occurrence : Occurrence} :
    holds text occurrence = true ↔
      ∃ live, live? text occurrence = some live ∧ holdsName live occurrence.text = true := by
  simp [holds, Option.any_eq_true]

theorem newName?_eq_some_iff {mapping : Mapping} {text new : List Char}
    {occurrence : Occurrence} :
    newName? mapping text occurrence = some new ↔
      ∃ live name, live? text occurrence = some live ∧
        holdsName live occurrence.text = true ∧
        resolve? mapping live occurrence.text = some name ∧ name.toList = new := by
  simp only [newName?, Option.bind_eq_bind, Option.bind_eq_some_iff]
  constructor
  · rintro ⟨live, found, named⟩
    split at named
    case isTrue guard =>
      obtain ⟨name, resolved, rfl⟩ := Option.map_eq_some_iff.mp named
      exact ⟨live, name, found, guard, resolved, rfl⟩
    case isFalse => cases named
  · rintro ⟨live, name, found, guard, resolved, rfl⟩
    exact ⟨live, found, by simp [guard, resolved]⟩

theorem holds_of_newName? {mapping : Mapping} {text new : List Char} {occurrence : Occurrence}
    (named : newName? mapping text occurrence = some new) : holds text occurrence = true := by
  obtain ⟨live, name, found, guard, -⟩ := newName?_eq_some_iff.mp named
  exact holds_eq_true_iff.mpr ⟨live, found, guard⟩

theorem newName?_cut {mapping : Mapping} {text new : List Char} {occurrence : Occurrence}
    (named : newName? mapping text occurrence = some new) :
    ∃ before inside after, text = before ++ inside ++ after ∧
      byteLength before = occurrence.start ∧
      byteLength before + byteLength inside = min occurrence.stop (byteLength text) := by
  obtain ⟨live, name, found, -⟩ := newName?_eq_some_iff.mp named
  obtain ⟨before, after, parts⟩ := Text.slice?_eq_some_iff.mp found
  exact ⟨before, live, after, parts⟩

/-- What stands at a span inside a prefix of a text does not depend on the rest of it. -/
theorem live?_append_of_le {text rest : List Char} {occurrence : Occurrence}
    (inside : occurrence.stop ≤ byteLength text) :
    live? (text ++ rest) occurrence = live? text occurrence := by
  have clamped : min occurrence.stop (byteLength (text ++ rest)) = occurrence.stop := by
    rw [Text.byteLength_append]
    omega
  rw [live?, live?, clamped, Nat.min_eq_left inside]
  exact Text.slice?_append_of_le inside

theorem newName?_append_of_le {mapping : Mapping} {text rest : List Char}
    {occurrence : Occurrence} (inside : occurrence.stop ≤ byteLength text) :
    newName? mapping (text ++ rest) occurrence = newName? mapping text occurrence := by
  rw [newName?, newName?, live?_append_of_le inside]

theorem holds_append_of_le {text rest : List Char} {occurrence : Occurrence}
    (inside : occurrence.stop ≤ byteLength text) :
    holds (text ++ rest) occurrence = holds text occurrence := by
  rw [holds, holds, live?_append_of_le inside]

/-! ## The splice behind an anchor -/

/-- Whether a name stands at an offset of a text and ends there. -/
def standsAt (text name : List Char) (offset : Nat) : Bool :=
  ((cutAt? text offset).bind fun parts => afterName? name parts.2).isSome

/-- The first place behind a phrase, inside a window, at which a name stands. -/
def Anchors.hitBehind? (phrase : String) (text name : List Char) (start stop : Nat) :
    Option Nat :=
  ((matchEnds (Text.splitBlanks phrase) text).filter fun offset =>
    start ≤ offset && offset < stop).find? (standsAt text name)

/-- The first place inside a window at which a name stands behind a phrase, for the first phrase
that has such a place. -/
def Anchors.hit? (anchors : Anchors) (text name : List Char) (start stop : Nat) : Option Nat :=
  if name.isEmpty then none
  else anchors.phrases.findSome? fun phrase => hitBehind? phrase text name start stop

/-- The entry of a mapping for a canonical name: under the name itself, else under the first key
that agrees with it in all but letter case. -/
def entryFor? (mapping : Mapping) (name : String) : Option (String × String) :=
  match mapping.get? name with
  | some replacement => some (name, replacement)
  | none => mapping.findIgnoringCase? name

/-- The place at which a name stands behind an anchor in the search window of an occurrence. -/
def windowHit? (anchors : Anchors) (occurrence : Occurrence) (pending : List Occurrence)
    (text : List Char) (name : String) : Option Nat :=
  anchors.hit? text name.toList (searchWindow anchors occurrence pending).1
    (searchWindow anchors occurrence pending).2

def anchoredSplice? (mapping : Mapping) (anchors : Anchors) (occurrence : Occurrence)
    (pending : List Occurrence) (text : List Char) : Option Splice := do
  let (key, replacement) ← entryFor? mapping occurrence.text
  let search (name : String) : Option Splice :=
    (windowHit? anchors occurrence pending text name).map fun offset =>
      ⟨offset, offset + byteLength name.toList, replacement.toList⟩
  search occurrence.text <|> if key = occurrence.text then none else search key

/-- A name is at the front of a text and ends there exactly if the text is the name followed by
something that does not continue it. -/
theorem afterName?_eq_some_iff {name text after : List Char} :
    afterName? name text = some after ↔
      text = name ++ after ∧ ∀ c ∈ after.head?, continuesName c = false := by
  induction name generalizing text with
  | nil =>
      cases text with
      | nil =>
          simp only [afterName?, Option.some.injEq, List.nil_append]
          constructor
          · rintro rfl
            simp
          · rintro ⟨rfl, -⟩
            rfl
      | cons c rest =>
          simp only [afterName?, List.nil_append, Option.ite_none_left_eq_some,
            Bool.not_eq_true, Option.some.injEq]
          constructor
          · rintro ⟨stops, rfl⟩
            simpa using stops
          · rintro ⟨rfl, stops⟩
            exact ⟨stops c (by simp), rfl⟩
  | cons letter name ih =>
      cases text with
      | nil => simp [afterName?]
      | cons c rest =>
          simp only [afterName?, Option.ite_none_right_eq_some, ih, List.cons_append,
            List.cons.injEq]
          constructor
          · rintro ⟨rfl, rfl, stops⟩
            exact ⟨⟨rfl, rfl⟩, stops⟩
          · rintro ⟨⟨rfl, rfl⟩, stops⟩
            exact ⟨rfl, rfl, stops⟩

theorem standsAt_eq_true_iff {text name : List Char} {offset : Nat} :
    standsAt text name offset = true ↔
      ∃ before after, text = before ++ name ++ after ∧ byteLength before = offset ∧
        ∀ c ∈ after.head?, continuesName c = false := by
  simp only [standsAt, Option.isSome_iff_exists, Option.bind_eq_some_iff, Prod.exists,
    Text.cutAt?_eq_some_iff, afterName?_eq_some_iff]
  constructor
  · rintro ⟨after, before, rest, ⟨rfl, length⟩, rfl, stops⟩
    exact ⟨before, after, by simp, length, stops⟩
  · rintro ⟨before, after, rfl, length, stops⟩
    exact ⟨after, before, name ++ after, ⟨by simp, length⟩, rfl, stops⟩

/-- Replacing a name where it stands is a splice; elsewhere nothing is replaced. -/
theorem replaceAt?_eq (text name replacement : List Char) (offset : Nat) :
    replaceAt? text name replacement offset =
      if standsAt text name offset then
        some (Splice.applyTo ⟨offset, offset + byteLength name, replacement⟩ text)
      else none := by
  split
  case isTrue stands =>
    obtain ⟨before, after, rfl, rfl, stops⟩ := standsAt_eq_true_iff.mp stands
    rw [Splice.applyTo_append]
    simp only [replaceAt?, List.append_assoc, Text.cutAt?_append, Option.bind_eq_bind,
      Option.bind_some, afterName?_eq_some_iff.mpr ⟨rfl, stops⟩, Option.pure_def]
  case isFalse absent =>
    cases cut : cutAt? text offset with
    | none => simp [replaceAt?, cut]
    | some parts =>
        have missing : afterName? name parts.2 = none := by
          simpa [standsAt, cut] using absent
        simp [replaceAt?, cut, missing]

/-- Looking for the first result is looking for the first place that has one. -/
theorem findSome?_ite {α β : Type} (places : List α) (fits : α → Bool) (result : α → β) :
    (places.findSome? fun place => if fits place then some (result place) else none) =
      (places.find? fits).map result := by
  induction places with
  | nil => rfl
  | cons place places ih =>
      cases found : fits place with
      | true => simp [found]
      | false => simpa [found] using ih

theorem Anchors.replaceBehind?_eq (phrase : String) (text name replacement : List Char)
    (start stop : Nat) :
    replaceBehind? phrase text name replacement start stop =
      (hitBehind? phrase text name start stop).map fun offset =>
        Splice.applyTo ⟨offset, offset + byteLength name, replacement⟩ text := by
  have steps : replaceAt? text name replacement = fun offset =>
      if standsAt text name offset then
        some (Splice.applyTo ⟨offset, offset + byteLength name, replacement⟩ text)
      else none := funext (replaceAt?_eq text name replacement)
  rw [replaceBehind?_eq_findSome?, hitBehind?, steps, findSome?_ite]

/-- The anchored search replaces the name at its first hit. -/
theorem Anchors.replaceFirst?_eq (anchors : Anchors) (text name replacement : List Char)
    (start stop : Nat) :
    anchors.replaceFirst? text name replacement start stop =
      (anchors.hit? text name start stop).map fun offset =>
        Splice.applyTo ⟨offset, offset + byteLength name, replacement⟩ text := by
  unfold replaceFirst? hit?
  split
  case isTrue => rfl
  case isFalse =>
    simp only [replaceBehind?_eq]
    rw [List.map_findSome?]
    rfl

/-- A hit lies in the window, and the name stands there. -/
theorem Anchors.hit?_spec {anchors : Anchors} {text name : List Char} {start stop offset : Nat}
    (hit : anchors.hit? text name start stop = some offset) :
    name ≠ [] ∧ start ≤ offset ∧ offset < stop ∧ standsAt text name offset = true := by
  unfold hit? at hit
  split at hit
  case isTrue => cases hit
  case isFalse named =>
    obtain ⟨phrase, -, found⟩ := List.exists_of_findSome?_eq_some hit
    have stands := List.find?_some found
    have window := List.mem_of_find?_eq_some found
    simp only [List.mem_filter, Bool.and_eq_true, decide_eq_true_eq] at window
    exact ⟨by simpa using named, window.2.1, window.2.2, stands⟩

/-- The anchored search is made with the entry of a name, under the name and then under the key. -/
theorem replaceAnchored?_eq_bind (mapping : Mapping) (anchors : Anchors) (occurrence : Occurrence)
    (pending : List Occurrence) (text : List Char) :
    replaceAnchored? mapping anchors occurrence pending text =
      (entryFor? mapping occurrence.text).bind fun entry =>
        let window := searchWindow anchors occurrence pending
        let search (name : String) :=
          anchors.replaceFirst? text name.toList entry.2.toList window.1 window.2
        search occurrence.text <|>
          if entry.1 = occurrence.text then none else search entry.1 := by
  unfold replaceAnchored? entryFor?
  cases mapping.get? occurrence.text <;> rfl

theorem replaceAnchored?_eq (mapping : Mapping) (anchors : Anchors) (occurrence : Occurrence)
    (pending : List Occurrence) (text : List Char) :
    replaceAnchored? mapping anchors occurrence pending text =
      (anchoredSplice? mapping anchors occurrence pending text).map fun splice =>
        splice.applyTo text := by
  have searches (name replacement : String) :
      anchors.replaceFirst? text name.toList replacement.toList
          (searchWindow anchors occurrence pending).1
          (searchWindow anchors occurrence pending).2 =
        (windowHit? anchors occurrence pending text name).map fun offset =>
          Splice.applyTo ⟨offset, offset + byteLength name.toList, replacement.toList⟩ text :=
    Anchors.replaceFirst?_eq anchors text name.toList replacement.toList _ _
  rw [replaceAnchored?_eq_bind, anchoredSplice?]
  cases entryFor? mapping occurrence.text with
  | none => rfl
  | some entry =>
      simp only [Option.bind_eq_bind, Option.bind_some, searches]
      cases windowHit? anchors occurrence pending text occurrence.text with
      | some offset => rfl
      | none =>
          by_cases same : entry.1 = occurrence.text
          · simp [same]
          · cases windowHit? anchors occurrence pending text entry.1 <;> simp [same]

/-! ## The splices of a run -/

/-- The splice that an occurrence leads to, given those that are still pending: at its span if
that holds its name, else behind an anchor if its kind allows that. -/
def splice? (mapping : Mapping) (anchors : Anchors) (occurrence : Occurrence)
    (pending : List Occurrence) (text : List Char) : Option Splice :=
  if holds text occurrence then
    spanSplice? mapping text occurrence
  else if occurrence.kind.allowsAnchors then
    anchoredSplice? mapping anchors occurrence pending text
  else
    none

/-- The splices that occurrences lead to one after the other, each in the text that those before
it have left. -/
def splices (mapping : Mapping) (anchors : Anchors) :
    List Occurrence → List Char → List Splice
  | [], _ => []
  | occurrence :: pending, text =>
    match splice? mapping anchors occurrence pending text with
    | some splice => splice :: splices mapping anchors pending (splice.applyTo text)
    | none => splices mapping anchors pending text

theorem replaceOne_eq (mapping : Mapping) (anchors : Anchors) (occurrence : Occurrence)
    (pending : List Occurrence) (text : List Char) :
    replaceOne mapping anchors occurrence pending text =
      (splice? mapping anchors occurrence pending text).elim text fun splice =>
        splice.applyTo text := by
  have anchored : (if occurrence.kind.allowsAnchors then
        (replaceAnchored? mapping anchors occurrence pending text).getD text
      else text) =
      (if occurrence.kind.allowsAnchors then
        anchoredSplice? mapping anchors occurrence pending text
      else none).elim text fun splice => splice.applyTo text := by
    split
    case isTrue =>
      rw [replaceAnchored?_eq]
      cases anchoredSplice? mapping anchors occurrence pending text <;> rfl
    case isFalse => rfl
  unfold replaceOne splice?
  simp only [anchored]
  cases cut : cut? text occurrence.start (min occurrence.stop (byteLength text)) with
  | none =>
      have stale : holds text occurrence = false := by simp [holds, live?, slice?, cut]
      simp [stale]
  | some cut' =>
      have found : live? text occurrence = some cut'.inside := by simp [live?, slice?, cut]
      cases guard : holdsName cut'.inside occurrence.text with
      | false =>
          have stale : holds text occurrence = false := by simp [holds, found, guard]
          simp [stale, guard]
      | true =>
          have fresh : holds text occurrence = true := by simp [holds, found, guard]
          cases resolved : resolve? mapping cut'.inside occurrence.text with
          | none => simp [fresh, spanSplice?, newName?, found, guard, resolved]
          | some name =>
              simp [fresh, spanSplice?, newName?, found, guard, resolved, Splice.applyTo, cut]

theorem replaceEach_eq_foldl (mapping : Mapping) (anchors : Anchors)
    (occurrences : List Occurrence) (text : List Char) :
    replaceEach mapping anchors occurrences text =
      (splices mapping anchors occurrences text).foldl (fun text splice => splice.applyTo text)
        text := by
  induction occurrences generalizing text with
  | nil => rfl
  | cons occurrence pending ih =>
      rw [replaceEach, ih, replaceOne_eq, splices]
      cases splice? mapping anchors occurrence pending text <;> rfl

theorem splices_of_isEmpty {mapping : Mapping} (empty : mapping.isEmpty = true)
    (anchors : Anchors) (occurrences : List Occurrence) (text : List Char) :
    splices mapping anchors occurrences text = [] := by
  have noEntries : mapping.entries = [] := List.isEmpty_iff.mp empty
  have unmade (occurrence : Occurrence) (pending : List Occurrence) :
      splice? mapping anchors occurrence pending text = none := by
    simp [splice?, spanSplice?, newName?, resolve?, anchoredSplice?, entryFor?, Mapping.get?,
      Mapping.findIgnoringCase?, noEntries]
  induction occurrences with
  | nil => rfl
  | cons occurrence pending ih => rw [splices, unmade, ih]

/-- Replacing occurrences is a run over them in order, also where the run is left out because
there is nothing to replace. -/
theorem apply_eq_ofList (mapping : Mapping) (anchors : Anchors) (occurrences : List Occurrence)
    (source : String) :
    apply mapping anchors occurrences source =
      String.ofList (replaceEach mapping anchors (inOrder occurrences) source.toList) := by
  unfold apply
  split
  case isTrue idle =>
    rcases Bool.or_eq_true_iff.mp idle with noEntries | noOccurrences
    · rw [replaceEach_eq_foldl, splices_of_isEmpty noEntries, List.foldl_nil,
        String.ofList_toList]
    · rw [List.isEmpty_iff.mp noOccurrences]
      simp [inOrder, dropRepeats, replaceEach]
  case isFalse => rfl

end SqlTables.Rename
