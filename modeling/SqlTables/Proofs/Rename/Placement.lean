import SqlTables.Proofs.Reference.History
import SqlTables.Proofs.Rename.Spelled
import SqlTables.Proofs.Text.Positions

/-!
# Names in one piece

A name is placed by its first part or by its last part, as its kind demands. The first part stands
where the name begins; from the last part the start is reached by the length of the parts before it.
Where the parts stand next to each other, with a dot between them, both ways lead to the same span,
and it holds the name. So do they for a name of one part inside delimiters.
-/

namespace SqlTables

open Text (Position byteLength)

/-! ## Parts behind each other -/

theorem Ident.offset?_of_position {ident : Ident} {before : List Char}
    (position : ident.position = .behind before) (after : List Char) :
    ident.offset? (before ++ after) = some (byteLength before) := by
  rw [offset?, place?, position, if_pos (Position.isKnown_behind before), Option.map_some,
    Text.offsetAt_behind]

namespace ObjectName

/-- The parts of a name stand behind a text, with a dot between them, and each has the position
where it stands. -/
def Located (before : List Char) : ObjectName → Prop
  | [] => True
  | ident :: rest =>
    ident.position = .behind before ∧ Located (before ++ ident.value.toList ++ ['.']) rest

theorem raw_cons_cons (first second : Ident) (rest : List Ident) :
    (raw (first :: second :: rest)).toList =
      first.value.toList ++ ['.'] ++ (raw (second :: rest)).toList := by
  simp [raw, String.intercalate_cons_cons]

/-- The last part stands behind the other parts and their dots. -/
theorem Located.exists_last {before : List Char} {first : Ident} {rest : List Ident}
    (located : Located before (first :: rest)) :
    ∃ front last, (first :: rest).getLast? = some last ∧
      (raw (first :: rest)).toList = front ++ last.value.toList ∧
      last.position = .behind (before ++ front) := by
  induction rest generalizing first before with
  | nil => exact ⟨[], first, rfl, by simp [raw], by simpa using located.1⟩
  | cons second rest ih =>
      obtain ⟨front, last, isLast, whole, position⟩ := ih located.2
      refine ⟨first.value.toList ++ ['.'] ++ front, last, ?_, ?_, ?_⟩
      · rw [List.getLast?_cons_cons, isLast]
      · rw [raw_cons_cons, whole, List.append_assoc _ front]
      · rw [position, List.append_assoc, List.append_assoc, List.append_assoc]

@[simp]
theorem raw_singleton (ident : Ident) : raw [ident] = ident.value := by
  simp [raw]

theorem isEmpty_canonical {name : ObjectName} (named : name.raw ≠ "") :
    name.canonical.isEmpty = false := by
  rw [← asciiLower_raw, Text.asciiLower]
  simpa using named

theorem bytes_canonical (name : ObjectName) : Text.bytes name.canonical = Text.bytes name.raw := by
  rw [← asciiLower_raw, Text.bytes_asciiLower]

theorem sameName_canonical (name : ObjectName) :
    Name.SameName name.raw.toList name.canonical := by
  rw [← asciiLower_raw]
  exact Name.sameName_asciiLower_iff.mpr rfl

end ObjectName

/-! ## Where a name starts -/

/-- A name that is placed at all starts where its first part stands, if the last part stands behind
it by the length of the qualifiers. -/
theorem References.startOf?_of_positions {kind : ReferenceKind} {name : ObjectName}
    {first last : Ident} {before front : List Char} (placed : kind.placement ≠ .nameOnly)
    (isFirst : name.head? = some first) (firstAt : first.position = .behind before)
    (isLast : name.getLast? = some last) (lastAt : last.position = .behind (before ++ front))
    (width : Text.bytes name.canonical = byteLength front + Text.bytes last.canonical)
    (after : List Char) :
    startOf? (before ++ front ++ after) kind name = some (byteLength before) := by
  unfold startOf?
  cases placement : kind.placement with
  | nameOnly => exact absurd placement placed
  | nodeLocation =>
      rw [isFirst, List.append_assoc]
      exact Ident.offset?_of_position firstAt (front ++ after)
  | lastIdentifier =>
      have fits : byteLength front ≤ byteLength (before ++ front) := by
        rw [Text.byteLength_append]
        omega
      simp only [isLast, Ident.offset?_of_position lastAt, Option.bind_eq_bind, Option.bind_some,
        width, Nat.add_sub_cancel, if_pos fits]
      rw [Text.byteLength_append, Nat.add_sub_cancel]

/-! ## What is recorded -/

namespace ObjectName

/-- Whatever was found before, a name is listed and recorded with a span, and the span holds it. -/
structure RecordedAt (source : List Char) (kind : ReferenceKind) (name : ObjectName)
    (start stop : Nat) : Prop where
  recorded : ∀ found : References, found.addName source kind name =
    { found with
      tables := found.tables.insert name.canonical
      occurrences := found.occurrences ++ [⟨name.canonical, start, stop, kind⟩] }
  held : Rename.holds source ⟨name.canonical, start, stop, kind⟩ = true

/-- A name that is spelled in one piece where it starts is recorded with what is written for it. -/
theorem recordedAt_of_spelling {kind : ReferenceKind} {name : ObjectName}
    {before written rest : List Char} (named : name.canonical.isEmpty = false)
    (starts : References.startOf? (before ++ written ++ rest) kind name = some (byteLength before))
    (spelling : Name.Spelling name.canonical written rest) :
    name.RecordedAt (before ++ written ++ rest) kind (byteLength before)
      (byteLength before + byteLength written) := by
  have spanned := spelling.spanAt?_eq before
  constructor
  · intro found
    have placed : name.occurrence? (before ++ written ++ rest) kind =
        some ⟨name.canonical, byteLength before, byteLength before + byteLength written, kind⟩ :=
      occurrence?_eq_some_iff.mpr ⟨starts, spanned, rfl, rfl⟩
    rw [References.addName_eq _ found named, placed, Option.toList_some]
  · exact (Rename.holds_iff_spelled_of_spanAt? spanned).mpr
      ⟨before, written, rest, rfl, rfl, spelling⟩

section

variable {kind : ReferenceKind} {before : List Char}

theorem Located.recordedAt {name : ObjectName} {c : Char} (located : name.Located before)
    (placed : kind.placement ≠ .nameOnly) (begins : name.raw.toList.head? = some c)
    (plain : Name.isQuoteChar c = false) (after : List Char) :
    name.RecordedAt (before ++ name.raw.toList ++ after) kind (byteLength before)
      (byteLength before + Text.bytes name.canonical) := by
  cases name with
  | nil => simp [raw] at begins
  | cons first rest =>
      obtain ⟨front, last, isLast, whole, lastAt⟩ := located.exists_last
      obtain ⟨more, written⟩ := List.head?_eq_some_iff.mp begins
      have named : raw (first :: rest) ≠ "" := by
        intro empty
        simp [empty] at begins
      have width : Text.bytes (canonical (first :: rest)) =
          byteLength front + Text.bytes last.canonical := by
        rw [bytes_canonical, Text.bytes, whole, Text.byteLength_append, Ident.canonical,
          Text.bytes_asciiLower, Text.bytes]
      have starts := References.startOf?_of_positions placed List.head?_cons located.1 isLast
        lastAt width (last.value.toList ++ after)
      rw [List.append_assoc before, ← List.append_assoc front, ← whole,
        ← List.append_assoc] at starts
      have spelling : Name.Spelling (canonical (first :: rest)) (raw (first :: rest)).toList
          after := by
        have same := sameName_canonical (first :: rest)
        rw [written] at same ⊢
        exact .bare plain same
      rw [bytes_canonical]
      exact recordedAt_of_spelling (isEmpty_canonical named) starts spelling

theorem recordedAt_delimited {ident : Ident} {opening closing : Char}
    (position : ident.position = .behind before) (placed : kind.placement ≠ .nameOnly)
    (pair : Name.closingQuote? opening = some closing) (named : ident.value ≠ "")
    (after : List Char) :
    RecordedAt (before ++ (opening :: ident.value.toList ++ [closing]) ++ after) kind [ident]
      (byteLength before) (byteLength before + Text.bytes ident.canonical + 2) := by
  have width : byteLength (opening :: ident.value.toList ++ [closing]) =
      Text.bytes ident.canonical + 2 := by
    rw [Name.byteLength_delimited pair, Ident.canonical, Text.bytes_asciiLower, Text.bytes]
  have starts := References.startOf?_of_positions placed (List.head?_cons : [ident].head? = _)
    position rfl (by rwa [List.append_nil]) (by simp)
    (opening :: ident.value.toList ++ [closing] ++ after)
  rw [List.append_nil, ← List.append_assoc] at starts
  have same : Name.SameName ident.value.toList (canonical [ident]) := by
    simpa using sameName_canonical [ident]
  rw [Nat.add_assoc, ← width]
  exact recordedAt_of_spelling (isEmpty_canonical (by simpa using named)) starts
    (.delimited pair same)

/-- Behind a text, a name without delimiters whose parts stand next to each other is recorded with
one and the same span by all kinds that are placed, be it by the first part or by the last, and the
span holds it. So is a name of one part between delimiters. -/
theorem recordedAt_of_contiguous (placed : kind.placement ≠ .nameOnly)
    (before after : List Char) :
    (∀ (name : ObjectName) (c : Char), name.Located before → name.raw.toList.head? = some c →
      Name.isQuoteChar c = false →
      name.RecordedAt (before ++ name.raw.toList ++ after) kind (byteLength before)
        (byteLength before + Text.bytes name.canonical)) ∧
    ∀ (ident : Ident) (opening closing : Char), Name.closingQuote? opening = some closing →
      ident.value ≠ "" → ident.position = .behind before →
      RecordedAt (before ++ (opening :: ident.value.toList ++ [closing]) ++ after) kind [ident]
        (byteLength before) (byteLength before + Text.bytes ident.canonical + 2) := by
  constructor
  · intro name c located begins plain
    exact located.recordedAt placed begins plain after
  · intro ident opening closing pair named position
    exact recordedAt_delimited position placed pair named after

/-- Both placements find the name behind a line feed and wide letters, and the delimited one behind
it. The reader gives the same spans to the same names. -/
theorem recordedAt_of_contiguous_wide :
    let sql := "-- ü\nUPDATE Größe.T SET x = (SELECT y FROM \"Ü B\")"
    let bare : ObjectName := [⟨"Größe", none, ⟨2, 8⟩⟩, ⟨"T", none, ⟨2, 14⟩⟩]
    let delimited : ObjectName := [⟨"Ü B", some '\x22', ⟨2, 39⟩⟩]
    bare.RecordedAt sql.toList .relation 13 22 ∧ bare.RecordedAt sql.toList .updateTarget 13 22 ∧
      delimited.RecordedAt sql.toList .relation 46 52 ∧
      delimited.RecordedAt sql.toList .updateTarget 46 52 ∧
      Renamer.default.references sql = .ok ⟨.ofList ["größe.t", "Ü b"], .empty,
        [⟨"größe.t", 13, 22, .updateTarget⟩, ⟨"Ü b", 46, 52, .relation⟩]⟩ := by
  intro sql bare delimited
  have atBare : ∀ kind : ReferenceKind, kind.placement ≠ .nameOnly →
      bare.RecordedAt sql.toList kind 13 22 := by
    intro kind placed
    have recorded := (recordedAt_of_contiguous placed "-- ü\nUPDATE ".toList
      " SET x = (SELECT y FROM \"Ü B\")".toList).1 bare 'G'
      ⟨by decide +kernel, by decide +kernel, trivial⟩ (by decide +kernel) rfl
    rwa [show "-- ü\nUPDATE ".toList ++ bare.raw.toList ++
        " SET x = (SELECT y FROM \"Ü B\")".toList = sql.toList by decide +kernel,
      show byteLength "-- ü\nUPDATE ".toList = 13 by decide +kernel,
      show Text.bytes bare.canonical = 9 by decide +kernel] at recorded
  have atDelimited : ∀ kind : ReferenceKind, kind.placement ≠ .nameOnly →
      delimited.RecordedAt sql.toList kind 46 52 := by
    intro kind placed
    have recorded := (recordedAt_of_contiguous placed
      "-- ü\nUPDATE Größe.T SET x = (SELECT y FROM ".toList [')']).2
      ⟨"Ü B", some '\x22', ⟨2, 39⟩⟩ '\x22' '\x22' rfl (by decide) (by decide +kernel)
    rwa [show "-- ü\nUPDATE Größe.T SET x = (SELECT y FROM ".toList ++
        ('\x22' :: "Ü B".toList ++ ['\x22']) ++ [')'] = sql.toList by decide +kernel,
      show byteLength "-- ü\nUPDATE Größe.T SET x = (SELECT y FROM ".toList = 46 by decide +kernel,
      show Text.bytes (Ident.canonical ⟨"Ü B", some '\x22', ⟨2, 39⟩⟩) = 4 by decide +kernel]
      at recorded
  exact ⟨atBare _ (by decide), atBare _ (by decide), atDelimited _ (by decide),
    atDelimited _ (by decide), by decide +kernel⟩

end

end ObjectName

end SqlTables
