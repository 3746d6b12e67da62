import SqlTables.Sql.Lexer

/-!
# What a step of the lexer leaves

Every reader of the lexer goes forward only: what it leaves to be read is a suffix of the text it
was given. `ReadsIn` and `ScansIn` say that whatever a reader leaves lies in a limit; each reader
keeps to every limit that its own text lies in. A step of the lexer moreover reads at least one
character, so it keeps to what follows its first one.
-/

namespace SqlTables.Sql

open Text (Position)

/-! ## Limits -/

section

variable {α ε : Type} {limit : List Char}

/-- A reader that may find nothing leaves a suffix of a limit. -/
def ReadsIn (limit : List Char) (read : Option (α × Cursor)) : Prop :=
  ∀ value behind, read = some (value, behind) → behind.rest <:+ limit

/-- A reader that may fail leaves a suffix of a limit. -/
def ScansIn (limit : List Char) (scan : Except ε (α × Cursor)) : Prop :=
  ∀ value behind, scan = .ok (value, behind) → behind.rest <:+ limit

@[simp]
theorem readsIn_none : ReadsIn limit (none : Option (α × Cursor)) :=
  nofun

@[simp]
theorem readsIn_some {value : α} {cursor : Cursor} :
    ReadsIn limit (some (value, cursor)) ↔ cursor.rest <:+ limit := by
  simp [ReadsIn]

@[simp]
theorem readsIn_map {β : Type} (change : α → β) {read : Option (α × Cursor)} :
    ReadsIn limit (read.map fun found => (change found.1, found.2)) ↔ ReadsIn limit read := by
  cases read with
  | none => simp
  | some found =>
      obtain ⟨value, behind⟩ := found
      simp

@[simp]
theorem readsIn_map_consRead {c : Char} {read : Option (List Char × Cursor)} :
    ReadsIn limit (read.map (consRead c)) ↔ ReadsIn limit read :=
  readsIn_map (c :: ·)

@[simp]
theorem scansIn_error {error : ε} : ScansIn limit (.error error : Except ε (α × Cursor)) :=
  nofun

@[simp]
theorem scansIn_ok {value : α} {cursor : Cursor} :
    ScansIn limit (.ok (value, cursor) : Except ε (α × Cursor)) ↔ cursor.rest <:+ limit := by
  simp [ScansIn]

theorem ReadsIn.bind {β : Type} {read : Option (α × Cursor)}
    {next : α × Cursor → Option (β × Cursor)} (first : ReadsIn limit read)
    (second : ∀ value behind, behind.rest <:+ limit → ReadsIn limit (next (value, behind))) :
    ReadsIn limit (read >>= next) := by
  cases read with
  | none => exact readsIn_none
  | some found => exact second found.1 found.2 (first _ _ rfl)

theorem ScansIn.bind {β : Type} {scan : Except ε (α × Cursor)}
    {next : α × Cursor → Except ε (β × Cursor)} (first : ScansIn limit scan)
    (second : ∀ value behind, behind.rest <:+ limit → ScansIn limit (next (value, behind))) :
    ScansIn limit (scan >>= next) := by
  cases scan with
  | error => exact scansIn_error
  | ok result => exact second result.1 result.2 (first _ _ rfl)

theorem scansIn_ite {condition : Prop} [Decidable condition]
    {first second : Except ε (α × Cursor)} (yes : condition → ScansIn limit first)
    (no : ScansIn limit second) : ScansIn limit (if condition then first else second) := by
  split
  case isTrue holds => exact yes holds
  case isFalse => exact no

theorem suffix_of_cons {c : Char} {rest : List Char} (within : c :: rest <:+ limit) :
    rest <:+ limit :=
  (List.suffix_cons c rest).trans within

end

/-! ## Cursors -/

namespace Cursor

variable {cursor : Cursor} {limit : List Char}

theorem skip_suffix (within : cursor.rest <:+ limit) : cursor.skip.rest <:+ limit := by
  unfold skip
  split
  case h_1 => exact within
  case h_2 c rest more => exact suffix_of_cons (more ▸ within)

theorem skipMany_suffix (count : Nat) (within : cursor.rest <:+ limit) :
    (skipMany count cursor).rest <:+ limit := by
  induction count generalizing cursor with
  | zero => exact within
  | succ count ih => exact ih (skip_suffix within)

theorem spanFrom_suffix (inClass : Char → Bool) {text : List Char} {position : Position}
    (within : text <:+ limit) : (spanFrom inClass text position).2.rest <:+ limit := by
  induction text generalizing position with
  | nil => exact within
  | cons c rest ih =>
      unfold spanFrom
      split
      case isTrue => exact ih (suffix_of_cons within)
      case isFalse => exact within

theorem span_suffix (inClass : Char → Bool) (within : cursor.rest <:+ limit) :
    (cursor.span inClass).2.rest <:+ limit :=
  spanFrom_suffix inClass within

end Cursor

/-! ## Bodies of literals, identifiers and comments -/

section

variable {text seen limit : List Char} {position : Position} {cursor : Cursor}

theorem delimitedBody?_readsIn (close : Char) (within : text <:+ limit) :
    ReadsIn limit (delimitedBody? close text position) := by
  fun_induction delimitedBody? close text position
  case case1 | case3 => exact readsIn_none
  case case2 | case5 => exact readsIn_some.mpr (suffix_of_cons within)
  case case4 ih => exact readsIn_map_consRead.mpr (ih (suffix_of_cons (suffix_of_cons within)))
  case case6 ih => exact readsIn_map_consRead.mpr (ih (suffix_of_cons within))

theorem stringBody?_readsIn (escapes : Bool) (quote : Char) (within : text <:+ limit) :
    ReadsIn limit (stringBody? escapes quote text position) := by
  fun_induction stringBody? escapes quote text position
  case case1 | case3 => exact readsIn_none
  case case2 | case5 => exact readsIn_some.mpr (suffix_of_cons within)
  case case4 ih | case6 ih =>
    exact readsIn_map_consRead.mpr (ih (suffix_of_cons (suffix_of_cons within)))
  case case7 ih => exact readsIn_map_consRead.mpr (ih (suffix_of_cons within))

theorem tripleBody?_readsIn (escapes : Bool) (quote : Char) (run : Nat)
    (within : text <:+ limit) :
    ReadsIn limit (tripleBody? escapes quote run seen text position) := by
  fun_induction tripleBody? escapes quote run seen text position
  case case1 | case4 => exact readsIn_none
  case case2 => exact readsIn_some.mpr (suffix_of_cons within)
  case case3 ih | case6 ih => exact ih (suffix_of_cons within)
  case case5 ih => exact ih (suffix_of_cons (suffix_of_cons within))

theorem commentBody?_suffix (nests : Bool) (depth : Nat) {behind : Cursor}
    (within : text <:+ limit) (read : commentBody? nests depth text position = .ok behind) :
    behind.rest <:+ limit := by
  fun_induction commentBody? nests depth text position
  case case1 | case2 => cases read
  case case3 ih | case5 ih => exact ih (suffix_of_cons (suffix_of_cons within)) read
  case case4 =>
    cases read
    exact suffix_of_cons (suffix_of_cons within)
  case case6 ih => exact ih (suffix_of_cons within) read

theorem hexEscape_scansIn (count value : Nat) (within : cursor.rest <:+ limit) :
    ScansIn limit (hexEscape count value cursor) := by
  fun_induction hexEscape count value cursor
  case case1 => exact scansIn_ok.mpr within
  case case2 | case3 | case5 => exact scansIn_error
  case case4 ih => exact ih (Cursor.skip_suffix within)

theorem unicodeBody_scansIn (fuel : Nat) (within : cursor.rest <:+ limit) :
    ScansIn limit (unicodeBody fuel seen cursor) := by
  fun_induction unicodeBody fuel seen cursor
  case case1 | case2 => exact scansIn_error
  case case3 ih | case5 ih => exact ih (Cursor.skip_suffix (Cursor.skip_suffix within))
  case case4 => exact scansIn_ok.mpr (Cursor.skip_suffix within)
  case case6 ih =>
    exact (hexEscape_scansIn 6 0 (Cursor.skip_suffix (Cursor.skip_suffix within))).bind ih
  case case7 ih => exact (hexEscape_scansIn 4 0 (Cursor.skip_suffix within)).bind ih
  case case8 ih => exact ih (Cursor.skip_suffix within)

theorem digitRun_suffix (base count value : Nat) (within : cursor.rest <:+ limit) :
    (digitRun base count value cursor).2.rest <:+ limit := by
  fun_induction digitRun base count value cursor
  case case1 | case3 | case4 => exact within
  case case2 ih => exact ih (Cursor.skip_suffix within)

theorem fixedHex?_readsIn (count : Nat) (within : cursor.rest <:+ limit) :
    ReadsIn limit (fixedHex? count cursor) := by
  intro value behind read
  simp only [fixedHex?, Option.bind_eq_bind, Option.bind_eq_some_iff,
    Option.ite_none_right_eq_some, Option.some.injEq, Prod.mk.injEq] at read
  obtain ⟨code, -, -, -, rfl⟩ := read
  exact Cursor.skipMany_suffix count within

theorem escapedChar?_readsIn (c : Char) (within : cursor.rest <:+ limit) :
    ReadsIn limit (escapedChar? c cursor) := by
  have byte (value : Nat) {behind : Cursor} (left : behind.rest <:+ limit) :
      ReadsIn limit ((asciiByte? value).map fun value => (value, behind)) := by
    cases asciiByte? value with
    | none => exact readsIn_none
    | some value => exact readsIn_some.mpr left
  unfold escapedChar?
  split
  case h_6 => exact fixedHex?_readsIn 4 within
  case h_7 => exact fixedHex?_readsIn 8 within
  case h_8 =>
    split
    case isTrue => exact readsIn_some.mpr within
    case isFalse => exact byte _ (digitRun_suffix 16 2 0 within)
  case h_9 =>
    split
    case isTrue => exact byte _ (digitRun_suffix 8 2 _ within)
    case isFalse => exact readsIn_some.mpr within
  all_goals exact readsIn_some.mpr within

theorem escapedBody?_readsIn (fuel : Nat) (within : cursor.rest <:+ limit) :
    ReadsIn limit (escapedBody? fuel seen cursor) := by
  fun_induction escapedBody? fuel seen cursor
  case case1 | case2 | case5 => exact readsIn_none
  case case3 ih => exact ih (Cursor.skip_suffix (Cursor.skip_suffix within))
  case case4 => exact readsIn_some.mpr (Cursor.skip_suffix within)
  case case6 ih =>
    refine (escapedChar?_readsIn _ (Cursor.skip_suffix (Cursor.skip_suffix within))).bind ?_
    intro value behind left
    dsimp only
    split
    case isTrue => exact readsIn_none
    case isFalse => exact ih value behind left
  case case7 ih => exact ih (Cursor.skip_suffix within)

theorem dollarBody?_readsIn (afterDollar : Bool) (within : text <:+ limit) :
    ReadsIn limit (dollarBody? afterDollar text position) := by
  fun_induction dollarBody? afterDollar text position
  case case1 => exact readsIn_none
  case case2 => exact readsIn_some.mpr (suffix_of_cons within)
  case case3 ih =>
    exact (readsIn_map fun value => '$' :: _ :: value).mpr (ih (suffix_of_cons within))
  case case4 ih => exact ih (suffix_of_cons within)
  case case5 ih => exact readsIn_map_consRead.mpr (ih (suffix_of_cons within))

theorem taggedBody?_readsIn (tag : List Char) (within : text <:+ limit) :
    ReadsIn limit (taggedBody? tag seen text position) := by
  fun_induction taggedBody? tag seen text position
  case case1 => exact readsIn_none
  case case2 => exact readsIn_some.mpr (suffix_of_cons within)
  case case3 ih => exact ih (suffix_of_cons within)

end

/-! ## Tokens and blanks -/

section

variable {limit : List Char} {cursor : Cursor} {dialect : Dialect}

@[simp]
theorem scansIn_found {token : Token} :
    ScansIn limit (found token cursor) ↔ cursor.rest <:+ limit :=
  scansIn_ok

@[simp]
theorem scansIn_symbolAt {text : String} :
    ScansIn limit (symbolAt text cursor) ↔ cursor.rest <:+ limit :=
  scansIn_ok

@[simp]
theorem scansIn_blankAt {text : String} :
    ScansIn limit (blankAt text cursor) ↔ cursor.rest <:+ limit :=
  scansIn_ok

@[simp]
theorem scansIn_failAt {cause : LexCause} {position : Position} :
    ScansIn limit (failAt cause position) :=
  scansIn_error

theorem operatorAt_scansIn (text : String) (within : cursor.rest <:+ limit) :
    ScansIn limit (operatorAt dialect text cursor) := by
  have left := Cursor.span_suffix dialect.isOperatorPart within
  unfold operatorAt
  split
  case h_1 => exact scansIn_symbolAt.mpr within
  case h_2 more behind _ read =>
    rw [read] at left
    exact scansIn_found.mpr left

theorem wordAt_scansIn (start : List Char) (within : cursor.rest <:+ limit) :
    ScansIn limit (wordAt dialect start cursor) :=
  scansIn_found.mpr (Cursor.span_suffix dialect.isWordPart within)

theorem stringAt_scansIn (style : LiteralStyle) (escapes : Bool) (quote : Char)
    (within : cursor.skip.rest <:+ limit) :
    ScansIn limit (stringAt style escapes quote cursor) := by
  unfold stringAt
  dsimp only
  split
  case h_1 value behind read =>
    exact scansIn_found.mpr (stringBody?_readsIn escapes quote within _ _ read)
  case h_2 => exact scansIn_failAt

theorem tripleStringAt_scansIn (style tripleStyle : LiteralStyle) (escapes : Bool) (quote : Char)
    (within : cursor.skip.rest <:+ limit) :
    ScansIn limit (tripleStringAt style tripleStyle escapes quote cursor) := by
  have third := Cursor.skip_suffix within
  unfold tripleStringAt
  dsimp only
  split
  case isTrue =>
    split
    case isTrue =>
      split
      case h_1 value behind read =>
        exact scansIn_found.mpr
          (tripleBody?_readsIn escapes quote 0 (Cursor.skip_suffix third) _ _ read)
      case h_2 => exact scansIn_failAt
    case isFalse => exact scansIn_found.mpr third
  case isFalse =>
    split
    case h_1 value behind read =>
      exact scansIn_found.mpr (stringBody?_readsIn escapes quote within _ _ read)
    case h_2 => exact scansIn_failAt

theorem quotedWordAt_scansIn (quote : Char) (within : cursor.skip.rest <:+ limit) :
    ScansIn limit (quotedWordAt quote cursor) := by
  unfold quotedWordAt
  dsimp only
  split
  case h_1 value behind read =>
    exact scansIn_found.mpr (delimitedBody?_readsIn _ within _ _ read)
  case h_2 => exact scansIn_failAt

theorem nestedWordAt_scansIn (inner : Char) (within : cursor.skip.rest <:+ limit) :
    ScansIn limit (nestedWordAt inner cursor) := by
  have opening := Cursor.span_suffix Text.isBlank within
  unfold nestedWordAt
  dsimp only
  split
  case isTrue =>
    split
    case h_1 value behind read =>
      have closing := Cursor.span_suffix Text.isBlank
        (delimitedBody?_readsIn inner (Cursor.skip_suffix opening) _ _ read)
      split
      case isTrue => exact scansIn_found.mpr (Cursor.skip_suffix closing)
      case isFalse => exact scansIn_failAt
    case h_2 => exact scansIn_failAt
  case isFalse => exact scansIn_failAt

/-! ## Numbers -/

theorem exponentAt_suffix (within : cursor.rest <:+ limit) :
    (exponentAt cursor).2.rest <:+ limit := by
  have digits (mark : List Char) {behind : Cursor} (left : behind.rest <:+ limit) :
      (if (behind.peek?.map Char.isDigit).getD false then
        (mark ++ (behind.span Char.isDigit).1, (behind.span Char.isDigit).2)
      else ([], cursor)).2.rest <:+ limit := by
    split
    case isTrue => exact Cursor.span_suffix Char.isDigit left
    case isFalse => exact within
  have behind := Cursor.skip_suffix within
  unfold exponentAt
  split
  case h_1 e rest starts =>
    split
    case isTrue =>
      cases rest with
      | nil => exact digits [e] behind
      | cons s tail =>
          cases sign : s == '+' || s == '-' with
          | true => simpa [sign] using digits [e, s] (Cursor.skip_suffix behind)
          | false => simpa [sign] using digits [e] behind
    case isFalse => exact within
  case h_2 => exact within

theorem digitsAt_scansIn (digits : List Char) (within : cursor.rest <:+ limit) :
    ScansIn limit (digitsAt dialect digits cursor) := by
  have behindNumber : (if cursor.peek? = some 'L' then cursor.skip else cursor).rest <:+ limit := by
    split
    case isTrue => exact Cursor.skip_suffix within
    case isFalse => exact within
  have behindWord : (if dialect.hasNumericStart && !(cursor.peek?.map isExponentMark).getD false
      then cursor.span dialect.isWordPart else ([], cursor)).2.rest <:+ limit := by
    split
    case isTrue => exact Cursor.span_suffix dialect.isWordPart within
    case isFalse => exact within
  unfold digitsAt
  dsimp only
  generalize (if dialect.hasNumericStart && !(cursor.peek?.map isExponentMark).getD false
    then cursor.span dialect.isWordPart else ([], cursor)) = word at behindWord ⊢
  cases word.1.isEmpty with
  | true => exact scansIn_found.mpr behindNumber
  | false => exact scansIn_found.mpr behindWord

/-- What is left behind digits, of which there is at least one, or behind a period. -/
theorem span_digits_suffix {c : Char} {more : List Char} (starts : cursor.rest = c :: more)
    (numeric : c.isDigit = true ∨ c = '.') (within : more <:+ limit) :
    (cursor.span Char.isDigit).2.skip.rest <:+ limit ∧
      (if (cursor.span Char.isDigit).2.peek? = some '.' then
        ((cursor.span Char.isDigit).1 ++ ['.'], (cursor.span Char.isDigit).2.skip)
      else ((cursor.span Char.isDigit).1, (cursor.span Char.isDigit).2)).2.rest <:+ limit := by
  rcases numeric with digit | rfl
  · have left : (cursor.span Char.isDigit).2.rest <:+ limit := by
      rw [Cursor.span, starts, Cursor.spanFrom, if_pos digit]
      exact Cursor.spanFrom_suffix Char.isDigit within
    refine ⟨Cursor.skip_suffix left, ?_⟩
    split
    case isTrue => exact Cursor.skip_suffix left
    case isFalse => exact left
  · have none : cursor.span Char.isDigit = ([], cursor) := by
      obtain ⟨rest, position⟩ := cursor
      obtain rfl : rest = '.' :: more := starts
      rfl
    have behind : cursor.skip.rest = more := by rw [Cursor.skip, starts]
    have point : cursor.peek? = some '.' := by rw [Cursor.peek?, starts]; rfl
    rw [none]
    simp only [point, ↓reduceIte, behind]
    exact ⟨within, within⟩

theorem numberAt_scansIn {c : Char} {more : List Char} (starts : cursor.rest = c :: more)
    (numeric : c.isDigit = true ∨ c = '.') (within : more <:+ limit) :
    ScansIn limit (numberAt dialect cursor) := by
  obtain ⟨behindWhole, behindPoint⟩ := span_digits_suffix starts numeric within
  unfold numberAt
  dsimp only
  generalize (if (cursor.span Char.isDigit).2.peek? = some '.' then
    ((cursor.span Char.isDigit).1 ++ ['.'], (cursor.span Char.isDigit).2.skip)
    else ((cursor.span Char.isDigit).1, (cursor.span Char.isDigit).2)) = point at behindPoint ⊢
  split
  case isTrue => exact scansIn_found.mpr (Cursor.span_suffix _ behindWhole)
  case isFalse =>
    have behindFraction := Cursor.span_suffix Char.isDigit behindPoint
    split
    case isTrue => exact scansIn_symbolAt.mpr behindFraction
    case isFalse =>
      have behindExponent := exponentAt_suffix behindFraction
      split
      case h_1 => exact digitsAt_scansIn _ behindFraction
      case h_2 exponent behind _ read =>
        rw [read] at behindExponent
        refine scansIn_found.mpr ?_
        split
        case isTrue => exact Cursor.skip_suffix behindExponent
        case isFalse => exact behindExponent

/-! ## Comments and other pieces -/

theorem lineCommentAt_scansIn (mark : String) (within : cursor.rest <:+ limit) :
    ScansIn limit (lineCommentAt dialect mark cursor) :=
  scansIn_blankAt.mpr (Cursor.skip_suffix (Cursor.span_suffix _ within))

theorem blockCommentAt_scansIn (within : cursor.rest <:+ limit) :
    ScansIn limit (blockCommentAt dialect cursor) := by
  unfold blockCommentAt
  split
  case h_1 behind read =>
    exact scansIn_blankAt.mpr (commentBody?_suffix dialect.nestsComments 1 within read)
  case h_2 => exact scansIn_failAt

theorem dollarAt_scansIn (within : cursor.rest <:+ limit) :
    ScansIn limit (dollarAt dialect cursor) := by
  unfold dollarAt
  dsimp only
  split
  case isTrue =>
    split
    case h_1 value behind read =>
      exact scansIn_found.mpr (dollarBody?_readsIn false (Cursor.skip_suffix within) _ _ read)
    case h_2 => exact scansIn_failAt
  case isFalse =>
    split
    case isTrue =>
      split
      case h_1 value behind read =>
        exact scansIn_found.mpr
          (taggedBody?_readsIn _ (Cursor.skip_suffix (Cursor.span_suffix _ within)) _ _ read)
      case h_2 => exact scansIn_failAt
    case isFalse => exact scansIn_found.mpr (Cursor.span_suffix _ within)

theorem introducedAt_scansIn (letter : Char) (start : Cursor) (within : cursor.rest <:+ limit) :
    ScansIn limit (introducedAt dialect letter start cursor) := by
  have word : ScansIn limit (wordAt dialect [letter] cursor) := wordAt_scansIn _ within
  have behind := Cursor.skip_suffix within
  unfold introducedAt
  dsimp only
  split
  case h_1 quote _ =>
    split
    case h_1 =>
      split
      case isTrue =>
        split
        case isTrue => exact tripleStringAt_scansIn _ _ _ _ behind
        case isFalse => exact stringAt_scansIn _ _ _ behind
      case isFalse => exact word
    case h_2 =>
      split
      case isTrue => exact tripleStringAt_scansIn _ _ _ _ behind
      case isFalse => exact word
    case h_3 | h_4 =>
      split
      case isTrue => exact stringAt_scansIn _ _ _ behind
      case isFalse => exact word
    case h_5 =>
      split
      case isTrue =>
        split
        case h_1 value after read =>
          exact scansIn_found.mpr (escapedBody?_readsIn _ behind _ _ read)
        case h_2 => exact scansIn_failAt
      case isFalse => exact word
    case h_6 => exact word
  case h_2 =>
    split
    case isTrue =>
      exact (unicodeBody_scansIn _ (Cursor.skip_suffix behind)).bind
        fun _ _ left => scansIn_found.mpr left
    case isFalse => exact word

theorem hashAt_scansIn (within : cursor.rest <:+ limit) :
    ScansIn limit (hashAt dialect cursor) := by
  have behind := Cursor.skip_suffix within
  unfold hashAt
  split
  case h_1 => exact operatorAt_scansIn _ behind
  case h_2 =>
    split
    case isTrue => exact operatorAt_scansIn _ (Cursor.skip_suffix behind)
    case isFalse => exact operatorAt_scansIn _ behind
  case h_3 => exact scansIn_symbolAt.mpr within
  case h_4 =>
    split
    case isTrue => exact wordAt_scansIn _ behind
    case isFalse => exact operatorAt_scansIn _ within
  case h_5 => exact operatorAt_scansIn _ within

theorem atSignAt_scansIn (within : cursor.rest <:+ limit) :
    ScansIn limit (atSignAt dialect cursor) := by
  have behind := Cursor.skip_suffix within
  have third := Cursor.skip_suffix behind
  unfold atSignAt
  split
  case h_1 | h_2 => exact scansIn_symbolAt.mpr behind
  case h_3 =>
    dsimp only
    split
    case h_1 | h_3 => exact scansIn_symbolAt.mpr behind
    case h_2 =>
      split
      case isTrue => exact wordAt_scansIn _ third
      case isFalse => exact scansIn_symbolAt.mpr behind
  case h_4 =>
    split
    case isTrue => exact scansIn_symbolAt.mpr within
    case isFalse =>
      split
      case isTrue => exact wordAt_scansIn _ behind
      case isFalse => exact scansIn_symbolAt.mpr within
  case h_5 => exact scansIn_symbolAt.mpr within

theorem bangAt_scansIn (within : cursor.rest <:+ limit) : ScansIn limit (bangAt cursor) := by
  unfold bangAt
  split
  all_goals simp only [scansIn_symbolAt]
  all_goals first
    | exact within
    | exact Cursor.skip_suffix within
    | exact Cursor.skipMany_suffix _ within

theorem operatorSymbol?_scansIn {c : Char} {scan : Scan} (within : cursor.rest <:+ limit)
    (operator : operatorSymbol? dialect c cursor = some scan) : ScansIn limit scan := by
  unfold operatorSymbol? at operator
  split at operator
  all_goals try split at operator
  all_goals try split at operator
  all_goals cases operator
  all_goals
    simp [operatorAt_scansIn, lineCommentAt_scansIn, blockCommentAt_scansIn, hashAt_scansIn,
      atSignAt_scansIn, bangAt_scansIn, Cursor.skip_suffix, Cursor.skipMany_suffix, within]

theorem questionAt_scansIn (within : cursor.rest <:+ limit) :
    ScansIn limit (questionAt dialect cursor) := by
  have behind := Cursor.skip_suffix within
  unfold questionAt
  split
  case isTrue =>
    split
    all_goals exact scansIn_symbolAt.mpr behind
  case isFalse => exact scansIn_found.mpr (Cursor.span_suffix _ within)

/-- A step of the lexer reads at least the character it starts with. -/
theorem scanPiece_suffix {c : Char} {more : List Char} {start behind : Cursor} {piece : Piece}
    (starts : start.rest = c :: more) (read : scanPiece dialect c start = .ok (piece, behind)) :
    behind.rest <:+ more := by
  have skipped : start.skip.rest = more := by rw [Cursor.skip, starts]
  have second : start.skip.rest <:+ more := skipped ▸ List.suffix_refl _
  have string (style triple : LiteralStyle) : ScansIn more
      (if dialect.hasTripleQuotes then
        tripleStringAt style triple dialect.escapesWithBackslash c start
      else stringAt style dialect.escapesWithBackslash c start) :=
    scansIn_ite (fun _ => tripleStringAt_scansIn _ _ _ _ second) (stringAt_scansIn _ _ _ second)
  have carriage : (if start.skip.peek? = some '\n' then start.skip.skip else start.skip).rest <:+
      more := by
    split
    case isTrue => exact Cursor.skip_suffix second
    case isFalse => exact second
  have step : ScansIn more (scanPiece dialect c start) := by
    unfold scanPiece
    refine scansIn_ite (fun _ => scansIn_blankAt.mpr second) ?_
    refine scansIn_ite (fun _ => scansIn_blankAt.mpr carriage) ?_
    refine scansIn_ite (fun _ => introducedAt_scansIn c start second) ?_
    refine scansIn_ite (fun _ => string _ _) ?_
    refine scansIn_ite (fun _ => string _ _) ?_
    refine scansIn_ite (fun _ => quotedWordAt_scansIn c second) ?_
    dsimp only
    split
    case h_1 inner _ => exact nestedWordAt_scansIn inner second
    case h_2 => exact quotedWordAt_scansIn c second
    case h_3 =>
      refine scansIn_ite (fun numeric => ?_) ?_
      · exact numberAt_scansIn starts (by simpa using numeric) (List.suffix_refl more)
      cases operator : operatorSymbol? dialect c start.skip with
      | some scan => exact operatorSymbol?_scansIn second operator
      | none =>
          refine scansIn_ite (fun _ => questionAt_scansIn second) ?_
          refine scansIn_ite (fun _ => wordAt_scansIn _ second) ?_
          refine scansIn_ite (fun _ => dollarAt_scansIn second) ?_
          exact scansIn_ite (fun _ => scansIn_blankAt.mpr second) (scansIn_found.mpr second)
  exact step piece behind read

end

end SqlTables.Sql
