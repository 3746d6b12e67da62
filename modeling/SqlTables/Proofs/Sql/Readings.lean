import SqlTables.Proofs.Sql.Scanning
import SqlTables.Proofs.Text.Cutting

/-!
# The pieces of a text

A reading is a piece of a text, as the lexer delimits it, together with what is written for it.
The readings of a text that can be lexed are the text cut into pieces without gaps, and their
tokens are those of the lexemes. Comments and string literals are protected: they are not SQL
that names tables, whatever they contain.
-/

namespace SqlTables.Sql

open Text (byteLength slice? Span)

/-- A piece of a text and what is written for it. -/
structure Reading where
  piece : Piece
  written : List Char

namespace Reading

def token? (reading : Reading) : Option Token :=
  match reading.piece with
  | .token token => some token
  | .blank _ => none

/-- Whether a reading is a comment: a blank that is not written as white space. -/
def isComment (reading : Reading) : Bool :=
  match reading.piece with
  | .blank _ => reading.written.head?.any fun c => !Text.isBlank c
  | .token _ => false

def isLiteral (reading : Reading) : Bool :=
  match reading.piece with
  | .token (.literal _ _) => true
  | _ => false

def isProtected (reading : Reading) : Bool :=
  reading.isComment || reading.isLiteral

end Reading

/-- The readings from a cursor on, up to a piece that cannot be read. -/
def readingsFrom (dialect : Dialect) : Nat → Cursor → List Reading
  | 0, _ => []
  | fuel + 1, cursor =>
    match cursor.rest with
    | [] => []
    | c :: _ =>
      match scanPiece dialect c cursor with
      | .error _ => []
      | .ok (piece, behind) =>
        ⟨piece, cursor.rest.take (cursor.rest.length - behind.rest.length)⟩ ::
          readingsFrom dialect fuel behind

def readings (dialect : Dialect) (text : List Char) : List Reading :=
  readingsFrom dialect (text.length + 1) (Cursor.start text)

/-- The spans of the protected ones among readings that begin at an offset. -/
def protectedFrom : Nat → List Reading → List Span
  | _, [] => []
  | offset, reading :: rest =>
    let behind := offset + byteLength reading.written
    if reading.isProtected then ⟨offset, behind⟩ :: protectedFrom behind rest
    else protectedFrom behind rest

def protectedSpans (dialect : Dialect) (text : List Char) : List Span :=
  protectedFrom 0 (readings dialect text)

/-! ## Readings and lexemes -/

/-- Lexing goes through the readings one by one: together they are the text that is lexed, and
their tokens are added to those seen before. The end of the text adds a token of its own if a
blank stands before it. -/
theorem lexFrom_readings {dialect : Dialect} {fuel : Nat} {blank : Option String}
    {seen lexemes : List Lexeme} {cursor : Cursor}
    (lexed : lexFrom dialect fuel blank seen cursor = .ok lexemes)
    (enough : cursor.rest.length < fuel) :
    (readingsFrom dialect fuel cursor).flatMap Reading.written = cursor.rest ∧
      ∃ tail, (tail = [] ∨ tail = [Token.finish]) ∧
        lexemes.map Lexeme.token = (seen.reverse.map Lexeme.token) ++
          (readingsFrom dialect fuel cursor).filterMap Reading.token? ++ tail := by
  induction fuel generalizing blank seen cursor with
  | zero => omega
  | succ fuel ih =>
      unfold lexFrom at lexed
      rw [readingsFrom]
      cases starts : cursor.rest with
      | nil =>
          rw [starts] at lexed
          cases blank with
          | none =>
              cases lexed
              exact ⟨rfl, [], Or.inl rfl, by simp⟩
          | some text =>
              cases lexed
              exact ⟨rfl, [.finish], Or.inr rfl, by simp [Lexeme.finish]⟩
      | cons c more =>
          simp only [starts] at lexed
          cases read : scanPiece dialect c cursor with
          | error error =>
              simp only [read, bind, Except.bind] at lexed
              cases lexed
          | ok result =>
              obtain ⟨piece, behind⟩ := result
              obtain ⟨taken, rfl⟩ := scanPiece_suffix starts read
              have shorter : behind.rest.length < fuel := by
                rw [starts] at enough
                simp only [List.length_cons, List.length_append] at enough
                omega
              have written : (c :: (taken ++ behind.rest)).take
                  ((c :: (taken ++ behind.rest)).length - behind.rest.length) = c :: taken := by
                rw [← List.cons_append, List.length_append, Nat.add_sub_cancel,
                  List.take_left]
              simp only [read, bind, Except.bind] at lexed
              simp only [read, written, List.flatMap_cons, List.filterMap_cons]
              cases piece with
              | blank text =>
                  obtain ⟨whole, tail, last, tokens⟩ := ih lexed shorter
                  exact ⟨by rw [whole, List.cons_append], tail, last, tokens⟩
              | token token =>
                  obtain ⟨whole, tail, last, tokens⟩ := ih lexed shorter
                  refine ⟨by rw [whole, List.cons_append], tail, last, ?_⟩
                  rw [tokens]
                  simp [Reading.token?, Lexeme.ofToken]

/-- The readings of a text that can be lexed are the text, and their tokens are its tokens. -/
theorem lex_readings {dialect : Dialect} {text : List Char} {lexemes : List Lexeme}
    (lexed : lex dialect text = .ok lexemes) :
    (readings dialect text).flatMap Reading.written = text ∧
      ∃ tail, (tail = [] ∨ tail = [Token.finish]) ∧
        lexemes.map Lexeme.token =
          (readings dialect text).filterMap Reading.token? ++ tail := by
  obtain ⟨whole, tail, last, tokens⟩ := lexFrom_readings lexed (Nat.lt_succ_self _)
  exact ⟨whole, tail, last, by simpa [readings] using tokens⟩

/-! ## Protected spans -/

/-- A protected span holds what is written for a protected reading. -/
theorem slice?_of_mem_protectedFrom {readings : List Reading} {before : List Char} {span : Span}
    (member : span ∈ protectedFrom (byteLength before) readings) :
    ∃ reading ∈ readings, reading.isProtected = true ∧
      slice? (before ++ readings.flatMap Reading.written) span.start span.stop =
        some reading.written := by
  induction readings generalizing before with
  | nil => simp [protectedFrom] at member
  | cons first rest ih =>
      have later (inRest : span ∈ protectedFrom (byteLength (before ++ first.written)) rest) :
          ∃ reading ∈ first :: rest, reading.isProtected = true ∧
            slice? (before ++ (first :: rest).flatMap Reading.written) span.start span.stop =
              some reading.written := by
        obtain ⟨reading, known, guarded, found⟩ := ih inRest
        refine ⟨reading, List.mem_cons_of_mem _ known, guarded, ?_⟩
        rwa [List.append_assoc] at found
      rw [protectedFrom] at member
      rw [Text.byteLength_append] at later
      cases guarded : first.isProtected with
      | false => exact later (by simpa [guarded] using member)
      | true =>
          simp only [guarded, ↓reduceIte, List.mem_cons] at member
          rcases member with rfl | inRest
          · refine ⟨first, List.mem_cons_self, guarded, Text.slice?_eq_some_iff.mpr ?_⟩
            exact ⟨before, rest.flatMap Reading.written, by simp, rfl, rfl⟩
          · exact later inRest

/-- A protected span of a text that can be lexed holds a comment or a string literal of it. -/
theorem slice?_of_mem_protectedSpans {dialect : Dialect} {text : List Char}
    {lexemes : List Lexeme} {span : Span} (lexed : lex dialect text = .ok lexemes)
    (member : span ∈ protectedSpans dialect text) :
    ∃ reading ∈ readings dialect text, reading.isProtected = true ∧
      slice? text span.start span.stop = some reading.written := by
  have inReadings : span ∈ protectedFrom (byteLength []) (readings dialect text) := member
  obtain ⟨reading, known, guarded, found⟩ := slice?_of_mem_protectedFrom inReadings
  rw [List.nil_append, (lex_readings lexed).1] at found
  exact ⟨reading, known, guarded, found⟩

end SqlTables.Sql
