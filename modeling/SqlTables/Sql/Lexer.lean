import SqlTables.Sql.Dialect
import SqlTables.Sql.Literal
import SqlTables.Sql.Token

/-!
# From text to tokens

`lex` splits a text into tokens. One step reads either a blank (white space or a comment) or a
token; which characters start what is decided by the dialect.
-/

namespace SqlTables.Sql

open Text (Position)

/-- What one step reads. -/
inductive Piece where
  /-- White space or a comment, as it is shown in messages. -/
  | blank (text : String)
  | token (token : Token)

abbrev Scan := Except LexError (Piece × Cursor)

def failAt (cause : LexCause) (position : Position) : Scan :=
  .error ⟨cause, position⟩

def found (token : Token) (cursor : Cursor) : Scan :=
  .ok (.token token, cursor)

def blankAt (text : String) (cursor : Cursor) : Scan :=
  .ok (.blank text, cursor)

def symbolAt (text : String) (cursor : Cursor) : Scan :=
  found (.symbol text) cursor

/-- A symbol, or the custom operator that it starts. -/
def operatorAt (dialect : Dialect) (text : String) (cursor : Cursor) : Scan :=
  match cursor.span dialect.isOperatorPart with
  | ([], _) => symbolAt text cursor
  | (more, behind) => found (.customOperator (text ++ String.ofList more)) behind

/-- A word that starts with characters already read. -/
def wordAt (dialect : Dialect) (start : List Char) (cursor : Cursor) : Scan :=
  let (more, behind) := cursor.span dialect.isWordPart
  found (.word (String.ofList (start ++ more)) none) behind

def stringAt (style : LiteralStyle) (escapes : Bool) (quote : Char) (cursor : Cursor) : Scan :=
  let inside := cursor.skip
  match stringBody? escapes quote inside.rest inside.position with
  | some (value, behind) => found (.literal style (String.ofList value)) behind
  | none => failAt .openString cursor.position

/-- A string literal between one or three quotes, the first of which is the next character.
Two quotes alone are the empty literal. -/
def tripleStringAt (style tripleStyle : LiteralStyle) (escapes : Bool) (quote : Char)
    (cursor : Cursor) : Scan :=
  let second := cursor.skip
  let third := second.skip
  if second.peek? = some quote then
    if third.peek? = some quote then
      let inside := third.skip
      match tripleBody? escapes quote 0 [] inside.rest inside.position with
      | some (value, behind) => found (.literal tripleStyle (String.ofList value)) behind
      | none => failAt .openString inside.position
    else
      found (.literal style "") third
  else
    match stringBody? escapes quote second.rest second.position with
    | some (value, behind) => found (.literal style (String.ofList value)) behind
    | none => failAt .openString second.position

def quotedWordAt (quote : Char) (cursor : Cursor) : Scan :=
  let close := matchingEndQuote quote
  let inside := cursor.skip
  match delimitedBody? close inside.rest inside.position with
  | some (value, behind) => found (.word (String.ofList value) (some quote)) behind
  | none => failAt (.openIdentifier close) cursor.position

/-- How an opening bracket delimits an identifier: around a quoted one, around a plain one, or
not at all. -/
def bracketQuotes? (dialect : Dialect) (cursor : Cursor) : Option (Option Char) :=
  if cursor.peek? = some '[' then
    match (cursor.skip.span Text.isBlank).2.peek? with
    | some c =>
      if c = doubleQuote then some (some c)
      else if dialect.isWordStart c then some none
      else none
    | none => none
  else
    none

/-- A quoted identifier inside brackets; its value keeps the inner quotes. -/
def nestedWordAt (inner : Char) (cursor : Cursor) : Scan :=
  let opening := (cursor.skip.span Text.isBlank).2
  if opening.peek? = some inner then
    let inside := opening.skip
    match delimitedBody? inner inside.rest inside.position with
    | some (value, behind) =>
      let closing := (behind.span Text.isBlank).2
      if closing.peek? = some ']' then
        found (.word (String.ofList (inner :: value ++ [inner])) (some '[')) closing.skip
      else
        failAt (.openIdentifier ']') cursor.position
    | none => failAt (.openIdentifier inner) opening.position
  else
    failAt (.missingInnerDelimiter inner) cursor.position

def isExponentMark (c : Char) : Bool :=
  c == 'e' || c == 'E'

/-- The exponent of a number: a mark, an optional sign and digits; nothing when no digit
follows. -/
def exponentAt (cursor : Cursor) : List Char × Cursor :=
  match cursor.rest with
  | e :: rest =>
    if isExponentMark e then
      let (mark, behind) :=
        match rest with
        | s :: _ => if s == '+' || s == '-' then ([e, s], cursor.skip.skip) else ([e], cursor.skip)
        | [] => ([e], cursor.skip)
      if (behind.peek?.map Char.isDigit).getD false then
        let (digits, after) := behind.span Char.isDigit
        (mark ++ digits, after)
      else
        ([], cursor)
    else
      ([], cursor)
  | [] => ([], cursor)

/-- What digits without an exponent start: a number, or a word if the dialect has words that
start with digits. -/
def digitsAt (dialect : Dialect) (digits : List Char) (cursor : Cursor) : Scan :=
  let (more, behindWord) :=
    if dialect.hasNumericStart && !(cursor.peek?.map isExponentMark).getD false then
      cursor.span dialect.isWordPart
    else
      ([], cursor)
  if more.isEmpty then
    let long := cursor.peek? = some 'L'
    found (.number (String.ofList digits) long) (if long then cursor.skip else cursor)
  else
    found (.word (String.ofList (digits ++ more)) none) behindWord

/-- A number, a period, or a word that starts with digits. -/
def numberAt (dialect : Dialect) (cursor : Cursor) : Scan :=
  let (whole, behindWhole) := cursor.span Char.isDigit
  if whole = ['0'] && behindWhole.peek? = some 'x' then
    let (digits, behind) := behindWhole.skip.span fun c => (hexDigit? c).isSome
    found (.literal .hex (String.ofList digits)) behind
  else
    let (whole, behindPoint) :=
      if behindWhole.peek? = some '.' then (whole ++ ['.'], behindWhole.skip)
      else (whole, behindWhole)
    let (fraction, behindFraction) := behindPoint.span Char.isDigit
    let digits := whole ++ fraction
    if digits = ['.'] then
      symbolAt "." behindFraction
    else
      match exponentAt behindFraction with
      | ([], _) => digitsAt dialect digits behindFraction
      | (exponent, behind) =>
        let long := behind.peek? = some 'L'
        found (.number (String.ofList (digits ++ exponent)) long)
          (if long then behind.skip else behind)

/-- A comment from its mark, which was read, up to the end of its line. -/
def lineCommentAt (dialect : Dialect) (mark : String) (cursor : Cursor) : Scan :=
  let ends (c : Char) := c == '\n' || (c == '\r' && dialect == .postgreSql)
  let (text, behind) := cursor.span fun c => !ends c
  blankAt (mark ++ String.ofList (text ++ behind.rest.take 1)) behind.skip

def blockCommentAt (dialect : Dialect) (cursor : Cursor) : Scan :=
  match commentBody? dialect.nestsComments 1 cursor.rest cursor.position with
  | .ok behind =>
    let text := cursor.rest.take (cursor.rest.length - behind.rest.length)
    blankAt ("/*" ++ String.ofList text) behind
  | .error position => failAt .openComment position

/-- What a dollar sign starts: a string literal between tags, or a placeholder. The cursor is
behind the dollar sign. -/
def dollarAt (dialect : Dialect) (cursor : Cursor) : Scan :=
  if cursor.peek? = some '$' && !dialect.hasDollarPlaceholders then
    let inside := cursor.skip
    match dollarBody? false inside.rest inside.position with
    | some (value, behind) => found (.literal (.dollar "") (String.ofList value)) behind
    | none => failAt .openDollarString (inside.span fun _ => true).2.position
  else
    let isTagPart (c : Char) :=
      Text.isAlphanumeric c || c == '_' || (c == '$' && dialect.hasDollarPlaceholders)
    let (tag, behindTag) := cursor.span isTagPart
    if behindTag.peek? = some '$' && !dialect.hasDollarPlaceholders then
      let inside := behindTag.skip
      match taggedBody? ('$' :: tag ++ ['$']) [] inside.rest inside.position with
      | some (value, behind) =>
        found (.literal (.dollar (String.ofList tag)) (String.ofList value)) behind
      | none => failAt .openTaggedString (inside.span fun _ => true).2.position
    else
      found (.placeholder ("$" ++ String.ofList tag)) behindTag

/-- What a letter that may introduce a literal starts: the literal if a quote follows, or a
word. The cursor is behind the letter. -/
def introducedAt (dialect : Dialect) (letter : Char) (start cursor : Cursor) : Scan :=
  let word := wordAt dialect [letter] cursor
  let quote? := cursor.peek?.filter fun c => c == singleQuote || c == doubleQuote
  match quote? with
  | some quote =>
    match letter.toLower with
    | 'b' =>
      if dialect.hasByteLiterals then
        let (style, triple) :=
          if quote == singleQuote then (LiteralStyle.byteSingle, LiteralStyle.byteTripleSingle)
          else (LiteralStyle.byteDouble, LiteralStyle.byteTripleDouble)
        if dialect.hasTripleQuotes then tripleStringAt style triple false quote cursor
        else stringAt style false quote cursor
      else word
    | 'r' =>
      if dialect.hasRawLiterals then
        let (style, triple) :=
          if quote == singleQuote then (LiteralStyle.rawSingle, LiteralStyle.rawTripleSingle)
          else (LiteralStyle.rawDouble, LiteralStyle.rawTripleDouble)
        tripleStringAt style triple false quote cursor
      else word
    | 'n' =>
      if quote == singleQuote then stringAt .national true quote cursor else word
    | 'x' =>
      if quote == singleQuote then stringAt .hex true quote cursor else word
    | 'e' =>
      if quote == singleQuote then
        match escapedBody? (cursor.rest.length + 1) [] cursor.skip with
        | some (value, behind) => found (.literal .escaped (String.ofList value)) behind
        | none => failAt .openEscapedString start.position
      else word
    | _ => word
  | none =>
    if letter.toLower = 'u' && dialect.hasUnicodeLiterals && cursor.peek? = some '&'
        && cursor.peekSecond? = some singleQuote then do
      let (value, behind) ← unicodeBody (cursor.rest.length + 1) [] cursor.skip.skip
      found (.literal .unicode (String.ofList value)) behind
    else word

def introducesLiteral (dialect : Dialect) (c : Char) : Bool :=
  match c.toLower with
  | 'n' | 'x' | 'e' => true
  | 'b' => dialect.hasByteLiterals
  | 'r' => dialect.hasRawLiterals
  | 'u' => dialect.hasUnicodeLiterals
  | _ => false

def hashAt (dialect : Dialect) (cursor : Cursor) : Scan :=
  match cursor.peek? with
  | some '-' => operatorAt dialect "#-" cursor.skip
  | some '>' =>
    if cursor.peekSecond? = some '>' then operatorAt dialect "#>>" cursor.skip.skip
    else operatorAt dialect "#>" cursor.skip
  | some ' ' => symbolAt "#" cursor
  | some c =>
    if dialect.isWordStart '#' then wordAt dialect ['#', c] cursor.skip
    else operatorAt dialect "#" cursor
  | none => operatorAt dialect "#" cursor

def atSignAt (dialect : Dialect) (cursor : Cursor) : Scan :=
  match cursor.peek? with
  | some '>' => symbolAt "@>" cursor.skip
  | some '?' => symbolAt "@?" cursor.skip
  | some '@' =>
    let behind := cursor.skip
    match behind.peek? with
    | some ' ' => symbolAt "@@" behind
    | some c =>
      if dialect.isWordStart '@' then wordAt dialect ['@', '@', c] behind.skip
      else symbolAt "@@" behind
    | none => symbolAt "@@" behind
  | some c =>
    if c == ' ' || c == singleQuote || c == doubleQuote || c == '\x60' then symbolAt "@" cursor
    else if dialect.isWordStart '@' then wordAt dialect ['@', c] cursor.skip
    else symbolAt "@" cursor
  | none => symbolAt "@" cursor

def bangAt (cursor : Cursor) : Scan :=
  match cursor.rest with
  | '=' :: _ => symbolAt "<>" cursor.skip
  | '!' :: _ => symbolAt "!!" cursor.skip
  | '~' :: '~' :: '*' :: _ => symbolAt "!~~*" (cursor.skipMany 3)
  | '~' :: '~' :: _ => symbolAt "!~~" (cursor.skipMany 2)
  | '~' :: '*' :: _ => symbolAt "!~*" (cursor.skipMany 2)
  | '~' :: _ => symbolAt "!~" cursor.skip
  | _ => symbolAt "!" cursor

/-- What one of the operator characters starts, given the cursor behind it. `none` for a
character that is none of them. -/
def operatorSymbol? (dialect : Dialect) (c : Char) (cursor : Cursor) : Option Scan :=
  match c, cursor.rest with
  | '(', _ | ')', _ | ',', _ | ';', _ | '\\', _ | '[', _ | ']', _ | '\x7b', _ | '\x7d', _
  | '+', _ | '*', _ => some (symbolAt (String.singleton c) cursor)
  | '-', '-' :: _ => some (lineCommentAt dialect "--" cursor.skip)
  | '-', '>' :: '>' :: _ => some (operatorAt dialect "->>" (cursor.skipMany 2))
  | '-', '>' :: _ => some (operatorAt dialect "->" cursor.skip)
  | '-', _ => some (operatorAt dialect "-" cursor)
  | '/', '*' :: _ => some (blockCommentAt dialect cursor.skip)
  | '/', '/' :: _ =>
    if dialect == .snowflake then some (lineCommentAt dialect "//" cursor.skip)
    else if dialect.among [.duckDb, .generic] then some (symbolAt "//" cursor.skip)
    else some (symbolAt "/" cursor)
  | '/', _ => some (symbolAt "/" cursor)
  | '%', d :: _ =>
    if Text.isBlank d then some (symbolAt "%" cursor) else some (operatorAt dialect "%" cursor)
  | '%', [] => some (operatorAt dialect "%" cursor)
  | '|', '/' :: _ => some (operatorAt dialect "|/" cursor.skip)
  | '|', '|' :: '/' :: _ => some (operatorAt dialect "||/" (cursor.skipMany 2))
  | '|', '|' :: _ => some (operatorAt dialect "||" cursor.skip)
  | '|', _ => some (operatorAt dialect "|" cursor)
  | '=', '>' :: _ => some (symbolAt "=>" cursor.skip)
  | '=', '=' :: _ => some (symbolAt "==" cursor.skip)
  | '=', _ => some (symbolAt "=" cursor)
  | '!', _ => some (bangAt cursor)
  | '<', '=' :: '>' :: _ => some (operatorAt dialect "<=>" (cursor.skipMany 2))
  | '<', '=' :: _ => some (operatorAt dialect "<=" cursor.skip)
  | '<', '>' :: _ => some (operatorAt dialect "<>" cursor.skip)
  | '<', '<' :: _ => some (operatorAt dialect "<<" cursor.skip)
  | '<', '@' :: _ => some (operatorAt dialect "<@" cursor.skip)
  | '<', _ => some (operatorAt dialect "<" cursor)
  | '>', '=' :: _ => some (operatorAt dialect ">=" cursor.skip)
  | '>', '>' :: _ => some (operatorAt dialect ">>" cursor.skip)
  | '>', _ => some (operatorAt dialect ">" cursor)
  | ':', ':' :: _ => some (symbolAt "::" cursor.skip)
  | ':', '=' :: _ => some (symbolAt ":=" cursor.skip)
  | ':', _ => some (symbolAt ":" cursor)
  | '&', '&' :: _ => some (operatorAt dialect "&&" cursor.skip)
  | '&', _ => some (operatorAt dialect "&" cursor)
  | '^', '@' :: _ => some (symbolAt "^@" cursor.skip)
  | '^', _ => some (symbolAt "^" cursor)
  | '~', '*' :: _ => some (operatorAt dialect "~*" cursor.skip)
  | '~', '~' :: '*' :: _ => some (operatorAt dialect "~~*" (cursor.skipMany 2))
  | '~', '~' :: _ => some (operatorAt dialect "~~" cursor.skip)
  | '~', _ => some (operatorAt dialect "~" cursor)
  | '#', _ =>
    if dialect.hashStartsComment then some (lineCommentAt dialect "#" cursor)
    else some (hashAt dialect cursor)
  | '@', _ => some (atSignAt dialect cursor)
  | _, _ => none

def questionAt (dialect : Dialect) (cursor : Cursor) : Scan :=
  if dialect == .postgreSql then
    match cursor.peek? with
    | some '|' => symbolAt "?|" cursor.skip
    | some '&' => symbolAt "?&" cursor.skip
    | _ => symbolAt "?" cursor.skip
  else
    let (digits, behind) := cursor.span Text.isNumeric
    found (.placeholder ("?" ++ String.ofList digits)) behind

def scanPiece (dialect : Dialect) (c : Char) (start : Cursor) : Scan :=
  let behind := start.skip
  if c == ' ' || c == '\t' || c == '\n' then
    blankAt (String.singleton c) behind
  else if c == '\r' then
    blankAt "\n" (if behind.peek? = some '\n' then behind.skip else behind)
  else if introducesLiteral dialect c then
    introducedAt dialect c start behind
  else if c == singleQuote then
    if dialect.hasTripleQuotes then
      tripleStringAt .single .tripleSingle dialect.escapesWithBackslash c start
    else
      stringAt .single dialect.escapesWithBackslash c start
  else if c == doubleQuote && !dialect.isQuoteStart c then
    if dialect.hasTripleQuotes then
      tripleStringAt .double .tripleDouble dialect.escapesWithBackslash c start
    else
      stringAt .double dialect.escapesWithBackslash c start
  else if dialect.isQuoteStart c then
    quotedWordAt c start
  else
    let bracket? := if dialect.nestsQuotes then bracketQuotes? dialect start else none
    match bracket? with
    | some (some inner) => nestedWordAt inner start
    | some none => quotedWordAt c start
    | none =>
      if c.isDigit || c == '.' then
        numberAt dialect start
      else
        match operatorSymbol? dialect c behind with
        | some scan => scan
        | none =>
          if c == '?' then questionAt dialect behind
          else if dialect.isWordStart c then wordAt dialect [c] behind
          else if c == '$' then dollarAt dialect behind
          else if Text.isBlank c then blankAt " " behind
          else found (.stray c) behind

/-- Read tokens to the end of the text, collecting them in reverse. Every step reads at least
one character, so the length of the text is enough fuel. A blank behind the last token is kept
with the end of the text. -/
def lexFrom (dialect : Dialect) :
    Nat → Option String → List Lexeme → Cursor → Except LexError (List Lexeme)
  | 0, _, seen, _ => .ok seen.reverse
  | fuel + 1, blank, seen, cursor =>
    match cursor.rest with
    | [] =>
      match blank with
      | none => .ok seen.reverse
      | some _ => .ok (({ Lexeme.finish with blank } :: seen).reverse)
    | c :: _ => do
      match ← scanPiece dialect c cursor with
      | (.blank text, behind) => lexFrom dialect fuel (blank <|> some text) seen behind
      | (.token token, behind) =>
        let lexeme := Lexeme.ofToken token cursor.position blank
        lexFrom dialect fuel none (lexeme :: seen) behind

def lex (dialect : Dialect) (text : List Char) : Except LexError (List Lexeme) :=
  lexFrom dialect (text.length + 1) none [] (Cursor.start text)

end SqlTables.Sql
