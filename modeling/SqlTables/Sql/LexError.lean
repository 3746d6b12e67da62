import SqlTables.Text.Lines

/-!
# Errors of the lexer

A text has no tokens when a literal, a delimited identifier or a comment is left open, or when
an escape in a literal is malformed.
-/

namespace SqlTables.Sql

open Text (Position)

/-- The suffix of a message that tells where a problem is; nothing for an unknown position. -/
def placeSuffix (position : Position) : String :=
  if position.line = 0 then ""
  else " at Line: " ++ toString position.line ++ ", Column: " ++ toString position.column

inductive LexCause where
  | openComment
  | openString
  | openEscapedString
  | openUnicodeString
  | openDollarString
  | openTaggedString
  | openIdentifier (delimiter : Char)
  | missingInnerDelimiter (delimiter : Char)
  | endInHexDigits
  | badHexDigit (c : Char)
  | badCodePoint (code : Nat)
deriving DecidableEq, Repr

def LexCause.message : LexCause → String
  | openComment => "Unexpected EOF while in a multi-line comment"
  | openString => "Unterminated string literal"
  | openEscapedString => "Unterminated encoded string literal"
  | openUnicodeString => "Unterminated unicode encoded string literal"
  | openDollarString => "Unterminated dollar-quoted string"
  | openTaggedString => "Unterminated dollar-quoted, expected $"
  | openIdentifier delimiter =>
    "Expected close delimiter '" ++ String.singleton delimiter ++ "' before EOF."
  | missingInnerDelimiter delimiter =>
    "Expected nested delimiter '" ++ String.singleton delimiter ++ "' before EOF."
  | endInHexDigits => "Unexpected EOF while parsing hex digit in escaped unicode string."
  | badHexDigit c => "Invalid hex digit in escaped unicode string: " ++ String.singleton c
  | badCodePoint code => "Invalid unicode character: " ++ String.ofList (Nat.toDigits 16 code)

structure LexError where
  cause : LexCause
  position : Position
deriving DecidableEq, Repr

def LexError.message (error : LexError) : String :=
  error.cause.message ++ placeSuffix error.position

end SqlTables.Sql
