import SqlTables.Text.Lines

/-!
# Tokens of SQL text

A token is a word, a literal, a symbol or a character that starts none of these. Blanks and
comments are not tokens: each token only remembers what blank stood before it.
-/

namespace SqlTables.Sql

open Text (Position)

inductive LiteralStyle where
  | single
  | double
  | tripleSingle
  | tripleDouble
  | national
  | escaped
  | unicode
  | hex
  | byteSingle
  | byteDouble
  | byteTripleSingle
  | byteTripleDouble
  | rawSingle
  | rawDouble
  | rawTripleSingle
  | rawTripleDouble
  /-- Between dollar signs that enclose a tag. -/
  | dollar (tag : String)
deriving DecidableEq, Repr

def LiteralStyle.delimiters : LiteralStyle → String × String
  | single => ("'", "'")
  | double => ("\"", "\"")
  | tripleSingle => ("'''", "'''")
  | tripleDouble => ("\"\"\"", "\"\"\"")
  | national => ("N'", "'")
  | escaped => ("E'", "'")
  | unicode => ("U&'", "'")
  | hex => ("X'", "'")
  | byteSingle => ("B'", "'")
  | byteDouble => ("B\"", "\"")
  | byteTripleSingle => ("B'''", "'''")
  | byteTripleDouble => ("B\"\"\"", "\"\"\"")
  | rawSingle => ("R'", "'")
  | rawDouble => ("R\"", "\"")
  | rawTripleSingle => ("R'''", "'''")
  | rawTripleDouble => ("R\"\"\"", "\"\"\"")
  | dollar tag => ("$" ++ tag ++ "$", "$" ++ tag ++ "$")

inductive Token where
  /-- A keyword or an identifier, with the delimiter that opened it. -/
  | word (value : String) (quote : Option Char)
  /-- A number; `long` when the letter `L` follows it. -/
  | number (digits : String) (long : Bool)
  /-- A string literal. -/
  | literal (style : LiteralStyle) (value : String)
  /-- Punctuation or an operator, by its spelling. -/
  | symbol (text : String)
  /-- An operator made of operator characters that has no meaning of its own. -/
  | customOperator (text : String)
  /-- A placeholder for a parameter. -/
  | placeholder (text : String)
  /-- A character that starts no token. -/
  | stray (c : Char)
  /-- The end of the text. -/
  | finish
deriving DecidableEq, Repr

def matchingEndQuote (quote : Char) : Char :=
  if quote = '[' then ']' else quote

def Token.show : Token → String
  | word value none => value
  | word value (some quote) =>
    String.singleton quote ++ value ++ String.singleton (matchingEndQuote quote)
  | number digits long => if long then digits ++ "L" else digits
  | literal style value => style.delimiters.1 ++ value ++ style.delimiters.2
  | symbol text => text
  | customOperator text => text
  | placeholder text => text
  | stray c => String.singleton c
  | finish => "EOF"

/-- Upper case of a character as far as it matters for keywords: the characters whose upper
case form consists of ASCII letters get that form. -/
def keywordUpper (c : Char) : List Char :=
  if c.toNat < 128 then [c.toUpper]
  else match c.toNat with
    | 0xDF => ['S', 'S']
    | 0x131 => ['I']
    | 0x17F => ['S']
    | 0xFB00 => ['F', 'F']
    | 0xFB01 => ['F', 'I']
    | 0xFB02 => ['F', 'L']
    | 0xFB03 => ['F', 'F', 'I']
    | 0xFB04 => ['F', 'F', 'L']
    | 0xFB05 => ['S', 'T']
    | 0xFB06 => ['S', 'T']
    | _ => [c]

/-- The spelling under which a word is looked up among the keywords. -/
def keywordSpelling (word : String) : String :=
  String.ofList (word.toList.flatMap keywordUpper)

structure Lexeme where
  token : Token
  /-- The upper case spelling of a word without delimiters; empty for all other tokens. -/
  keyword : String
  position : Position
  /-- The blank or comment right before the token, the first one if there are several. -/
  blank : Option String
deriving DecidableEq, Repr

def Token.keyword : Token → String
  | word value none => keywordSpelling value
  | _ => ""

def Lexeme.ofToken (token : Token) (position : Position) (blank : Option String) : Lexeme :=
  ⟨token, token.keyword, position, blank⟩

def Lexeme.finish : Lexeme :=
  ⟨.finish, "", Position.unknown, none⟩

def Lexeme.isSymbol (lexeme : Lexeme) (text : String) : Bool :=
  match lexeme.token with
  | .symbol found => found == text
  | _ => false

/-- Whether a lexeme is a word without delimiters that reads as a given keyword. -/
def Lexeme.isWord (lexeme : Lexeme) (keyword : String) : Bool :=
  lexeme.keyword == keyword

def Lexeme.isOneOf (lexeme : Lexeme) (keywords : List String) : Bool :=
  keywords.contains lexeme.keyword

end SqlTables.Sql
