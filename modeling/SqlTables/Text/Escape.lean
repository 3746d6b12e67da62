import SqlTables.Text.Classes

/-!
# Escaped texts

A text in a message stands between double quotes, with its quotes, backslashes and invisible
characters escaped.
-/

namespace SqlTables.Text

/-- Characters that show nothing and change how others are shown. -/
def formatRanges : List (Nat × Nat) :=
  [(0xAD, 0xAD), (0x600, 0x605), (0x61C, 0x61C), (0x6DD, 0x6DD), (0x70F, 0x70F),
    (0x890, 0x891), (0x8E2, 0x8E2), (0x180E, 0x180E), (0x200B, 0x200F), (0x202A, 0x202E),
    (0x2060, 0x206F), (0xFEFF, 0xFEFF), (0xFFF0, 0xFFFB), (0xE0000, 0xE007F)]

/-- Characters that cannot be told from their appearance: controls, blanks other than the space
and format characters. -/
def isInvisible (c : Char) : Bool :=
  c.toNat < 32 || (127 ≤ c.toNat && c.toNat < 160) || (isBlank c && c != ' ')
    || inRanges formatRanges c.toNat

def escapeChar (c : Char) : String :=
  match c.toNat with
  | 0 => "\\0"
  | 9 => "\\t"
  | 10 => "\\n"
  | 13 => "\\r"
  | 34 => "\\\x22"
  | 92 => "\\\\"
  | code =>
    if isInvisible c then "\\u\x7b" ++ String.ofList (Nat.toDigits 16 code) ++ "\x7d"
    else String.singleton c

def escape (text : String) : String :=
  "\x22" ++ String.join (text.toList.map escapeChar) ++ "\x22"

end SqlTables.Text
