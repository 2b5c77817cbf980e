import SignOn.Text.Hidden

/-!
# Quoted text

Texts that come from outside are shown between double quotes, so that blanks, control characters and
combining characters in an identifier can be told apart in a log line.

## Main definitions

* `Text.escape` - the written form of one character
* `Text.quote` - a text between double quotes
-/

namespace SignOn.Text

/-- The numeric escape of a character: its code point in lowercase hexadecimal between braces. -/
def numericEscape (c : Char) : List Char :=
  "\\u\x7b".toList ++ Nat.toDigits 16 c.toNat ++ "\x7d".toList

/-- Quotes, backslashes and four control characters have short escapes, other hidden characters a
numeric one. -/
def escape (c : Char) : List Char :=
  if c = '"' then ['\\', '"']
  else if c = '\\' then ['\\', '\\']
  else if c = '\t' then ['\\', 't']
  else if c = '\r' then ['\\', 'r']
  else if c = '\n' then ['\\', 'n']
  else if c = '\x00' then ['\\', '0']
  else if isHidden c then numericEscape c
  else [c]

/-- A text between double quotes, every character in its written form. -/
def quote (s : String) : String :=
  String.ofList ('"' :: s.toList.flatMap escape ++ ['"'])

end SignOn.Text
