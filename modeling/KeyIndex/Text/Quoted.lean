import KeyIndex.Unicode.Property

/-!
# Quoted texts

A text between double quotes, as it stands in messages.  A quote, a backslash and
the control characters with a short escape are escaped by it; any other character
that would not be seen on its own is written by its number in base 16; all others
are written as they are.

Main definitions:

- `quoteChar`: how one character is written inside the quotes.
- `quoted`: a text in quotes.
- `quotedList`: some quoted texts, in brackets.
-/

namespace KeyIndex.Text

/-- Whether a character is seen on its own: it has a shape or is the blank, and
does not attach to the character before it. -/
def standsAlone (c : Char) : Bool :=
  c == ' ' || (Unicode.visible.contains c && !Unicode.graphemeExtend.contains c)

/-- A character by its number, in braces. -/
def escapeByNumber (c : Char) : List Char :=
  ['\\', 'u', '{'] ++ Nat.toDigits 16 c.toNat ++ ['}']

/-- How a character is written inside quotes. -/
def quoteChar (c : Char) : List Char :=
  if c = '"' then ['\\', '"']
  else if c = '\\' then ['\\', '\\']
  else if c = '\n' then ['\\', 'n']
  else if c = '\r' then ['\\', 'r']
  else if c = '\t' then ['\\', 't']
  else if c = '\x00' then ['\\', '0']
  else if standsAlone c then [c]
  else escapeByNumber c

/-- A text in quotes. -/
def quoted (text : String) : String :=
  "\"" ++ .ofList (text.toList.flatMap quoteChar) ++ "\""

/-- Some texts in quotes, separated by commas, in brackets. -/
def quotedList (texts : List String) : String :=
  "[" ++ ", ".intercalate (texts.map quoted) ++ "]"

end KeyIndex.Text
