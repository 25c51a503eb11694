import TypedSql.Text.Hex
import TypedSql.Text.Printable

/-!
# Quoted texts

A text in a diagnostic stands between double quotes. Quotes and backslashes follow a backslash, as
do the letters for tab, line feed, carriage return and NUL; any other character that would not show
is written by its code point.

## Main definitions

* `quotedChar`, `quoted` — the form of a character and of a text.
-/

set_option autoImplicit false

namespace TypedSql.Text

/-- The code point of a character, between braces after `\u`. -/
def codePoint (c : Char) : List Char :=
  ['\\', 'u', '\x7b'] ++ hex c.toNat ++ ['\x7d']

/-- A character as it stands in a quoted text. -/
def quotedChar (c : Char) : List Char :=
  if c = '\x00' then ['\\', '0']
  else if c = '\t' then ['\\', 't']
  else if c = '\r' then ['\\', 'r']
  else if c = '\n' then ['\\', 'n']
  else if c = '\\' then ['\\', '\\']
  else if c = '"' then ['\\', '"']
  else if isShownAsCode c then codePoint c
  else [c]

/-- A text between double quotes. -/
def quoted (s : String) : String :=
  String.ofList ('"' :: s.toList.flatMap quotedChar ++ ['"'])

end TypedSql.Text
