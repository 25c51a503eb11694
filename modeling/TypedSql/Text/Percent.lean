import TypedSql.Text.Hex

/-!
# Percent encoding

A byte may be written as a percent sign and two hexadecimal digits. A percent sign without two
such digits stands for itself.

## Main definitions

* `percentDecode` — the bytes that an encoded list of bytes stands for.
* `decodeUtf8?` — the text of a list of bytes, if they are UTF-8.
* `formFields` — the names and values of a query such as `a=1&b=2`.
-/

set_option autoImplicit false

namespace TypedSql.Text

/-- The byte of a percent sign. -/
def percentByte : UInt8 := 37

/-- The byte that two hexadecimal digits stand for. -/
def hexPair? (b c : UInt8) : Option UInt8 := do
  let high ← hexValue? (Char.ofNat b.toNat)
  let low ← hexValue? (Char.ofNat c.toNat)
  return UInt8.ofNat (16 * high + low)

/-- The bytes that an encoded list of bytes stands for. -/
def percentDecode : List UInt8 → List UInt8
  | [] => []
  | [b] => [b]
  | [b, c] => [b, c]
  | b :: c :: d :: rest =>
    if b = percentByte then
      match hexPair? c d with
      | some byte => byte :: percentDecode rest
      | none => b :: percentDecode (c :: d :: rest)
    else b :: percentDecode (c :: d :: rest)

/-- The bytes of a text. -/
def utf8Bytes (s : String) : List UInt8 := s.toUTF8.toList

/-- The text of a list of bytes, if they are UTF-8. -/
def decodeUtf8? (bs : List UInt8) : Option String := String.fromUTF8? (ByteArray.mk bs.toArray)

/-- The parts of a list between the places of a separator. -/
def splitAll {α : Type} [DecidableEq α] (separator : α) : List α → List (List α)
  | [] => [[]]
  | a :: rest =>
    if a = separator then [] :: splitAll separator rest
    else
      match splitAll separator rest with
      | [] => [[a]]
      | part :: parts => (a :: part) :: parts

/-- Decodes a name or a value of a form, in which a plus sign stands for a blank. -/
def formDecode (bs : List UInt8) : Option String :=
  decodeUtf8? (percentDecode (bs.map fun b => if b = 43 then 32 else b))

/-- The names and values of a form: fields are separated by `&`, a name from its value by the first
`=`. Empty fields do not count. What is no UTF-8 is absent. -/
def formFields (s : String) : List (Option String × Option String) :=
  ((splitAll 38 (utf8Bytes s)).filter fun part => !part.isEmpty).map fun part =>
    (formDecode (part.takeWhile (· != 61)), formDecode ((part.dropWhile (· != 61)).drop 1))

end TypedSql.Text
