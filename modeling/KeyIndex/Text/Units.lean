/-!
# UTF-16 units of a text

A character of the basic plane is one unit, any other is the two surrogates of its
pair.

Main definitions:

- `units16`: the units of a text, in order.
-/

namespace KeyIndex.Text

/-- The units of one character. -/
def charUnits16 (c : Char) : List UInt16 :=
  if c.toNat < 0x10000 then [c.toNat.toUInt16]
  else
    let offset := c.toNat - 0x10000
    [(0xD800 + offset / 0x400).toUInt16, (0xDC00 + offset % 0x400).toUInt16]

/-- The units of a text. -/
def units16 (text : String) : List UInt16 := text.toList.flatMap charUnits16

end KeyIndex.Text
