/-! # Blank characters

Two classes: the blanks that may stand around a numeral of any script, and the ASCII blanks that
remain once a numeral has been brought to ASCII.
-/

namespace MicroC.Text

/-- The white space of ASCII that may surround a numeral: tab, line feed, vertical tab, form feed,
    carriage return and space. -/
def isAsciiBlank (c : Char) : Bool :=
  c == ' ' || (0x09 ≤ c.toNat && c.toNat ≤ 0x0D)

/-- The white space beyond ASCII. -/
def isWideBlank (c : Char) : Bool :=
  [0x85, 0xA0, 0x1680, 0x2028, 0x2029, 0x202F, 0x205F, 0x3000].contains c.toNat ||
    (0x2000 ≤ c.toNat && c.toNat ≤ 0x200A)

end MicroC.Text
