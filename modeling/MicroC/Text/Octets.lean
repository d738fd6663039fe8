/-! # Octets

Files hold octets. A source file is read one character per octet, whatever its encoding; assembly is
written in UTF-8.
-/

namespace MicroC.Text

/-- The text with one character for each octet, of the same code. -/
def ofOctets (octets : List UInt8) : String :=
  String.ofList (octets.map fun octet => Char.ofNat octet.toNat)

/-- The octets of a text in UTF-8. -/
def toOctets (text : String) : List UInt8 :=
  text.toUTF8.data.toList

end MicroC.Text
