import MicroC.Text.Printable

/-! # Quoted texts

The quoted form shows any text on one line: between quote marks, printable characters as they are,
everything else as an escape. Each character is escaped on its own.
-/

namespace MicroC.Text

/-- The quote mark that texts are written between unless they contain it. -/
def apostrophe : Char := Char.ofNat 0x27

/-- The quote mark for texts with an apostrophe. -/
def quotation : Char := Char.ofNat 0x22

/-- The escape character. -/
def backslash : Char := Char.ofNat 0x5C

/-- Hexadecimal digits in lower case, with zeros in front up to `width`. -/
def hexDigits (width code : Nat) : List Char :=
  let digits := Nat.toDigits 16 code
  List.replicate (width - digits.length) '0' ++ digits

/-- The mark to quote a text with: the quotation mark if the text holds an apostrophe and no
    quotation mark, else the apostrophe. -/
def quoteMark (text : List Char) : Char :=
  if text.contains apostrophe && !text.contains quotation then quotation else apostrophe

/-- One character inside the given quote marks. An unprintable character is written by its code,
    in the shortest of three widths that holds it. -/
def escapeChar (mark c : Char) : List Char :=
  if c = mark ∨ c = backslash then [backslash, c]
  else if c = '\n' then [backslash, 'n']
  else if c = '\r' then [backslash, 'r']
  else if c = '\t' then [backslash, 't']
  else if isPrintable c then [c]
  else if c.toNat < 0x100 then backslash :: 'x' :: hexDigits 2 c.toNat
  else if c.toNat < 0x10000 then backslash :: 'u' :: hexDigits 4 c.toNat
  else backslash :: 'U' :: hexDigits 8 c.toNat

/-- The quoted form of a list of characters. -/
def quoteChars (text : List Char) : List Char :=
  let mark := quoteMark text
  mark :: text.flatMap (escapeChar mark) ++ [mark]

/-- The quoted form of a text. -/
def quoted (text : String) : String :=
  String.ofList (quoteChars text.toList)

end MicroC.Text
