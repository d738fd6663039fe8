import MicroC.Text.Blank
import MicroC.Text.Digit
import MicroC.Text.Quoted

/-! # Numerals

Reading an integer from a text and writing one in decimal. A numeral may have blanks around it, a
sign, single underscores between its digits, and digits of any script; in base eight it may start
with `0o`. Decimal numerals are bounded: more than `digitLimit` digits are neither read nor written.
-/

namespace MicroC

/-- Why a text is no integer, or an integer has no text. -/
inductive NumeralFault where
  | malformed (base : Nat) (text : String)
  /-- The decimal numeral has more digits than may be read. -/
  | tooManyDigits (count : Nat)
  /-- The integer has more digits than may be written. -/
  | tooLarge
  deriving Repr, DecidableEq

namespace Numeral

/-- The bases numerals are read in. -/
inductive Base where
  | octal
  | decimal
  deriving Repr, DecidableEq

/-- The base as a number. -/
def Base.size : Base → Nat
  | .octal => 8
  | .decimal => 10

/-- The greatest number of decimal digits that is read or written. -/
def digitLimit : Nat := 4300

/-- The least natural number that is too long to be written. -/
def writeBound : Nat := Nat.pow 10 digitLimit

/-- A character of a numeral in ASCII: digits of any script become digits, blanks of any script
    spaces, and anything else beyond ASCII a character that no numeral has. -/
def toAscii (c : Char) : Char :=
  if c.toNat < 0x80 then c
  else if Text.isWideBlank c then ' '
  else match Text.digitValue? c with
    | some value => Nat.digitChar value
    | none => '?'

/-- Whether a character is a digit of the base. -/
def Base.isDigit (base : Base) (c : Char) : Bool :=
  '0' ≤ c && c.toNat < '0'.toNat + base.size

/-- The number that digits spell, most significant first. -/
def Base.value (base : Base) (digits : List Char) : Nat :=
  digits.foldl (fun total c => total * base.size + (c.toNat - '0'.toNat)) 0

/-- Split a sign off; `true` is minus. -/
def splitSign : List Char → Bool × List Char
  | '-' :: rest => (true, rest)
  | '+' :: rest => (false, rest)
  | chars => (false, chars)

/-- Drop the mark of an octal numeral together with one underscore after it. -/
def dropMark : Base → List Char → List Char
  | .octal, '0' :: 'o' :: '_' :: rest => rest
  | .octal, '0' :: 'O' :: '_' :: rest => rest
  | .octal, '0' :: 'o' :: rest => rest
  | .octal, '0' :: 'O' :: rest => rest
  | _, chars => chars

/-- Whether every underscore stands between two digits. -/
def wellSpaced : List Char → Bool
  | [] => true
  | ['_'] => false
  | '_' :: '_' :: _ => false
  | _ :: rest => wellSpaced rest

/-- Read a numeral of the given base. Misplaced underscores are found first, then the limit on
    decimal digits, then a lack of digits and anything but blanks after them. -/
def read (base : Base) (text : String) : Except NumeralFault Int :=
  let chars := (text.toList.map toAscii).dropWhile Text.isAsciiBlank
  let (negative, unsigned) := splitSign chars
  let body := dropMark base unsigned
  let run := body.takeWhile fun c => base.isDigit c || c == '_'
  let rest := body.dropWhile fun c => base.isDigit c || c == '_'
  let digits := run.filter (· != '_')
  let malformed := .error (.malformed base.size text)
  if run.head? == some '_' || !wellSpaced run then malformed
  else if base == .decimal && digits.length > digitLimit then .error (.tooManyDigits digits.length)
  else if digits.isEmpty || !rest.all Text.isAsciiBlank then malformed
  else
    let magnitude : Int := base.value digits
    .ok (if negative then -magnitude else magnitude)

/-- Write an integer in decimal. -/
def write (value : Int) : Except NumeralFault String :=
  if value.natAbs < writeBound then .ok (toString value) else .error .tooLarge

end Numeral

/-- The wording of a fault. A malformed text is shown quoted, cut to 200 characters. -/
def NumeralFault.message : NumeralFault → String
  | .malformed base text =>
      s!"invalid literal for int() with base {base}: " ++
        String.ofList ((Text.quoteChars text.toList).take 200)
  | .tooManyDigits count =>
      s!"Exceeds the limit (4300 digits) for integer string conversion: value has {count} digits; " ++
        "use sys.set_int_max_str_digits() to increase the limit"
  | .tooLarge =>
      "Exceeds the limit (4300 digits) for integer string conversion; " ++
        "use sys.set_int_max_str_digits() to increase the limit"

end MicroC
