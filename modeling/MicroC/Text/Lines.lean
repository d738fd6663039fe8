/-! # Lines of a text

A text is cut into lines in two ways. `splitLines` breaks at every line boundary that Unicode knows,
a carriage return followed by a line feed counting once. `lineFrom` reads the line that starts at a
given offset and ends at a line feed only. A text that is written out may end its lines in another way.
-/

namespace MicroC.Text

/-- The characters that end a line. -/
def isLineBreak (c : Char) : Bool :=
  (0x0A ≤ c.toNat && c.toNat ≤ 0x0D) || (0x1C ≤ c.toNat && c.toNat ≤ 0x1E) ||
    c.toNat == 0x85 || c.toNat == 0x2028 || c.toNat == 0x2029

/-- Put a character in front of the first line. -/
def extendFirst (c : Char) : List (List Char) → List (List Char)
  | [] => [[c]]
  | line :: rest => (c :: line) :: rest

/-- The lines of a text without the characters that end them. A break at the very end starts no
    further line, and the empty text has no lines. -/
def splitChars : List Char → List (List Char)
  | [] => []
  | '\r' :: '\n' :: rest => [] :: splitChars rest
  | c :: rest => if isLineBreak c then [] :: splitChars rest else extendFirst c (splitChars rest)

/-- The lines of a text. -/
def splitLines (text : String) : List String :=
  (splitChars text.toList).map String.ofList

/-- A text without the carriage returns at its end. -/
def trimReturns (text : List Char) : List Char :=
  (text.reverse.dropWhile (· == '\r')).reverse

/-- The line that starts at an offset, up to the next line feed, without carriage returns at its
    end. -/
def lineFrom (text : List Char) (start : Nat) : String :=
  String.ofList (trimReturns ((text.drop start).takeWhile (· != '\n')))

/-- The text with a mark for the end of a line in place of each line feed. -/
def withLineEnds (mark text : String) : String :=
  String.ofList (text.toList.flatMap fun c => if c = '\n' then mark.toList else [c])

end MicroC.Text
