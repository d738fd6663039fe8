import MicroC.Location
import MicroC.Text.Lines

/-! # Cursors

A cursor stands between two characters of a text. It holds the characters still to come and four
counters: how many characters lie behind it, its line and column, and where its line starts.
-/

namespace MicroC

/-- A source text under a file name. -/
structure Buffer where
  file : String
  chars : List Char
  deriving Repr, DecidableEq

/-- A place between two characters of a text. -/
structure Cursor where
  /-- The number of characters behind the cursor. -/
  offset : Nat := 0
  line : Nat := 1
  column : Nat := 1
  /-- The offset at which the current line starts. -/
  lineStart : Nat := 0
  /-- The characters ahead of the cursor. -/
  rest : List Char
  deriving Repr, DecidableEq

namespace Cursor

/-- The cursor at the start of a text. -/
def start (chars : List Char) : Cursor :=
  { rest := chars }

/-- Step over the next character. Only a line feed starts a line; at the end nothing moves. -/
def advance (cursor : Cursor) : Cursor :=
  match cursor.rest with
  | [] => cursor
  | c :: rest =>
      if c = '\n' then
        { offset := cursor.offset + 1, line := cursor.line + 1, column := 1,
          lineStart := cursor.offset + 1, rest }
      else { cursor with offset := cursor.offset + 1, column := cursor.column + 1, rest }

/-- Step over a number of characters. -/
def advanceBy : Nat → Cursor → Cursor
  | 0, cursor => cursor
  | count + 1, cursor => advanceBy count cursor.advance

/-- Step over the longest run of characters of a class. -/
def skipWhile (p : Char → Bool) (cursor : Cursor) : Cursor :=
  cursor.advanceBy (cursor.rest.takeWhile p).length

/-- Where the cursor stands, as a location in the buffer. -/
def location (cursor : Cursor) (buffer : Buffer) : Location :=
  ⟨buffer.file, cursor.line, cursor.column⟩

/-- The line the cursor is in. -/
def currentLine (cursor : Cursor) (buffer : Buffer) : String :=
  Text.lineFrom buffer.chars cursor.lineStart

end Cursor

end MicroC
