import MicroC.Numeral

/-! # Locations in source texts -/

namespace MicroC

/-- A place in a source file. Lines and columns count from one; a location made by hand may hold
    any integers. -/
structure Location where
  file : String
  line : Int
  column : Int
  deriving Repr, DecidableEq

namespace Location

/-- The text of a location, however long its line and its column are. -/
def text (place : Location) : String :=
  s!"{place.file}:{place.line}:{place.column}"

/-- The location as diagnostics print it, unless its line or its column is too long to be written. -/
def render (place : Location) : Except NumeralFault String := do
  let line ← Numeral.write place.line
  let column ← Numeral.write place.column
  return place.file ++ ":" ++ line ++ ":" ++ column

/-- Line and column only, as trees and tokens print them. -/
def short (place : Location) : String :=
  s!"{place.line}:{place.column}"

end Location

end MicroC
