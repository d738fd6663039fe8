/-! # Paths

A path is a text of components between slashes. In its normal form there are no empty components and
no dots that stand for the directory itself; two dots remain, because they depend on the files.

Names and paths have a greatest length, which counts the octets of their text.
-/

namespace MicroC.Path

/-- The components of a path as written, empty ones included. -/
def components : List Char → List (List Char)
  | [] => [[]]
  | char :: rest =>
      match components rest with
      | [] => [[char]]
      | first :: others => if char = '/' then [] :: first :: others else (char :: first) :: others

/-- Whether a component leads nowhere: it is empty or a single dot. -/
def isIdle (component : List Char) : Bool :=
  component = [] || component = ['.']

/-- Whether a path starts at the top and not at the working directory. -/
def isAbsolute (path : String) : Bool :=
  path.toList.head? == some '/'

/-- The slashes that a normal form starts with: exactly two are kept, any other number is one. -/
def leadingSlashes (path : List Char) : List Char :=
  match (path.takeWhile (· == '/')).length with
  | 0 => []
  | 2 => ['/', '/']
  | _ => ['/']

/-- The normal form of a path; a path that leads nowhere is a single dot. -/
def normalize (path : String) : String :=
  let kept := (components path.toList).filter (!isIdle ·)
  let text := leadingSlashes path.toList ++ ['/'].intercalate kept
  if text.isEmpty then "." else String.ofList text

/-- The greatest length of a component. -/
def nameLimit : Nat := 255

/-- The greatest length of a path. -/
def lengthLimit : Nat := 4095

/-- The length of a text in octets. -/
def octetCount : List Char → Nat
  | [] => 0
  | char :: rest => char.utf8Size + octetCount rest

/-- Whether a path holds the null character, which no path can have. -/
def hasNull (path : String) : Bool :=
  path.toList.contains '\x00'

end MicroC.Path
