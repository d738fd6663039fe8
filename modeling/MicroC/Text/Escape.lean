/-! # Escape sequences

A terminal takes some runs of characters as commands: the escape character, an opening bracket, any
number of digits, semicolons and question marks, and a letter. Texts that are shown to the user have
them removed, so that no input can command the terminal. They are looked for once, from left to right:
what closes up around a removed sequence is not looked at again.
-/

namespace MicroC.Text

/-- The character that an escape sequence starts with. -/
def escape : Char := '\x1b'

/-- Whether a character may stand between the bracket and the letter of an escape sequence. -/
def isEscapeParameter (char : Char) : Bool :=
  char.isDigit || char == ';' || char == '?'

/-- What follows the escape sequence at the start of a text. -/
def afterEscape? : List Char → Option (List Char)
  | first :: '[' :: rest =>
      if first = escape then
        match rest.dropWhile isEscapeParameter with
        | char :: after => if char.isAlpha then some after else none
        | [] => none
      else none
  | _ => none

theorem length_lt_of_afterEscape? {chars after : List Char} (h : afterEscape? chars = some after) :
    after.length < chars.length := by
  unfold afterEscape? at h
  split at h
  next first rest =>
    split at h
    next =>
      split at h
      next char tail found =>
        split at h
        next =>
          cases h
          have shorter := (List.dropWhile_suffix (l := rest) isEscapeParameter).length_le
          rw [found] at shorter
          simp only [List.length_cons] at shorter ⊢
          omega
        next => cases h
      next => cases h
    next => cases h
  next => cases h

/-- A text without its escape sequences. -/
def dropEscapes (chars : List Char) : List Char :=
  match chars with
  | [] => []
  | char :: rest =>
      match _h : afterEscape? (char :: rest) with
      | some after => dropEscapes after
      | none => char :: dropEscapes rest
termination_by chars.length
decreasing_by
  · exact length_lt_of_afterEscape? _h
  · exact Nat.lt_succ_self _

/-- A text as it is shown to the user. -/
def withoutEscapes (text : String) : String :=
  String.ofList (dropEscapes text.toList)

end MicroC.Text
