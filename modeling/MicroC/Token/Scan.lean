import MicroC.Failure
import MicroC.Token.Cursor

/-! # Scanning tokens

Cutting a source text into tokens. Every step returns its outcome together with the cursor after
it, so that a refused text leaves the cursor where scanning stopped: in front of an invalid
character, and after a run of digits that is no constant.

Main statement: `scanToken_shortens`, a scanned token takes at least one character, so that cutting
a text into tokens ends.
-/

namespace MicroC

/-- The blanks between tokens. -/
def isSpace (c : Char) : Bool :=
  c == ' ' || c == '\t' || c == '\n' || c == '\r'

/-- The characters that start a word. -/
def isWordStart (c : Char) : Bool :=
  c.isAlpha || c == '_'

/-- The characters of words and constants; all others are boundaries. -/
def isWordChar (c : Char) : Bool :=
  c.isAlphanum || c == '_'

/-- The octal digits. -/
def isOctalDigit (c : Char) : Bool :=
  '0' ≤ c && c ≤ '7'

/-- Whether a word may end in front of these characters. -/
def atBoundary : List Char → Bool
  | [] => true
  | c :: _ => !isWordChar c

/-- Whether a run of digits starts like an octal constant and holds a digit that is not octal. -/
def isBadOctal (digits : List Char) : Bool :=
  digits.head? == some '0' && !digits.all isOctalDigit

namespace Cursor

/-- The keyword in front of the cursor, with its spelling. -/
def keyword? (cursor : Cursor) : Option (Token.Kind × List Char) :=
  Token.Kind.keywords.find? fun (_, spelling) =>
    spelling.isPrefixOf cursor.rest && atBoundary (cursor.rest.drop spelling.length)

/-- Step over a keyword if there is one. -/
def takeKeyword (cursor : Cursor) : Option Token.Kind × Cursor :=
  match cursor.keyword? with
  | some (kind, spelling) => (some kind, cursor.advanceBy spelling.length)
  | none => (none, cursor)

/-- Step over the longest run of characters of a class. The run is refused if a word character
    follows it; the location is where the token that it belongs to starts. -/
def takeRun (cursor : Cursor) (buffer : Buffer) (p : Char → Bool) (kind : String)
    (place : Location) : Except Diagnostic (List Char) × Cursor :=
  let run := cursor.rest.takeWhile p
  let after := cursor.advanceBy run.length
  match after.rest with
  | [] => (.ok run, after)
  | c :: _ =>
      if isWordChar c then
        (.error { problem := .malformedToken kind (String.ofList run) c.toString,
                  location := some place, sourceLine := some (after.currentLine buffer) }, after)
      else (.ok run, after)

/-- Scan a constant. -/
def scanConstant (cursor : Cursor) (buffer : Buffer) : Except Diagnostic Token × Cursor :=
  let place := cursor.location buffer
  match cursor.takeRun buffer Char.isDigit "constant" place with
  | (.error diagnostic, after) => (.error diagnostic, after)
  | (.ok run, after) =>
      if isBadOctal run then
        (.error { problem := .invalidOctal (String.ofList run), location := some place,
                  sourceLine := some (after.currentLine buffer) }, after)
      else (.ok { kind := .constant, text := some (String.ofList run), location := some place }, after)

/-- Scan a name. -/
def scanIdentifier (cursor : Cursor) (buffer : Buffer) : Except Diagnostic Token × Cursor :=
  let place := cursor.location buffer
  match cursor.takeRun buffer isWordChar "identifier" place with
  | (.error diagnostic, after) => (.error diagnostic, after)
  | (.ok run, after) =>
      (.ok { kind := .identifier, text := some (String.ofList run), location := some place }, after)

/-- Scan the token in front of the cursor. At the end of the text this is a name without
    characters. -/
def scanToken (cursor : Cursor) (buffer : Buffer) : Except Diagnostic Token × Cursor :=
  let place := cursor.location buffer
  match cursor.rest with
  | [] => (.ok { kind := .identifier, text := some "", location := some place }, cursor)
  | c :: _ =>
      match Token.Kind.delimiter? c with
      | some kind => (.ok { kind, location := some place }, cursor.advance)
      | none =>
          match cursor.takeKeyword with
          | (some kind, after) => (.ok { kind, location := some place }, after)
          | (none, _) =>
              if isWordStart c then cursor.scanIdentifier buffer
              else if c.isDigit then cursor.scanConstant buffer
              else
                (.error { problem := .invalidCharacter c, location := some place,
                          sourceLine := some (cursor.currentLine buffer) }, cursor)

/-- Step over blanks. -/
def skipSpaces (cursor : Cursor) : Cursor :=
  cursor.skipWhile isSpace

@[simp] theorem rest_advance (cursor : Cursor) : cursor.advance.rest = cursor.rest.tail := by
  unfold advance
  split
  next h => simp [h]
  next c rest h => split <;> simp [h]

@[simp] theorem rest_advanceBy (count : Nat) (cursor : Cursor) :
    (cursor.advanceBy count).rest = cursor.rest.drop count := by
  induction count generalizing cursor with
  | zero => simp [advanceBy]
  | succ count ih => simp [advanceBy, ih]

/-- A run leaves the cursor right after it, whether it is refused or not. -/
theorem takeRun_snd (cursor : Cursor) (buffer : Buffer) (p : Char → Bool) (kind : String)
    (place : Location) :
    (cursor.takeRun buffer p kind place).2 =
      cursor.advanceBy (cursor.rest.takeWhile p).length := by
  unfold takeRun
  dsimp only
  split
  · rfl
  · split <;> rfl

theorem scanConstant_snd (cursor : Cursor) (buffer : Buffer) :
    (cursor.scanConstant buffer).2 =
      cursor.advanceBy (cursor.rest.takeWhile Char.isDigit).length := by
  rw [← takeRun_snd cursor buffer Char.isDigit "constant" (cursor.location buffer)]
  unfold scanConstant
  dsimp only
  split
  next h => rw [h]
  next h => rw [h]; split <;> rfl

theorem scanIdentifier_snd (cursor : Cursor) (buffer : Buffer) :
    (cursor.scanIdentifier buffer).2 =
      cursor.advanceBy (cursor.rest.takeWhile isWordChar).length := by
  rw [← takeRun_snd cursor buffer isWordChar "identifier" (cursor.location buffer)]
  unfold scanIdentifier
  dsimp only
  split <;> (next h => rw [h])

theorem isWordChar_of_isWordStart {c : Char} (h : isWordStart c = true) : isWordChar c = true := by
  simp only [isWordStart, isWordChar, Char.isAlphanum, Bool.or_eq_true] at h ⊢
  rcases h with h | h
  · exact .inl (.inl h)
  · exact .inr h

theorem length_drop_lt {chars : List Char} {count : Nat} (nonempty : chars ≠ []) (positive : 0 < count) :
    (chars.drop count).length < chars.length := by
  have := List.length_pos_iff.2 nonempty
  simp only [List.length_drop]
  omega

theorem length_pos_of_keyword? {cursor : Cursor} {kind : Token.Kind} {spelling : List Char}
    (h : cursor.keyword? = some (kind, spelling)) : 0 < spelling.length := by
  have member := List.mem_of_find?_eq_some h
  simp only [Token.Kind.keywords, List.mem_cons, Prod.mk.injEq, List.not_mem_nil, or_false] at member
  rcases member with ⟨-, rfl⟩ | ⟨-, rfl⟩ | ⟨-, rfl⟩ <;> decide

/-- A scanned token takes at least one character. -/
theorem scanToken_shortens {cursor after : Cursor} {buffer : Buffer} {token : Token}
    (ahead : cursor.rest ≠ []) (h : cursor.scanToken buffer = (.ok token, after)) :
    after.rest.length < cursor.rest.length := by
  unfold scanToken at h
  dsimp only at h
  split at h
  next ended => exact absurd ended ahead
  next c tail chars =>
    split at h
    · obtain ⟨-, rfl⟩ := Prod.mk.inj h
      simp [chars]
    · split at h
      next kind advanced found =>
        obtain ⟨-, rfl⟩ := Prod.mk.inj h
        unfold takeKeyword at found
        split at found
        next kind' spelling keyword =>
          obtain ⟨-, rfl⟩ := Prod.mk.inj found
          rw [rest_advanceBy]
          exact length_drop_lt ahead (length_pos_of_keyword? keyword)
        next => simp at found
      next =>
        split at h
        next start =>
          have position := congrArg Prod.snd h
          rw [scanIdentifier_snd] at position
          rw [← show _ = after from position, rest_advanceBy]
          refine length_drop_lt ahead ?_
          simp [chars, isWordChar_of_isWordStart start]
        next =>
          split at h
          next digit =>
            have position := congrArg Prod.snd h
            rw [scanConstant_snd] at position
            rw [← show _ = after from position, rest_advanceBy]
            refine length_drop_lt ahead ?_
            simp [chars, digit]
          next => simp at h

/-- All tokens from the cursor on, with the cursor where scanning stops. -/
def scanAll (cursor : Cursor) (buffer : Buffer) : Except Diagnostic (List Token) × Cursor :=
  let start := cursor.skipSpaces
  if _ahead : start.rest = [] then (.ok [], start)
  else
    match _h : start.scanToken buffer with
    | (.error diagnostic, after) => (.error diagnostic, after)
    | (.ok token, after) =>
        let (tokens, finish) := after.scanAll buffer
        (tokens.map (token :: ·), finish)
termination_by cursor.rest.length
decreasing_by
  have shorter := scanToken_shortens _ahead _h
  have skipped : start.rest.length ≤ cursor.rest.length := by
    simp [start, skipSpaces, skipWhile]
  omega

end Cursor

namespace Buffer

/-- A text as a buffer. -/
def ofString (file text : String) : Buffer :=
  ⟨file, text.toList⟩

/-- The tokens of a buffer. -/
def tokens (buffer : Buffer) : Except Diagnostic (List Token) :=
  ((Cursor.start buffer.chars).scanAll buffer).1

end Buffer

end MicroC
