import MicroC.Token.Scan

/-! # Positions in a text

The line and the column of an offset are functions of the text before it. A sound cursor is one whose
counters say just that. Advancing keeps a cursor sound whatever it steps over, and the places of a
text stand in the order of their offsets.
-/

namespace MicroC

/-- The offset right after the last line feed of a text, zero if it has none. -/
def lineStartOf (before : List Char) : Nat :=
  before.length - before.reverse.idxOf '\n'

/-- The place right after a text, in a file. -/
def placeAfter (file : String) (before : List Char) : Location where
  file
  line := (1 + before.count '\n' : Nat)
  column := (before.length - lineStartOf before + 1 : Nat)

/-- The place of an offset in a buffer. -/
def Buffer.place (buffer : Buffer) (offset : Nat) : Location :=
  placeAfter buffer.file (buffer.chars.take offset)

/-- One place comes before another: on an earlier line, or further left on the same line. -/
def Location.Precedes (first second : Location) : Prop :=
  first.line < second.line ∨ (first.line = second.line ∧ first.column < second.column)

/-- The counters of a cursor are true of a text: it stands inside, what it holds ahead is the rest of
    the text, and line, column and start of the line are those of the text behind it. -/
structure Cursor.Sound (chars : List Char) (cursor : Cursor) : Prop where
  offset_le : cursor.offset ≤ chars.length
  rest_eq : cursor.rest = chars.drop cursor.offset
  line_eq : cursor.line = 1 + (chars.take cursor.offset).count '\n'
  lineStart_eq : cursor.lineStart = lineStartOf (chars.take cursor.offset)
  column_eq : cursor.column = cursor.offset - cursor.lineStart + 1

theorem lineStartOf_le (before : List Char) : lineStartOf before ≤ before.length :=
  Nat.sub_le _ _

/-- Text without a line feed stays on the line. -/
theorem lineStartOf_append {before more : List Char} (feedless : '\n' ∉ more) :
    lineStartOf (before ++ more) = lineStartOf before := by
  have ahead : (before ++ more).reverse.idxOf '\n' = before.reverse.idxOf '\n' + more.length := by
    rw [List.reverse_append, List.idxOf_append, if_neg (by simpa using feedless), List.length_reverse]
  rw [lineStartOf, lineStartOf, ahead, List.length_append]
  omega

/-- A line feed starts a line. -/
theorem lineStartOf_append_feed (before : List Char) :
    lineStartOf (before ++ ['\n']) = before.length + 1 := by
  simp [lineStartOf]

/-- Places stand in the order of their offsets. -/
theorem placeAfter_precedes {file : String} {before more : List Char} (nonempty : more ≠ []) :
    (placeAfter file before).Precedes (placeAfter file (before ++ more)) := by
  have longer : 0 < more.length := List.length_pos_iff.2 nonempty
  by_cases feed : '\n' ∈ more
  · left
    have : 0 < more.count '\n' := List.count_pos_iff.2 feed
    simp only [placeAfter, List.count_append]
    omega
  · right
    have same : more.count '\n' = 0 := List.count_eq_zero.2 feed
    have start := lineStartOf_le before
    simp only [placeAfter, List.count_append, same, lineStartOf_append feed, List.length_append]
    omega

theorem Buffer.place_precedes {buffer : Buffer} {first second : Nat} (less : first < second)
    (inside : second ≤ buffer.chars.length) :
    (buffer.place first).Precedes (buffer.place second) := by
  have split : buffer.chars.take second =
      buffer.chars.take first ++ (buffer.chars.drop first).take (second - first) := by
    rw [← List.take_add, Nat.add_sub_cancel' (Nat.le_of_lt less)]
  rw [place, place, split]
  apply placeAfter_precedes
  rw [← List.length_pos_iff, List.length_take, List.length_drop]
  omega

namespace Cursor

/-! ## What advancing does to the offset -/

theorem offset_advance {cursor : Cursor} (ahead : cursor.rest ≠ []) :
    cursor.advance.offset = cursor.offset + 1 := by
  unfold advance
  split
  next ended => exact absurd ended ahead
  next => split <;> rfl

theorem offset_advanceBy {cursor : Cursor} {count : Nat} (ahead : count ≤ cursor.rest.length) :
    (cursor.advanceBy count).offset = cursor.offset + count := by
  induction count generalizing cursor with
  | zero => rfl
  | succ count ih =>
      have nonempty : cursor.rest ≠ [] := List.length_pos_iff.1 (by omega)
      have further : count ≤ cursor.advance.rest.length := by
        rw [rest_advance, List.length_tail]
        omega
      rw [advanceBy, ih further, offset_advance nonempty]
      omega

theorem offset_le_advance (cursor : Cursor) : cursor.offset ≤ cursor.advance.offset := by
  unfold advance
  split
  next => exact Nat.le_refl _
  next => split <;> exact Nat.le_succ _

theorem offset_le_advanceBy (count : Nat) (cursor : Cursor) :
    cursor.offset ≤ (cursor.advanceBy count).offset := by
  induction count generalizing cursor with
  | zero => exact Nat.le_refl _
  | succ count ih => exact Nat.le_trans cursor.offset_le_advance (ih cursor.advance)

/-- The cursor some characters further on in its line. -/
def along (cursor : Cursor) (count : Nat) : Cursor :=
  { cursor with
    offset := cursor.offset + count
    column := cursor.column + count
    rest := cursor.rest.drop count }

theorem along_along (cursor : Cursor) (first second : Nat) :
    (cursor.along first).along second = cursor.along (first + second) := by
  simp [along, Nat.add_assoc]

/-- Where no line feed is passed, advancing stays in the line. -/
theorem advanceBy_eq_along {cursor : Cursor} {taken rest : List Char}
    (ahead : cursor.rest = taken ++ rest) (feedless : '\n' ∉ taken) :
    cursor.advanceBy taken.length = cursor.along taken.length := by
  induction taken generalizing cursor with
  | nil => rfl
  | cons c taken ih =>
      have other : c ≠ '\n' := fun same => feedless (same ▸ List.mem_cons_self)
      have later : '\n' ∉ taken := fun feed => feedless (List.mem_cons_of_mem _ feed)
      have step : cursor.advance = cursor.along 1 := by simp [advance, along, ahead, other]
      have lower : (cursor.along 1).rest = taken ++ rest := by simp [along, ahead]
      rw [List.length_cons, advanceBy, step, ih lower later, along_along, Nat.add_comm]

/-- Only a line feed moves the start of the line. -/
theorem lineStart_advanceBy {cursor : Cursor} {taken rest : List Char}
    (ahead : cursor.rest = taken ++ rest) (feedless : '\n' ∉ taken) :
    (cursor.advanceBy taken.length).lineStart = cursor.lineStart := by
  rw [advanceBy_eq_along ahead feedless, along]

/-! ## Soundness along a run -/

theorem sound_start (chars : List Char) : Sound chars (start chars) where
  offset_le := Nat.zero_le _
  rest_eq := rfl
  line_eq := rfl
  lineStart_eq := rfl
  column_eq := rfl

namespace Sound

/-- The characters behind a cursor after a step are those before it and the one stepped over. -/
theorem take_advance {chars tail : List Char} {cursor : Cursor} {c : Char}
    (sound : Sound chars cursor) (ahead : cursor.rest = c :: tail) :
    chars.take (cursor.offset + 1) = chars.take cursor.offset ++ [c] := by
  have next : chars.drop cursor.offset = c :: tail := by rw [← sound.rest_eq, ahead]
  rw [List.take_add, next]
  rfl

theorem advance {chars : List Char} {cursor : Cursor} (sound : Sound chars cursor) :
    Sound chars cursor.advance := by
  cases ahead : cursor.rest with
  | nil =>
      have still : cursor.advance = cursor := by simp [Cursor.advance, ahead]
      rw [still]
      exact sound
  | cons c tail =>
      have next : chars.drop cursor.offset = c :: tail := by rw [← sound.rest_eq, ahead]
      have inside : cursor.offset + 1 ≤ chars.length := by
        have := congrArg List.length next
        simp only [List.length_drop, List.length_cons] at this
        omega
      have behind := sound.take_advance ahead
      have rest : tail = chars.drop (cursor.offset + 1) := by
        rw [← List.drop_drop, next]
        rfl
      have length : (chars.take cursor.offset).length = cursor.offset :=
        List.length_take_of_le sound.offset_le
      -- A line feed resets the column and the start of the line; the two cases share nothing else.
      by_cases feed : c = '\n'
      · subst feed
        have step : cursor.advance =
            { offset := cursor.offset + 1, line := cursor.line + 1, column := 1,
              lineStart := cursor.offset + 1, rest := tail } := by
          simp [Cursor.advance, ahead]
        rw [step]
        exact
          { offset_le := inside
            rest_eq := rest
            line_eq := by simp only [behind, sound.line_eq, List.count_append]; rfl
            lineStart_eq := by simp only [behind, lineStartOf_append_feed, length]
            column_eq := by simp }
      · have step : cursor.advance =
            { cursor with offset := cursor.offset + 1, column := cursor.column + 1,
                          rest := tail } := by
          simp [Cursor.advance, ahead, feed]
        have feedless : '\n' ∉ [c] := by simpa using Ne.symm feed
        have start : cursor.lineStart ≤ cursor.offset := by
          rw [sound.lineStart_eq]
          exact Nat.le_trans (lineStartOf_le _) (Nat.le_of_eq length)
        rw [step]
        exact
          { offset_le := inside
            rest_eq := rest
            line_eq := by
              simp only [behind, sound.line_eq, List.count_append, List.count_eq_zero.2 feedless]
              rfl
            lineStart_eq := by simp only [behind, lineStartOf_append feedless, sound.lineStart_eq]
            column_eq := by simp only [sound.column_eq]; omega }

theorem advanceBy {chars : List Char} {cursor : Cursor} (sound : Sound chars cursor) (count : Nat) :
    Sound chars (cursor.advanceBy count) := by
  induction count generalizing cursor with
  | zero => exact sound
  | succ count ih => exact ih sound.advance

/-- A sound cursor splits the text. -/
theorem take_append_rest {chars : List Char} {cursor : Cursor} (sound : Sound chars cursor) :
    chars.take cursor.offset ++ cursor.rest = chars := by
  rw [sound.rest_eq, List.take_append_drop]

theorem take_advanceBy {chars taken rest : List Char} {cursor : Cursor}
    (sound : Sound chars cursor) (ahead : cursor.rest = taken ++ rest) :
    chars.take (cursor.advanceBy taken.length).offset = chars.take cursor.offset ++ taken := by
  have inside : taken.length ≤ cursor.rest.length := by
    rw [ahead, List.length_append]
    omega
  rw [offset_advanceBy inside, List.take_add, ← sound.rest_eq, ahead, List.take_left]

/-- A sound cursor names the place where it stands. -/
theorem location {buffer : Buffer} {cursor : Cursor} (sound : Sound buffer.chars cursor) :
    cursor.location buffer = buffer.place cursor.offset := by
  have length : (buffer.chars.take cursor.offset).length = cursor.offset :=
    List.length_take_of_le sound.offset_le
  rw [Cursor.location, Buffer.place, placeAfter, sound.column_eq, sound.line_eq,
    sound.lineStart_eq, length]

end Sound

end Cursor

end MicroC
