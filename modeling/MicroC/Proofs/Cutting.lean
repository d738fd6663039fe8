import MicroC.Proofs.Finding

/-! # Cutting a text into tokens

`Cuts` describes a whole run over a text: blanks are skipped, a finding is made, and so on until the
text ends or a finding is a problem. `scanAll_iff` shows that this is exactly what `scanAll` computes,
so what holds of all runs is proved by induction on `Cuts`.
-/

namespace MicroC

/-- Behind the given blanks the cursor stands at `start`, in front of no blank. -/
structure Cursor.Skips (cursor : Cursor) (blanks : List Char) (start : Cursor) : Prop where
  ahead : cursor.rest = blanks ++ start.rest
  blank : ∀ c ∈ blanks, IsBlank c
  start_eq : start = cursor.advanceBy blanks.length
  stops : Stops isSpace start.rest

/-- How the text ahead of a cursor is cut into tokens, and where that ends. -/
inductive Cuts (buffer : Buffer) : Cursor → Except Diagnostic (List Token) → Cursor → Prop where
  /-- Nothing but blanks is left. -/
  | ended {cursor finish : Cursor} {blanks : List Char} :
      cursor.Skips blanks finish → finish.rest = [] → Cuts buffer cursor (.ok []) finish
  /-- The text is refused where a problem is found. -/
  | refused {cursor start : Cursor} {blanks taken rest : List Char} {problem : Problem} :
      cursor.Skips blanks start → start.rest = taken ++ rest → Finds taken rest (.error problem) →
      Cuts buffer cursor
        (.error { problem, location := some (start.location buffer),
                  sourceLine := some (start.currentLine buffer) })
        (start.advanceBy taken.length)
  /-- A token is found, and the rest is cut in the same way. -/
  | scanned {cursor start finish : Cursor} {blanks taken rest : List Char} {token : Token}
      {outcome : Except Diagnostic (List Token)} :
      cursor.Skips blanks start → start.rest = taken ++ rest → Finds taken rest (.ok token) →
      Cuts buffer (start.advanceBy taken.length) outcome finish →
      Cuts buffer cursor
        (outcome.map ({ token with location := some (start.location buffer) } :: ·)) finish

theorem Finds.append_ne_nil {taken rest : List Char} {outcome : Except Problem Token}
    (found : Finds taken rest outcome) : taken ++ rest ≠ [] := by
  cases found with
  | token formed _ => exact List.append_ne_nil_of_left_ne_nil formed.spelling_ne_nil _
  | malformed nonempty _ _ => exact List.append_ne_nil_of_left_ne_nil nonempty _
  | octal zero _ _ _ =>
      rintro empty
      rw [(List.append_eq_nil_iff.1 empty).1] at zero
      cases zero
  | stranger => exact List.cons_ne_nil _ _

theorem Finds.taken_ne_nil {taken rest : List Char} {token : Token}
    (found : Finds taken rest (.ok token)) : taken ≠ [] := by
  cases found with
  | token formed _ => exact formed.spelling_ne_nil

namespace Cursor

theorem skips_skipSpaces (cursor : Cursor) :
    cursor.Skips (cursor.rest.takeWhile isSpace) cursor.skipSpaces := by
  have rest : cursor.skipSpaces.rest = cursor.rest.dropWhile isSpace := by
    rw [skipSpaces, skipWhile, rest_advanceBy, drop_length_takeWhile]
  exact
    { ahead := by rw [rest, List.takeWhile_append_dropWhile]
      blank := fun c member => isSpace_iff.1 (List.mem_takeWhile_imp member)
      start_eq := rfl
      stops := by
        rw [rest]
        exact stops_dropWhile _ _ }

theorem skips_of_blank {cursor : Cursor} {blanks rest : List Char}
    (ahead : cursor.rest = blanks ++ rest) (blank : ∀ c ∈ blanks, IsBlank c)
    (stops : Stops isSpace rest) :
    cursor.Skips blanks (cursor.advanceBy blanks.length) ∧
      (cursor.advanceBy blanks.length).rest = rest := by
  have after : (cursor.advanceBy blanks.length).rest = rest := by
    rw [rest_advanceBy, ahead, List.drop_left]
  exact ⟨⟨by rw [after, ahead], blank, rfl, by rwa [after]⟩, after⟩

/-- Skipping takes all blanks, and no more. -/
theorem Skips.takeWhile {cursor start : Cursor} {blanks : List Char}
    (skips : cursor.Skips blanks start) : cursor.rest.takeWhile isSpace = blanks := by
  rw [skips.ahead]
  exact takeWhile_of_stops (fun c member => isSpace_iff.2 (skips.blank c member)) skips.stops

theorem Skips.skipSpaces {cursor start : Cursor} {blanks : List Char}
    (skips : cursor.Skips blanks start) : cursor.skipSpaces = start := by
  rw [Cursor.skipSpaces, skipWhile, skips.takeWhile, ← skips.start_eq]

theorem scanAll_end {cursor : Cursor} {buffer : Buffer} (ended : cursor.skipSpaces.rest = []) :
    cursor.scanAll buffer = (.ok [], cursor.skipSpaces) := by
  rw [scanAll]
  simp [ended]

theorem scanAll_error {cursor after : Cursor} {buffer : Buffer} {diagnostic : Diagnostic}
    (ahead : cursor.skipSpaces.rest ≠ [])
    (scan : cursor.skipSpaces.scanToken buffer = (.error diagnostic, after)) :
    cursor.scanAll buffer = (.error diagnostic, after) := by
  rw [scanAll]
  simp only [ahead, dite_false]
  split
  next same => simpa [scan] using same.symm
  next same => simp [scan] at same

theorem scanAll_token {cursor after : Cursor} {buffer : Buffer} {token : Token}
    (ahead : cursor.skipSpaces.rest ≠ [])
    (scan : cursor.skipSpaces.scanToken buffer = (.ok token, after)) :
    cursor.scanAll buffer =
      ((after.scanAll buffer).1.map (token :: ·), (after.scanAll buffer).2) := by
  rw [scanAll]
  simp only [ahead, dite_false]
  split
  next same => simp [scan] at same
  next same =>
    obtain ⟨rfl, rfl⟩ : token = _ ∧ after = _ := by simpa [scan] using same
    rfl

theorem scanAll_complete {cursor finish : Cursor} {buffer : Buffer}
    {outcome : Except Diagnostic (List Token)} (cuts : Cuts buffer cursor outcome finish) :
    cursor.scanAll buffer = (outcome, finish) := by
  induction cuts with
  | ended skips ended =>
      rw [scanAll_end (skips.skipSpaces ▸ ended), skips.skipSpaces]
  | refused skips ahead found =>
      apply scanAll_error
      · rw [skips.skipSpaces, ahead]
        exact found.append_ne_nil
      · rw [skips.skipSpaces, scanToken_eq buffer ahead found]
        rfl
  | scanned skips ahead found _ ih =>
      have nonempty := found.append_ne_nil
      rw [← ahead, ← skips.skipSpaces] at nonempty
      have scan := scanToken_eq buffer ahead found
      rw [← skips.skipSpaces] at scan
      rw [scanAll_token nonempty scan, skips.skipSpaces, ih]

theorem scanAll_sound (cursor : Cursor) (buffer : Buffer) :
    Cuts buffer cursor (cursor.scanAll buffer).1 (cursor.scanAll buffer).2 := by
  induction cursor using scanAll.induct buffer with
  | case1 cursor start ended =>
      rw [scanAll_end ended]
      exact .ended cursor.skips_skipSpaces ended
  | case2 cursor start nonempty diagnostic after scan =>
      rw [scanAll_error nonempty scan]
      obtain ⟨taken, rest, outcome, ahead, found, scan'⟩ := scanToken_finds buffer nonempty
      rw [scan] at scan'
      cases outcome with
      | ok token => simp [report] at scan'
      | error problem =>
          obtain ⟨same, rfl⟩ := Prod.mk.inj scan'
          cases same
          exact .refused cursor.skips_skipSpaces ahead found
  | case3 cursor start nonempty token after scan tokens finish _ ih =>
      rw [scanAll_token nonempty scan]
      obtain ⟨taken, rest, outcome, ahead, found, scan'⟩ := scanToken_finds buffer nonempty
      rw [scan] at scan'
      cases outcome with
      | ok token =>
          obtain ⟨same, rfl⟩ := Prod.mk.inj scan'
          cases same
          exact .scanned cursor.skips_skipSpaces ahead found ih
      | error problem => simp [report] at scan'

theorem scanAll_iff {cursor finish : Cursor} {buffer : Buffer}
    {outcome : Except Diagnostic (List Token)} :
    cursor.scanAll buffer = (outcome, finish) ↔ Cuts buffer cursor outcome finish := by
  constructor
  · intro run
    simpa only [run] using scanAll_sound cursor buffer
  · exact scanAll_complete

end Cursor

theorem Buffer.tokens_eq_iff {buffer : Buffer} {outcome : Except Diagnostic (List Token)} :
    buffer.tokens = outcome ↔ ∃ finish, Cuts buffer (Cursor.start buffer.chars) outcome finish := by
  simp only [← Cursor.scanAll_iff, Prod.ext_iff, exists_and_left, exists_eq', and_true]
  rfl

end MicroC
