import MicroC.Proofs.Layout
import MicroC.Proofs.StreamPosition

/-! # Texts put one behind the other

A text is cut in the same way wherever it stands, as long as a blank or nothing follows it: only the
places of what is found are counted from another start. So the tokens of two texts with a blank between
them are those of the first and then those of the second, moved.
-/

namespace MicroC

/-! ## Moving places -/

/-- The number of characters behind the last line feed, all of them if there is none. -/
def lastLength (before : List Char) : Nat :=
  before.length - lineStartOf before

/-- Where a place comes to stand when whole lines and the beginning of a line are put in front of the
    text. Only places on the first line change their column. -/
def Location.moved (lines columns : Nat) (place : Location) : Location where
  file := place.file
  line := place.line + lines
  column := if place.line = 1 then place.column + columns else place.column

def Token.moved (lines columns : Nat) (token : Token) : Token :=
  { token with location := token.location.map (Location.moved lines columns) }

def Diagnostic.moved (lines columns : Nat) (diagnostic : Diagnostic) : Diagnostic :=
  { diagnostic with location := diagnostic.location.map (Location.moved lines columns) }

/-- The diagnostic without the line that it quotes. -/
def Diagnostic.unquoted (diagnostic : Diagnostic) : Diagnostic :=
  { diagnostic with sourceLine := none }

def Failure.moved (lines columns : Nat) : Failure → Failure
  | .diagnosed diagnostic => .diagnosed (diagnostic.moved lines columns)
  | other => other

def Failure.unquoted : Failure → Failure
  | .diagnosed diagnostic => .diagnosed diagnostic.unquoted
  | other => other

@[simp] theorem Location.moved_zero : Location.moved 0 0 = id := by
  funext place
  simp [moved]

@[simp] theorem Token.moved_zero : Token.moved 0 0 = id := by
  funext token
  simp [moved]

@[simp] theorem Diagnostic.moved_zero (diagnostic : Diagnostic) :
    diagnostic.moved 0 0 = diagnostic := by
  simp [moved]

/-! ## Cursors that see the same text -/

/-- The other cursor sees what this one sees and then more, and counts its lines and columns from
    another start. -/
structure Cursor.Mirrors (lines columns : Nat) (more : List Char) (cursor other : Cursor) : Prop where
  rest_eq : other.rest = cursor.rest ++ more
  line_eq : other.line = cursor.line + lines
  column_eq : other.column = if cursor.line = 1 then cursor.column + columns else cursor.column
  line_pos : 0 < cursor.line

namespace Cursor.Mirrors

variable {lines columns : Nat} {more : List Char} {cursor other : Cursor}

theorem advance (mirrors : cursor.Mirrors lines columns more other) (ahead : cursor.rest ≠ []) :
    cursor.advance.Mirrors lines columns more other.advance := by
  obtain ⟨c, tail, split⟩ := List.exists_cons_of_ne_nil ahead
  have split' : other.rest = c :: (tail ++ more) := by rw [mirrors.rest_eq, split, List.cons_append]
  have line := mirrors.line_eq
  have column := mirrors.column_eq
  have positive := mirrors.line_pos
  -- Behind a line feed the columns of both start anew, and this is no longer the first line.
  by_cases feed : c = '\n'
  · constructor <;> simp [Cursor.advance, split, split', feed] <;> omega
  · constructor <;> simp [Cursor.advance, split, split', feed] <;> grind

theorem advanceBy (mirrors : cursor.Mirrors lines columns more other) {count : Nat}
    (inside : count ≤ cursor.rest.length) :
    (cursor.advanceBy count).Mirrors lines columns more (other.advanceBy count) := by
  induction count generalizing cursor other with
  | zero => exact mirrors
  | succ count ih =>
      have ahead : cursor.rest ≠ [] := List.length_pos_iff.1 (by omega)
      apply ih (mirrors.advance ahead)
      rw [rest_advance, List.length_tail]
      omega

theorem passing {taken rest : List Char} (mirrors : cursor.Mirrors lines columns more other)
    (ahead : cursor.rest = taken ++ rest) :
    (cursor.advanceBy taken.length).Mirrors lines columns more (other.advanceBy taken.length) := by
  apply mirrors.advanceBy
  rw [ahead, List.length_append]
  omega

theorem location {buffer buffer' : Buffer} (mirrors : cursor.Mirrors lines columns more other)
    (file : buffer'.file = buffer.file) :
    other.location buffer' = (cursor.location buffer).moved lines columns := by
  have line := mirrors.line_eq
  have column := mirrors.column_eq
  simp only [Cursor.location, Location.moved, file, line, column, Location.mk.injEq, true_and]
  constructor
  · simp
  · by_cases first : cursor.line = 1 <;> simp [first]

end Cursor.Mirrors

/-! ## Cutting what both cursors see -/

theorem BreaksOff.append {rest more : List Char} (one : BreaksOff rest) (two : BreaksOff more) :
    BreaksOff (rest ++ more) := by
  cases rest with
  | nil => exact two
  | cons c rest => exact one

theorem breaksOff_nil : BreaksOff [] := by
  simp [BreaksOff]

/-- What is put behind a text makes no difference before the next blank. -/
theorem GoOnAlike.append (rest : List Char) {more : List Char} (breaks : BreaksOff more) :
    GoOnAlike rest (rest ++ more) := by
  obtain ⟨run, after, rfl, dark, ends⟩ := exists_run rest
  rw [List.append_assoc]
  exact .run dark ends (ends.append breaks)

theorem Stops.append {p : Char → Bool} {rest : List Char} (stops : Stops p rest)
    (nonempty : rest ≠ []) (more : List Char) : Stops p (rest ++ more) := by
  obtain ⟨c, tail, rfl⟩ := List.exists_cons_of_ne_nil nonempty
  exact stops

/-- Blanks in front of a text are skipped with those it starts with. -/
theorem Cuts.behind_blanks {buffer : Buffer} {cursor finish : Cursor} {blanks rest : List Char}
    {outcome : Except Diagnostic (List Token)} (ahead : cursor.rest = blanks ++ rest)
    (blank : ∀ c ∈ blanks, IsBlank c)
    (cut : Cuts buffer (cursor.advanceBy blanks.length) outcome finish) :
    Cuts buffer cursor outcome finish := by
  have joined : ∀ {more : List Char} {start : Cursor},
      (cursor.advanceBy blanks.length).Skips more start → cursor.Skips (blanks ++ more) start := by
    intro more start skips
    have behind := skips.ahead
    rw [Cursor.rest_advanceBy, ahead, List.drop_left] at behind
    exact
      { ahead := by rw [ahead, behind, List.append_assoc]
        blank := by
          intro c member
          rcases List.mem_append.1 member with member | member
          · exact blank c member
          · exact skips.blank c member
        start_eq := by
          rw [skips.start_eq, List.length_append, Cursor.advanceBy_add]
        stops := skips.stops }
  cases cut with
  | ended skips ended => exact .ended (joined skips) ended
  | refused skips start found => exact .refused (joined skips) start found
  | scanned skips start found later => exact .scanned (joined skips) start found later

theorem Cuts.at_end {buffer : Buffer} {cursor : Cursor} (ended : cursor.rest = []) :
    Cuts buffer cursor (.ok []) cursor := by
  have ahead : cursor.rest = [] ++ [] := by rw [ended, List.append_nil]
  obtain ⟨skips, -⟩ := Cursor.skips_of_blank ahead (by simp) (by simp [Stops])
  exact .ended skips ended

theorem Cuts.rest_of_ok {buffer : Buffer} {cursor finish : Cursor}
    {outcome : Except Diagnostic (List Token)} (cut : Cuts buffer cursor outcome finish) :
    ∀ tokens, outcome = .ok tokens → finish.rest = [] := by
  induction cut with
  | ended _ ended => exact fun _ _ => ended
  | refused => rintro _ ⟨⟩
  | @scanned _ _ _ _ _ _ _ outcome _ _ _ _ ih =>
      intro tokens ok
      cases outcome with
      | error diagnostic => cases ok
      | ok later => exact ih later rfl

section Mirrored

variable {buffer other : Buffer} (file : other.file = buffer.file) {lines columns : Nat}
  {more : List Char}

/-- Behind its blanks, a mirroring cursor makes the same finding. -/
theorem Cursor.Mirrors.finds {cursor start cursor' : Cursor} {blanks taken rest : List Char}
    {outcome : Except Problem Token} (mirrors : cursor.Mirrors lines columns more cursor')
    (breaks : BreaksOff more) (skips : cursor.Skips blanks start)
    (ahead : start.rest = taken ++ rest) (found : Finds taken rest outcome) :
    ∃ start', start.Mirrors lines columns more start' ∧ cursor'.Skips blanks start' ∧
      start'.rest = taken ++ (rest ++ more) ∧ Finds taken (rest ++ more) outcome := by
  have stops := skips.stops
  rw [ahead] at stops
  have ahead' : cursor'.rest = blanks ++ (taken ++ (rest ++ more)) := by
    rw [mirrors.rest_eq, skips.ahead, ahead, List.append_assoc, List.append_assoc]
  obtain ⟨skips', start'⟩ := Cursor.skips_of_blank ahead' skips.blank
    (List.append_assoc taken rest more ▸ stops.append found.append_ne_nil more)
  refine ⟨_, ?_, skips', start', (GoOnAlike.append rest breaks).finds stops found⟩
  rw [skips.start_eq]
  exact mirrors.passing skips.ahead

include file

/-- What one cursor cuts, a cursor that mirrors it cuts in the same way, and goes on behind it. -/
theorem Cuts.mirrored {cursor finish : Cursor} {outcome : Except Diagnostic (List Token)}
    (cut : Cuts buffer cursor outcome finish) (breaks : BreaksOff more) {cursor' : Cursor}
    (mirrors : cursor.Mirrors lines columns more cursor') :
    (∀ diagnostic, outcome = .error diagnostic → ∃ diagnostic' finish',
      Cuts other cursor' (.error diagnostic') finish' ∧
      diagnostic'.unquoted = (diagnostic.moved lines columns).unquoted) ∧
    ∀ tokens, outcome = .ok tokens → ∃ finish', cursor'.Forward finish' ∧
      finish.Mirrors lines columns more finish' ∧
      ∀ later last, Cuts other finish' later last →
        Cuts other cursor' (later.map (tokens.map (Token.moved lines columns) ++ ·)) last := by
  induction cut generalizing cursor' with
  | @ended cursor finish blanks skips ended =>
      refine ⟨nofun, ?_⟩
      rintro _ ⟨⟩
      have ahead : cursor'.rest = blanks ++ more := by
        rw [mirrors.rest_eq, skips.ahead, ended, List.append_nil]
      refine ⟨_, .advanceBy cursor' blanks.length, ?_, ?_⟩
      · rw [skips.start_eq]
        exact mirrors.passing skips.ahead
      · intro later last cut
        have whole : later.map (([] : List Token).map (Token.moved lines columns) ++ ·) = later := by
          cases later <;> rfl
        rw [whole]
        exact cut.behind_blanks ahead skips.blank
  | @refused cursor start blanks taken rest problem skips ahead found =>
      refine ⟨?_, nofun⟩
      rintro _ ⟨⟩
      obtain ⟨start', placed, skips', ahead', found'⟩ := mirrors.finds breaks skips ahead found
      refine ⟨_, _, .refused skips' ahead' found', ?_⟩
      rw [placed.location file]
      rfl
  | @scanned cursor start finish blanks taken rest token outcome skips ahead found cut ih =>
      obtain ⟨start', placed, skips', ahead', found'⟩ := mirrors.finds breaks skips ahead found
      obtain ⟨refuses, goesOn⟩ := ih (placed.passing ahead)
      refine ⟨?_, ?_⟩
      · intro diagnostic failed
        cases outcome with
        | ok tokens => cases failed
        | error diagnostic =>
            cases failed
            obtain ⟨diagnostic', finish', cut', same⟩ := refuses _ rfl
            exact ⟨diagnostic', finish', .scanned skips' ahead' found' cut', same⟩
      · intro tokens ok
        cases outcome with
        | error diagnostic => cases ok
        | ok tokens =>
            cases ok
            obtain ⟨finish', forward, mirrors', further⟩ := goesOn _ rfl
            refine ⟨finish', (skips'.forward.trans (.advanceBy _ _)).trans forward, mirrors', ?_⟩
            intro later last cut'
            have cut' := Cuts.scanned skips' ahead' found' (further later last cut')
            rw [placed.location file] at cut'
            cases later with
            | error diagnostic => exact cut'
            | ok later => exact cut'

end Mirrored

/-! ## Two texts -/

/-- A cursor behind a first text sees a second one as a cursor at its start does. -/
theorem Cursor.Sound.mirrors_start {before second : List Char} {cursor : Cursor}
    (sound : cursor.Sound (before ++ second)) (ahead : cursor.rest = second) :
    (Cursor.start second).Mirrors (before.count '\n') (lastLength before) [] cursor := by
  have offset : cursor.offset = before.length := by
    have rest := congrArg List.length sound.rest_eq
    have inside := sound.offset_le
    simp only [ahead, List.length_drop, List.length_append] at rest inside
    omega
  have behind : (before ++ second).take cursor.offset = before := by rw [offset, List.take_left]
  have line := sound.line_eq
  have column := sound.column_eq
  rw [sound.lineStart_eq, behind, offset] at column
  rw [behind] at line
  exact
    { rest_eq := by rw [ahead]; simp [Cursor.start]
      line_eq := by rw [line]; rfl
      column_eq := by rw [column, Nat.add_comm]; rfl
      line_pos := Nat.zero_lt_one }

theorem Buffer.mapError_lex (buffer : Buffer) (change : Failure → Failure) :
    buffer.lex.outcome.1.mapError change = buffer.tokens.mapError fun diagnostic =>
      change (.diagnosed diagnostic) := by
  rw [Traced.outcome_eq (Buffer.comesTo_lex _)]
  cases buffer.tokens <;> rfl

section Two

variable {file : String} {first second : List Char} {c : Char} (blank : IsBlank c)
include blank

theorem mirrors_first :
    BreaksOff (c :: second) ∧
      (Cursor.start first).Mirrors 0 0 (c :: second) (Cursor.start (first ++ c :: second)) := by
  refine ⟨?_, rfl, rfl, rfl, Nat.zero_lt_one⟩
  rintro _ ⟨⟩
  exact blank

theorem tokens_append_of_first {diagnostic : Diagnostic}
    (refused : (Buffer.mk file first).tokens = .error diagnostic) :
    ∃ diagnostic', (Buffer.mk file (first ++ c :: second)).tokens = .error diagnostic' ∧
      diagnostic'.unquoted = diagnostic.unquoted := by
  obtain ⟨breaks, mirrors⟩ := @mirrors_first first second c blank
  have named : (Buffer.mk file (first ++ c :: second)).file = (Buffer.mk file first).file := rfl
  obtain ⟨finish, cut⟩ := Buffer.tokens_eq_iff.1 refused
  obtain ⟨diagnostic', finish', cut', same⟩ := (cut.mirrored named breaks mirrors).1 _ rfl
  rw [Diagnostic.moved_zero] at same
  exact ⟨diagnostic', Buffer.tokens_eq_iff.2 ⟨finish', cut'⟩, same⟩

/-- Behind the first text and the blank, a cursor sees the second text as one at its start does. -/
theorem exists_behind_first {tokens : List Token}
    (accepted : (Buffer.mk file first).tokens = .ok tokens) :
    ∃ cursor, (Cursor.start second).Mirrors ((first ++ [c]).count '\n') (lastLength (first ++ [c])) []
        cursor ∧
      ∀ later last, Cuts (Buffer.mk file (first ++ c :: second)) cursor later last →
        (Buffer.mk file (first ++ c :: second)).tokens = later.map (tokens ++ ·) := by
  obtain ⟨breaks, mirrors⟩ := @mirrors_first first second c blank
  have named : (Buffer.mk file (first ++ c :: second)).file = (Buffer.mk file first).file := rfl
  obtain ⟨finish, cut⟩ := Buffer.tokens_eq_iff.1 accepted
  obtain ⟨border, forward, there, further⟩ := (cut.mirrored named breaks mirrors).2 _ rfl
  have ahead : border.rest = [c] ++ second := by
    rw [there.rest_eq, cut.rest_of_ok _ rfl]
    rfl
  have sound : (border.advanceBy [c].length).Sound ((first ++ [c]) ++ second) := by
    rw [List.append_assoc]
    exact (forward.sound (Cursor.sound_start _)).advanceBy _
  refine ⟨_, sound.mirrors_start (by rw [Cursor.rest_advanceBy, ahead, List.drop_left]), ?_⟩
  intro later last cut'
  have all := further later last (cut'.behind_blanks ahead (by simpa using blank))
  rw [Token.moved_zero, List.map_id] at all
  exact Buffer.tokens_eq_iff.2 ⟨last, all⟩

end Two

/-- The tokens of two texts with a blank between them are the tokens of the first and then those of the
    second, moved behind the first and the blank. If the first text is refused, the two together are
    refused with the same problem at the same place; if only the second is, with its problem at its
    place, moved. -/
theorem lex_append_blank (file : String) (first second : List Char) {c : Char} (blank : IsBlank c) :
    let lines := (first ++ [c]).count '\n'
    let columns := lastLength (first ++ [c])
    (Buffer.mk file (first ++ c :: second)).lex.outcome.1.mapError Failure.unquoted = (do
      let tokens ← (Buffer.mk file first).lex.outcome.1.mapError Failure.unquoted
      let later ← (Buffer.mk file second).lex.outcome.1.mapError fun failure =>
        (failure.moved lines columns).unquoted
      return tokens ++ later.map (Token.moved lines columns)) := by
  intro lines columns
  rw [Buffer.mapError_lex, Buffer.mapError_lex, Buffer.mapError_lex]
  cases one : (Buffer.mk file first).tokens with
  | error diagnostic =>
      obtain ⟨diagnostic', refused, same⟩ := @tokens_append_of_first file first second c blank _ one
      rw [refused]
      exact congrArg (fun shown => Except.error (Failure.diagnosed shown)) same
  | ok tokens =>
      obtain ⟨cursor, mirrors, further⟩ := @exists_behind_first file first second c blank _ one
      have named : (Buffer.mk file (first ++ c :: second)).file = (Buffer.mk file second).file := rfl
      cases two : (Buffer.mk file second).tokens with
      | error diagnostic =>
          obtain ⟨finish, cut⟩ := Buffer.tokens_eq_iff.1 two
          obtain ⟨diagnostic', finish', cut', same⟩ :=
            (cut.mirrored named breaksOff_nil mirrors).1 _ rfl
          rw [further _ _ cut']
          exact congrArg (fun shown => Except.error (Failure.diagnosed shown)) same
      | ok later =>
          obtain ⟨finish, cut⟩ := Buffer.tokens_eq_iff.1 two
          obtain ⟨finish', -, there, more⟩ := (cut.mirrored named breaksOff_nil mirrors).2 _ rfl
          have ended : finish'.rest = [] := by
            rw [there.rest_eq, cut.rest_of_ok _ rfl]
            rfl
          rw [further _ _ (more _ _ (.at_end ended))]
          exact congrArg (fun moved => Except.ok (tokens ++ moved)) (List.append_nil _)

/-- The second text starts in the middle of a line, which moves the columns of its first line only. -/
theorem lex_append_blank_second_line :
    IsBlank '\t' ∧
    (Buffer.mk "a.c" ("int\n f".toList ++ '\t' :: "g\n9".toList)).lex.outcome.1 =
      .ok [{ kind := .intKeyword, location := some ⟨"a.c", 1, 1⟩ },
        { kind := .identifier, text := some "f", location := some ⟨"a.c", 2, 2⟩ },
        { kind := .identifier, text := some "g", location := some ⟨"a.c", 2, 4⟩ },
        { kind := .constant, text := some "9", location := some ⟨"a.c", 3, 1⟩ }] := by
  have blank : IsBlank '\t' := by decide
  have one : (Buffer.mk "a.c" "int\n f".toList).lex.outcome.1 =
      .ok [{ kind := .intKeyword, location := some ⟨"a.c", 1, 1⟩ },
        { kind := .identifier, text := some "f", location := some ⟨"a.c", 2, 2⟩ }] :=
    Buffer.lex_eq_ok_iff.2 (eq_ok_of_toOption (by decide +kernel))
  have two : (Buffer.mk "a.c" "g\n9".toList).lex.outcome.1 =
      .ok [{ kind := .identifier, text := some "g", location := some ⟨"a.c", 1, 1⟩ },
        { kind := .constant, text := some "9", location := some ⟨"a.c", 2, 1⟩ }] :=
    Buffer.lex_eq_ok_iff.2 (eq_ok_of_toOption (by decide +kernel))
  have joined := lex_append_blank "a.c" "int\n f".toList "g\n9".toList blank
  rw [one, two] at joined
  exact ⟨blank, mapError_eq_ok_iff.1 (joined.trans rfl)⟩

end MicroC
