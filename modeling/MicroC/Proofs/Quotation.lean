import MicroC.Proofs.Diagnosis
import MicroC.Proofs.Dump
import MicroC.Proofs.Lines

/-! # Quoted lines

A diagnostic of the parser points at a token and quotes a line. The token was placed by a cursor, and
the line is taken from `splitLines`. The two agree unless the text holds a carriage return without a
line feed, on an earlier line or within the line itself.
-/

namespace MicroC

open Text

/-! ## Tokens in their lines -/

/-- A token stands in the text where its location says. -/
def Token.StandsIn (token : Token) (buffer : Buffer) : Prop :=
  ∃ before after, buffer.chars = before ++ token.spelling ++ after ∧
    token.location = some (placeAfter buffer.file before)

theorem Cuts.standsIn {buffer : Buffer} {cursor finish : Cursor}
    {outcome : Except Diagnostic (List Token)} (cut : Cuts buffer cursor outcome finish)
    (sound : cursor.Sound buffer.chars) :
    ∀ tokens, outcome = .ok tokens → ∀ token ∈ tokens, token.StandsIn buffer := by
  induction cut with
  | ended =>
      rintro _ ⟨⟩
      simp
  | refused => rintro _ ⟨⟩
  | @scanned cursor start finish blanks taken rest token outcome skips ahead found cut ih =>
      have begins : start.Sound buffer.chars := by
        rw [skips.start_eq]
        exact sound.advanceBy _
      intro tokens ok
      cases outcome with
      | error diagnostic => cases ok
      | ok later =>
          cases ok
          intro other member
          rcases List.mem_cons.1 member with rfl | member
          · cases found with
            | token formed boundary =>
                refine ⟨buffer.chars.take start.offset, rest, ?_, congrArg some begins.location⟩
                rw [List.append_assoc]
                exact (ahead ▸ begins.take_append_rest).symm
          · exact ih (begins.advanceBy _) later rfl other member

theorem Buffer.standsIn {buffer : Buffer} {found : List Token}
    (accepted : buffer.tokens = .ok found) : ∀ token ∈ found, token.StandsIn buffer := by
  obtain ⟨finish, cut⟩ := Buffer.tokens_eq_iff.1 accepted
  exact cut.standsIn (Cursor.sound_start _) found rfl

/-- No place in a text is further than the text is long. -/
theorem natAbs_placeAfter_lt (file : String) {before : List Char} {more size limit : Nat}
    (inside : before.length + more ≤ size) (short : size + 1 < limit) :
    (placeAfter file before).line.natAbs < limit ∧
      ((placeAfter file before).column + more).natAbs < limit := by
  have feeds : before.count '\n' ≤ before.length := List.count_le_length
  simp only [placeAfter]
  omega

/-- The places in a text can be written, unless the text is longer than any. -/
theorem Buffer.nameable {buffer : Buffer} {found : List Token} (accepted : buffer.tokens = .ok found)
    (short : buffer.chars.length + 1 < 10 ^ 4300) : Source.Nameable found where
  places token member place located := by
    obtain ⟨before, after, chars, placed⟩ := standsIn accepted token member
    obtain rfl := Option.some.inj (placed.symm.trans located)
    have inside : before.length + 0 ≤ buffer.chars.length := by simp [chars]
    obtain ⟨line, column⟩ := natAbs_placeAfter_lt buffer.file inside short
    exact ⟨line, column⟩
  past place past := by
    obtain ⟨last, start, text, final, located, lexeme, rfl⟩ := Source.exists_of_placePast past
    obtain ⟨before, after, chars, placed⟩ := standsIn accepted last (List.mem_of_getLast? final)
    obtain rfl := Option.some.inj (placed.symm.trans located)
    have inside : before.length + text.length ≤ buffer.chars.length := by
      simp [chars, Token.spelling, lexeme, String.length_toList]
    obtain ⟨line, column⟩ := natAbs_placeAfter_lt buffer.file inside short
    exact ⟨line, column⟩

/-- The tokens of a text are read like any tokens. -/
theorem Source.Program.ofLexed_eq_ofTokens {buffer : Buffer} {found : List Token}
    (accepted : buffer.tokens = .ok found) (short : buffer.chars.length + 1 < 10 ^ 4300)
    (file : String) (lines : List String) :
    Source.Program.ofLexed found file lines = Source.Program.ofTokens found file lines := by
  rw [ofLexed, ofTokens, parse_eq_derive (Buffer.spelled accepted) (Buffer.nameable accepted short)]

/-- A token stands in a line behind whole lines, and its place counts just that. -/
theorem Token.StandsIn.in_line {token : Token} {buffer : Buffer} (stands : token.StandsIn buffer)
    (formed : token.WellFormed) :
    ∃ place head rest lead trail, token.location = some place ∧ buffer.chars = head ++ rest ∧
      WholeLines head ∧ place.line = (head.count '\n' + 1 : Nat) ∧
      trimReturns (rest.takeWhile (· != '\n')) = lead ++ token.spelling ++ trail ∧
      place.column = (lead.length + 1 : Nat) := by
  obtain ⟨before, after, chars, placed⟩ := stands
  have plain : ∀ c ∈ token.spelling, c ≠ '\n' ∧ c ≠ '\r' :=
    fun c member => ne_of_not_blank (formed.not_blank c member)
  obtain ⟨head, rest, lead, trail, split, whole, line, inside, column⟩ :=
    exists_line_around buffer.file before after formed.spelling_ne_nil plain
  exact ⟨_, head, rest, lead, trail, placed, chars.trans split, whole, line, inside, column⟩

theorem InWord.not_isLineBreak {c : Char} (word : InWord c) : isLineBreak c = false := by
  have low : 48 ≤ c.toNat := by
    rcases word with (letter | rfl) | digit
    · rcases letter with upper | lower
      · exact Nat.le_trans (by decide) upper.1
      · exact Nat.le_trans (by decide) lower.1
    · decide
    · exact digit.1
  have high : c.toNat ≤ 122 := by
    rcases word with (letter | rfl) | digit
    · rcases letter with upper | lower
      · exact Nat.le_trans upper.2 (by decide)
      · exact lower.2
    · decide
    · exact Nat.le_trans digit.2 (by decide)
  simp [isLineBreak]
  omega

theorem Token.WellFormed.not_isLineBreak {token : Token} (formed : token.WellFormed) :
    ∀ c ∈ token.spelling, isLineBreak c = false := by
  intro c member
  cases word : token.kind.isWord with
  | true => exact (formed.inWord word c member).not_isLineBreak
  | false =>
      obtain ⟨d, single, known⟩ := formed.delimiter word
      rw [single, List.mem_singleton] at member
      subst member
      have := isDelimiter_of_delimiter? known
      simp only [IsDelimiter, List.mem_cons, List.not_mem_nil, or_false] at this
      rcases this with rfl | rfl | rfl | rfl | rfl <;> rfl

theorem IsBlank.feed_or_return {c : Char} (blank : IsBlank c) (broken : isLineBreak c = true) :
    c = '\n' ∨ c = '\r' := by
  rcases blank with rfl | rfl | rfl | rfl
  · cases broken
  · cases broken
  · exact .inl rfl
  · exact .inr rfl

/-- A text that is cut into tokens has no line breaks but line feeds and returns. -/
theorem Buffer.plainBreaks {buffer : Buffer} {found : List Token}
    (accepted : buffer.tokens = .ok found) : PlainBreaks buffer.chars := by
  obtain ⟨first, pieces, -, segmentation⟩ := Segmentation.of_tokens_eq accepted
  intro c member broken
  rw [segmentation.source_eq, List.mem_append, List.mem_flatMap] at member
  rcases member with blank | ⟨piece, among, member⟩
  · exact (segmentation.first_blank c blank).feed_or_return broken
  · rcases List.mem_append.1 member with inside | blank
    · rw [(segmentation.wellFormed piece among).not_isLineBreak c inside] at broken
      cases broken
    · exact (segmentation.gap_blank piece among c blank).feed_or_return broken

/-! ## What a diagnostic of the parser points at -/

/-- The lexeme that a problem is about. -/
def Problem.found? : Problem → Option String
  | .unexpectedToken found _ | .trailingTokens found => some found
  | _ => none

/-- A located diagnostic of the parser quotes the line of a token. It stands at that token, or behind it
    if the tokens end there. -/
theorem Source.exists_blamed {tokens : List Token} {lines : List String} {diagnostic : Diagnostic}
    {place : Location} (spelled : ∀ token ∈ tokens, ∃ text, token.lexeme? = some text)
    (failed : derive tokens lines = .error (.diagnosed diagnostic))
    (located : diagnostic.location = some place) :
    ∃ token ∈ tokens, ∃ start, token.location = some start ∧ place.line = start.line ∧
      diagnostic.sourceLine = lineOf? lines token ∧
      ∀ found, diagnostic.problem.found? = some found →
        place = start ∧ token.lexeme? = some found := by
  obtain ⟨_, ⟨⟩, refuses⟩ := refuses_of_derive lines spelled failed
  cases refuses with
  | @unexpected token _ text missed ahead lexeme =>
      refine ⟨token, List.mem_of_getElem? ahead, place, located, rfl, rfl, ?_⟩
      rintro _ ⟨⟩
      exact ⟨rfl, lexeme⟩
  | ended missed ended =>
      obtain ⟨last, start, text, final, begins, -, rfl⟩ := exists_of_placePast located
      refine ⟨last, List.mem_of_getLast? final, start, begins, rfl, by simp [final], ?_⟩
      rintro _ ⟨⟩
  | @trailing token text full ahead lexeme =>
      refine ⟨token, List.mem_of_getElem? ahead, place, located, rfl, rfl, ?_⟩
      rintro _ ⟨⟩
      exact ⟨rfl, lexeme⟩

section Staged

variable {options : Options} {platform file source : String}

theorem numeral_of_map {computation : Except NumeralFault α} {f : α → β} {failure : Failure}
    (failed : (computation.mapError Failure.numeral).map f = .error failure) :
    ∃ fault, failure = .numeral fault := by
  cases computation with
  | error fault => exact ⟨fault, (Except.error.inj failed).symm⟩
  | ok value => cases failed

theorem numeral_of_fromMachine {lowered : Compilation} {name : String} {value : Int}
    {failure : Failure} (nonempty : name ≠ "")
    (failed : lowered.fromMachine options (.returning name value) = .error failure) :
    ∃ fault, failure = .numeral fault := by
  rcases bind_eq_error_iff.1 failed with undumped | ⟨_, -, failed⟩
  · rw [dumped] at undumped
    split at undumped
    next =>
      rw [Outline.map_outline_returning] at undumped
      exact numeral_of_map undumped
    next => cases undumped
  · change ite _ _ _ = _ at failed
    split at failed
    next => cases failed
    next =>
      rcases bind_eq_error_iff.1 failed with unwritten | ⟨_, -, done⟩
      · rw [Machine.Program.emit_returning _ _ nonempty] at unwritten
        exact numeral_of_map unwritten
      · cases done

/-- From a program on, only a number can be at fault. -/
theorem numeral_of_fromProgram {parsed : Compilation} {found : List Token} {lines : List String}
    {program : Source.Program} {failure : Failure}
    (accepted : (Buffer.ofString file source).tokens = .ok found)
    (read : Source.derive found lines = .ok program)
    (failed : parsed.fromProgram options program = .error failure) :
    ∃ fault, failure = .numeral fault := by
  rw [Compilation.fromProgram, dumped_program] at failed
  change ite _ _ _ = _ at failed
  split at failed
  next => cases failed
  next =>
    rcases bind_eq_error_iff.1 failed with unread | ⟨machine, lowered, failed⟩
    · obtain ⟨-, -, -, rfl, -⟩ := exists_tooManyDigits accepted read unread
      exact ⟨_, rfl⟩
    · obtain ⟨name, constant, written, rfl, -⟩ := exists_returning accepted read lowered
      exact numeral_of_fromMachine written.lexemes.1.ne_empty failed

theorem Options.resolveTarget_ne_diagnosed (options : Options) {platform : String}
    {diagnostic : Diagnostic} :
    options.resolveTarget platform ≠ .error (.diagnosed diagnostic) := by
  intro refused
  rw [resolveTarget] at refused
  split at refused
  next => cases refused
  next =>
    rw [Target.ofName] at refused
    split at refused <;> cases refused

/-- A diagnostic of the parser is given by the parser. -/
theorem parse_of_staged {diagnostic : Diagnostic}
    (failed : staged options platform file source = .error (.diagnosed diagnostic))
    (reader : diagnostic.problem.phase = .parse) :
    ∃ found, (Buffer.ofString file source).tokens = .ok found ∧
      Source.derive found (splitLines source) = .error (.diagnosed diagnostic) := by
  rcases bind_eq_error_iff.1 failed with unknown | ⟨target, -, failed⟩
  · exact absurd unknown options.resolveTarget_ne_diagnosed
  · rcases bind_eq_error_iff.1 failed with refused | ⟨found, accepted, failed⟩
    · cases lexed : (Buffer.ofString file source).tokens with
      | ok found =>
          rw [lexed] at refused
          cases refused
      | error other =>
          rw [lexed] at refused
          cases refused
          rw [Buffer.phase_of_error lexed] at reader
          cases reader
    · rw [mapError_eq_ok_iff] at accepted
      refine ⟨found, accepted, ?_⟩
      rw [Compilation.fromTokens] at failed
      split at failed
      next => cases failed
      next =>
        rcases bind_eq_error_iff.1 failed with refused | ⟨program, read, failed⟩
        · exact refused
        · obtain ⟨fault, wrong⟩ := numeral_of_fromProgram accepted read failed
          cases wrong

end Staged

/-! ## The line that is quoted -/

theorem Source.lineOf?_eq {lines : List String} {token : Token} {start : Location} {number : Nat}
    (placed : token.location = some start) (counted : start.line = (number + 1 : Nat)) :
    lineOf? lines token = lines[number]? := by
  have positive : 0 < start.line := by omega
  have index : start.line.toNat - 1 = number := by omega
  simp [lineOf?, placed, positive, index]

/-- The line that a diagnostic of the parser is about, and the line that it quotes. -/
theorem exists_blamed_line {file source : String} {tokens : List Token} {diagnostic : Diagnostic}
    {place : Location} (accepted : (Buffer.ofString file source).tokens = .ok tokens)
    (refused : Source.derive tokens (splitLines source) = .error (.diagnosed diagnostic))
    (located : diagnostic.location = some place) :
    ∃ head rest, source.toList = head ++ rest ∧ WholeLines head ∧ rest ≠ [] ∧
      place.line = (head.count '\n' + 1 : Nat) ∧
      diagnostic.sourceLine = (splitLines source)[head.count '\n']? ∧
      ∀ found, diagnostic.problem.found? = some found →
        ∃ lead trail, trimReturns (rest.takeWhile (· != '\n')) = lead ++ found.toList ++ trail ∧
          place.column = (lead.length + 1 : Nat) := by
  obtain ⟨token, member, start, placed, sameLine, quoted, names⟩ :=
    Source.exists_blamed (Buffer.spelled accepted) refused located
  obtain ⟨first, pieces, rfl, segmentation⟩ := Segmentation.of_tokens_eq accepted
  have formed : token.WellFormed := List.forall_mem_map.2 segmentation.wellFormed token member
  obtain ⟨_, head, rest, lead, trail, placed', chars, whole, counted, inside, column⟩ :=
    (Buffer.standsIn accepted token member).in_line formed
  obtain rfl : start = _ := Option.some.inj (placed.symm.trans placed')
  refine ⟨head, rest, chars, whole, ?_, sameLine.trans counted, ?_, ?_⟩
  · rintro rfl
    have empty : lead ++ token.spelling ++ trail = [] := inside.symm
    simp [formed.spelling_ne_nil] at empty
  · rw [quoted, Source.lineOf?_eq placed counted]
  · intro found named
    obtain ⟨rfl, lexeme⟩ := names found named
    have spelling : token.spelling = found.toList := by simp [Token.spelling, lexeme]
    exact ⟨lead, trail, spelling ▸ inside, column⟩

section Context

variable {diagnostic : Diagnostic} {shown : String} {place : Location} {column : Nat}
  (quoted : diagnostic.sourceLine = some shown) (located : diagnostic.location = some place)
  (counted : place.column = (column + 1 : Nat))
include quoted located counted

/-- The context of a diagnostic with a line and a place: the line, the caret below it, and the hint. -/
theorem Diagnostic.contextLines_eq :
    diagnostic.contextLines =
      ["    " ++ shown, String.ofList (List.replicate (column + 4) ' ' ++ ['^'])] ++
        ((Problem.stated? diagnostic.problem.hint?).map ("hint: " ++ ·)).toList := by
  have positive : 0 < place.column := by omega
  have width : place.column.toNat + 3 = column + 4 := by omega
  rw [contextLines]
  cases Problem.stated? diagnostic.problem.hint? <;>
    simp [quoted, located, excerpt, positive, width]

theorem Diagnostic.take_contextLines :
    diagnostic.contextLines.take 2 =
      ["    " ++ shown, String.ofList (List.replicate (column + 4) ' ' ++ ['^'])] := by
  rw [contextLines_eq quoted located counted]
  rfl

end Context

section Whole

variable {source : String} {head rest : List Char} (chars : source.toList = head ++ rest)
  (whole : WholeLines head) (plain : PlainBreaks source.toList)
include chars whole plain

/-- Without a lone return before it, a line is found under its own number, up to its first return. -/
theorem getElem?_splitLines_of_none (nonempty : rest ≠ []) (without : loneReturns head = 0) :
    (splitLines source)[head.count '\n']? =
      some (String.ofList ((rest.takeWhile (· != '\n')).takeWhile (· != '\r'))) := by
  have found := whole.getElem?_splitChars nonempty (chars ▸ plain)
  rw [without, Nat.add_zero] at found
  rw [splitLines, chars, List.getElem?_map, found]
  rfl

/-- With one, a piece of the text before the line is found there. -/
theorem getElem?_splitLines_of_some (returns : 0 < loneReturns head) :
    ∃ shown ∈ splitLines (String.ofList head),
      (splitLines source)[head.count '\n']? = .some shown := by
  have length := whole.length_splitChars (plain.of_subset (by simp [chars]))
  have inside : head.count '\n' < (splitChars head).length := by omega
  refine ⟨String.ofList (splitChars head)[head.count '\n'], ?_, ?_⟩
  · rw [splitLines, String.toList_ofList]
    exact List.mem_map_of_mem (List.getElem_mem inside)
  · rw [splitLines, chars, whole.splitChars_append, List.getElem?_map,
      List.getElem?_append_left inside, List.getElem?_eq_getElem inside]
    rfl

end Whole

/-- A located diagnostic of the parser names a line by its number among the lines between line feeds. A
    cursor there shows that line without the returns at its end, and what was found stands in it at the
    named column. The diagnostic quotes the line up to its first return if every earlier return is
    followed by a line feed, and else a piece of the text before the line. So, behind text without lone
    returns, the line is quoted as a cursor shows it just if no return stands within it, and the caret
    then is below the first character of what was found. -/
theorem parse_diagnostic_quotes_line {options : Options} {platform file source : String}
    {diagnostic : Diagnostic} {place : Location}
    (failed : (compile options platform file source).outcome.1 = .error (.diagnosed diagnostic))
    (reader : diagnostic.problem.phase = .parse) (located : diagnostic.location = some place) :
    ∃ number line kept, place.line = (number + 1 : Nat) ∧
      (source.toList.splitOn '\n')[number]? = some line ∧ line.rdropWhile (· == '\r') = kept ∧
      (∀ cursor : Cursor, cursor.Sound source.toList → cursor.line = number + 1 →
        cursor.currentLine (Buffer.ofString file source) = String.ofList kept) ∧
      (loneReturns (textBefore source.toList number) = 0 →
        diagnostic.sourceLine = some (String.ofList (line.takeWhile (· != '\r'))) ∧
        (diagnostic.sourceLine = some (String.ofList kept) ↔ '\r' ∉ kept)) ∧
      (0 < loneReturns (textBefore source.toList number) →
        ∃ shown ∈ splitLines (String.ofList (textBefore source.toList number)),
          diagnostic.sourceLine = some shown) ∧
      ∀ found, diagnostic.problem.found? = some found →
        ∃ lead trail, kept = lead ++ found.toList ++ trail ∧
          place.column = (lead.length + 1 : Nat) ∧
          (diagnostic.sourceLine = some (String.ofList kept) →
            diagnostic.contextLines.take 2 =
              ["    " ++ String.ofList (lead ++ found.toList ++ trail),
                String.ofList (List.replicate (lead.length + 4) ' ' ++ ['^'])]) := by
  rw [Traced.outcome_eq (comesTo_compile _ _ _ _)] at failed
  obtain ⟨tokens, accepted, refused⟩ := parse_of_staged failed reader
  obtain ⟨head, rest, chars, whole, nonempty, counted, quoted, names⟩ :=
    exists_blamed_line accepted refused located
  have plain := Buffer.plainBreaks accepted
  obtain ⟨behind, before⟩ := whole.line_behind rest
  rw [← chars] at behind before
  refine ⟨head.count '\n', rest.takeWhile (· != '\n'), trimReturns (rest.takeWhile (· != '\n')),
    counted, behind, rfl, ?_, ?_, ?_, ?_⟩
  · intro cursor sound line
    obtain ⟨other, there, shows⟩ :=
      Cursor.Sound.getElem?_splitOn (Buffer.ofString file source) sound
    rw [line, Nat.add_sub_cancel] at there
    obtain rfl : _ = other := Option.some.inj (behind.symm.trans there)
    exact shows
  · intro without
    rw [before] at without
    have shown := getElem?_splitLines_of_none chars whole plain nonempty without
    rw [quoted, shown]
    refine ⟨rfl, ?_⟩
    rw [Option.some_inj, String.ofList_inj]
    exact takeWhile_eq_trimReturns_iff _
  · intro returns
    rw [before] at returns ⊢
    rw [quoted]
    exact getElem?_splitLines_of_some chars whole plain returns
  · intro found named
    obtain ⟨lead, trail, inside, column⟩ := names found named
    refine ⟨lead, trail, inside, column, ?_⟩
    intro agrees
    rw [Diagnostic.take_contextLines agrees located column, inside]

/-- A text whose lines end with a return and a line feed. -/
theorem parse_diagnostic_quotes_line_crlf :
    let source := "int f(void)\r\n \x7breturn;\r\n"
    ∃ diagnostic,
      (compile { target := some "linux" } "linux" "a.c" source).outcome.1 =
        .error (.diagnosed diagnostic) ∧
      diagnostic.problem.phase = .parse ∧ diagnostic.location = some ⟨"a.c", 2, 9⟩ ∧
      diagnostic.sourceLine = some " \x7breturn;" ∧
      diagnostic.contextLines.take 2 = ["     \x7breturn;", "            ^"] := by
  intro source
  let tokens : List Token :=
    [{ kind := .intKeyword, location := some ⟨"a.c", 1, 1⟩ },
      { kind := .identifier, text := some "f", location := some ⟨"a.c", 1, 5⟩ },
      { kind := .leftParen, location := some ⟨"a.c", 1, 6⟩ },
      { kind := .voidKeyword, location := some ⟨"a.c", 1, 7⟩ },
      { kind := .rightParen, location := some ⟨"a.c", 1, 11⟩ },
      { kind := .leftBrace, location := some ⟨"a.c", 2, 2⟩ },
      { kind := .returnKeyword, location := some ⟨"a.c", 2, 3⟩ },
      { kind := .semicolon, location := some ⟨"a.c", 2, 9⟩ }]
  have accepted : (Buffer.ofString "a.c" source).lex.outcome.1 = .ok tokens := by
    rw [Buffer.lex_eq_ok_iff]
    exact eq_ok_of_toOption (by decide +kernel)
  have broken : Breaks (some "linux") "linux" "a.c" source (some .parse) _ :=
    .parse (.lex rfl accepted) rfl
  have failed : (compile { target := some "linux" } "linux" "a.c" source).outcome.1 = .error _ :=
    stopped_of_breaks broken (by decide)
  obtain ⟨number, line, kept, counted, isLine, trimmed, -, quotes, -, names⟩ :=
    parse_diagnostic_quotes_line failed rfl rfl
  obtain rfl : number = 1 := by
    have : (2 : Int) = (number + 1 : Nat) := counted
    omega
  obtain rfl : " \x7breturn;\r".toList = line := Option.some.inj (isLine ▸ by decide)
  obtain rfl : " \x7breturn;".toList = kept := trimmed
  have quoted := (quotes (by decide)).2.2 (by decide)
  obtain ⟨lead, trail, split, column, shows⟩ := names ";" rfl
  have length : lead.length = 8 := by
    have : (9 : Int) = (lead.length + 1 : Nat) := column
    omega
  refine ⟨_, failed, rfl, rfl, quoted, (shows quoted).trans ?_⟩
  rw [← split, length]
  decide

/-- A return without a line feed makes the parser quote another line than the one it names. -/
theorem quoted_line_after_lone_return :
    let source := "int f\r(void)\n\x7d"
    (source.toList.splitOn '\n')[1]? = some "\x7d".toList ∧
    ∃ diagnostic,
      (compile { target := some "linux" } "linux" "a.c" source).outcome.1 =
        .error (.diagnosed diagnostic) ∧
      diagnostic.location = some ⟨"a.c", 2, 1⟩ ∧ diagnostic.problem.found? = some "\x7d" ∧
      diagnostic.sourceLine = some "(void)" := by
  intro source
  let tokens : List Token :=
    [{ kind := .intKeyword, location := some ⟨"a.c", 1, 1⟩ },
      { kind := .identifier, text := some "f", location := some ⟨"a.c", 1, 5⟩ },
      { kind := .leftParen, location := some ⟨"a.c", 1, 7⟩ },
      { kind := .voidKeyword, location := some ⟨"a.c", 1, 8⟩ },
      { kind := .rightParen, location := some ⟨"a.c", 1, 12⟩ },
      { kind := .rightBrace, location := some ⟨"a.c", 2, 1⟩ }]
  have accepted : (Buffer.ofString "a.c" source).lex.outcome.1 = .ok tokens := by
    rw [Buffer.lex_eq_ok_iff]
    exact eq_ok_of_toOption (by decide +kernel)
  have broken : Breaks (some "linux") "linux" "a.c" source (some .parse) _ :=
    .parse (.lex rfl accepted) rfl
  have failed : (compile { target := some "linux" } "linux" "a.c" source).outcome.1 = .error _ :=
    stopped_of_breaks broken (by decide)
  exact ⟨by decide, _, failed, rfl, rfl, by decide⟩

end MicroC
