import MicroC.Proofs.Layout
import MicroC.Proofs.Quotation

/-! # Pointing at the offending text

A diagnostic of the lexer is made where a scan starts, and quotes the line there. The scan stays on its
line and starts in front of no blank, so the quoted line holds the offending text at the column of the
diagnostic, and no trimming of the line can touch it.
-/

namespace MicroC

open Text

/-- The text that a problem of the lexer is about. -/
def Problem.offence? : Problem → Option (List Char)
  | .invalidCharacter c => some [c]
  | .malformedToken _ text following => some (text.toList ++ following.toList)
  | .invalidOctal text => some text.toList
  | _ => none

/-- A diagnostic is made by a scan that starts in front of no blank. -/
structure Diagnostic.MadeAt (diagnostic : Diagnostic) (buffer : Buffer) (start : Cursor) : Prop where
  sound : start.Sound buffer.chars
  stops : Stops isSpace start.rest
  finds : ∃ taken rest, start.rest = taken ++ rest ∧ Finds taken rest (.error diagnostic.problem)
  location_eq : diagnostic.location = some (start.location buffer)
  line_eq : diagnostic.sourceLine = some (start.currentLine buffer)

theorem Cuts.exists_madeAt {buffer : Buffer} {cursor finish : Cursor}
    {outcome : Except Diagnostic (List Token)} (cut : Cuts buffer cursor outcome finish)
    (sound : cursor.Sound buffer.chars) :
    ∀ diagnostic, outcome = .error diagnostic → ∃ start, diagnostic.MadeAt buffer start := by
  induction cut with
  | ended => rintro _ ⟨⟩
  | @refused cursor start blanks taken rest problem skips ahead found =>
      rintro _ ⟨⟩
      refine ⟨start, ?_, skips.stops, ⟨taken, rest, ahead, found⟩, rfl, rfl⟩
      rw [skips.start_eq]
      exact sound.advanceBy _
  | @scanned cursor start finish blanks taken rest token outcome skips ahead found cut ih =>
      intro diagnostic failed
      cases outcome with
      | ok tokens => cases failed
      | error diagnostic =>
          cases failed
          rw [skips.start_eq] at ih
          exact ih ((sound.advanceBy _).advanceBy _) _ rfl

/-- A problem is found in front of its offending text, which holds no blank. -/
theorem Finds.exists_offence {taken rest : List Char} {problem : Problem}
    (found : Finds taken rest (.error problem)) (stops : Stops isSpace (taken ++ rest)) :
    ∃ offence after, problem.offence? = some offence ∧ taken ++ rest = offence ++ after ∧
      offence ≠ [] ∧ ∀ c ∈ offence, ¬ IsBlank c := by
  have dark := found.dark
  cases found with
  | @malformed _ rest c nonempty digits starts =>
      refine ⟨taken ++ [c], rest, by simp [Problem.offence?], by simp, by simp, ?_⟩
      intro d member
      rcases List.mem_append.1 member with member | member
      · exact dark d member
      · rw [List.mem_singleton.1 member]
        exact fun blank => blank.not_inWord (.inl starts)
  | octal zero digits bad boundary =>
      refine ⟨taken, rest, by simp [Problem.offence?], rfl, ?_, dark⟩
      rintro rfl
      cases zero
  | @stranger c rest other outside =>
      refine ⟨[c], rest, rfl, rfl, List.cons_ne_nil _ _, ?_⟩
      intro d member
      rw [List.mem_singleton.1 member, ← isSpace_eq_false_iff]
      exact stops c rfl

/-- The hint of a problem of the lexer is never empty. -/
theorem Finds.stated?_hint? {taken rest : List Char} {problem : Problem}
    (found : Finds taken rest (.error problem)) : Problem.stated? problem.hint? = problem.hint? := by
  cases found with
  | malformed => simp [Problem.hint?, Problem.stated?]
  | octal => rfl
  | stranger => rfl

namespace Diagnostic

/-- The line that a diagnostic is made in, with the offending text at its column. -/
theorem MadeAt.exists_line {diagnostic : Diagnostic} {buffer : Buffer} {start : Cursor}
    (made : diagnostic.MadeAt buffer start) :
    ∃ line offence lead trail, (buffer.chars.splitOn '\n')[start.line - 1]? = some line ∧
      start.currentLine buffer = String.ofList (trimReturns line) ∧
      diagnostic.problem.offence? = some offence ∧ offence ≠ [] ∧
      trimReturns line = lead ++ offence ++ trail ∧ start.column = lead.length + 1 := by
  obtain ⟨taken, rest, ahead, found⟩ := made.finds
  obtain ⟨offence, after, about, split, nonempty, dark⟩ :=
    found.exists_offence (ahead ▸ made.stops)
  have chars : buffer.chars.take start.offset ++ offence ++ after = buffer.chars := by
    rw [List.append_assoc, ← split, ← ahead, made.sound.take_append_rest]
  obtain ⟨head, below, lead, trail, behind, whole, counted, inside, column⟩ :=
    exists_line_around buffer.file (buffer.chars.take start.offset) after nonempty
      fun c member => ne_of_not_blank (dark c member)
  have placed : start.location buffer = placeAfter buffer.file (buffer.chars.take start.offset) :=
    made.sound.location
  rw [← placed] at counted column
  have number : start.line - 1 = head.count '\n' := by
    have : (start.line : Int) = (head.count '\n' + 1 : Nat) := counted
    omega
  have here := (whole.line_behind below).1
  rw [← behind, chars, ← number] at here
  obtain ⟨line, there, shows⟩ := made.sound.getElem?_splitOn buffer
  obtain rfl : line = _ := Option.some.inj (there.symm.trans here)
  refine ⟨_, offence, lead, trail, here, shows, about, nonempty, inside, ?_⟩
  have : (start.column : Int) = (lead.length + 1 : Nat) := column
  omega

end Diagnostic

/-- Whenever lexing fails, its diagnostic has a location and quotes a line. The line is the one that the
    location counts, between line feeds and without the returns at its end, and at the column of the
    location stands the offending text. The context is the line, indented, then a caret below the first
    offending character, and the hint if there is one. -/
theorem lex_diagnostic_points {buffer : Buffer} {failure : Failure}
    (failed : buffer.lex.outcome.1 = .error failure) :
    ∃ diagnostic place shown number column line offence, failure = .diagnosed diagnostic ∧
      diagnostic.location = some place ∧ diagnostic.sourceLine = some shown ∧
      place.line = (number + 1 : Nat) ∧ place.column = (column + 1 : Nat) ∧
      (buffer.chars.splitOn '\n')[number]? = some line ∧
      shown.toList = line.rdropWhile (· == '\r') ∧
      diagnostic.problem.offence? = some offence ∧ offence ≠ [] ∧
      offence <+: shown.toList.drop column ∧
      diagnostic.context = "\n".intercalate
        (["    " ++ shown, String.ofList (List.replicate (column + 4) ' ' ++ ['^'])] ++
          (diagnostic.problem.hint?.map ("hint: " ++ ·)).toList) ∧
      ("    " ++ shown).toList[column + 4]? = offence.head? := by
  obtain ⟨diagnostic, refused, rfl⟩ := Buffer.lex_eq_error_iff.1 failed
  obtain ⟨finish, cut⟩ := Buffer.tokens_eq_iff.1 refused
  obtain ⟨start, made⟩ := cut.exists_madeAt (Cursor.sound_start _) _ rfl
  obtain ⟨line, offence, lead, trail, isLine, shows, about, nonempty, inside, column⟩ :=
    made.exists_line
  obtain ⟨taken, rest, -, found⟩ := made.finds
  have counted : (start.location buffer).column = (lead.length + 1 : Nat) := by
    rw [← column]
    rfl
  have numbered : (start.location buffer).line = (start.line - 1 + 1 : Nat) := by
    have positive : 0 < start.line := by
      rw [made.sound.line_eq]
      omega
    rw [Nat.sub_add_cancel positive]
    rfl
  have context := Diagnostic.contextLines_eq made.line_eq made.location_eq counted
  rw [found.stated?_hint?] at context
  obtain ⟨c, others, rfl⟩ := List.exists_cons_of_ne_nil nonempty
  refine ⟨diagnostic, _, _, start.line - 1, lead.length, line, _, rfl, made.location_eq, made.line_eq,
    numbered, counted, isLine, ?_, about, nonempty, ?_, congrArg "\n".intercalate context, ?_⟩
  · rw [shows, String.toList_ofList]
    rfl
  · rw [shows, String.toList_ofList, inside, List.append_assoc, List.drop_left]
    exact List.prefix_append _ _
  · rw [shows, inside]
    simp

/-- Digits that run into a word, on a line that ends with a return. -/
theorem lex_diagnostic_points_second_line :
    let buffer := Buffer.ofString "a.c" "\r\n  089x\r"
    ∃ diagnostic, buffer.lex.outcome.1 = .error (.diagnosed diagnostic) ∧
      diagnostic.location = some ⟨"a.c", 2, 3⟩ ∧ diagnostic.sourceLine = some "  089x" ∧
      diagnostic.problem.offence? = some "089x".toList ∧
      diagnostic.context = "\n".intercalate ["      089x", "      ^",
        "hint: separate the constant from 'x' with whitespace or punctuation"] := by
  intro buffer
  let diagnostic : Diagnostic :=
    { problem := .malformedToken "constant" "089" "x"
      location := some ⟨"a.c", 2, 3⟩
      sourceLine := some "  089x" }
  obtain ⟨skips, ahead⟩ := @Cursor.skips_of_blank (.start buffer.chars) ['\r', '\n', ' ', ' ']
    (['0', '8', '9'] ++ ['x', '\r']) rfl (by simp [IsBlank]) (by rintro _ ⟨⟩; rfl)
  have found : Finds ['0', '8', '9'] ['x', '\r'] (.error diagnostic.problem) :=
    .malformed (by simp) (by simp [IsDecimal]) (by simp [StartsWord, IsLetter])
  have refused : buffer.tokens = .error diagnostic :=
    Buffer.tokens_eq_iff.2 ⟨_, .refused skips ahead found⟩
  have failed := Buffer.lex_eq_error_iff.2 ⟨diagnostic, refused, rfl⟩
  obtain ⟨_, _, _, _, column, _, _, same, located, quoted, -, counted, -, -, -, -, -, context, -⟩ :=
    lex_diagnostic_points failed
  cases same
  cases located
  cases quoted
  obtain rfl : column = 2 := by
    have : (3 : Int) = (column + 1 : Nat) := counted
    omega
  exact ⟨diagnostic, failed, rfl, rfl, rfl, context⟩

end MicroC
