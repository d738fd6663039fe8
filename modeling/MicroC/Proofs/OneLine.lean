import MicroC.Proofs.Lines
import MicroC.Proofs.Offence
import MicroC.Proofs.Viable

/-! # Diagnostics on one line

Whatever the source or the tokens hold, the message of a diagnostic is one line. Foreign text gets into
a message only through the quoted form, and that writes every line break as an escape; all else in a
message is fixed wording, digits and the name of the file.
-/

namespace MicroC

/-- The characters at which a text is broken into lines. -/
def lineBreaks : List Char :=
  ['\n', '\r', '\x0b', '\x0c', '\x1c', '\x1d', '\x1e', '\u0085', '\u2028', '\u2029']

/-- Characters without a line break. -/
def Unbroken (chars : List Char) : Prop :=
  ∀ c ∈ chars, c ∉ lineBreaks

/-- A text without a line break. -/
def OneLine (text : String) : Prop :=
  Unbroken text.toList

-- The characters of a text are gone through one by one, not all characters there are.
instance : DecidablePred Unbroken := List.decidableBAll (· ∉ lineBreaks)
instance : DecidablePred OneLine := fun _ => inferInstanceAs (Decidable (Unbroken _))

@[simp] theorem unbroken_nil : Unbroken [] :=
  fun _ member => absurd member List.not_mem_nil

@[simp] theorem unbroken_cons {c : Char} {chars : List Char} :
    Unbroken (c :: chars) ↔ c ∉ lineBreaks ∧ Unbroken chars :=
  List.forall_mem_cons

@[simp] theorem unbroken_append {one two : List Char} :
    Unbroken (one ++ two) ↔ Unbroken one ∧ Unbroken two :=
  List.forall_mem_append

@[simp] theorem oneLine_append {one two : String} :
    OneLine (one ++ two) ↔ OneLine one ∧ OneLine two := by
  simp [OneLine]

/-! ## Characters that break no line -/

theorem mem_lineBreaks_iff {c : Char} : c ∈ lineBreaks ↔ Text.isLineBreak c = true := by
  constructor
  · intro member
    simp only [lineBreaks, List.mem_cons, List.not_mem_nil, or_false] at member
    rcases member with rfl | rfl | rfl | rfl | rfl | rfl | rfl | rfl | rfl | rfl <;> rfl
  · intro breaks
    have codes : c.toNat ∈ lineBreaks.map Char.toNat := by
      simp only [Text.isLineBreak, Bool.or_eq_true, Bool.and_eq_true, decide_eq_true_eq,
        beq_iff_eq] at breaks
      change c.toNat ∈ [10, 13, 11, 12, 28, 29, 30, 133, 8232, 8233]
      simp only [List.mem_cons, List.not_mem_nil, or_false]
      omega
    obtain ⟨d, member, same⟩ := List.mem_map.1 codes
    rwa [← Char.toNat_inj.1 same]

theorem not_mem_lineBreaks_of_visible {c : Char} (low : 32 ≤ c.toNat) (high : c.toNat ≤ 126) :
    c ∉ lineBreaks := by
  rw [mem_lineBreaks_iff]
  simp only [Text.isLineBreak, Bool.or_eq_true, Bool.and_eq_true, decide_eq_true_eq, beq_iff_eq]
  omega

theorem not_mem_lineBreaks_of_printable {c : Char} (printable : Text.isPrintable c = true) :
    c ∉ lineBreaks := by
  intro member
  simp only [lineBreaks, List.mem_cons, List.not_mem_nil, or_false] at member
  rcases member with rfl | rfl | rfl | rfl | rfl | rfl | rfl | rfl | rfl | rfl <;>
    exact absurd printable (by decide)

theorem digitChar_not_mem_lineBreaks (digit : Nat) : digit.digitChar ∉ lineBreaks := by
  simp only [lineBreaks, List.mem_cons, List.not_mem_nil, or_false, not_or]
  refine ⟨?_, ?_, ?_, ?_, ?_, ?_, ?_, ?_, ?_, ?_⟩ <;> exact Nat.digitChar_ne _ rfl

theorem toUpper_not_mem_lineBreaks {c : Char} (other : c ∉ lineBreaks) :
    c.toUpper ∉ lineBreaks := by
  by_cases lower : 'a'.val ≤ c.val ∧ c.val ≤ 'z'.val
  · have low : 97 ≤ c.val.toNat := lower.1
    have high : c.val.toNat ≤ 122 := lower.2
    have upper : c.toUpper = _ := dif_pos lower
    have code : c.toUpper.toNat = c.val.toNat - 32 := by
      change c.toUpper.val.toNat = _
      rw [upper, UInt32.toNat_add]
      change (c.val.toNat + 4294967264) % 4294967296 = _
      omega
    exact not_mem_lineBreaks_of_visible (by omega) (by omega)
  · have same : c.toUpper = c := dif_neg lower
    rwa [same]

theorem unbroken_toDigits {base : Nat} (several : 1 < base) (number : Nat) :
    Unbroken (Nat.toDigits base number) := by
  induction number using Nat.strongRecOn with
  | ind number ih =>
      rw [Nat.toDigits_eq_if several]
      split
      next => simp [digitChar_not_mem_lineBreaks]
      next large =>
        have positive : 0 < number := by omega
        simp [digitChar_not_mem_lineBreaks, ih _ (Nat.div_lt_self positive several)]

theorem oneLine_toString (number : Int) : OneLine (toString number) := by
  have digits : ∀ natural : Nat, OneLine natural.repr := by
    intro natural
    rw [OneLine, Nat.repr_eq_ofList_toDigits, String.toList_ofList]
    exact unbroken_toDigits (by decide) natural
  rw [Int.toString_eq_repr, Int.repr_eq_if]
  split
  next => exact digits _
  next => exact oneLine_append.2 ⟨by decide, digits _⟩

/-! ## Quoted texts -/

theorem unbroken_hexDigits (width code : Nat) : Unbroken (Text.hexDigits width code) := by
  rw [Text.hexDigits, unbroken_append]
  refine ⟨?_, unbroken_toDigits (by decide) code⟩
  intro c member
  rw [List.eq_of_mem_replicate member]
  decide

theorem unbroken_escapeChar {mark : Char} (visible : mark ∉ lineBreaks) (c : Char) :
    Unbroken (Text.escapeChar mark c) := by
  have slash : Text.backslash ∉ lineBreaks := by decide
  have coded : ∀ letter ∉ lineBreaks, ∀ width,
      Unbroken (Text.backslash :: letter :: Text.hexDigits width c.toNat) := by
    intro letter plain width
    simp [slash, plain, unbroken_hexDigits]
  unfold Text.escapeChar
  split
  next special =>
    rcases special with rfl | rfl
    · simp [slash, visible]
    · simp [slash]
  split
  next => decide
  split
  next => decide
  split
  next => decide
  split
  next printable => simp [not_mem_lineBreaks_of_printable printable]
  split
  next => exact coded 'x' (by decide) 2
  split
  next => exact coded 'u' (by decide) 4
  next => exact coded 'U' (by decide) 8

theorem quoteMark_not_mem_lineBreaks (text : List Char) : Text.quoteMark text ∉ lineBreaks := by
  unfold Text.quoteMark
  split <;> decide

theorem oneLine_quoted (text : String) : OneLine (Text.quoted text) := by
  have visible := quoteMark_not_mem_lineBreaks text.toList
  rw [OneLine, Text.quoted, String.toList_ofList, Text.quoteChars]
  simp only [unbroken_cons, unbroken_append, List.cons_append, unbroken_nil, and_true]
  refine ⟨visible, ?_, visible⟩
  intro c member
  obtain ⟨inner, -, escaped⟩ := List.mem_flatMap.1 member
  exact unbroken_escapeChar visible inner c escaped

theorem oneLine_codeText (c : Char) : OneLine (Problem.codeText c) := by
  rw [Problem.codeText, oneLine_append]
  refine ⟨by decide, ?_⟩
  rw [OneLine, String.toList_ofList]
  intro upper member
  obtain ⟨digit, inside, rfl⟩ := List.mem_map.1 member
  exact toUpper_not_mem_lineBreaks (unbroken_hexDigits _ _ digit inside)

/-! ## Messages -/

theorem splitChars_of_unbroken {chars : List Char} (plain : Unbroken chars) (nonempty : chars ≠ []) :
    Text.splitChars chars = [chars] := by
  induction chars with
  | nil => exact absurd rfl nonempty
  | cons c rest ih =>
      obtain ⟨here, later⟩ := unbroken_cons.1 plain
      have other : Text.isLineBreak c = false := by
        rwa [mem_lineBreaks_iff, Bool.not_eq_true] at here
      rw [splitChars_cons fun same => absurd same (ne_of_isLineBreak other).2, other]
      cases rest with
      | nil => rfl
      | cons d rest =>
          rw [ih later (List.cons_ne_nil d rest)]
          rfl

theorem splitLines_of_oneLine {text : String} (single : OneLine text) (nonempty : text ≠ "") :
    Text.splitLines text = [text] := by
  have chars : text.toList ≠ [] := by simpa using nonempty
  rw [Text.splitLines, splitChars_of_unbroken single chars, List.map_singleton, String.ofList_toList]

/-- The texts that the message of a problem shows as they are, not quoted. -/
def Problem.shownPlain : Problem → List String
  | .general _ message _ => [message]
  | .malformedToken kind _ _ => [kind]
  | .unexpectedEnd expected => expected.toList
  | .unsupportedNode node _ activity => [activity, node.kind]
  | .invalidCharacter _ | .invalidOctal _ | .unexpectedToken .. | .trailingTokens _ => []

theorem oneLine_quoting {before after : String} (first : OneLine before) (last : OneLine after)
    (text : String) : OneLine (before ++ Text.quoted text ++ after) := by
  simp only [oneLine_append]
  exact ⟨⟨first, oneLine_quoted text⟩, last⟩

/-- Only what is shown as it is can break the line. -/
theorem Problem.oneLine_bare {problem : Problem}
    (plain : ∀ text ∈ problem.shownPlain, OneLine text) : OneLine problem.bare := by
  cases problem with
  | general phase message hint => exact plain message List.mem_cons_self
  | invalidCharacter char =>
      change OneLine ("invalid character " ++ Text.quoted char.toString ++ " (" ++ codeText char ++ ")")
      have quotes : OneLine ("invalid character " ++ Text.quoted char.toString ++ " (") :=
        oneLine_quoting (by decide) (by decide) _
      exact oneLine_append.2 ⟨oneLine_append.2 ⟨quotes, oneLine_codeText char⟩, by decide⟩
  | malformedToken kind text following =>
      have words : OneLine ("malformed " ++ kind ++ " ") := by
        simp only [oneLine_append, plain kind List.mem_cons_self, and_true]
        decide
      have quotes : OneLine ("malformed " ++ kind ++ " " ++ Text.quoted text ++ ": followed by ") :=
        oneLine_quoting words (by decide) text
      exact oneLine_append.2 ⟨quotes, oneLine_quoted following⟩
  | invalidOctal text => exact oneLine_append.2 ⟨by decide, oneLine_quoted text⟩
  | unexpectedToken found expected => exact oneLine_append.2 ⟨by decide, oneLine_quoted found⟩
  | unexpectedEnd expected =>
      unfold bare
      dsimp only
      split
      next text named =>
        refine oneLine_append.2 ⟨by decide, plain text ?_⟩
        unfold stated? at named
        split at named
        · cases named
        · exact Option.mem_toList.2 named
      next => decide
  | trailingTokens found => exact oneLine_quoting (by decide) (by decide) found
  | unsupportedNode node place activity =>
      have kind : OneLine node.kind := plain _ (List.mem_cons_of_mem _ List.mem_cons_self)
      change OneLine (activity ++ " does not handle " ++ node.kind ++ " nodes")
      simp only [oneLine_append, plain activity List.mem_cons_self, kind, and_true, true_and]
      decide

/-- A diagnostic whose message is a single line: the place if it is known, the stage, and what is
    wrong. -/
structure Diagnostic.OnOneLine (diagnostic : Diagnostic) (stage : String) : Prop where
  located : ∀ place, diagnostic.location = some place →
    diagnostic.message = place.file ++ ":" ++ toString place.line ++ ":" ++ toString place.column ++
      ": " ++ stage ++ " error: " ++ diagnostic.problem.bare
  unlocated : diagnostic.location = none →
    diagnostic.message = stage ++ " error: " ++ diagnostic.problem.bare
  unbroken : ∀ c ∈ diagnostic.message.toList, c ∉ lineBreaks
  single : Text.splitLines diagnostic.message = [diagnostic.message]

namespace Diagnostic

variable {diagnostic : Diagnostic}

theorem message_of_location {place : Location} (located : diagnostic.location = some place) :
    diagnostic.message = place.file ++ ":" ++ toString place.line ++ ":" ++ toString place.column ++
      ": " ++ diagnostic.problem.phase.name ++ " error: " ++ diagnostic.problem.bare := by
  have found : diagnostic.place? = some place.text := by simp [place?, located]
  have written : place.text =
      place.file ++ ":" ++ toString place.line ++ ":" ++ toString place.column := rfl
  rw [message, found]
  simp only [written, String.append_assoc]

theorem message_of_none (unlocated : diagnostic.location = none)
    (unplaced : diagnostic.problem.place? = none) :
    diagnostic.message =
      diagnostic.problem.phase.name ++ " error: " ++ diagnostic.problem.bare := by
  have found : diagnostic.place? = none := by simp [place?, unlocated, unplaced]
  rw [message, found]

theorem onOneLine (stage : Phase) (phase : diagnostic.problem.phase = stage)
    (unplaced : diagnostic.problem.place? = none) (bare : OneLine diagnostic.problem.bare)
    (file : ∀ place, diagnostic.location = some place → OneLine place.file) :
    diagnostic.OnOneLine stage.name := by
  have name : OneLine stage.name := by cases stage <;> decide
  have report : OneLine (stage.name ++ " error: " ++ diagnostic.problem.bare) := by
    simp only [oneLine_append, name, bare, and_true, true_and]
    decide
  have unbroken : OneLine diagnostic.message := by
    cases place : diagnostic.location with
    | none => rwa [message_of_none place unplaced, phase]
    | some found =>
        rw [message_of_location place, phase]
        simp only [oneLine_append] at report ⊢
        simp only [file found place, oneLine_toString, report, and_true, true_and]
        decide
  have nonempty : diagnostic.message ≠ "" := by
    cases place : diagnostic.location with
    | none => simp [message_of_none place unplaced]
    | some found => simp [message_of_location place]
  exact
    { located := fun place found => phase ▸ message_of_location found
      unlocated := fun absent => phase ▸ message_of_none absent unplaced
      unbroken
      single := splitLines_of_oneLine unbroken nonempty }

end Diagnostic

theorem Describes.onOneLine {chars : List Char} {offset : Nat} {diagnostic : Diagnostic}
    (describes : Describes chars offset diagnostic.problem)
    (file : ∀ place, diagnostic.location = some place → OneLine place.file) :
    diagnostic.OnOneLine "lex" := by
  refine Diagnostic.onOneLine .lex ?_ ?_ (Problem.oneLine_bare ?_) file
  all_goals generalize diagnostic.problem = problem at describes
  · cases describes <;> rfl
  · cases describes <;> rfl
  · cases describes with
    | stranger => exact List.forall_mem_nil _
    | malformed => exact List.forall_mem_singleton.2 (by decide)
    | octal => exact List.forall_mem_nil _

namespace Source

theorem file_placePast {tokens : List Token} {place : Location}
    (past : placePast tokens = some place) :
    ∃ token ∈ tokens, ∃ own, token.location = some own ∧ place.file = own.file := by
  obtain ⟨last, own, text, final, located, -, rfl⟩ := exists_of_placePast past
  exact ⟨last, List.mem_of_getLast? final, own, located, rfl⟩

theorem Refuses.onOneLine {tokens : List Token} {lines : List String} {diagnostic : Diagnostic}
    (refuses : Refuses tokens lines diagnostic)
    (files : ∀ token ∈ tokens, ∀ place, token.location = some place → OneLine place.file) :
    diagnostic.OnOneLine "parse" := by
  cases refuses with
  | unexpected _ ahead _ =>
      refine Diagnostic.onOneLine .parse rfl rfl (Problem.oneLine_bare ?_) ?_
      · exact List.forall_mem_nil _
      · exact files _ (List.mem_of_getElem? ahead)
  | @ended kind =>
      refine Diagnostic.onOneLine .parse rfl rfl (Problem.oneLine_bare ?_) ?_
      · exact List.forall_mem_singleton.2 (by cases kind <;> decide +kernel)
      · intro place past
        obtain ⟨token, member, own, located, same⟩ := file_placePast past
        rw [same]
        exact files token member own located
  | trailing _ ahead _ =>
      refine Diagnostic.onOneLine .parse rfl rfl (Problem.oneLine_bare ?_) ?_
      · exact List.forall_mem_nil _
      · exact files _ (List.mem_of_getElem? ahead)

end Source

/-- Every diagnostic about a text or about tokens is told in one line, which names the file, the line
    and the column if the place is known, then the stage, then what is wrong. No character of the text
    and no text of a token can break that line. -/
theorem diagnostics_on_one_line {buffer : Buffer} (file : OneLine buffer.file) {tokens : List Token}
    (texts : ∀ token ∈ tokens,
      token.kind = .identifier ∨ token.kind = .constant → token.text ≠ none)
    (files : ∀ token ∈ tokens, ∀ place, token.location = some place → OneLine place.file)
    (lines : List String) :
    (∀ failure, buffer.lex.outcome.1 = .error failure →
      ∃ diagnostic, failure = .diagnosed diagnostic ∧ diagnostic.OnOneLine "lex") ∧
    ∀ diagnostic, Source.parse tokens lines = .error (.diagnosed diagnostic) →
      diagnostic.OnOneLine "parse" := by
  constructor
  · intro failure failed
    obtain ⟨diagnostic, refused, rfl⟩ := Buffer.lex_eq_error_iff.1 failed
    have verdict := buffer.verdict
    rw [refused] at verdict
    obtain ⟨offset, describes, -, located⟩ := verdict
    refine ⟨diagnostic, rfl, describes.onOneLine ?_⟩
    intro place found
    obtain rfl : buffer.place offset = place := Option.some.inj (located.symm.trans found)
    exact file
  · intro diagnostic failed
    have spelled : ∀ token ∈ tokens, ∃ found, token.lexeme? = some found := by
      intro token member
      exact Source.exists_lexeme (texts token member)
    obtain ⟨derived, -⟩ := Source.parse_eq_diagnosed_iff.1 failed
    obtain ⟨_, ⟨⟩, refuses⟩ := Source.refuses_of_derive lines spelled derived
    exact refuses.onOneLine files

/-- A separator of lines as a stray character, and a line feed in the text of a token. -/
theorem diagnostics_on_one_line_separator :
    let tokens : List Token :=
      [{ kind := .intKeyword },
        { kind := .constant, text := some "1\n2", location := some ⟨"a.c", 1, 5⟩ }]
    (∃ diagnostic, (Buffer.ofString "a.c" "\u2028").lex.outcome.1 = .error (.diagnosed diagnostic) ∧
      diagnostic.OnOneLine "lex") ∧
    ∃ diagnostic, Source.parse tokens [] = .error (.diagnosed diagnostic) ∧
      diagnostic.OnOneLine "parse" := by
  intro tokens
  let buffer := Buffer.ofString "a.c" "\u2028"
  have texts : ∀ token ∈ tokens,
      token.kind = .identifier ∨ token.kind = .constant → token.text ≠ none := by
    simp [tokens]
  have files : ∀ token ∈ tokens, ∀ place, token.location = some place → OneLine place.file := by
    simp only [tokens, List.forall_mem_cons]
    exact ⟨nofun, by rintro _ ⟨⟩; decide, by simp⟩
  obtain ⟨lexes, parses⟩ := @diagnostics_on_one_line buffer (by decide) tokens texts files []
  constructor
  · cases found : buffer.tokens with
    | ok accepted =>
        have refused : buffer.tokens.toOption = none := by decide +kernel
        rw [found] at refused
        cases refused
    | error diagnostic =>
        have failed := Buffer.lex_eq_error_iff.2 ⟨diagnostic, found, rfl⟩
        obtain ⟨_, ⟨⟩, single⟩ := lexes _ failed
        exact ⟨diagnostic, failed, single⟩
  · have writable : Location.Writable ⟨"a.c", 1, 5⟩ :=
      ⟨Numeral.small_of_lt (by decide), Numeral.small_of_lt (by decide)⟩
    have failed : Source.parse tokens [] = .error (.diagnosed
        { problem := .unexpectedToken "1\n2" (some "identifier"), location := some ⟨"a.c", 1, 5⟩ }) :=
      Source.parse_eq_diagnosed_iff.2 ⟨rfl, by rintro _ ⟨⟩; exact writable⟩
    exact ⟨_, failed, parses _ failed⟩

end MicroC
