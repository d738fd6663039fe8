import MicroC.Proofs.Cutting
import MicroC.Proofs.Pipeline

/-! # Offending offsets

Where a text is at fault, said of the text alone: an offset offends if a character there belongs to
nothing, or if a run of word characters starts there that looks like a constant and is none. Cutting a
text into tokens fails exactly if some offset offends, and the diagnostic describes the first.

The scanner looks only ahead, while a run is maximal only if no word character stands before it. That
every scan starts at the beginning of a run is the invariant `Fresh`, which each token hands on.
-/

namespace MicroC

/-- A character that is no blank and belongs to no token. -/
def IsStranger (c : Char) : Prop :=
  ¬ IsBlank c ∧ ¬ IsDelimiter c ∧ ¬ InWord c

/-- A run of word characters that starts at an offset, with none right before it or right after it. -/
structure MaximalRun (chars : List Char) (offset : Nat) (run : List Char) : Prop where
  split : ∃ before after, chars = before ++ (run ++ after) ∧ before.length = offset ∧
    (∀ c ∈ before.getLast?, ¬ InWord c) ∧ ∀ c ∈ after.head?, ¬ InWord c
  nonempty : run ≠ []
  inWord : ∀ c ∈ run, InWord c

/-- A run that starts like a constant, and holds a letter or an underscore, or a digit that its
    leading zero forbids. -/
def BadRun (run : List Char) : Prop :=
  (∃ c ∈ run.head?, IsDecimal c) ∧
    ((∃ c ∈ run, StartsWord c) ∨ (run.head? = some '0' ∧ ∃ c ∈ run, c = '8' ∨ c = '9'))

/-- The text is at fault at an offset. -/
def Offending (chars : List Char) (offset : Nat) : Prop :=
  (∃ c, chars[offset]? = some c ∧ IsStranger c) ∨ ∃ run, MaximalRun chars offset run ∧ BadRun run

/-- The problem that the text has at an offset. -/
inductive Describes (chars : List Char) (offset : Nat) : Problem → Prop where
  /-- The character there belongs to nothing. -/
  | stranger {c : Char} : chars[offset]? = some c → IsStranger c →
      Describes chars offset (.invalidCharacter c)
  /-- The run there is digits and then a letter or an underscore, whatever the digits are. -/
  | malformed {digits rest : List Char} {c : Char} :
      MaximalRun chars offset (digits ++ c :: rest) → digits ≠ [] → (∀ d ∈ digits, IsDecimal d) →
      StartsWord c →
      Describes chars offset (.malformedToken "constant" (String.ofList digits) c.toString)
  /-- The run there is all digits, after a leading zero, and one of them is not octal. -/
  | octal {run : List Char} : MaximalRun chars offset run → (∀ d ∈ run, IsDecimal d) →
      run.head? = some '0' → (∃ d ∈ run, d = '8' ∨ d = '9') →
      Describes chars offset (.invalidOctal (String.ofList run))

theorem Describes.offending {chars : List Char} {offset : Nat} {problem : Problem}
    (describes : Describes chars offset problem) : Offending chars offset := by
  cases describes with
  | stranger here stranger => exact .inl ⟨_, here, stranger⟩
  | @malformed digits rest c run nonempty all start =>
      obtain ⟨d, digits, rfl⟩ := List.exists_cons_of_ne_nil nonempty
      refine .inr ⟨_, run, ⟨d, rfl, all d List.mem_cons_self⟩, .inl ⟨c, by simp, start⟩⟩
  | octal run all zero bad =>
      exact .inr ⟨_, run, ⟨'0', zero, by decide⟩, .inr ⟨zero, bad⟩⟩

/-- Only constants are malformed: a name takes every word character there is. -/
theorem Describes.malformed_kind {chars : List Char} {offset : Nat} {kind text following : String}
    (describes : Describes chars offset (.malformedToken kind text following)) :
    kind = "constant" := by
  cases describes
  rfl

/-! ## Looking at one offset -/

/-- The maximal run at an offset is the run ahead, if no word character stands before it. -/
theorem MaximalRun.eq_takeWhile {before ahead run : List Char}
    (maximal : MaximalRun (before ++ ahead) before.length run) :
    (∀ c ∈ before.getLast?, ¬ InWord c) ∧ run = ahead.takeWhile isWordChar := by
  obtain ⟨before', after, whole, length, fresh, boundary⟩ := maximal.split
  obtain ⟨rfl, rfl⟩ := List.append_inj whole length.symm
  refine ⟨fresh, (takeWhile_of_stops ?_ ?_).symm⟩
  · exact fun c member => isWordChar_iff.2 (maximal.inWord c member)
  · intro c head
    rw [isWordChar_eq_false_iff]
    exact boundary c head

theorem offending_at {before after : List Char} {c : Char}
    (offending : Offending (before ++ c :: after) before.length) :
    IsStranger c ∨ (InWord c ∧ (∀ d ∈ before.getLast?, ¬ InWord d) ∧
      BadRun ((c :: after).takeWhile isWordChar)) := by
  rcases offending with ⟨d, here, stranger⟩ | ⟨run, maximal, bad⟩
  · left
    obtain rfl : c = d := by simpa using here
    exact stranger
  · right
    obtain ⟨fresh, rfl⟩ := maximal.eq_takeWhile
    have word : isWordChar c = true := by
      cases inside : isWordChar c with
      | true => rfl
      | false => exact absurd (by simp [inside]) maximal.nonempty
    exact ⟨isWordChar_iff.1 word, fresh, bad⟩

theorem not_offending_past {chars : List Char} {offset : Nat} (past : chars.length ≤ offset) :
    ¬ Offending chars offset := by
  rintro (⟨c, here, -⟩ | ⟨run, ⟨⟨before, after, rfl, rfl, -, -⟩, nonempty, -⟩, -⟩)
  · rw [List.getElem?_eq_none past] at here
    cases here
  · have := List.length_pos_iff.2 nonempty
    simp only [List.length_append] at past
    omega

/-- To look at every offset of a piece of a text is to look at every way to split the piece. -/
theorem not_offending_inside {before piece after : List Char}
    (clean : ∀ left c right, piece = left ++ c :: right →
      ¬ Offending ((before ++ left) ++ c :: (right ++ after)) (before ++ left).length)
    {offset : Nat} (low : before.length ≤ offset) (high : offset < before.length + piece.length) :
    ¬ Offending (before ++ (piece ++ after)) offset := by
  obtain ⟨index, rfl⟩ : ∃ index, offset = before.length + index := ⟨offset - before.length, by omega⟩
  have inside : index < piece.length := by omega
  have split : piece = piece.take index ++ piece[index] :: piece.drop (index + 1) := by
    rw [← List.drop_eq_getElem_cons inside, List.take_append_drop]
  have := clean _ _ _ split
  rw [List.length_append, List.length_take_of_le (Nat.le_of_lt inside)] at this
  have whole : before ++ (piece ++ after) =
      (before ++ piece.take index) ++ piece[index] :: (piece.drop (index + 1) ++ after) := by
    rw [List.append_assoc, ← List.cons_append, ← List.append_assoc (piece.take index), ← split]
  rwa [whole]

/-! ## What a scan passes over -/

theorem not_offending_blanks {before blanks after : List Char} (blank : ∀ c ∈ blanks, IsBlank c)
    {offset : Nat} (low : before.length ≤ offset) (high : offset < before.length + blanks.length) :
    ¬ Offending (before ++ (blanks ++ after)) offset := by
  refine not_offending_inside (fun left c right split offending => ?_) low high
  have here : IsBlank c := blank c (by simp [split])
  rcases offending_at offending with stranger | ⟨word, -, -⟩
  · exact stranger.1 here
  · exact here.not_inWord word

theorem Token.WellFormed.not_badRun {token : Token} (formed : token.WellFormed)
    (word : token.kind.isWord = true) : ¬ BadRun token.spelling := by
  have notWord : ∀ {chars : List Char}, IsWord chars → ¬ BadRun chars := by
    rintro (_ | ⟨c, chars⟩) isWord ⟨⟨d, head, digit⟩, -⟩
    · cases head
    · obtain rfl : c = d := by simpa using head
      exact digit.not_startsWord isWord.1
  cases formed with
  | fixed some =>
      rcases Kind.spelling?_cases some with ⟨c, -, -, other⟩ | ⟨member, -⟩
      · simp [other] at word
      · rw [spelling_fixed]
        exact notWord (isWord_of_mem_reserved (Kind.reserved_of_keyword member))
  | identifier name =>
      rw [spelling_text]
      exact notWord name.1
  | constant digits =>
      rw [spelling_text]
      rintro ⟨-, ⟨c, member, start⟩ | bad⟩
      · exact (digits.decimal c member).not_startsWord start
      · have good := (isConstant_iff.1 digits).2.2
        rw [Bool.eq_false_iff] at good
        exact good ((isBadOctal_iff digits.decimal).2 bad)

theorem not_offending_token {token : Token} {before rest : List Char} (formed : token.WellFormed)
    (boundary : token.kind.isWord = true → atBoundary rest = true) {offset : Nat}
    (low : before.length ≤ offset) (high : offset < before.length + token.spelling.length) :
    ¬ Offending (before ++ (token.spelling ++ rest)) offset := by
  refine not_offending_inside (fun left c right split offending => ?_) low high
  cases word : token.kind.isWord with
  | false =>
      obtain ⟨d, single, known⟩ := formed.delimiter word
      have here : IsDelimiter c := by
        have member : c ∈ token.spelling := by simp [split]
        rw [single, List.mem_singleton] at member
        exact member ▸ isDelimiter_of_delimiter? known
      rcases offending_at offending with stranger | ⟨inWord, -, -⟩
      · exact stranger.2.1 here
      · exact here.not_inWord inWord
  | true =>
      have inWord := formed.inWord word
      rcases offending_at offending with stranger | ⟨-, fresh, bad⟩
      · exact stranger.2.2 (inWord c (by simp [split]))
      -- Only the first character can start a run, and then the run is the whole lexeme.
      · cases left with
        | nil =>
            have run : (c :: (right ++ rest)).takeWhile isWordChar = token.spelling := by
              rw [← List.cons_append, ← List.nil_append (c :: right), ← split]
              exact takeWhile_of_stops (fun d member => isWordChar_iff.2 (inWord d member))
                (atBoundary_iff.1 (boundary word))
            exact formed.not_badRun word (run ▸ bad)
        | cons d left =>
            refine fresh ((d :: left).getLast (List.cons_ne_nil _ _)) ?_ (inWord _ ?_)
            · simp [List.getLast?_eq_some_getLast]
            · rw [split]
              exact List.mem_append_left _ (List.getLast_mem _)

/-! ## Where scans start -/

/-- No run of word characters goes on across the border between these texts. -/
def Fresh (before ahead : List Char) : Prop :=
  (∀ c ∈ before.getLast?, ¬ InWord c) ∨ Stops isWordChar ahead

namespace Fresh

theorem blanks {before blanks ahead : List Char} (fresh : Fresh before (blanks ++ ahead))
    (blank : ∀ c ∈ blanks, IsBlank c) : Fresh (before ++ blanks) ahead := by
  cases last : blanks.getLast? with
  | none =>
      obtain rfl := List.getLast?_eq_none_iff.1 last
      simpa using fresh
  | some d =>
      left
      intro c member
      rw [List.getLast?_append, last] at member
      obtain rfl : d = c := by simpa using member
      exact (blank d (List.mem_of_getLast? last)).not_inWord

theorem token {token : Token} {before rest : List Char} (formed : token.WellFormed)
    (boundary : token.kind.isWord = true → atBoundary rest = true) :
    Fresh (before ++ token.spelling) rest := by
  cases word : token.kind.isWord with
  | true => exact .inr (atBoundary_iff.1 (boundary word))
  | false =>
      left
      obtain ⟨d, single, known⟩ := formed.delimiter word
      intro c member
      obtain rfl : d = c := by simpa [single] using member
      exact (isDelimiter_of_delimiter? known).not_inWord

/-- At a border of runs, the run ahead is maximal. -/
theorem maximalRun {before run after : List Char} (fresh : Fresh before (run ++ after))
    (nonempty : run ≠ []) (inWord : ∀ c ∈ run, InWord c) (boundary : Stops isWordChar after) :
    MaximalRun (before ++ (run ++ after)) before.length run := by
  refine ⟨⟨before, after, rfl, rfl, ?_, ?_⟩, nonempty, inWord⟩
  · refine fresh.resolve_right fun stops => ?_
    obtain ⟨c, run, rfl⟩ := List.exists_cons_of_ne_nil nonempty
    have outside : isWordChar c = false := stops c rfl
    rw [isWordChar_eq_false_iff] at outside
    exact outside (inWord c List.mem_cons_self)
  · intro c head
    rw [← isWordChar_iff, boundary c head]
    exact Bool.false_ne_true

end Fresh

/-- A problem that is found at the start of a run is a problem of the text. -/
theorem Finds.describes {before taken rest : List Char} {problem : Problem}
    (found : Finds taken rest (.error problem)) (fresh : Fresh before (taken ++ rest))
    (stops : Stops isSpace (taken ++ rest)) :
    Describes (before ++ (taken ++ rest)) before.length problem := by
  cases found with
  | @malformed _ rest c nonempty all start =>
      have whole : taken ++ c :: rest =
          (taken ++ c :: rest.takeWhile isWordChar) ++ rest.dropWhile isWordChar := by
        rw [List.append_assoc, List.cons_append, List.takeWhile_append_dropWhile]
      rw [whole] at fresh ⊢
      refine .malformed (fresh.maximalRun (by simp) ?_ (stops_dropWhile _ _)) nonempty all start
      intro d member
      rcases List.mem_append.1 member with digit | other
      · exact .inr (all d digit)
      · rcases List.mem_cons.1 other with rfl | word
        · exact .inl start
        · exact isWordChar_iff.1 (List.mem_takeWhile_imp word)
  | octal zero all bad boundary =>
      have nonempty : taken ≠ [] := by
        rintro rfl
        cases zero
      exact .octal (fresh.maximalRun nonempty (fun d member => .inr (all d member))
        (atBoundary_iff.1 boundary)) all zero bad
  | @stranger c rest delimiter word =>
      have blank : isSpace c = false := stops c rfl
      rw [isSpace_eq_false_iff] at blank
      exact .stranger (by simp) ⟨blank, delimiter, word⟩

/-! ## Whole runs -/

/-- What the outcome of cutting a buffer into tokens says about its text. -/
def Verdict (buffer : Buffer) : Except Diagnostic (List Token) → Prop
  | .ok _ => ∀ offset, ¬ Offending buffer.chars offset
  | .error diagnostic =>
      ∃ offset, Describes buffer.chars offset diagnostic.problem ∧
        (∀ earlier < offset, ¬ Offending buffer.chars earlier) ∧
        diagnostic.location = some (buffer.place offset)

/-- A cursor that has passed no offence and stands at a border of runs. -/
structure Clean (buffer : Buffer) (cursor : Cursor) : Prop where
  sound : cursor.Sound buffer.chars
  fresh : Fresh (buffer.chars.take cursor.offset) cursor.rest
  passed : ∀ offset < cursor.offset, ¬ Offending buffer.chars offset

namespace Clean

/-- Passing over characters that do not offend keeps the cursor clean. -/
theorem advanceBy {buffer : Buffer} {cursor : Cursor} {taken rest : List Char}
    (clean : Clean buffer cursor) (ahead : cursor.rest = taken ++ rest)
    (fresh : Fresh (buffer.chars.take cursor.offset ++ taken) rest)
    (inside : ∀ offset, (buffer.chars.take cursor.offset).length ≤ offset →
      offset < (buffer.chars.take cursor.offset).length + taken.length →
      ¬ Offending (buffer.chars.take cursor.offset ++ (taken ++ rest)) offset) :
    Clean buffer (cursor.advanceBy taken.length) where
  sound := clean.sound.advanceBy _
  fresh := by
    rw [clean.sound.take_advanceBy ahead, Cursor.rest_advanceBy, ahead, List.drop_left]
    exact fresh
  passed := by
    intro offset before
    have fits : taken.length ≤ cursor.rest.length := by
      rw [ahead, List.length_append]
      omega
    rw [Cursor.offset_advanceBy fits] at before
    by_cases already : offset < cursor.offset
    · exact clean.passed offset already
    · rw [← ahead, clean.sound.take_append_rest,
        List.length_take_of_le clean.sound.offset_le] at inside
      exact inside offset (by omega) before

theorem skips {buffer : Buffer} {cursor start : Cursor} {blanks : List Char}
    (clean : Clean buffer cursor) (skips : cursor.Skips blanks start) : Clean buffer start := by
  rw [skips.start_eq]
  apply clean.advanceBy skips.ahead
  · exact (skips.ahead ▸ clean.fresh).blanks skips.blank
  · intro offset low high
    exact not_offending_blanks skips.blank low high

theorem token {buffer : Buffer} {cursor : Cursor} {token : Token} {taken rest : List Char}
    (clean : Clean buffer cursor) (ahead : cursor.rest = taken ++ rest)
    (found : Finds taken rest (.ok token)) : Clean buffer (cursor.advanceBy taken.length) := by
  cases found with
  | token formed boundary =>
      apply clean.advanceBy ahead
      · exact Fresh.token formed boundary
      · intro offset low high
        exact not_offending_token formed boundary low high

end Clean

theorem Cuts.verdict {buffer : Buffer} {cursor finish : Cursor}
    {outcome : Except Diagnostic (List Token)} (cut : Cuts buffer cursor outcome finish)
    (clean : Clean buffer cursor) : Verdict buffer outcome := by
  induction cut with
  | @ended cursor finish blanks skips none =>
      have clean := clean.skips skips
      intro offset
      by_cases passed : offset < finish.offset
      · exact clean.passed offset passed
      · have split := congrArg List.length clean.sound.take_append_rest
        rw [none, List.append_nil, List.length_take_of_le clean.sound.offset_le] at split
        exact not_offending_past (by omega)
  | @refused cursor start blanks taken rest problem skips ahead found =>
      have clean := clean.skips skips
      have describes := found.describes (ahead ▸ clean.fresh) (ahead ▸ skips.stops)
      rw [← ahead, clean.sound.take_append_rest,
        List.length_take_of_le clean.sound.offset_le] at describes
      exact ⟨start.offset, describes, clean.passed, by rw [clean.sound.location]⟩
  | @scanned cursor start finish blanks taken rest token outcome skips ahead found cut ih =>
      have verdict := ih ((clean.skips skips).token ahead found)
      cases outcome with
      | ok tokens => exact verdict
      | error diagnostic => exact verdict

theorem Buffer.verdict (buffer : Buffer) : Verdict buffer buffer.tokens := by
  obtain ⟨finish, cut⟩ := Buffer.tokens_eq_iff.1 (Eq.refl buffer.tokens)
  apply cut.verdict
  exact
    { sound := Cursor.sound_start _
      fresh := .inl (by simp [Cursor.start])
      passed := fun offset before => absurd before (Nat.not_lt_zero offset) }

/-- Lexing fails exactly on texts that are at fault somewhere, with a diagnostic of the first fault. -/
theorem lex_error_iff_offending (buffer : Buffer) :
    ((∃ failure, buffer.lex.outcome.1 = .error failure) ↔
      ∃ offset, Offending buffer.chars offset) ∧
    ∀ failure, buffer.lex.outcome.1 = .error failure →
      ∃ diagnostic offset, failure = .diagnosed diagnostic ∧ Offending buffer.chars offset ∧
        (∀ earlier < offset, ¬ Offending buffer.chars earlier) ∧
        diagnostic.location = some (buffer.place offset) ∧
        Describes buffer.chars offset diagnostic.problem ∧
        ∀ text following, diagnostic.problem ≠ .malformedToken "identifier" text following := by
  have verdict := buffer.verdict
  have first : ∀ diagnostic, buffer.tokens = .error diagnostic →
      ∃ offset, Describes buffer.chars offset diagnostic.problem ∧
        (∀ earlier < offset, ¬ Offending buffer.chars earlier) ∧
        diagnostic.location = some (buffer.place offset) := by
    intro diagnostic failed
    rwa [failed] at verdict
  refine ⟨⟨?_, ?_⟩, ?_⟩
  · rintro ⟨failure, failed⟩
    obtain ⟨diagnostic, refused, -⟩ := Buffer.lex_eq_error_iff.1 failed
    obtain ⟨offset, describes, -, -⟩ := first diagnostic refused
    exact ⟨offset, describes.offending⟩
  · rintro ⟨offset, offending⟩
    cases found : buffer.tokens with
    | ok tokens =>
        rw [found] at verdict
        exact absurd offending (verdict offset)
    | error diagnostic => exact ⟨_, Buffer.lex_eq_error_iff.2 ⟨diagnostic, found, rfl⟩⟩
  · intro failure failed
    obtain ⟨diagnostic, refused, rfl⟩ := Buffer.lex_eq_error_iff.1 failed
    obtain ⟨offset, describes, least, place⟩ := first diagnostic refused
    refine ⟨diagnostic, offset, rfl, describes.offending, least, place, describes, ?_⟩
    intro text following same
    rw [same] at describes
    exact absurd describes.malformed_kind (by decide)

/-- Digits that are a bad octal and run into a word are reported for the latter. -/
theorem lex_error_iff_offending_mixed :
    Offending "089a".toList 0 ∧
    ∃ diagnostic, (Buffer.ofString "a.c" "089a").lex.outcome.1 = .error (.diagnosed diagnostic) ∧
      diagnostic.location = some ⟨"a.c", 1, 1⟩ ∧ Describes "089a".toList 0 diagnostic.problem := by
  have run : MaximalRun "089a".toList 0 (['0', '8', '9'] ++ 'a' :: []) :=
    { split := ⟨[], [], by decide, rfl, by simp, by simp⟩
      nonempty := by decide
      inWord := by simp [InWord, IsDecimal, StartsWord, IsLetter] }
  have describes : Describes "089a".toList 0 (.malformedToken "constant" "089" "a") :=
    .malformed run (by decide) (by simp [IsDecimal]) (by decide)
  refine ⟨describes.offending, ?_⟩
  obtain ⟨fails, first⟩ := lex_error_iff_offending (Buffer.ofString "a.c" "089a")
  obtain ⟨failure, failed⟩ := fails.2 ⟨0, describes.offending⟩
  obtain ⟨diagnostic, offset, rfl, -, least, place, problem, -⟩ := first failure failed
  obtain rfl : offset = 0 := by
    by_contra later
    exact least 0 (Nat.pos_of_ne_zero later) describes.offending
  exact ⟨diagnostic, failed, place, problem⟩

end MicroC
