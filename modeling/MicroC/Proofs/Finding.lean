import MicroC.Proofs.Lexeme
import MicroC.Proofs.Position
import Mathlib.Data.List.Find
import Mathlib.Data.List.TakeWhile

/-! # What a scan finds

`Finds taken rest outcome` says, by the shapes of lexemes alone, what a scan makes of `taken ++ rest`
and that it takes `taken`. `scanToken_eq` shows that scanning does what the relation says, and
`exists_finds` that the relation leaves no text out. Together they are all that is ever used about
`scanToken`: no later proof opens it.
-/

namespace MicroC

/-! ## Runs of a class of characters -/

/-- A run of a class of characters ends in front of these. -/
def Stops (p : Char → Bool) (rest : List Char) : Prop :=
  ∀ c ∈ rest.head?, p c = false

theorem takeWhile_of_stops {p : Char → Bool} {run rest : List Char} (all : ∀ c ∈ run, p c = true)
    (stops : Stops p rest) : (run ++ rest).takeWhile p = run := by
  rw [List.takeWhile_append_of_pos all]
  cases rest with
  | nil => simp
  | cons c tail => simp [stops c rfl]

theorem drop_length_takeWhile (p : Char → Bool) (chars : List Char) :
    chars.drop (chars.takeWhile p).length = chars.dropWhile p := by
  induction chars with
  | nil => rfl
  | cons c chars ih =>
      cases inside : p c with
      | true => simp [inside, ih]
      | false => simp [inside]

theorem stops_dropWhile (p : Char → Bool) (chars : List Char) : Stops p (chars.dropWhile p) := by
  intro c head
  have := List.head?_dropWhile_not p chars
  rw [Option.mem_def.1 head] at this
  exact this

@[simp] theorem atBoundary_iff {rest : List Char} :
    atBoundary rest = true ↔ Stops isWordChar rest := by
  cases rest <;> simp [atBoundary, Stops]

namespace Cursor

theorem takeRun_ok {cursor : Cursor} (buffer : Buffer) {p : Char → Bool} (kind : String)
    (place : Location) {run rest : List Char} (ahead : cursor.rest = run ++ rest)
    (all : ∀ c ∈ run, p c = true) (stops : Stops p rest) (boundary : atBoundary rest = true) :
    cursor.takeRun buffer p kind place = (.ok run, cursor.advanceBy run.length) := by
  have taken : cursor.rest.takeWhile p = run := by rw [ahead, takeWhile_of_stops all stops]
  have after : (cursor.advanceBy run.length).rest = rest := by
    rw [rest_advanceBy, ahead, List.drop_left]
  unfold takeRun
  simp only [taken, after]
  cases rest with
  | nil => rfl
  | cons c tail =>
      have : isWordChar c = false := atBoundary_iff.1 boundary c rfl
      simp [this]

theorem takeRun_error {cursor : Cursor} (buffer : Buffer) {p : Char → Bool} (kind : String)
    (place : Location) {run tail : List Char} {c : Char} (ahead : cursor.rest = run ++ c :: tail)
    (all : ∀ c ∈ run, p c = true) (stop : p c = false) (word : isWordChar c = true) :
    cursor.takeRun buffer p kind place =
      (.error { problem := .malformedToken kind (String.ofList run) c.toString,
                location := some place,
                sourceLine := some ((cursor.advanceBy run.length).currentLine buffer) },
       cursor.advanceBy run.length) := by
  have stops : Stops p (c :: tail) := by
    intro d head
    cases head
    exact stop
  have taken : cursor.rest.takeWhile p = run := by rw [ahead, takeWhile_of_stops all stops]
  have after : (cursor.advanceBy run.length).rest = c :: tail := by
    rw [rest_advanceBy, ahead, List.drop_left]
  unfold takeRun
  simp only [taken, after, word, if_true]

/-! ## Keywords -/

/-- A keyword stands ahead if it is the whole run of word characters there. -/
theorem keyword_ahead_iff {spelling chars : List Char} (word : ∀ c ∈ spelling, InWord c) :
    (spelling.isPrefixOf chars && atBoundary (chars.drop spelling.length)) = true ↔
      spelling = chars.takeWhile isWordChar := by
  have all : ∀ c ∈ spelling, isWordChar c = true := fun c member => isWordChar_iff.2 (word c member)
  constructor
  · intro found
    obtain ⟨starts, boundary⟩ := Bool.and_eq_true_iff.1 found
    obtain ⟨rest, rfl⟩ := List.isPrefixOf_iff_prefix.1 starts
    rw [List.drop_left, atBoundary_iff] at boundary
    exact (takeWhile_of_stops all boundary).symm
  · intro run
    have split : spelling ++ chars.dropWhile isWordChar = chars := by
      rw [run]
      exact List.takeWhile_append_dropWhile
    refine Bool.and_eq_true_iff.2 ⟨List.isPrefixOf_iff_prefix.2 ⟨_, split⟩, ?_⟩
    rw [← split, List.drop_left, atBoundary_iff]
    exact stops_dropWhile _ _

theorem keyword?_eq (cursor : Cursor) :
    cursor.keyword? =
      Token.Kind.keywords.find? fun entry => entry.2 = cursor.rest.takeWhile isWordChar := by
  unfold keyword?
  apply List.find?_congr
  rintro ⟨kind, spelling⟩ member
  have word := (isWord_of_mem_reserved (Token.Kind.reserved_of_keyword member)).inWord
  rw [Bool.eq_iff_iff, keyword_ahead_iff word, decide_eq_true_iff]

theorem takeKeyword_some {cursor : Cursor} {kind : Token.Kind} {spelling rest : List Char}
    (ahead : cursor.rest = spelling ++ rest) (member : (kind, spelling) ∈ Token.Kind.keywords)
    (boundary : atBoundary rest = true) :
    cursor.takeKeyword = (some kind, cursor.advanceBy spelling.length) := by
  have word := (isWord_of_mem_reserved (Token.Kind.reserved_of_keyword member)).inWord
  have run : cursor.rest.takeWhile isWordChar = spelling := by
    rw [ahead]
    exact takeWhile_of_stops (fun c inside => isWordChar_iff.2 (word c inside))
      (atBoundary_iff.1 boundary)
  have found : cursor.keyword? = some (kind, spelling) := by
    rw [keyword?_eq, run]
    simp only [Token.Kind.keywords, List.mem_cons, Prod.mk.injEq, List.not_mem_nil,
      or_false] at member
    rcases member with ⟨rfl, rfl⟩ | ⟨rfl, rfl⟩ | ⟨rfl, rfl⟩ <;> decide
  simp [takeKeyword, found]

theorem takeKeyword_none {cursor : Cursor}
    (other : cursor.rest.takeWhile isWordChar ∉ reserved) :
    cursor.takeKeyword = (none, cursor) := by
  have missed : cursor.keyword? = none := by
    rw [keyword?_eq, List.find?_eq_none]
    rintro ⟨kind, spelling⟩ member same
    rw [decide_eq_true_iff] at same
    exact other (same ▸ Token.Kind.reserved_of_keyword member)
  simp [takeKeyword, missed]

/-! ## Which rule of the scanner applies -/

theorem scanToken_of_delimiter {cursor : Cursor} {buffer : Buffer} {c : Char} {tail : List Char}
    {kind : Token.Kind} (ahead : cursor.rest = c :: tail)
    (known : Token.Kind.delimiter? c = some kind) :
    cursor.scanToken buffer =
      (.ok { kind, location := some (cursor.location buffer) }, cursor.advance) := by
  simp [scanToken, ahead, known]

theorem scanToken_of_keyword {cursor : Cursor} {buffer : Buffer} {kind : Token.Kind}
    {spelling rest : List Char} (ahead : cursor.rest = spelling ++ rest)
    (member : (kind, spelling) ∈ Token.Kind.keywords) (boundary : atBoundary rest = true) :
    cursor.scanToken buffer =
      (.ok { kind, location := some (cursor.location buffer) },
       cursor.advanceBy spelling.length) := by
  have word := isWord_of_mem_reserved (Token.Kind.reserved_of_keyword member)
  have taken := takeKeyword_some ahead member boundary
  cases spelling with
  | nil => exact word.elim
  | cons c spelling =>
      have other : Token.Kind.delimiter? c = none :=
        delimiter?_eq_none_iff.2 fun delimiter => delimiter.not_inWord (.inl word.1)
      simp [scanToken, ahead, other, taken]

theorem scanToken_of_name {cursor : Cursor} {buffer : Buffer} {name rest : List Char}
    (ahead : cursor.rest = name ++ rest) (isName : IsName name) (boundary : atBoundary rest = true) :
    cursor.scanToken buffer = cursor.scanIdentifier buffer := by
  have run : cursor.rest.takeWhile isWordChar = name := by
    rw [ahead]
    exact takeWhile_of_stops (fun c member => isWordChar_iff.2 (isName.1.inWord c member))
      (atBoundary_iff.1 boundary)
  have taken := takeKeyword_none (run ▸ isName.2)
  cases name with
  | nil => exact isName.1.elim
  | cons c name =>
      have start : isWordStart c = true := isWordStart_iff.2 isName.1.1
      have other : Token.Kind.delimiter? c = none :=
        delimiter?_eq_none_iff.2 fun delimiter => delimiter.not_inWord (.inl isName.1.1)
      simp [scanToken, ahead, other, taken, start]

theorem scanToken_of_digit {cursor : Cursor} {buffer : Buffer} {c : Char} {tail : List Char}
    (ahead : cursor.rest = c :: tail) (digit : IsDecimal c) :
    cursor.scanToken buffer = cursor.scanConstant buffer := by
  have word : isWordChar c = true := isWordChar_iff.2 (.inr digit)
  have taken : cursor.takeKeyword = (none, cursor) := by
    apply takeKeyword_none
    intro member
    have start := isWord_of_mem_reserved member
    rw [ahead, List.takeWhile_cons_of_pos word] at start
    exact digit.not_startsWord start.1
  have start : isWordStart c = false := isWordStart_eq_false_iff.2 digit.not_startsWord
  have other : Token.Kind.delimiter? c = none :=
    delimiter?_eq_none_iff.2 fun delimiter => delimiter.not_inWord (.inr digit)
  simp [scanToken, ahead, other, taken, start, isDigit_iff.2 digit]

theorem scanToken_of_stranger {cursor : Cursor} {buffer : Buffer} {c : Char} {tail : List Char}
    (ahead : cursor.rest = c :: tail) (delimiter : ¬ IsDelimiter c) (word : ¬ InWord c) :
    cursor.scanToken buffer =
      (.error { problem := .invalidCharacter c, location := some (cursor.location buffer),
                sourceLine := some (cursor.currentLine buffer) }, cursor) := by
  have outside : isWordChar c = false := isWordChar_eq_false_iff.2 word
  have start : isWordStart c = false :=
    isWordStart_eq_false_iff.2 fun start => word (.inl start)
  have digit : c.isDigit = false := isDigit_eq_false_iff.2 fun digit => word (.inr digit)
  have taken : cursor.takeKeyword = (none, cursor) := by
    apply takeKeyword_none
    rw [ahead, List.takeWhile_cons_of_neg (by simp [outside])]
    decide
  simp [scanToken, ahead, delimiter?_eq_none_iff.2 delimiter, taken, start, digit]

end Cursor

/-! ## Digits -/

theorem IsDecimal.octal_or {c : Char} (digit : IsDecimal c) :
    isOctalDigit c = true ∨ c = '8' ∨ c = '9' := by
  by_cases octal : c ≤ '7'
  · left
    simp [isOctalDigit, digit.1, octal]
  · right
    have low : 55 < c.val.toNat := Nat.lt_of_not_le octal
    have high : c.val.toNat ≤ 57 := digit.2
    have : c.val.toNat = 56 ∨ c.val.toNat = 57 := by omega
    rcases this with eight | nine
    · exact .inl (Char.ext (UInt32.toNat_inj.1 eight))
    · exact .inr (Char.ext (UInt32.toNat_inj.1 nine))

theorem isBadOctal_iff {digits : List Char} (all : ∀ d ∈ digits, IsDecimal d) :
    isBadOctal digits = true ↔ digits.head? = some '0' ∧ ∃ d ∈ digits, d = '8' ∨ d = '9' := by
  simp only [isBadOctal, Bool.and_eq_true, beq_iff_eq, Bool.not_eq_true', List.all_eq_false]
  refine and_congr_right fun _ => ⟨?_, ?_⟩
  · rintro ⟨d, member, other⟩
    exact ⟨d, member, (all d member).octal_or.resolve_left other⟩
  · rintro ⟨d, member, rfl | rfl⟩
    · exact ⟨_, member, by decide⟩
    · exact ⟨_, member, by decide⟩

/-- Constants are the digits that are no bad octal. -/
theorem isConstant_iff {digits : List Char} :
    IsConstant digits ↔
      digits ≠ [] ∧ (∀ d ∈ digits, IsDecimal d) ∧ isBadOctal digits = false := by
  constructor
  · intro constant
    refine ⟨constant.ne_nil, constant.decimal, ?_⟩
    rw [Bool.eq_false_iff, ne_eq, isBadOctal_iff constant.decimal]
    cases digits with
    | nil => exact constant.elim
    | cons first rest =>
        rintro ⟨zero, d, member, bad⟩
        obtain rfl : first = '0' := by simpa using zero
        rcases constant with ⟨-, octal⟩ | ⟨nonzero, -⟩
        · rcases List.mem_cons.1 member with rfl | member
          · simp at bad
          · have := (octal d member).2
            rcases bad with rfl | rfl <;> exact absurd this (by decide)
        · exact absurd nonzero.1 (by decide)
  · rintro ⟨nonempty, all, good⟩
    cases digits with
    | nil => exact absurd rfl nonempty
    | cons first rest =>
        by_cases zero : first = '0'
        · subst zero
          refine .inl ⟨rfl, fun d member => ?_⟩
          have octal : isOctalDigit d = true := by
            rcases (all d (List.mem_cons_of_mem _ member)).octal_or with octal | bad
            · exact octal
            · rw [Bool.eq_false_iff, ne_eq, isBadOctal_iff all] at good
              exact absurd ⟨rfl, d, List.mem_cons_of_mem _ member, bad⟩ good
          simpa [isOctalDigit] using octal
        · refine .inr ⟨⟨?_, (all first List.mem_cons_self).2⟩,
            fun d member => all d (List.mem_cons_of_mem _ member)⟩
          have low : 48 ≤ first.val.toNat := (all first List.mem_cons_self).1
          have other : first.val.toNat ≠ 48 :=
            fun same => zero (Char.ext (UInt32.toNat_inj.1 same))
          have : 49 ≤ first.val.toNat := by omega
          exact this

/-! ## The relation -/

/-- What a scan makes of `taken ++ rest`, having taken `taken`. -/
inductive Finds : List Char → List Char → Except Problem Token → Prop where
  /-- A token. Words and constants end only at a boundary. -/
  | token {token : Token} {rest : List Char} : token.WellFormed →
      (token.kind.isWord = true → atBoundary rest = true) → Finds token.spelling rest (.ok token)
  /-- Digits that run into a word. -/
  | malformed {digits rest : List Char} {c : Char} : digits ≠ [] → (∀ d ∈ digits, IsDecimal d) →
      StartsWord c →
      Finds digits (c :: rest)
        (.error (.malformedToken "constant" (String.ofList digits) c.toString))
  /-- Digits after a leading zero that are not all octal. -/
  | octal {digits rest : List Char} : digits.head? = some '0' → (∀ d ∈ digits, IsDecimal d) →
      (∃ d ∈ digits, d = '8' ∨ d = '9') → atBoundary rest = true →
      Finds digits rest (.error (.invalidOctal (String.ofList digits)))
  /-- A character that no token starts with. -/
  | stranger {c : Char} {rest : List Char} : ¬ IsDelimiter c → ¬ InWord c →
      Finds [] (c :: rest) (.error (.invalidCharacter c))

/-- A finding at the place where the cursor stands. -/
def Cursor.report (cursor : Cursor) (buffer : Buffer) :
    Except Problem Token → Except Diagnostic Token
  | .ok token => .ok { token with location := some (cursor.location buffer) }
  | .error problem =>
      .error { problem, location := some (cursor.location buffer),
               sourceLine := some (cursor.currentLine buffer) }

namespace Finds

/-- No scan crosses a line. -/
theorem no_feed {taken rest : List Char} {outcome : Except Problem Token}
    (found : Finds taken rest outcome) : '\n' ∉ taken := by
  intro feed
  cases found with
  | token formed _ => exact formed.not_blank _ feed (by decide)
  | malformed _ all _ => exact absurd (all _ feed) (by decide)
  | octal _ all _ _ => exact absurd (all _ feed) (by decide)
  | stranger => cases feed

end Finds

namespace Cursor

/-- Digits are on one line, so the line is the same in front of them and behind them. -/
theorem currentLine_advanceBy {cursor : Cursor} (buffer : Buffer) {taken rest : List Char}
    (ahead : cursor.rest = taken ++ rest) (feedless : '\n' ∉ taken) :
    (cursor.advanceBy taken.length).currentLine buffer = cursor.currentLine buffer := by
  rw [currentLine, lineStart_advanceBy ahead feedless, currentLine]

theorem stops_isDigit {rest : List Char} (boundary : atBoundary rest = true) :
    Stops Char.isDigit rest := by
  intro c head
  have outside := atBoundary_iff.1 boundary c head
  rw [isWordChar_eq_false_iff] at outside
  rw [isDigit_eq_false_iff]
  exact fun digit => outside (.inr digit)

/-- A cursor in front of digits scans a constant. -/
theorem scanToken_of_digits {cursor : Cursor} {buffer : Buffer} {digits rest : List Char}
    (ahead : cursor.rest = digits ++ rest) (nonempty : digits ≠ [])
    (all : ∀ d ∈ digits, IsDecimal d) :
    cursor.scanToken buffer = cursor.scanConstant buffer := by
  cases digits with
  | nil => exact absurd rfl nonempty
  | cons c digits => exact scanToken_of_digit ahead (all c List.mem_cons_self)

/-- Scanning does what the relation says. -/
theorem scanToken_eq {cursor : Cursor} (buffer : Buffer) {taken rest : List Char}
    {outcome : Except Problem Token} (ahead : cursor.rest = taken ++ rest)
    (found : Finds taken rest outcome) :
    cursor.scanToken buffer = (cursor.report buffer outcome, cursor.advanceBy taken.length) := by
  have line := currentLine_advanceBy buffer ahead found.no_feed
  cases found with
  | token formed boundary =>
      cases formed with
      | fixed nonempty =>
          rw [Token.spelling_fixed] at ahead ⊢
          rcases Token.Kind.spelling?_cases nonempty with ⟨c, single, known, -⟩ | ⟨member, word⟩
          · rw [single] at ahead ⊢
            exact scanToken_of_delimiter ahead known
          · exact scanToken_of_keyword ahead member (boundary word)
      | identifier name =>
          rw [Token.spelling_text] at ahead ⊢
          have accepted := takeRun_ok buffer "identifier" (cursor.location buffer) ahead
            (fun c member => isWordChar_iff.2 (name.1.inWord c member))
            (atBoundary_iff.1 (boundary rfl)) (boundary rfl)
          rw [scanToken_of_name ahead name (boundary rfl)]
          simp [scanIdentifier, accepted, report]
      | constant digits =>
          rw [Token.spelling_text] at ahead ⊢
          have accepted := takeRun_ok buffer "constant" (cursor.location buffer) ahead
            (fun c member => isDigit_iff.2 (digits.decimal c member))
            (stops_isDigit (boundary rfl)) (boundary rfl)
          rw [scanToken_of_digits ahead digits.ne_nil digits.decimal]
          simp [scanConstant, accepted, report, (isConstant_iff.1 digits).2.2]
  | @malformed _ rest c nonempty all start =>
      have stop : c.isDigit = false := by
        rw [isDigit_eq_false_iff]
        exact fun digit => digit.not_startsWord start
      have refused := takeRun_error buffer "constant" (cursor.location buffer) ahead
        (fun d member => isDigit_iff.2 (all d member)) stop (isWordChar_iff.2 (.inl start))
      rw [scanToken_of_digits ahead nonempty all]
      simp [scanConstant, refused, report, line]
  | octal zero all bad boundary =>
      have accepted := takeRun_ok buffer "constant" (cursor.location buffer) ahead
        (fun d member => isDigit_iff.2 (all d member)) (stops_isDigit boundary) boundary
      have nonempty : taken ≠ [] := by
        rintro rfl
        cases zero
      rw [scanToken_of_digits ahead nonempty all]
      simp [scanConstant, accepted, report, line, (isBadOctal_iff all).2 ⟨zero, bad⟩]
  | stranger delimiter word => exact scanToken_of_stranger ahead delimiter word

end Cursor

/-! ## Every text starts with a finding -/

theorem Finds.of_spelling {token : Token} {taken rest : List Char} (formed : token.WellFormed)
    (boundary : token.kind.isWord = true → atBoundary rest = true)
    (spelled : token.spelling = taken) : Finds taken rest (.ok token) := by
  subst spelled
  exact .token formed boundary

theorem finds_delimiter {c : Char} {kind : Token.Kind} (rest : List Char)
    (known : Token.Kind.delimiter? c = some kind) : ∃ token, Finds [c] rest (.ok token) := by
  have fixed : kind.spelling?.isSome ∧ (kind.spelling?.getD "").toList = [c] ∧
      kind.isWord = false := by
    unfold Token.Kind.delimiter? at known
    split at known <;> cases known <;> exact ⟨rfl, rfl, rfl⟩
  exact ⟨{ kind }, .of_spelling (.fixed fixed.1) (by simp [fixed.2.2]) (by simp [fixed.2.1])⟩

theorem finds_word {run rest : List Char} (word : IsWord run) (boundary : atBoundary rest = true) :
    ∃ token, Finds run rest (.ok token) := by
  by_cases keyword : run ∈ reserved
  · simp only [reserved, List.mem_cons, List.not_mem_nil, or_false] at keyword
    rcases keyword with rfl | rfl | rfl
    · exact ⟨{ kind := .intKeyword }, .of_spelling (.fixed rfl) (fun _ => boundary) rfl⟩
    · exact ⟨{ kind := .voidKeyword }, .of_spelling (.fixed rfl) (fun _ => boundary) rfl⟩
    · exact ⟨{ kind := .returnKeyword }, .of_spelling (.fixed rfl) (fun _ => boundary) rfl⟩
  · have name : IsName (String.ofList run).toList := by
      rw [String.toList_ofList]
      exact ⟨word, keyword⟩
    exact ⟨{ kind := .identifier, text := some (String.ofList run) },
      .of_spelling (.identifier name) (fun _ => boundary) (by simp)⟩

/-- Of a run of digits, what follows decides first whether it is one token at all. -/
theorem finds_digits {digits rest : List Char} (nonempty : digits ≠ [])
    (all : ∀ d ∈ digits, IsDecimal d) (stops : Stops Char.isDigit rest) :
    ∃ outcome, Finds digits rest outcome := by
  by_cases boundary : atBoundary rest = true
  · by_cases bad : isBadOctal digits = true
    · obtain ⟨zero, wrong⟩ := (isBadOctal_iff all).1 bad
      exact ⟨_, .octal zero all wrong boundary⟩
    · have constant : IsConstant (String.ofList digits).toList := by
        rw [String.toList_ofList]
        exact isConstant_iff.2 ⟨nonempty, all, Bool.eq_false_iff.2 bad⟩
      exact ⟨.ok { kind := .constant, text := some (String.ofList digits) },
        .of_spelling (.constant constant) (fun _ => boundary) (by simp)⟩
  · cases rest with
    | nil => simp [atBoundary] at boundary
    | cons c tail =>
        have word : InWord c := by simpa [atBoundary] using boundary
        have other : ¬ IsDecimal c := by
          rw [← isDigit_iff, stops c rfl]
          simp
        exact ⟨_, .malformed nonempty all (word.resolve_right other)⟩

theorem exists_finds {chars : List Char} (nonempty : chars ≠ []) :
    ∃ taken rest outcome, chars = taken ++ rest ∧ Finds taken rest outcome := by
  obtain ⟨c, tail, rfl⟩ := List.exists_cons_of_ne_nil nonempty
  cases known : Token.Kind.delimiter? c with
  | some kind =>
      obtain ⟨token, found⟩ := finds_delimiter tail known
      exact ⟨[c], tail, _, rfl, found⟩
  | none =>
      by_cases word : StartsWord c
      · have run : (c :: tail).takeWhile isWordChar = c :: tail.takeWhile isWordChar :=
          List.takeWhile_cons_of_pos (isWordChar_iff.2 (.inl word))
        have isWord : IsWord ((c :: tail).takeWhile isWordChar) := by
          rw [run]
          exact ⟨word, fun d member => isWordChar_iff.1 (List.mem_takeWhile_imp member)⟩
        obtain ⟨token, found⟩ :=
          finds_word isWord (atBoundary_iff.2 (stops_dropWhile isWordChar (c :: tail)))
        exact ⟨_, _, _, List.takeWhile_append_dropWhile.symm, found⟩
      · by_cases digit : IsDecimal c
        · have digits : (c :: tail).takeWhile Char.isDigit ≠ [] := by
            rw [List.takeWhile_cons_of_pos (isDigit_iff.2 digit)]
            exact List.cons_ne_nil _ _
          obtain ⟨outcome, found⟩ :=
            finds_digits digits (fun d member => isDigit_iff.1 (List.mem_takeWhile_imp member))
              (stops_dropWhile Char.isDigit (c :: tail))
          exact ⟨_, _, _, List.takeWhile_append_dropWhile.symm, found⟩
        · exact ⟨[], c :: tail, _, rfl,
            .stranger (delimiter?_eq_none_iff.1 known) (fun inside => inside.elim word digit)⟩

/-- Every scan in front of some text is a finding there. -/
theorem Cursor.scanToken_finds {cursor : Cursor} (buffer : Buffer) (nonempty : cursor.rest ≠ []) :
    ∃ taken rest outcome, cursor.rest = taken ++ rest ∧ Finds taken rest outcome ∧
      cursor.scanToken buffer = (cursor.report buffer outcome, cursor.advanceBy taken.length) := by
  obtain ⟨taken, rest, outcome, ahead, found⟩ := exists_finds nonempty
  exact ⟨taken, rest, outcome, ahead, found, scanToken_eq buffer ahead found⟩

end MicroC
