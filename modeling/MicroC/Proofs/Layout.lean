import MicroC.Proofs.Segmentation
import MicroC.Proofs.Unlocated

/-! # Layout

Blanks only keep the runs of other characters apart. A text is cut run by run, so two texts with the
same runs are compiled alike: the results differ in locations and in quoted lines only.
-/

namespace MicroC

/-! ## Runs between blanks -/

/-- The pieces that a text falls into at its blanks, in order and without the empty ones. -/
def darkRuns (chars : List Char) : List (List Char) :=
  (chars.splitOnP fun c => decide (IsBlank c)).filter fun run => !run.isEmpty

/-- A text that is empty or starts with a blank. -/
def BreaksOff (rest : List Char) : Prop :=
  ∀ c ∈ rest.head?, IsBlank c

theorem darkRuns_cons_of_blank {c : Char} (blank : IsBlank c) (chars : List Char) :
    darkRuns (c :: chars) = darkRuns chars := by
  rw [darkRuns, List.splitOnP_cons_eq_if_modifyHead]
  simp [blank, darkRuns]

theorem darkRuns_append_of_blank {blanks : List Char} (blank : ∀ c ∈ blanks, IsBlank c)
    (chars : List Char) : darkRuns (blanks ++ chars) = darkRuns chars := by
  induction blanks with
  | nil => rfl
  | cons c blanks ih =>
      rw [List.cons_append, darkRuns_cons_of_blank (blank c List.mem_cons_self)]
      exact ih fun d member => blank d (List.mem_cons_of_mem _ member)

theorem darkRuns_append_of_dark {run rest : List Char} (nonempty : run ≠ [])
    (dark : ∀ c ∈ run, ¬ IsBlank c) (breaks : BreaksOff rest) :
    darkRuns (run ++ rest) = run :: darkRuns rest := by
  have other : ∀ c ∈ run, decide (IsBlank c) = false :=
    fun c member => decide_eq_false (dark c member)
  cases rest with
  | nil =>
      rw [List.append_nil, darkRuns, List.splitOnP_eq_singleton other]
      simp [darkRuns, nonempty]
  | cons c rest =>
      have blank : IsBlank c := breaks c rfl
      rw [darkRuns_cons_of_blank blank, darkRuns,
        List.splitOnP_append_cons_of_forall_mem other c (decide_eq_true blank)]
      simp [darkRuns, nonempty]

/-- A text goes on without blanks until it breaks off. -/
theorem exists_run (chars : List Char) :
    ∃ run after, chars = run ++ after ∧ (∀ c ∈ run, ¬ IsBlank c) ∧ BreaksOff after := by
  refine ⟨chars.takeWhile fun c => !isSpace c, chars.dropWhile fun c => !isSpace c, ?_, ?_, ?_⟩
  · rw [List.takeWhile_append_dropWhile]
  · intro c member
    rw [← isSpace_eq_false_iff]
    simpa using List.mem_takeWhile_imp member
  · intro c head
    simpa using stops_dropWhile (fun c => !isSpace c) chars c head

/-- A text is blanks, then a run, and then it breaks off. Only at its end there is no run. -/
theorem exists_dark_run (chars : List Char) :
    ∃ blanks run after, chars = blanks ++ (run ++ after) ∧ (∀ c ∈ blanks, IsBlank c) ∧
      (∀ c ∈ run, ¬ IsBlank c) ∧ BreaksOff after ∧ (run = [] → after = []) := by
  have stops : Stops isSpace (chars.dropWhile isSpace) := stops_dropWhile isSpace chars
  obtain ⟨run, after, ahead, dark, breaks⟩ := exists_run (chars.dropWhile isSpace)
  rw [ahead] at stops
  refine ⟨chars.takeWhile isSpace, run, after, ?_, ?_, dark, breaks, ?_⟩
  · rw [← ahead, List.takeWhile_append_dropWhile]
  · intro c member
    exact isSpace_iff.1 (List.mem_takeWhile_imp member)
  · rintro rfl
    cases after with
    | nil => rfl
    | cons c after => exact absurd (breaks c rfl) (isSpace_eq_false_iff.1 (stops c rfl))

theorem blank_of_darkRuns {chars : List Char} (empty : darkRuns chars = []) :
    ∀ c ∈ chars, IsBlank c := by
  obtain ⟨blanks, run, rest, rfl, blank, dark, breaks, ends⟩ := exists_dark_run chars
  cases run with
  | nil => simpa [ends rfl] using blank
  | cons c run =>
      rw [darkRuns_append_of_blank blank, darkRuns_append_of_dark (List.cons_ne_nil _ _) dark breaks]
        at empty
      cases empty

theorem exists_of_darkRuns {chars run : List Char} {runs : List (List Char)}
    (begins : darkRuns chars = run :: runs) :
    ∃ blanks rest, chars = blanks ++ (run ++ rest) ∧ (∀ c ∈ blanks, IsBlank c) ∧ BreaksOff rest ∧
      darkRuns rest = runs := by
  obtain ⟨blanks, first, rest, rfl, blank, dark, breaks, ends⟩ := exists_dark_run chars
  rw [darkRuns_append_of_blank blank] at begins
  cases first with
  | nil =>
      rw [ends rfl] at begins
      cases begins
  | cons c first =>
      rw [darkRuns_append_of_dark (List.cons_ne_nil _ _) dark breaks] at begins
      cases begins
      exact ⟨blanks, rest, rfl, blank, breaks, rfl⟩

/-! ## Texts that go on alike -/

/-- Two texts go on with the same characters up to the next blank. -/
inductive GoOnAlike : List Char → List Char → Prop where
  | run {run after after' : List Char} : (∀ c ∈ run, ¬ IsBlank c) → BreaksOff after →
      BreaksOff after' → GoOnAlike (run ++ after) (run ++ after')

namespace GoOnAlike

variable {rest rest' : List Char} (alike : GoOnAlike rest rest')
include alike

theorem atBoundary (boundary : atBoundary rest = true) : MicroC.atBoundary rest' = true := by
  cases alike with
  | @run run after after' dark breaks breaks' =>
      rw [atBoundary_iff] at boundary ⊢
      intro c head
      cases run with
      | nil => exact isWordChar_eq_false_iff.2 (breaks' c head).not_inWord
      | cons d run => exact boundary c head

theorem exists_cons {c : Char} {tail : List Char} (ahead : rest = c :: tail) (dark : ¬ IsBlank c) :
    ∃ tail', rest' = c :: tail' := by
  cases alike with
  | @run run after after' _ breaks _ =>
      cases run with
      | nil =>
          rw [List.nil_append] at ahead
          exact absurd (breaks c (by simp [ahead])) dark
      | cons d run =>
          obtain rfl : d = c := (List.cons.inj ahead).1
          exact ⟨_, rfl⟩

theorem finds {taken : List Char} {outcome : Except Problem Token}
    (stops : Stops isSpace (taken ++ rest)) (found : Finds taken rest outcome) :
    Finds taken rest' outcome := by
  cases found with
  | token formed boundary => exact .token formed fun word => alike.atBoundary (boundary word)
  | malformed nonempty digits starts =>
      obtain ⟨tail, rfl⟩ := alike.exists_cons rfl fun blank => blank.not_inWord (.inl starts)
      exact .malformed nonempty digits starts
  | octal zero digits bad boundary => exact .octal zero digits bad (alike.atBoundary boundary)
  | @stranger c tail other outside =>
      obtain ⟨tail, rfl⟩ := alike.exists_cons rfl (isSpace_eq_false_iff.1 (stops c rfl))
      exact .stranger other outside

end GoOnAlike

/-- What is taken from a text can be taken, behind other blanks, from any text with the same runs. -/
theorem exists_relaid {blanks taken rest other : List Char} (blank : ∀ c ∈ blanks, IsBlank c)
    (dark : ∀ c ∈ taken, ¬ IsBlank c) (stops : Stops isSpace (taken ++ rest))
    (nonempty : taken ++ rest ≠ [])
    (same : darkRuns (blanks ++ (taken ++ rest)) = darkRuns other) :
    ∃ blanks' rest', other = blanks' ++ (taken ++ rest') ∧ (∀ c ∈ blanks', IsBlank c) ∧
      Stops isSpace (taken ++ rest') ∧ GoOnAlike rest rest' ∧ darkRuns rest = darkRuns rest' := by
  obtain ⟨run, after, rfl, dark', breaks⟩ := exists_run rest
  have filled : taken ++ run ≠ [] := by
    intro empty
    obtain ⟨rfl, rfl⟩ := List.append_eq_nil_iff.1 empty
    obtain ⟨c, tail, rfl⟩ := List.exists_cons_of_ne_nil nonempty
    exact absurd (breaks c rfl) (isSpace_eq_false_iff.1 (stops c rfl))
  have both : ∀ c ∈ taken ++ run, ¬ IsBlank c := by
    intro c member
    rcases List.mem_append.1 member with member | member
    · exact dark c member
    · exact dark' c member
  rw [darkRuns_append_of_blank blank, ← List.append_assoc,
    darkRuns_append_of_dark filled both breaks] at same
  obtain ⟨blanks', after', rfl, blank', breaks', later⟩ := exists_of_darkRuns same.symm
  refine ⟨blanks', run ++ after', by simp, blank', ?_, .run dark' breaks breaks', ?_⟩
  · rw [← List.append_assoc]
    obtain ⟨c, tail, split⟩ := List.exists_cons_of_ne_nil filled
    rw [split] at both ⊢
    intro d head
    obtain rfl : c = d := Option.some.inj head
    exact isSpace_eq_false_iff.2 (both c List.mem_cons_self)
  · cases run with
    | nil => exact later.symm
    | cons c run =>
        rw [darkRuns_append_of_dark (List.cons_ne_nil _ _) dark' breaks,
          darkRuns_append_of_dark (List.cons_ne_nil _ _) dark' breaks', later]

/-! ## Cutting -/

theorem Finds.dark {taken rest : List Char} {outcome : Except Problem Token}
    (found : Finds taken rest outcome) : ∀ c ∈ taken, ¬ IsBlank c := by
  cases found with
  | token formed _ => exact formed.not_blank
  | malformed _ digits _ => exact fun c member blank => blank.not_inWord (.inr (digits c member))
  | octal _ digits _ _ => exact fun c member blank => blank.not_inWord (.inr (digits c member))
  | stranger => simp

/-- What cutting a text comes to, without locations. -/
def cutUnlocated (outcome : Except Diagnostic (List Token)) : Except Failure (List Token) :=
  unlocatedWith (List.map Token.unlocated) (outcome.mapError Failure.diagnosed)

theorem cutUnlocated_map {one two : Except Diagnostic (List Token)} {token other : Token}
    (alike : cutUnlocated one = cutUnlocated two) (same : token.unlocated = other.unlocated) :
    cutUnlocated (one.map (token :: ·)) = cutUnlocated (two.map (other :: ·)) := by
  cases one with
  | error diagnostic =>
      cases two with
      | error diagnostic' => exact alike
      | ok tokens => cases alike
  | ok tokens =>
      cases two with
      | error diagnostic => cases alike
      | ok others =>
          have tails : tokens.map Token.unlocated = others.map Token.unlocated :=
            Except.ok.inj alike
          exact congrArg Except.ok (congrArg₂ List.cons same tails)

/-- Texts with the same runs are cut alike, wherever the cursors stand. -/
theorem Cuts.alike {buffer : Buffer} {cursor finish : Cursor}
    {outcome : Except Diagnostic (List Token)} (cut : Cuts buffer cursor outcome finish)
    (buffer' : Buffer) :
    ∀ cursor', darkRuns cursor.rest = darkRuns cursor'.rest →
      ∃ outcome' finish', Cuts buffer' cursor' outcome' finish' ∧
        cutUnlocated outcome = cutUnlocated outcome' := by
  induction cut with
  | @ended cursor finish blanks skips ended =>
      intro cursor' same
      have blank : ∀ c ∈ cursor'.rest, IsBlank c := by
        apply blank_of_darkRuns
        rw [← same, skips.ahead, ended, darkRuns_append_of_blank skips.blank]
        rfl
      obtain ⟨skips', ended'⟩ :=
        Cursor.skips_of_blank (List.append_nil cursor'.rest).symm blank (by simp [Stops])
      exact ⟨_, _, .ended skips' ended', rfl⟩
  | @refused cursor start blanks taken rest problem skips ahead found =>
      intro cursor' same
      rw [skips.ahead, ahead] at same
      obtain ⟨blanks', rest', ahead', blank', stops', goesOn, -⟩ :=
        exists_relaid skips.blank found.dark (ahead ▸ skips.stops) found.append_ne_nil same
      obtain ⟨skips', start'⟩ := Cursor.skips_of_blank ahead' blank' stops'
      exact ⟨_, _, .refused skips' start' (goesOn.finds (ahead ▸ skips.stops) found), rfl⟩
  | @scanned cursor start finish blanks taken rest token outcome skips ahead found _ ih =>
      intro cursor' same
      rw [skips.ahead, ahead] at same
      obtain ⟨blanks', rest', ahead', blank', stops', goesOn, later⟩ :=
        exists_relaid skips.blank found.dark (ahead ▸ skips.stops) found.append_ne_nil same
      obtain ⟨skips', start'⟩ := Cursor.skips_of_blank ahead' blank' stops'
      have behind : darkRuns (start.advanceBy taken.length).rest =
          darkRuns ((cursor'.advanceBy blanks'.length).advanceBy taken.length).rest := by
        rw [Cursor.rest_advanceBy, Cursor.rest_advanceBy, ahead, start', List.drop_left,
          List.drop_left, later]
      obtain ⟨outcome', finish', cut', alike⟩ := ih _ behind
      exact ⟨_, finish', .scanned skips' start' (goesOn.finds (ahead ▸ skips.stops) found) cut',
        cutUnlocated_map alike rfl⟩

theorem Buffer.tokens_alike {one two : Buffer} (same : darkRuns one.chars = darkRuns two.chars) :
    cutUnlocated one.tokens = cutUnlocated two.tokens := by
  obtain ⟨finish, cut⟩ := Buffer.tokens_eq_iff.1 (rfl : one.tokens = one.tokens)
  obtain ⟨outcome, finish', cut', alike⟩ := cut.alike two (Cursor.start two.chars) same
  rw [alike, Buffer.tokens_eq_iff.2 ⟨finish', cut'⟩]

/-- Two texts that fall into the same runs at their blanks are compiled alike. Both compilations return,
    with the same results but for the locations of tokens and of the source program, or both fail, with
    the same failure but for its place and the line that it quotes. -/
theorem compile_layout_independent {source source' : String}
    (same : darkRuns source.toList = darkRuns source'.toList) (options : Options)
    (platform file : String) :
    unlocatedWith Compilation.unlocated (compile options platform file source).outcome.1 =
      unlocatedWith Compilation.unlocated (compile options platform file source').outcome.1 := by
  rw [Traced.outcome_eq (comesTo_compile _ _ _ _), Traced.outcome_eq (comesTo_compile _ _ _ _)]
  apply unlocatedWith_bind_same
  intro target _
  have cut : cutUnlocated (Buffer.ofString file source).tokens =
      cutUnlocated (Buffer.ofString file source').tokens := Buffer.tokens_alike same
  apply unlocatedWith_bind cut
  intro tokens tokens' accepted _ alike
  rw [mapError_eq_ok_iff] at accepted
  apply fromTokens_alike
  · exact congrArg (fun tokens : List Token =>
      ({ file, stopAfter := options.stopAfter, target, tokens, stage := some .lex } : Compilation))
      alike
  · exact Buffer.spelled accepted

/-- Blanks of every kind, around and between the runs of a text that ends too early. -/
theorem compile_layout_independent_feeds :
    darkRuns "int f(void)".toList = darkRuns "\tint\r\n\n f(void) ".toList ∧
    unlocatedWith Compilation.unlocated
        (compile { target := some "linux" } "linux" "a.c" "int f(void)").outcome.1 =
      unlocatedWith Compilation.unlocated
        (compile { target := some "linux" } "linux" "a.c" "\tint\r\n\n f(void) ").outcome.1 := by
  have same : darkRuns "int f(void)".toList = darkRuns "\tint\r\n\n f(void) ".toList := by decide
  exact ⟨same, compile_layout_independent same _ _ _⟩

end MicroC
