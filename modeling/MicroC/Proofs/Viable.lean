import MicroC.Proofs.Phrase
import MicroC.Proofs.Writing

/-! # Viable beginnings

A beginning of the tokens is viable if a program can begin with it. Reading stops right behind the
longest viable beginning, and says so exactly: which token stands there and the one kind that was
expected instead, or that the tokens end there, or that they go on behind a whole program. What comes
later has no influence. All of this is said only if the place can be written that it is said of.

Main statements: `refuses_of_derive` and `derive_of_refuses`, what there is to say about tokens that are
no program, and `parse_stops_behind_longestViable`, what is said.
-/

namespace MicroC.Source

/-! ## The longest viable beginning -/

/-- A program can begin with tokens of these kinds. -/
def Viable (tokens : List Token) : Prop :=
  tokens.map Token.kind <+: programKinds

/-- So many tokens make up the longest viable beginning. -/
structure LongestViable (tokens : List Token) (count : Nat) : Prop where
  inside : count ≤ tokens.length
  viable : Viable (tokens.take count)
  longest : ∀ more ≤ tokens.length, Viable (tokens.take more) → more ≤ count

theorem fit_le_length (kinds : List Token.Kind) (tokens : List Token) :
    fit kinds tokens ≤ tokens.length := by
  induction kinds generalizing tokens with
  | nil => simp [fit]
  | cons kind kinds ih =>
      cases tokens with
      | nil => simp [fit]
      | cons token tokens =>
          have := ih tokens
          simp only [fit, List.length_cons]
          split <;> omega

theorem take_fit_prefix (kinds : List Token.Kind) (tokens : List Token) :
    (tokens.take (fit kinds tokens)).map Token.kind <+: kinds := by
  induction kinds generalizing tokens with
  | nil => simp [fit]
  | cons kind kinds ih =>
      cases tokens with
      | nil => simp [fit]
      | cons token tokens =>
          by_cases same : token.kind = kind
          · simp only [fit, same, if_true, List.take_succ_cons, List.map_cons,
              List.cons_prefix_cons, true_and]
            exact ih tokens
          · simp [fit, same]

theorem le_fit_of_prefix {kinds : List Token.Kind} {tokens : List Token} {count : Nat}
    (inside : count ≤ tokens.length) (begins : (tokens.take count).map Token.kind <+: kinds) :
    count ≤ fit kinds tokens := by
  induction kinds generalizing tokens count with
  | nil =>
      have empty : (tokens.take count).length = 0 := by
        simpa using begins.length_le
      rw [List.length_take] at empty
      omega
  | cons kind kinds ih =>
      cases count with
      | zero => exact Nat.zero_le _
      | succ count =>
          cases tokens with
          | nil => simp at inside
          | cons token tokens =>
              simp only [List.take_succ_cons, List.map_cons, List.cons_prefix_cons] at begins
              simp only [List.length_cons, Nat.add_le_add_iff_right] at inside
              simp only [fit, begins.1, if_true, Nat.add_le_add_iff_right]
              exact ih inside begins.2

theorem longestViable_fit (tokens : List Token) :
    LongestViable tokens (fit programKinds tokens) where
  inside := fit_le_length _ _
  viable := take_fit_prefix _ _
  longest _ inside viable := le_fit_of_prefix inside viable

theorem LongestViable.unique {tokens : List Token} {count other : Nat}
    (one : LongestViable tokens count) (two : LongestViable tokens other) : count = other :=
  Nat.le_antisymm (two.longest count one.inside one.viable) (one.longest other two.inside two.viable)

/-- How far tokens fit is settled by the first token that does not. -/
theorem fit_take_append {kinds : List Token.Kind} {tokens : List Token}
    (inside : fit kinds tokens < tokens.length) (later : List Token) :
    fit kinds (tokens.take (fit kinds tokens + 1) ++ later) = fit kinds tokens := by
  induction kinds generalizing tokens with
  | nil => simp [fit]
  | cons kind kinds ih =>
      cases tokens with
      | nil => simp at inside
      | cons token tokens =>
          by_cases same : token.kind = kind
          · simp only [fit, same, if_true, List.length_cons, Nat.add_lt_add_iff_right] at inside
            simp only [fit, same, if_true, List.take_succ_cons, List.cons_append, ih inside]
          · simp [fit, same]

theorem getElem?_take_append {tokens : List Token} {index : Nat} (inside : index < tokens.length)
    (later : List Token) : (tokens.take (index + 1) ++ later)[index]? = tokens[index]? := by
  rw [List.getElem?_append_left (by rw [List.length_take]; omega),
    List.getElem?_take_of_lt (Nat.lt_succ_self _)]

/-! ## What a failure says -/

theorem recordAll_single (position : Nat) (expected : String) :
    Furthest.recordAll {} [⟨position, expected⟩] = { position, expected := [expected] } := by
  have first : (-1 : Int) < position := by omega
  simp [Furthest.recordAll, Furthest.record, first]

theorem wording_single (position : Int) (kind : Token.Kind) :
    Furthest.wording { position, expected := [kind.describe] } = some kind.describe := by
  cases kind <;> rfl

/-- The place just past the last token, if there is one and its place is known. -/
def placePast (tokens : List Token) : Option Location := do
  let last ← tokens.getLast?
  let place ← last.location
  let text ← last.lexeme?
  return { place with column := place.column + text.length }

theorem exists_of_placePast {tokens : List Token} {place : Location}
    (past : placePast tokens = some place) :
    ∃ last start text, tokens.getLast? = some last ∧ last.location = some start ∧
      last.lexeme? = some text ∧ place = { start with column := start.column + text.length } := by
  obtain ⟨last, final, past⟩ := Option.bind_eq_some_iff.1 past
  obtain ⟨start, located, past⟩ := Option.bind_eq_some_iff.1 past
  obtain ⟨text, lexeme, past⟩ := Option.bind_eq_some_iff.1 past
  exact ⟨last, start, text, final, located, lexeme, (Option.some.inj past).symm⟩

theorem exists_lexeme {token : Token}
    (text : token.kind = .identifier ∨ token.kind = .constant → token.text ≠ none) :
    ∃ found, token.lexeme? = some found := by
  rw [← Option.isSome_iff_exists]
  cases own : token.text with
  | some text => simp [Token.lexeme?, own]
  | none =>
      cases kind : token.kind
      case identifier => exact absurd own (text (.inl kind))
      case constant => exact absurd own (text (.inr kind))
      all_goals simp [Token.lexeme?, own, kind, Token.Kind.spelling?]

theorem lexeme_of_lexeme? {token : Token} {found : String} (spelled : token.lexeme? = some found) :
    token.lexeme = .ok found := by
  rw [Token.lexeme, spelled]

/-- How tokens fail to be a program: one does not fit, they end too early, or they go on behind a whole
    program. -/
inductive Refuses (tokens : List Token) (lines : List String) : Diagnostic → Prop where
  | unexpected {token : Token} {kind : Token.Kind} {found : String} :
      programKinds[fit programKinds tokens]? = some kind →
      tokens[fit programKinds tokens]? = some token → token.lexeme? = some found →
      Refuses tokens lines (diagnosticAt (.unexpectedToken found (some kind.describe)) lines token)
  | ended {kind : Token.Kind} :
      programKinds[fit programKinds tokens]? = some kind →
      fit programKinds tokens = tokens.length →
      Refuses tokens lines
        { problem := .unexpectedEnd (some kind.describe)
          location := placePast tokens
          sourceLine := tokens.getLast?.bind (lineOf? lines) }
  | trailing {token : Token} {found : String} :
      fit programKinds tokens = programKinds.length →
      tokens[programKinds.length]? = some token → token.lexeme? = some found →
      Refuses tokens lines (diagnosticAt (.trailingTokens found) lines token)

section Outcomes

variable {tokens : List Token} (lines : List String)

theorem derive_of_unexpected {token : Token} {kind : Token.Kind} {found : String}
    (missed : programKinds[fit programKinds tokens]? = some kind)
    (ahead : tokens[fit programKinds tokens]? = some token)
    (spelled : token.lexeme? = some found) :
    derive tokens lines =
      .error (.diagnosed (diagnosticAt (.unexpectedToken found (some kind.describe)) lines token)) := by
  have inside : ¬ ((tokens.length : Int) ≤ (fit programKinds tokens : Nat)) := by
    have := (List.getElem?_eq_some_iff.1 ahead).1
    omega
  rw [derive_eq, missed]
  dsimp only
  rw [recordAll_single, Furthest.failure, Furthest.diagnose, if_neg inside, tokenAt?_natCast, ahead]
  dsimp only
  rw [lexeme_of_lexeme? spelled, wording_single]
  rfl

theorem derive_of_ended {kind : Token.Kind}
    (missed : programKinds[fit programKinds tokens]? = some kind)
    (ended : fit programKinds tokens = tokens.length)
    (spelled : ∀ last ∈ tokens.getLast?, ∃ found, last.lexeme? = some found) :
    derive tokens lines = .error (.diagnosed
      { problem := .unexpectedEnd (some kind.describe)
        location := placePast tokens
        sourceLine := tokens.getLast?.bind (lineOf? lines) }) := by
  have past : (tokens.length : Int) ≤ (fit programKinds tokens : Nat) := by omega
  rw [derive_eq, missed]
  dsimp only
  rw [recordAll_single, Furthest.failure, Furthest.diagnose, if_pos past, wording_single,
    diagnoseEnd, placePast]
  cases final : tokens.getLast? with
  | none => rfl
  | some last =>
      obtain ⟨found, text⟩ := spelled last final
      rw [Option.bind_some]
      dsimp only [bind, Option.bind]
      cases place : last.location with
      | none =>
          have line : lineOf? lines last = none := by simp [lineOf?, place]
          rw [line]
          rfl
      | some place =>
          rw [lexeme_of_lexeme? text, text]
          rfl

theorem derive_of_trailing {token : Token} {found : String}
    (full : fit programKinds tokens = programKinds.length)
    (ahead : tokens[programKinds.length]? = some token) (spelled : token.lexeme? = some found) :
    derive tokens lines =
      .error (.diagnosed (diagnosticAt (.trailingTokens found) lines token)) := by
  rw [derive_eq, full, List.getElem?_eq_none (Nat.le_refl _), ahead]
  dsimp only
  rw [trailingFailure, lexeme_of_lexeme? spelled]

theorem derive_of_whole (full : fit programKinds tokens = programKinds.length)
    (ended : tokens.length = programKinds.length) :
    derive tokens lines = .ok (.ofPhrase tokens) := by
  rw [derive_eq, full, List.getElem?_eq_none (Nat.le_refl _),
    List.getElem?_eq_none (Nat.le_of_eq ended)]

theorem exists_parse_ok_iff :
    (∃ program, parse tokens lines = .ok program) ↔
      fit programKinds tokens = programKinds.length ∧ tokens.length = programKinds.length := by
  constructor
  · rintro ⟨program, accepted⟩
    obtain ⟨kinds, -⟩ := parse_eq_ok_iff.1 accepted
    have ended : tokens.length = programKinds.length := by
      rw [← kinds, List.length_map]
    refine ⟨fit_eq_length_iff.2 ?_, ended⟩
    rw [← ended, List.take_length, kinds]
  · rintro ⟨full, ended⟩
    exact ⟨_, by rw [parse, derive_of_whole lines full ended]; rfl⟩

variable (spelled : ∀ token ∈ tokens, ∃ found, token.lexeme? = some found)
include spelled

theorem derive_of_refuses {diagnostic : Diagnostic} (refuses : Refuses tokens lines diagnostic) :
    derive tokens lines = .error (.diagnosed diagnostic) := by
  cases refuses with
  | unexpected missed ahead text => exact derive_of_unexpected lines missed ahead text
  | ended missed ended =>
      apply derive_of_ended lines missed ended
      intro last final
      exact spelled last (List.mem_of_getLast? final)
  | trailing full ahead text => exact derive_of_trailing lines full ahead text

/-- Tokens that all have a text can fail to be a program only in these ways. -/
theorem refuses_of_derive {failure : Failure} (failed : derive tokens lines = .error failure) :
    ∃ diagnostic, failure = .diagnosed diagnostic ∧ Refuses tokens lines diagnostic := by
  have within := fit_le_length programKinds tokens
  rcases fit_or_miss programKinds tokens with full | ⟨kind, missed⟩
  · cases ahead : tokens[programKinds.length]? with
    | none =>
        have ended : tokens.length = programKinds.length := by
          have := List.getElem?_eq_none_iff.1 ahead
          omega
        rw [derive_of_whole lines full ended] at failed
        cases failed
    | some token =>
        obtain ⟨found, text⟩ := spelled token (List.mem_of_getElem? ahead)
        rw [derive_of_trailing lines full ahead text] at failed
        cases failed
        exact ⟨_, rfl, .trailing full ahead text⟩
  · cases ahead : tokens[fit programKinds tokens]? with
    | none =>
        have ended : fit programKinds tokens = tokens.length :=
          Nat.le_antisymm within (List.getElem?_eq_none_iff.1 ahead)
        rw [derive_of_ended lines missed ended fun last final =>
          spelled last (List.mem_of_getLast? final)] at failed
        cases failed
        exact ⟨_, rfl, .ended missed ended⟩
    | some token =>
        obtain ⟨found, text⟩ := spelled token (List.mem_of_getElem? ahead)
        rw [derive_of_unexpected lines missed ahead text] at failed
        cases failed
        exact ⟨_, rfl, .unexpected missed ahead text⟩

/-- What comes after the token at which reading stops does not matter. -/
theorem derive_take_append (inside : fit programKinds tokens < tokens.length) (later : List Token) :
    derive (tokens.take (fit programKinds tokens + 1) ++ later) lines = derive tokens lines := by
  have same := fit_take_append inside later
  obtain ⟨token, ahead⟩ : ∃ token, tokens[fit programKinds tokens]? = some token :=
    ⟨_, List.getElem?_eq_getElem inside⟩
  have kept := (getElem?_take_append inside later).trans ahead
  obtain ⟨found, text⟩ := spelled token (List.mem_of_getElem? ahead)
  rcases fit_or_miss programKinds tokens with full | ⟨kind, missed⟩
  · rw [full] at ahead kept same
    rw [full, derive_of_trailing lines full ahead text, derive_of_trailing lines same kept text]
  · rw [derive_of_unexpected lines missed ahead text,
      derive_of_unexpected lines (same.symm ▸ missed) (same.symm ▸ kept) text]

end Outcomes

theorem Refuses.phase {tokens : List Token} {lines : List String} {diagnostic : Diagnostic}
    (refuses : Refuses tokens lines diagnostic) : diagnostic.problem.phase = .parse := by
  cases refuses <;> rfl

/-! ## What is said -/

/-- The outcome reports a diagnostic, unless the place of the diagnostic is too long to be written:
    then it says no more than that. -/
structure Reports (outcome : Except Failure Program) (diagnostic : Diagnostic) : Prop where
  told : diagnostic.Writable → outcome = .error (.diagnosed diagnostic)
  untold : ¬ diagnostic.Writable → outcome = .error (.numeral .tooLarge)

/-- All places that can be named when tokens are no program can be written. -/
structure Nameable (tokens : List Token) : Prop where
  places : ∀ token ∈ tokens, ∀ place, token.location = some place → place.Writable
  past : ∀ place, placePast tokens = some place → place.Writable

theorem Refuses.writable {tokens : List Token} {lines : List String} {diagnostic : Diagnostic}
    (refuses : Refuses tokens lines diagnostic) (nameable : Nameable tokens) :
    diagnostic.Writable := by
  intro place located
  cases refuses with
  | unexpected _ ahead _ => exact nameable.places _ (List.mem_of_getElem? ahead) place located
  | ended => exact nameable.past place located
  | trailing _ ahead _ => exact nameable.places _ (List.mem_of_getElem? ahead) place located

section Parsing

variable {tokens : List Token} {lines : List String}

theorem reports_parse {diagnostic : Diagnostic}
    (derived : derive tokens lines = .error (.diagnosed diagnostic)) :
    Reports (parse tokens lines) diagnostic := by
  rw [parse, derived]
  constructor
  · intro writable
    exact congrArg Except.error (Failure.raised_of_writable writable)
  · intro long
    exact congrArg Except.error (Failure.raised_of_not_writable long)

theorem parse_eq_diagnosed_iff {diagnostic : Diagnostic} :
    parse tokens lines = .error (.diagnosed diagnostic) ↔
      derive tokens lines = .error (.diagnosed diagnostic) ∧ diagnostic.Writable := by
  rw [parse]
  cases derive tokens lines with
  | ok program =>
      constructor
      · intro same
        cases same
      · rintro ⟨same, -⟩
        cases same
  | error failure =>
      change Except.error failure.raised = Except.error _ ↔ _
      rw [Except.error.injEq, Failure.raised_eq_diagnosed_iff, Except.error.injEq]

theorem parse_eq_derive (spelled : ∀ token ∈ tokens, ∃ found, token.lexeme? = some found)
    (nameable : Nameable tokens) : parse tokens lines = derive tokens lines := by
  cases outcome : derive tokens lines with
  | ok program => rw [parse, outcome]; rfl
  | error failure =>
      obtain ⟨diagnostic, rfl, refuses⟩ := refuses_of_derive lines spelled outcome
      exact (reports_parse outcome).told (refuses.writable nameable)

end Parsing

/-- Reading tokens fails exactly behind their longest viable beginning. If a token stands there, it is
    reported together with the only kind that fits there; if the tokens end there, the place just past
    the last one is. A token behind a whole program is reported as such. Nothing else can go wrong,
    except that the place to report is too long to be written, and what comes after the reported token
    does not matter. -/
theorem parse_stops_behind_longestViable (lines : List String) {tokens : List Token}
    (texts : ∀ token ∈ tokens,
      token.kind = .identifier ∨ token.kind = .constant → token.text ≠ none) :
    ∃ count, LongestViable tokens count ∧
      ((∃ program, parse tokens lines = .ok program) ↔ count = 10 ∧ tokens.length = 10) ∧
      (∀ kind token, programKinds[count]? = some kind → tokens[count]? = some token →
        ∃ found, token.lexeme? = some found ∧
          Reports (parse tokens lines)
            { problem := .unexpectedToken found (some kind.describe)
              location := token.location
              sourceLine := lineOf? lines token }) ∧
      (∀ kind, programKinds[count]? = some kind → count = tokens.length →
        Reports (parse tokens lines)
          { problem := .unexpectedEnd (some kind.describe)
            location := placePast tokens
            sourceLine := tokens.getLast?.bind (lineOf? lines) }) ∧
      (∀ token, count = 10 → tokens[10]? = some token →
        ∃ found, token.lexeme? = some found ∧
          Reports (parse tokens lines)
            { problem := .trailingTokens found
              location := token.location
              sourceLine := lineOf? lines token }) ∧
      (∀ failure, parse tokens lines = .error failure →
        (∃ diagnostic, failure = .diagnosed diagnostic ∧ diagnostic.problem.phase = .parse) ∨
          failure = .numeral .tooLarge) ∧
      (count < tokens.length →
        ∀ later, parse (tokens.take (count + 1) ++ later) lines = parse tokens lines) := by
  have spelled : ∀ token ∈ tokens, ∃ found, token.lexeme? = some found := by
    intro token member
    exact exists_lexeme (texts token member)
  refine ⟨fit programKinds tokens, longestViable_fit tokens, exists_parse_ok_iff lines,
    ?_, ?_, ?_, ?_, ?_⟩
  · intro kind token missed ahead
    obtain ⟨found, text⟩ := spelled token (List.mem_of_getElem? ahead)
    exact ⟨found, text, reports_parse (derive_of_unexpected lines missed ahead text)⟩
  · intro kind missed ended
    apply reports_parse
    apply derive_of_ended lines missed ended
    intro last final
    exact spelled last (List.mem_of_getLast? final)
  · intro token full ahead
    obtain ⟨found, text⟩ := spelled token (List.mem_of_getElem? ahead)
    exact ⟨found, text, reports_parse (derive_of_trailing lines full ahead text)⟩
  · intro failure failed
    cases outcome : derive tokens lines with
    | ok program =>
        rw [parse, outcome] at failed
        cases failed
    | error cause =>
        obtain ⟨diagnostic, rfl, refuses⟩ := refuses_of_derive lines spelled outcome
        have reports := reports_parse outcome
        rw [failed] at reports
        by_cases writable : diagnostic.Writable
        · exact .inl ⟨diagnostic, Except.error.inj (reports.told writable), refuses.phase⟩
        · exact .inr (Except.error.inj (reports.untold writable))
  · intro inside later
    rw [parse, derive_take_append lines spelled inside later]
    rfl

/-- Tokens that end after the name of a function are reported just past that name. -/
theorem parse_stops_behind_longestViable_cut :
    let tokens : List Token :=
      [{ kind := .intKeyword, location := some ⟨"cut.c", 1, 1⟩ },
        { kind := .identifier, text := some "main", location := some ⟨"cut.c", 1, 5⟩ }]
    LongestViable tokens 2 ∧
    parse tokens ["int main"] = .error (.diagnosed
      { problem := .unexpectedEnd (some "'('")
        location := some ⟨"cut.c", 1, 9⟩
        sourceLine := some "int main" }) := by
  intro tokens
  have texts : ∀ token ∈ tokens,
      token.kind = .identifier ∨ token.kind = .constant → token.text ≠ none := by
    simp [tokens]
  obtain ⟨count, longest, -, -, ends, -⟩ := parse_stops_behind_longestViable ["int main"] texts
  obtain rfl : count = 2 := longest.unique (longestViable_fit tokens)
  refine ⟨longest, (ends .leftParen rfl rfl).told ?_⟩
  rintro _ ⟨⟩
  exact ⟨Numeral.small_of_lt (by decide), Numeral.small_of_lt (by decide)⟩

/-- Tokens that end too early are not reported if the column past them is too long to be written. -/
theorem parse_unreported_past_long_column :
    let tokens : List Token :=
      [{ kind := .intKeyword, location := some ⟨"f.c", 1, 10 ^ 4300 - 1⟩ }]
    LongestViable tokens 1 ∧ parse tokens [] = .error (.numeral .tooLarge) := by
  have large (limit : Nat) : 10 ^ limit ≤ ((10 : Int) ^ limit - 1 + 3).natAbs := by
    have := Numeral.le_natAbs_ten_pow limit
    have : 0 ≤ (10 : Int) ^ limit := Int.pow_nonneg (by decide)
    omega
  have past := large 4300
  generalize (10 ^ 4300 : Int) - 1 = column at past ⊢
  intro tokens
  have viable : LongestViable tokens 1 := longestViable_fit tokens
  have reports : Reports (parse tokens [])
      { problem := .unexpectedEnd (some Token.Kind.identifier.describe)
        location := some ⟨"f.c", 1, column + 3⟩ } :=
    reports_parse rfl
  exact ⟨viable, reports.untold fun writable => Nat.not_lt.2 past (writable _ rfl).column⟩

end MicroC.Source
