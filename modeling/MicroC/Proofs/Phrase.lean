import MicroC.Source.Parse

/-! # Phrases

Every rule of the grammar reads one phrase: a fixed sequence of kinds of tokens. `Rule.Reads` says all
that such a rule does, the value it finds as well as its one miss, and is built up like the rules
are. So the tokens of a program are exactly the tokens of one phrase.
-/

namespace MicroC.Source

/-- How many tokens are of the given kinds, one after the other from the first on. -/
def fit : List Token.Kind → List Token → Nat
  | kind :: kinds, token :: tokens => if token.kind = kind then fit kinds tokens + 1 else 0
  | _, _ => 0

theorem fit_le (kinds : List Token.Kind) (tokens : List Token) :
    fit kinds tokens ≤ kinds.length := by
  induction kinds generalizing tokens with
  | nil => exact Nat.le_refl _
  | cons kind kinds ih =>
      cases tokens with
      | nil => exact Nat.zero_le _
      | cons token tokens =>
          have := ih tokens
          simp only [fit, List.length_cons]
          split <;> omega

theorem fit_eq_length_iff {kinds : List Token.Kind} {tokens : List Token} :
    fit kinds tokens = kinds.length ↔ (tokens.take kinds.length).map Token.kind = kinds := by
  induction kinds generalizing tokens with
  | nil => simp [fit]
  | cons kind kinds ih =>
      cases tokens with
      | nil => simp [fit]
      | cons token tokens =>
          by_cases same : token.kind = kind
          · simp [fit, same, ih]
          · simp [fit, same]

/-- Two phrases in a row fit as far as the first does, and then as far as the second does. -/
theorem fit_append (kinds more : List Token.Kind) (tokens : List Token) :
    fit (kinds ++ more) tokens =
      if fit kinds tokens = kinds.length then
        kinds.length + fit more (tokens.drop kinds.length)
      else fit kinds tokens := by
  induction kinds generalizing tokens with
  | nil => simp [fit]
  | cons kind kinds ih =>
      cases tokens with
      | nil => simp [fit]
      | cons token tokens =>
          by_cases same : token.kind = kind
          · simp only [List.cons_append, fit, same, if_true, ih, List.length_cons,
              Nat.add_right_cancel_iff, List.drop_succ_cons]
            split <;> omega
          · simp [fit, same]

/-- The attempt of a rule that reads tokens of the given kinds: the value of what it has read, or the
    first kind that is missed. -/
def Attempt.phrase (kinds : List Token.Kind) (value : List Token → α) (tokens : List Token)
    (position : Nat) : Attempt α :=
  let read := tokens.drop position
  match kinds[fit kinds read]? with
  | none =>
      { found := some (value (read.take kinds.length), (position + kinds.length : Nat))
        misses := [] }
  | some kind =>
      { found := none, misses := [⟨(position + fit kinds read : Nat), kind.describe⟩] }

/-- A rule reads a phrase. -/
def Rule.Reads (rule : Rule α) (kinds : List Token.Kind) (value : List Token → α) : Prop :=
  ∀ (tokens : List Token) (position : Nat),
    rule tokens position = Attempt.phrase kinds value tokens position

namespace Attempt

theorem phrase_of_fit {kinds : List Token.Kind} (value : List Token → α) {tokens : List Token}
    {position : Nat} (fits : fit kinds (tokens.drop position) = kinds.length) :
    phrase kinds value tokens position =
      { found := some (value ((tokens.drop position).take kinds.length),
                       (position + kinds.length : Nat)), misses := [] } := by
  rw [phrase, fits, List.getElem?_eq_none (Nat.le_refl _)]

theorem phrase_of_miss {kinds : List Token.Kind} (value : List Token → α) {tokens : List Token}
    {position : Nat} {kind : Token.Kind}
    (missed : kinds[fit kinds (tokens.drop position)]? = some kind) :
    phrase kinds value tokens position =
      { found := none,
        misses := [⟨(position + fit kinds (tokens.drop position) : Nat), kind.describe⟩] } := by
  rw [phrase, missed]

end Attempt

theorem fit_or_miss (kinds : List Token.Kind) (tokens : List Token) :
    fit kinds tokens = kinds.length ∨ ∃ kind, kinds[fit kinds tokens]? = some kind := by
  rcases Nat.lt_or_eq_of_le (fit_le kinds tokens) with short | full
  · exact .inr ⟨_, List.getElem?_eq_getElem short⟩
  · exact .inl full

theorem tokenAt?_natCast (tokens : List Token) (position : Nat) :
    tokenAt? tokens position = tokens[position]? := by
  simp [tokenAt?]

namespace Rule

theorem reads_expect (kind : Token.Kind) :
    (expect kind).Reads [kind] fun read => read.headD { kind } := by
  intro tokens position
  have head : tokenAt? tokens position = (tokens.drop position).head? := by
    rw [tokenAt?_natCast, List.head?_drop]
  rw [expect, head]
  cases ahead : tokens.drop position with
  | nil => simp [Attempt.phrase, ahead, fit]
  | cons token rest =>
      by_cases same : token.kind = kind
      · simp [Attempt.phrase, ahead, fit, same]
      · simp [Attempt.phrase, ahead, fit, same]

theorem reads_pure (value : α) : (pure value : Rule α).Reads [] fun _ => value := by
  intro tokens position
  rfl

theorem Reads.andThen {rule : Rule α} {next : α → Rule β} {kinds more : List Token.Kind}
    {value : List Token → α} {later : α → List Token → β} (first : rule.Reads kinds value)
    (second : ∀ a, (next a).Reads more (later a)) :
    (rule >>= next).Reads (kinds ++ more) fun read =>
      later (value (read.take kinds.length)) (read.drop kinds.length) := by
  intro tokens position
  change Rule.andThen rule next tokens position = _
  have fits := fit_append kinds more (tokens.drop position)
  rw [Rule.andThen, first]
  rcases fit_or_miss kinds (tokens.drop position) with full | ⟨kind, missed⟩
  · rw [if_pos full, List.drop_drop] at fits
    rw [Attempt.phrase_of_fit value full]
    dsimp only
    rw [second]
    rcases fit_or_miss more (tokens.drop (position + kinds.length)) with full' | ⟨kind, missed⟩
    · have both : fit (kinds ++ more) (tokens.drop position) = (kinds ++ more).length := by
        rw [fits, full', List.length_append]
      rw [Attempt.phrase_of_fit _ full', Attempt.phrase_of_fit _ both]
      simp [List.take_take, List.drop_take, Nat.add_assoc]
    · have later : (kinds ++ more)[fit (kinds ++ more) (tokens.drop position)]? = some kind := by
        rw [fits, List.getElem?_append_right (Nat.le_add_right _ _), Nat.add_sub_cancel_left,
          missed]
      rw [Attempt.phrase_of_miss _ missed, Attempt.phrase_of_miss _ later]
      simp [fits, Nat.add_assoc]
  · have short : fit kinds (tokens.drop position) < kinds.length :=
      (List.getElem?_eq_some_iff.1 missed).1
    rw [if_neg (Nat.ne_of_lt short)] at fits
    have first : (kinds ++ more)[fit (kinds ++ more) (tokens.drop position)]? = some kind := by
      rw [fits, List.getElem?_append_left short, missed]
    rw [Attempt.phrase_of_miss value missed, Attempt.phrase_of_miss _ first, fits]

theorem Reads.congr {rule : Rule α} {kinds : List Token.Kind} {value value' : List Token → α}
    (reads : rule.Reads kinds value) (same : ∀ read, value read = value' read) :
    rule.Reads kinds value' := by
  rwa [← funext same]

theorem reads_expectAll (kinds : List Token.Kind) : (expectAll kinds).Reads kinds fun _ => () := by
  induction kinds with
  | nil => exact reads_pure ()
  | cons kind kinds ih => exact (reads_expect kind).andThen fun _ => ih

theorem firstOf_singleton (rule : Rule α) : firstOf [rule] = rule := by
  funext tokens position
  simp only [firstOf]
  cases attempt : rule tokens position with
  | mk found misses => cases found <;> simp

end Rule

/-! ## The phrases of the grammar -/

/-- The text of a token in a phrase. -/
def textAt (read : List Token) (index : Nat) : Option String :=
  read[index]?.bind Token.text

/-- The place of a token in a phrase. -/
def placeAt (read : List Token) (index : Nat) : Option Location :=
  read[index]?.bind Token.location

@[simp] theorem textAt_take {read : List Token} {count index : Nat} (inside : index < count) :
    textAt (read.take count) index = textAt read index := by
  rw [textAt, textAt, List.getElem?_take_of_lt inside]

@[simp] theorem placeAt_take {read : List Token} {count index : Nat} (inside : index < count) :
    placeAt (read.take count) index = placeAt read index := by
  rw [placeAt, placeAt, List.getElem?_take_of_lt inside]

@[simp] theorem textAt_drop (read : List Token) (count index : Nat) :
    textAt (read.drop count) index = textAt read (count + index) := by
  rw [textAt, textAt, List.getElem?_drop]

@[simp] theorem placeAt_drop (read : List Token) (count index : Nat) :
    placeAt (read.drop count) index = placeAt read (count + index) := by
  rw [placeAt, placeAt, List.getElem?_drop]

@[simp] theorem text_head (read : List Token) (kind : Token.Kind) :
    (read.head?.getD { kind }).text = textAt read 0 := by
  cases read <;> rfl

@[simp] theorem location_head (read : List Token) (kind : Token.Kind) :
    (read.head?.getD { kind }).location = placeAt read 0 := by
  cases read <;> rfl

theorem reads_identifier : identifier.Reads [.identifier] fun read =>
    { name := textAt read 0, location := placeAt read 0 } := by
  refine ((Rule.reads_expect _).andThen fun _ => Rule.reads_pure _).congr fun read => ?_
  simp

theorem reads_integerConstant : integerConstant.Reads [.constant] fun read =>
    { text := textAt read 0, location := placeAt read 0 } := by
  refine ((Rule.reads_expect _).andThen fun _ => Rule.reads_pure _).congr fun read => ?_
  simp

theorem reads_expression : expression.Reads [.constant] fun read =>
    .constant { text := textAt read 0, location := placeAt read 0 } (placeAt read 0) := by
  rw [expression, Rule.firstOf_singleton]
  refine (reads_integerConstant.andThen fun _ => Rule.reads_pure _).congr fun read => ?_
  simp

theorem reads_statement : statement.Reads [.returnKeyword, .constant, .semicolon] fun read =>
    .ret (.constant { text := textAt read 1, location := placeAt read 1 } (placeAt read 1))
      (placeAt read 0) := by
  rw [statement, Rule.firstOf_singleton]
  refine ((Rule.reads_expect _).andThen fun _ => reads_expression.andThen fun _ =>
    (Rule.reads_expectAll _).andThen fun _ => Rule.reads_pure _).congr fun read => ?_
  simp [-List.drop_one]

/-- The kinds of the tokens of a program. -/
def programKinds : List Token.Kind :=
  [.intKeyword, .identifier, .leftParen, .voidKeyword, .rightParen, .leftBrace, .returnKeyword,
    .constant, .semicolon, .rightBrace]

/-- The function that the tokens of its phrase make up. -/
def Function.ofPhrase (read : List Token) : Function where
  name := { name := textAt read 1, location := placeAt read 1 }
  body := .ret (.constant { text := textAt read 7, location := placeAt read 7 } (placeAt read 7))
    (placeAt read 6)
  location := placeAt read 0

/-- The program that the tokens of its phrase make up. -/
def Program.ofPhrase (read : List Token) : Program where
  function := .ofPhrase read
  location := placeAt read 0

theorem reads_function : function.Reads programKinds Function.ofPhrase := by
  refine ((Rule.reads_expect _).andThen fun _ => reads_identifier.andThen fun _ =>
    (Rule.reads_expectAll _).andThen fun _ => reads_statement.andThen fun _ =>
    (Rule.reads_expectAll _).andThen fun _ => Rule.reads_pure _).congr fun read => ?_
  simp [Function.ofPhrase, -List.drop_one]

theorem reads_program : program.Reads programKinds Program.ofPhrase := by
  refine (reads_function.andThen fun _ => Rule.reads_pure _).congr fun read => ?_
  simp [Program.ofPhrase, Function.ofPhrase, programKinds]

/-- Tokens that are not all of the phrase of a program fail where the phrase ends to fit; tokens that
    are make up their program. -/
theorem derive_eq (tokens : List Token) (lines : List String) :
    derive tokens lines =
      match programKinds[fit programKinds tokens]?, tokens[programKinds.length]? with
      | some kind, _ =>
          .error ((Furthest.recordAll {} [⟨fit programKinds tokens, kind.describe⟩]).failure
            tokens lines)
      | none, some token => .error (trailingFailure lines token)
      | none, none => .ok (Program.ofPhrase tokens) := by
  have read := reads_program tokens 0
  rw [Int.natCast_zero] at read
  rw [derive, read]
  rcases fit_or_miss programKinds tokens with full | ⟨kind, missed⟩
  · rw [Attempt.phrase_of_fit _ full, full, List.getElem?_eq_none (Nat.le_refl _)]
    dsimp only
    rw [tokenAt?_natCast, Nat.zero_add]
    cases last : tokens[programKinds.length]? with
    | some token => rfl
    | none =>
        rw [List.drop_zero, List.take_of_length_le (List.getElem?_eq_none_iff.1 last)]
  · rw [Attempt.phrase_of_miss _ missed, missed]
    simp

theorem derive_eq_ok_iff {tokens : List Token} {lines : List String} {result : Program} :
    derive tokens lines = .ok result ↔
      tokens.map Token.kind = programKinds ∧ result = .ofPhrase tokens := by
  rw [derive_eq]
  constructor
  · intro accepted
    split at accepted
    next => cases accepted
    next => cases accepted
    next full last =>
      cases accepted
      have fits : fit programKinds tokens = programKinds.length :=
        Nat.le_antisymm (fit_le _ _) (List.getElem?_eq_none_iff.1 full)
      have kinds := fit_eq_length_iff.1 fits
      rw [List.take_of_length_le (List.getElem?_eq_none_iff.1 last)] at kinds
      exact ⟨kinds, rfl⟩
  · rintro ⟨kinds, rfl⟩
    have length : tokens.length = programKinds.length := by
      rw [← kinds, List.length_map]
    have fits : fit programKinds tokens = programKinds.length := by
      rw [fit_eq_length_iff, ← length, List.take_length, kinds]
    rw [fits, List.getElem?_eq_none (Nat.le_refl _), List.getElem?_eq_none (Nat.le_of_eq length)]

theorem parse_eq_ok_iff {tokens : List Token} {lines : List String} {result : Program} :
    parse tokens lines = .ok result ↔
      tokens.map Token.kind = programKinds ∧ result = .ofPhrase tokens := by
  rw [← @derive_eq_ok_iff tokens lines, parse]
  cases derive tokens lines with
  | ok program => exact Iff.rfl
  | error failure => exact iff_of_false nofun nofun

end MicroC.Source
