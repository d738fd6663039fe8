import MicroC.Token.Scan

/-! # The shapes of lexemes

Character classes by their ranges, and from them the words, names and constants of the language. A
well-formed token is one whose lexeme has the shape of its kind. None of this mentions a scanner; the
classes that scanning goes by are shown to be these.
-/

namespace MicroC

/-- The letters of ASCII. -/
def IsLetter (c : Char) : Prop :=
  ('A' ≤ c ∧ c ≤ 'Z') ∨ ('a' ≤ c ∧ c ≤ 'z')

/-- The digits of ASCII. -/
def IsDecimal (c : Char) : Prop :=
  '0' ≤ c ∧ c ≤ '9'

/-- The first characters of words. -/
def StartsWord (c : Char) : Prop :=
  IsLetter c ∨ c = '_'

/-- The characters of words and constants. -/
def InWord (c : Char) : Prop :=
  StartsWord c ∨ IsDecimal c

/-- Space, tab, line feed and carriage return. -/
def IsBlank (c : Char) : Prop :=
  c = ' ' ∨ c = '\t' ∨ c = '\n' ∨ c = '\r'

/-- Parentheses, braces and the semicolon. -/
def IsDelimiter (c : Char) : Prop :=
  c ∈ ['(', ')', '{', '}', ';']

instance : DecidablePred IsLetter := fun _ => inferInstanceAs (Decidable (_ ∨ _))
instance : DecidablePred IsDecimal := fun _ => inferInstanceAs (Decidable (_ ∧ _))
instance : DecidablePred StartsWord := fun _ => inferInstanceAs (Decidable (_ ∨ _))
instance : DecidablePred InWord := fun _ => inferInstanceAs (Decidable (_ ∨ _))
instance : DecidablePred IsBlank := fun _ => inferInstanceAs (Decidable (_ ∨ _))
instance : DecidablePred IsDelimiter := fun _ => inferInstanceAs (Decidable (_ ∈ _))

@[simp] theorem isSpace_iff {c : Char} : isSpace c = true ↔ IsBlank c := by
  simp [isSpace, IsBlank, or_assoc]

@[simp] theorem isDigit_iff {c : Char} : c.isDigit = true ↔ IsDecimal c := by
  simp [Char.isDigit, IsDecimal, Char.le_def]

@[simp] theorem isWordStart_iff {c : Char} : isWordStart c = true ↔ StartsWord c := by
  have upper : c.isUpper = decide (c.val ≥ 'A'.val ∧ c.val ≤ 'Z'.val) := rfl
  have lower : c.isLower = (decide (c.val ≥ 'a'.val) && decide (c.val ≤ 'z'.val)) := rfl
  have alpha : c.isAlpha = (c.isUpper || c.isLower) := rfl
  simp [isWordStart, StartsWord, IsLetter, alpha, upper, lower, Char.le_def]

@[simp] theorem isWordChar_iff {c : Char} : isWordChar c = true ↔ InWord c := by
  rw [InWord, ← isWordStart_iff, ← isDigit_iff]
  simp only [isWordChar, isWordStart, Char.isAlphanum, Bool.or_eq_true]
  exact or_right_comm

theorem isSpace_eq_false_iff {c : Char} : isSpace c = false ↔ ¬ IsBlank c := by
  rw [← isSpace_iff, Bool.not_eq_true]

theorem isDigit_eq_false_iff {c : Char} : c.isDigit = false ↔ ¬ IsDecimal c := by
  rw [← isDigit_iff, Bool.not_eq_true]

theorem isWordStart_eq_false_iff {c : Char} : isWordStart c = false ↔ ¬ StartsWord c := by
  rw [← isWordStart_iff, Bool.not_eq_true]

theorem isWordChar_eq_false_iff {c : Char} : isWordChar c = false ↔ ¬ InWord c := by
  rw [← isWordChar_iff, Bool.not_eq_true]

theorem delimiter?_eq_none_iff {c : Char} :
    Token.Kind.delimiter? c = none ↔ ¬ IsDelimiter c := by
  unfold Token.Kind.delimiter?
  split <;> simp_all [IsDelimiter]

theorem isDelimiter_of_delimiter? {c : Char} {kind : Token.Kind}
    (known : Token.Kind.delimiter? c = some kind) : IsDelimiter c := by
  apply Classical.byContradiction
  intro other
  rw [← delimiter?_eq_none_iff, known] at other
  cases other

/-! ## The classes do not overlap -/

theorem IsBlank.not_inWord {c : Char} (blank : IsBlank c) : ¬ InWord c := by
  rcases blank with rfl | rfl | rfl | rfl <;> decide

theorem IsBlank.not_delimiter {c : Char} (blank : IsBlank c) : ¬ IsDelimiter c := by
  rcases blank with rfl | rfl | rfl | rfl <;> decide

theorem IsDelimiter.not_inWord {c : Char} (delimiter : IsDelimiter c) : ¬ InWord c := by
  simp only [IsDelimiter, List.mem_cons, List.not_mem_nil, or_false] at delimiter
  rcases delimiter with rfl | rfl | rfl | rfl | rfl <;> decide

theorem IsDecimal.not_startsWord {c : Char} (digit : IsDecimal c) : ¬ StartsWord c := by
  have low : 48 ≤ c.val.toNat := digit.1
  have high : c.val.toNat ≤ 57 := digit.2
  rintro ((upper | lower) | rfl)
  · have : 65 ≤ c.val.toNat := upper.1
    omega
  · have : 97 ≤ c.val.toNat := lower.1
    omega
  · exact absurd high (by decide)

/-! ## Words, names and constants -/

/-- A letter or an underscore, then any letters, digits and underscores. -/
def IsWord : List Char → Prop
  | [] => False
  | first :: rest => StartsWord first ∧ ∀ c ∈ rest, InWord c

/-- The words that are keywords. -/
def reserved : List (List Char) :=
  ["int".toList, "void".toList, "return".toList]

/-- A word that is no keyword. -/
def IsName (chars : List Char) : Prop :=
  IsWord chars ∧ chars ∉ reserved

/-- A zero and octal digits, or any digits of which the first is not zero. -/
def IsConstant : List Char → Prop
  | [] => False
  | first :: rest =>
      (first = '0' ∧ ∀ c ∈ rest, '0' ≤ c ∧ c ≤ '7') ∨
        (('1' ≤ first ∧ first ≤ '9') ∧ ∀ c ∈ rest, IsDecimal c)

-- The characters of a text are gone through one by one, not all characters there are.
instance : DecidablePred IsWord
  | [] => inferInstanceAs (Decidable False)
  | _ :: rest => @instDecidableAnd _ _ _ (List.decidableBAll InWord rest)

instance : DecidablePred IsName := fun _ => inferInstanceAs (Decidable (_ ∧ _))

instance : DecidablePred IsConstant
  | [] => inferInstanceAs (Decidable False)
  | _ :: rest =>
      @instDecidableOr _ _
        (@instDecidableAnd _ _ _ (List.decidableBAll (fun c => '0' ≤ c ∧ c ≤ '7') rest))
        (@instDecidableAnd _ _ _ (List.decidableBAll IsDecimal rest))

theorem IsWord.inWord {chars : List Char} (word : IsWord chars) : ∀ c ∈ chars, InWord c := by
  cases chars with
  | nil => exact word.elim
  | cons first rest =>
      intro c member
      rcases List.mem_cons.1 member with rfl | member
      · exact .inl word.1
      · exact word.2 c member

theorem IsName.ne_empty {name : String} (named : IsName name.toList) : name ≠ "" := by
  rintro rfl
  exact named.1

theorem IsConstant.decimal {chars : List Char} (constant : IsConstant chars) :
    ∀ c ∈ chars, IsDecimal c := by
  cases chars with
  | nil => exact constant.elim
  | cons first rest =>
      intro c member
      rcases constant with ⟨rfl, octal⟩ | ⟨nonzero, decimal⟩
      · rcases List.mem_cons.1 member with rfl | member
        · decide
        · exact ⟨(octal c member).1, Char.le_trans (octal c member).2 (by decide)⟩
      · rcases List.mem_cons.1 member with rfl | member
        · exact ⟨Char.le_trans (by decide) nonzero.1, nonzero.2⟩
        · exact decimal c member

theorem IsConstant.ne_nil {chars : List Char} (constant : IsConstant chars) : chars ≠ [] := by
  rintro rfl
  exact constant

/-- Keywords are words, so they are told from names by their spelling alone. -/
theorem isWord_of_mem_reserved {chars : List Char} (member : chars ∈ reserved) : IsWord chars := by
  simp only [reserved, List.mem_cons, List.not_mem_nil, or_false] at member
  rcases member with rfl | rfl | rfl <;> decide

/-! ## Tokens -/

/-- The kinds whose lexemes run into each other if nothing stands between them. -/
def Token.Kind.isWord : Token.Kind → Bool
  | .identifier | .constant | .intKeyword | .voidKeyword | .returnKeyword => true
  | .leftParen | .rightParen | .leftBrace | .rightBrace | .semicolon => false

/-- The characters of the lexeme. -/
def Token.spelling (token : Token) : List Char :=
  (token.lexeme?.getD "").toList

/-- A token that a text can hold: its lexeme has the shape of its kind. -/
inductive Token.WellFormed : Token → Prop where
  /-- A keyword or delimiter; its kind says it all. -/
  | fixed {kind : Token.Kind} {location : Option Location} :
      kind.spelling?.isSome → WellFormed { kind, text := none, location }
  /-- A name. -/
  | identifier {text : String} {location : Option Location} :
      IsName text.toList → WellFormed { kind := .identifier, text := some text, location }
  /-- A constant. -/
  | constant {text : String} {location : Option Location} :
      IsConstant text.toList → WellFormed { kind := .constant, text := some text, location }

namespace Token

@[simp] theorem spelling_fixed {kind : Kind} {location : Option Location} :
    spelling { kind, text := none, location } = (kind.spelling?.getD "").toList := by
  simp [spelling, lexeme?]

@[simp] theorem spelling_text {kind : Kind} {text : String} {location : Option Location} :
    spelling { kind, text := some text, location } = text.toList := by
  simp [spelling, lexeme?]

theorem spelling_congr {token other : Token} (same : token.unlocated = other.unlocated) :
    token.spelling = other.spelling := by
  obtain ⟨kind, text, location⟩ := token
  obtain ⟨kind', text', location'⟩ := other
  simp only [unlocated, mk.injEq, and_true] at same
  obtain ⟨rfl, rfl⟩ := same
  rfl

/-- A fixed spelling is one delimiter or one of the keywords. -/
theorem Kind.spelling?_cases {kind : Kind} (fixed : kind.spelling?.isSome) :
    (∃ c, (kind.spelling?.getD "").toList = [c] ∧ Kind.delimiter? c = some kind ∧
        kind.isWord = false) ∨
      (kind, (kind.spelling?.getD "").toList) ∈ Kind.keywords ∧ kind.isWord = true := by
  cases kind with
  | identifier | constant => simp [Kind.spelling?] at fixed
  | intKeyword | voidKeyword | returnKeyword => exact .inr (by decide)
  | leftParen | rightParen | leftBrace | rightBrace | semicolon =>
      exact .inl ⟨_, rfl, rfl, rfl⟩

theorem Kind.reserved_of_keyword {kind : Kind} {chars : List Char}
    (member : (kind, chars) ∈ Kind.keywords) : chars ∈ reserved := by
  simp only [Kind.keywords, List.mem_cons, Prod.mk.injEq, List.not_mem_nil, or_false] at member
  rcases member with ⟨-, rfl⟩ | ⟨-, rfl⟩ | ⟨-, rfl⟩ <;> decide

namespace WellFormed

/-- The lexeme of a wordlike token is made of word characters. -/
theorem inWord {token : Token} (formed : token.WellFormed) (word : token.kind.isWord = true) :
    ∀ c ∈ token.spelling, InWord c := by
  cases formed with
  | fixed some =>
      rcases Kind.spelling?_cases some with ⟨c, -, -, other⟩ | ⟨member, -⟩
      · simp [other] at word
      · rw [spelling_fixed]
        exact (isWord_of_mem_reserved (Kind.reserved_of_keyword member)).inWord
  | identifier name =>
      rw [spelling_text]
      exact name.1.inWord
  | constant digits =>
      rw [spelling_text]
      intro c member
      exact .inr (digits.decimal c member)

/-- Any other token is one delimiter. -/
theorem delimiter {token : Token} (formed : token.WellFormed) (other : token.kind.isWord = false) :
    ∃ c, token.spelling = [c] ∧ Kind.delimiter? c = some token.kind := by
  cases formed with
  | fixed some =>
      rcases Kind.spelling?_cases some with ⟨c, single, known, -⟩ | ⟨-, word⟩
      · exact ⟨c, by rw [spelling_fixed, single], known⟩
      · simp [word] at other
  | identifier | constant => simp [Kind.isWord] at other

theorem spelling_ne_nil {token : Token} (formed : token.WellFormed) : token.spelling ≠ [] := by
  cases formed with
  | @fixed kind _ some => cases kind <;> simp_all [Kind.spelling?]
  | identifier name =>
      rw [spelling_text]
      exact fun empty => by simpa [empty, IsWord] using name.1
  | constant digits =>
      rw [spelling_text]
      exact digits.ne_nil

/-- No lexeme holds a blank. -/
theorem not_blank {token : Token} (formed : token.WellFormed) :
    ∀ c ∈ token.spelling, ¬ IsBlank c := by
  intro c member blank
  cases word : token.kind.isWord with
  | true => exact blank.not_inWord (formed.inWord word c member)
  | false =>
      obtain ⟨d, single, known⟩ := formed.delimiter word
      rw [single, List.mem_singleton] at member
      subst member
      exact blank.not_delimiter (isDelimiter_of_delimiter? known)

/-- Where a token stands does not matter for its form. -/
theorem relocate {token other : Token} (formed : token.WellFormed)
    (same : token.unlocated = other.unlocated) : other.WellFormed := by
  obtain ⟨kind, text, location⟩ := other
  simp only [unlocated, mk.injEq, and_true] at same
  cases formed with
  | fixed some =>
      obtain ⟨rfl, rfl⟩ := same
      exact .fixed some
  | identifier name =>
      obtain ⟨rfl, rfl⟩ := same
      exact .identifier name
  | constant digits =>
      obtain ⟨rfl, rfl⟩ := same
      exact .constant digits

end WellFormed

end Token

end MicroC
