import MicroC.Proofs.Fixpoint

/-! # Constants as tokens

Which constants there are is decided where a text is cut into tokens, and in which base they are read
is decided later, by another test for a leading zero. The two agree: every constant that a text is cut
into is read as the number that its digits denote, unless it is a decimal one of more digits than may be
read. Zeros in front of an octal constant do not count, and every number has a constant in either base.
-/

namespace MicroC

/-! ## Reading constants -/

theorem Source.IntegerConstant.value_of_isConstant {text : String} (digits : IsConstant text.toList)
    (location : Option Location) :
    value { text := some text, location } =
      if text.toList.head? ≠ some '0' ∧ Numeral.digitLimit < text.toList.length then
        .error (.numeral (.tooManyDigits text.toList.length))
      else .ok (constantValue text.toList : Nat) := by
  have read : value { text := some text, location } =
      (Numeral.read (Numeral.baseOf text) text).mapError Failure.numeral := rfl
  -- A zero alone is read as decimal, but has only one digit.
  have limits : (Numeral.baseOf text = .decimal ∧ Numeral.digitLimit < text.toList.length) ↔
      text.toList.head? ≠ some '0' ∧ Numeral.digitLimit < text.toList.length := by
    rw [and_congr_left_iff, Numeral.baseOf_eq_decimal_iff]
    intro long
    have several : 1 < text.toList.length := Nat.lt_of_le_of_lt (by decide) long
    rw [and_iff_left several]
  rw [read, Numeral.read_constant digits, if_congr limits rfl rfl]
  split <;> rfl

/-! ## Leading zeros -/

theorem digitsValue_leading_zeros (base count : Nat) (digits : List Char) :
    digitsValue base (List.replicate count '0' ++ digits) = digitsValue base digits := by
  rw [digitsValue, List.reverse_append, List.reverse_replicate, List.map_append, List.map_replicate]
  exact Nat.ofDigits_append_replicate_zero _

theorem digitsValue_zero (base : Nat) : digitsValue base ['0'] = 0 :=
  digitsValue_leading_zeros base 1 []

theorem constantValue_leading_zeros {digits : List Char} (count : Nat) (zero : digits.head? = some '0') :
    constantValue (List.replicate count '0' ++ digits) = constantValue digits := by
  obtain ⟨rest, rfl⟩ := List.head?_eq_some_iff.1 zero
  rw [constantValue, digitsValue_leading_zeros, constantValue]
  cases rest with
  | nil => rw [digitsValue_zero, digitsValue_zero]
  | cons second rest =>
      -- With another digit behind the zero, both are octal.
      have leads : (List.replicate count '0' ++ '0' :: second :: rest).head? = some '0' := by
        cases count <;> rfl
      have several : 1 < (List.replicate count '0' ++ '0' :: second :: rest).length := by
        rw [List.length_append, List.length_cons, List.length_cons]
        omega
      rw [constantBase, if_pos ⟨leads, several⟩, constantBase, if_pos ⟨rfl, by simp⟩]

theorem IsConstant.zeros {digits : List Char} (constant : IsConstant digits)
    (zero : digits.head? = some '0') (count : Nat) :
    IsConstant (List.replicate count '0' ++ digits) := by
  obtain ⟨rest, rfl⟩ := List.head?_eq_some_iff.1 zero
  have octal : ∀ c ∈ '0' :: rest, '0' ≤ c ∧ c ≤ '7' := by
    rcases constant with ⟨-, small⟩ | ⟨⟨positive, -⟩, -⟩
    · exact List.forall_mem_cons.2 ⟨by decide, small⟩
    · exact absurd positive (by decide)
  cases count with
  | zero => exact constant
  | succ count =>
      refine .inl ⟨rfl, fun c member => ?_⟩
      rcases List.mem_append.1 member with zeros | member
      · rw [List.eq_of_mem_replicate zeros]
        decide
      · exact octal c member

theorem Source.IntegerConstant.value_leading_zeros {text : String} (digits : IsConstant text.toList)
    (zero : text.toList.head? = some '0') (count : Nat) (location other : Option Location) :
    value { text := some (String.ofList (List.replicate count '0' ++ text.toList)), location } =
      value { text := some text, location := other } := by
  have longer : (String.ofList (List.replicate count '0' ++ text.toList)).toList =
      List.replicate count '0' ++ text.toList := String.toList_ofList
  have leads : (List.replicate count '0' ++ text.toList).head? = some '0' := by
    cases count with
    | zero => exact zero
    | succ count => rfl
  have constant := digits.zeros zero count
  rw [← longer] at constant
  rw [value_of_isConstant constant, value_of_isConstant digits, longer,
    constantValue_leading_zeros count zero, if_neg fun both => both.1 leads,
    if_neg fun both => both.1 zero]

/-! ## Octal numerals -/

theorem toDigits_octal (value : Nat) : ∀ c ∈ Nat.toDigits 8 value, '0' ≤ c ∧ c ≤ '7' := by
  induction value using Nat.strongRecOn with
  | ind value ih =>
      have digit : ∀ digit < 8, '0' ≤ Nat.digitChar digit ∧ Nat.digitChar digit ≤ '7' := by decide
      by_cases small : value < 8
      · rw [Nat.toDigits_of_lt_base small, List.forall_mem_singleton]
        exact digit value small
      · rw [Nat.toDigits_of_base_le (by decide) (Nat.not_lt.1 small), List.forall_mem_append,
          List.forall_mem_singleton]
        exact ⟨ih (value / 8) (by omega), digit (value % 8) (by omega)⟩

/-- A zero and the octal numeral of a number. -/
def octalNumeral (value : Nat) : String :=
  String.ofList ('0' :: Nat.toDigits 8 value)

theorem toList_octalNumeral (value : Nat) :
    (octalNumeral value).toList = '0' :: Nat.toDigits 8 value :=
  String.toList_ofList

theorem isConstant_octalNumeral (value : Nat) : IsConstant (octalNumeral value).toList := by
  rw [toList_octalNumeral]
  exact .inl ⟨rfl, toDigits_octal value⟩

theorem constantValue_octalNumeral (value : Nat) :
    constantValue (octalNumeral value).toList = value := by
  have several : 1 < ('0' :: Nat.toDigits 8 value).length := by
    rw [List.length_cons, Nat.lt_add_left_iff_pos]
    exact List.length_pos_iff.2 Nat.toDigits_ne_nil
  rw [toList_octalNumeral, constantValue, constantBase, if_pos ⟨rfl, several⟩]
  have zeros := digitsValue_leading_zeros 8 1 (Nat.toDigits 8 value)
  rw [List.replicate_one, List.singleton_append] at zeros
  rw [zeros, digitsValue_eq_ofDigitChars, Nat.ofDigitChars_toDigits (by decide) (by decide)]

/-! ## Texts that are one constant -/

/-- The text is cut into one token, a constant, which has the value. -/
def SpellsConstant (text : String) (value : Nat) : Prop :=
  ∀ file, ∃ token : Token, (Buffer.ofString file text).lex.outcome.1 = .ok [token] ∧
    token.kind = .constant ∧ token.text = some text ∧
    Source.IntegerConstant.value { text := token.text, location := token.location } = .ok value

theorem spellsConstant {text : String} (digits : IsConstant text.toList)
    (fits : ¬(text.toList.head? ≠ some '0' ∧ Numeral.digitLimit < text.toList.length)) :
    SpellsConstant text (constantValue text.toList) := by
  intro file
  have segmentation : Segmentation (Buffer.ofString file text).chars []
      [({ kind := .constant, text := some text }, [])] :=
    { source_eq := by simp [Buffer.ofString, Token.spelling, Token.lexeme?]
      first_blank := List.forall_mem_nil _
      gap_blank := by simp
      wellFormed := by
        rw [List.forall_mem_singleton]
        exact .constant digits
      apart := List.isChain_singleton _ }
  obtain ⟨found, accepted, same⟩ := segmentation.tokens_eq
  obtain ⟨token, rfl, equal⟩ := List.map_eq_singleton_iff.1 same
  have kind : token.kind = .constant := congrArg Token.kind equal
  have carried : token.text = some text := congrArg Token.text equal
  refine ⟨token, Buffer.lex_eq_ok_iff.2 accepted, kind, carried, ?_⟩
  rw [carried, Source.IntegerConstant.value_of_isConstant digits, if_neg fits]

theorem Token.WellFormed.constant_text {token : Token} (formed : token.WellFormed)
    (kind : token.kind = .constant) : ∃ text, token.text = some text ∧ IsConstant text.toList := by
  cases formed with
  | fixed spelled =>
      subst kind
      cases spelled
  | identifier _ => cases kind
  | constant digits => exact ⟨_, rfl, digits⟩

/-- The value of every constant that a buffer is cut into is what its digits denote, in base eight if
    a zero leads further digits and else in base ten. Only a constant of more than 4300 digits that does
    not start with zero has none. Zeros in front of one that starts with zero do not change its value.
    And every number of no more digits has a decimal and an octal constant. -/
theorem constant_tokens_valued :
    (∀ (buffer : Buffer) (found : List Token), buffer.lex.outcome.1 = .ok found →
      ∀ token ∈ found, token.kind = .constant → ∃ text, token.text = some text ∧
        Source.IntegerConstant.value { text := token.text, location := token.location } =
          (if text.toList.head? ≠ some '0' ∧ 4300 < text.toList.length then
            .error (.numeral (.tooManyDigits text.toList.length))
          else .ok (digitsValue
            (if text.toList.head? = some '0' ∧ 1 < text.toList.length then 8 else 10)
            text.toList : Nat)) ∧
        (text.toList.head? = some '0' → ∀ count location, Source.IntegerConstant.value
            { text := some (String.ofList (List.replicate count '0' ++ text.toList)), location } =
          Source.IntegerConstant.value { text := token.text, location := token.location })) ∧
    ∀ value < 10 ^ 4300,
      SpellsConstant (toString value) value ∧ SpellsConstant (octalNumeral value) value := by
  refine ⟨?_, ?_⟩
  · intro buffer found lexed token member kind
    obtain ⟨first, pieces, rfl, segmentation⟩ :=
      Segmentation.of_tokens_eq (Buffer.lex_eq_ok_iff.1 lexed)
    have formed := List.forall_mem_map.2 segmentation.wellFormed token member
    obtain ⟨text, carried, digits⟩ := formed.constant_text kind
    rw [carried]
    exact ⟨text, rfl, Source.IntegerConstant.value_of_isConstant digits _,
      fun zero count location => Source.IntegerConstant.value_leading_zeros digits zero count location _⟩
  · intro value small
    have decimal := isConstant_toString value
    have octal := isConstant_octalNumeral value
    have fits := ((representable_iff decimal).1 (representable_toString small)).1
    have short : ¬((toString value).toList.head? ≠ some '0' ∧
        Numeral.digitLimit < (toString value).toList.length) := fun both =>
      fits ⟨Numeral.baseOf_eq_decimal_iff.2 fun zero => both.1 zero.1, both.2⟩
    have leads : ¬((octalNumeral value).toList.head? ≠ some '0' ∧
        Numeral.digitLimit < (octalNumeral value).toList.length) := fun both =>
      both.1 (by rw [toList_octalNumeral]; rfl)
    have one := spellsConstant decimal short
    have two := spellsConstant octal leads
    rw [constantValue_toString] at one
    rw [constantValue_octalNumeral] at two
    exact ⟨one, two⟩

/-- Fifteen in both bases, and the octal constant with two more zeros in front. -/
theorem constant_tokens_valued_fifteen :
    SpellsConstant "15" 15 ∧ ∃ token : Token,
      (Buffer.ofString "a.c" "017").lex.outcome.1 = .ok [token] ∧ token.kind = .constant ∧
      Source.IntegerConstant.value { text := some "00017" } =
        Source.IntegerConstant.value { text := token.text, location := token.location } := by
  obtain ⟨valued, spelled⟩ := constant_tokens_valued
  obtain ⟨decimal, octal⟩ := spelled 15 (Numeral.small_of_lt (by decide))
  have text : octalNumeral 15 = "017" := by decide
  rw [text] at octal
  obtain ⟨token, lexed, kind, carried, -⟩ := octal "a.c"
  obtain ⟨found, same, -, zeros⟩ := valued _ _ lexed token List.mem_cons_self kind
  obtain rfl : "017" = found := Option.some.inj (carried.symm.trans same)
  exact ⟨decimal, token, lexed, kind, zeros (by decide) 2 none⟩

end MicroC
