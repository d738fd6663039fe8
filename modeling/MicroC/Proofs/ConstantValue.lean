import MicroC.Machine.Lower
import MicroC.Proofs.Lexeme
import MicroC.Proofs.Writing
import Mathlib.Data.List.TakeWhile
import Mathlib.Data.Nat.Digits.Defs

/-! # The values of constants

A constant denotes a natural number by the place values of its digits, in base eight after a leading
zero and in base ten otherwise. Reading a constant yields that number and writing it yields its decimal
numeral; the only way to fail is the limit on the length of decimal numerals.
-/

namespace MicroC

/-- The number that digits denote in a base, most significant first. -/
def digitsValue (base : Nat) (digits : List Char) : Nat :=
  Nat.ofDigits base (digits.reverse.map fun c => c.toNat - '0'.toNat)

/-- The base of a constant: eight if a zero leads further digits, else ten. -/
def constantBase (digits : List Char) : Nat :=
  if digits.head? = some '0' ∧ 1 < digits.length then 8 else 10

/-- The number that a constant denotes. -/
def constantValue (digits : List Char) : Nat :=
  digitsValue (constantBase digits) digits

/-- The constants that can be compiled. After a leading zero the value is bounded, otherwise the
    number of digits. -/
def Representable (digits : List Char) : Prop :=
  if digits.head? = some '0' then constantValue digits < 10 ^ 4300 else digits.length ≤ 4300

theorem IsDecimal.toNat_bounds {c : Char} (digit : IsDecimal c) : 48 ≤ c.toNat ∧ c.toNat ≤ 57 :=
  digit

namespace Numeral

theorem Base.value_eq (base : Base) (digits : List Char) :
    base.value digits = digitsValue base.size digits := by
  rw [value, digitsValue, Nat.ofDigits_eq_foldr, List.foldr_map, List.foldr_reverse]
  simp only [Nat.cast_id, Nat.mul_comm, Nat.add_comm]

theorem Base.isDecimal_of_isDigit {base : Base} {c : Char} (digit : base.isDigit c = true) :
    IsDecimal c := by
  simp only [isDigit, Bool.and_eq_true, decide_eq_true_eq] at digit
  have low : 48 ≤ c.toNat := digit.1
  have high : c.toNat < 48 + base.size := digit.2
  have size : base.size ≤ 10 := by cases base <;> decide
  have top : c.toNat ≤ 57 := by omega
  exact ⟨digit.1, top⟩

/-! ## Reading digits -/

section Digits

variable {chars : List Char} (digits : ∀ c ∈ chars, IsDecimal c)
include digits

theorem map_toAscii_digits : chars.map toAscii = chars := by
  have same : ∀ c ∈ chars, toAscii c = c := by
    intro c member
    have bounds := (digits c member).toNat_bounds
    rw [toAscii, if_pos (by omega)]
  rw [List.map_congr_left same, List.map_id']

theorem not_mem_digits {c : Char} (other : ¬ IsDecimal c) : c ∉ chars :=
  fun member => other (digits c member)

theorem dropWhile_blank_digits : chars.dropWhile Text.isAsciiBlank = chars := by
  cases chars with
  | nil => rfl
  | cons c rest =>
      have bounds := (digits c List.mem_cons_self).toNat_bounds
      refine List.dropWhile_cons_of_neg fun blank => ?_
      simp only [Text.isAsciiBlank, Bool.or_eq_true, beq_iff_eq, Bool.and_eq_true,
        decide_eq_true_eq] at blank
      rcases blank with rfl | control
      · exact absurd bounds (by decide)
      · omega

theorem splitSign_digits : splitSign chars = (false, chars) := by
  unfold splitSign
  split
  next => exact absurd (digits _ List.mem_cons_self) (by decide)
  next => exact absurd (digits _ List.mem_cons_self) (by decide)
  next => rfl

theorem dropMark_digits (base : Base) : dropMark base chars = chars := by
  unfold dropMark
  have lower := not_mem_digits digits (c := 'o') (by decide)
  have upper := not_mem_digits digits (c := 'O') (by decide)
  split <;> simp_all

theorem wellSpaced_digits : wellSpaced chars = true := by
  fun_induction wellSpaced chars with
  | case1 => rfl
  | case2 => exact absurd (digits _ List.mem_cons_self) (by decide)
  | case3 => exact absurd (digits _ List.mem_cons_self) (by decide)
  | case4 _ _ _ _ ih => exact ih fun c member => digits c (List.mem_cons_of_mem _ member)

end Digits

/-- Digits are read as what they denote, unless they are decimal and too many. -/
theorem read_digits {base : Base} {text : String} (nonempty : text.toList ≠ [])
    (digits : ∀ c ∈ text.toList, base.isDigit c = true) :
    read base text =
      if base = .decimal ∧ digitLimit < text.toList.length then
        .error (.tooManyDigits text.toList.length)
      else .ok (digitsValue base.size text.toList : Nat) := by
  have decimal : ∀ c ∈ text.toList, IsDecimal c :=
    fun c member => Base.isDecimal_of_isDigit (digits c member)
  have plain := not_mem_digits decimal (c := '_') (by decide)
  have run : ∀ c ∈ text.toList, (base.isDigit c || c == '_') = true :=
    fun c member => by rw [digits c member, Bool.true_or]
  have taken := List.takeWhile_eq_self_iff.2 run
  have rest := List.dropWhile_eq_nil_iff.2 run
  have kept : text.toList.filter (· != '_') = text.toList :=
    List.filter_eq_self.2 fun c member => bne_iff_ne.2 fun same => plain (same ▸ member)
  have head : text.toList.head? ≠ some '_' := fun same => plain (List.mem_of_head? same)
  unfold read
  simp only [map_toAscii_digits decimal, dropWhile_blank_digits decimal, splitSign_digits decimal,
    dropMark_digits decimal, taken, rest, kept, wellSpaced_digits decimal, Base.value_eq]
  simp [head, nonempty]

/-! ## Constants -/

theorem baseOf_eq (text : String) :
    baseOf text =
      if text.toList.head? = some '0' ∧ 1 < text.toList.length then .octal else .decimal := by
  unfold baseOf
  split
  next shape => simp [shape]
  next other =>
    rw [if_neg]
    rintro ⟨zero, long⟩
    obtain ⟨rest, shape⟩ := List.head?_eq_some_iff.1 zero
    cases rest with
    | nil => simp [shape] at long
    | cons second rest => exact other second rest shape

theorem size_baseOf (text : String) : (baseOf text).size = constantBase text.toList := by
  rw [baseOf_eq, constantBase]
  split <;> rfl

theorem Base.isDigit_of_lt {base : Base} {c : Char} (low : '0' ≤ c)
    (high : c.toNat < 48 + base.size) : base.isDigit c = true := by
  simp only [isDigit, Bool.and_eq_true, decide_eq_true_eq]
  exact ⟨low, high⟩

theorem baseOf_eq_decimal_iff {text : String} :
    baseOf text = .decimal ↔ ¬ (text.toList.head? = some '0' ∧ 1 < text.toList.length) := by
  rw [baseOf_eq]
  split
  next octal => simp [octal]
  next decimal => simp [decimal]

theorem isDigit_baseOf {text : String} (constant : IsConstant text.toList) :
    ∀ c ∈ text.toList, (baseOf text).isDigit c = true := by
  intro c member
  have digit := constant.decimal c member
  have bounds := digit.toNat_bounds
  apply Base.isDigit_of_lt digit.1
  rw [size_baseOf, constantBase]
  split
  next octal =>
    obtain ⟨rest, shape⟩ := List.head?_eq_some_iff.1 octal.1
    rw [shape] at constant member
    rcases constant with ⟨-, small⟩ | ⟨⟨positive, -⟩, -⟩
    · rcases List.mem_cons.1 member with rfl | member
      · decide
      · have high : c.toNat ≤ 55 := (small c member).2
        omega
    · exact absurd positive (by decide)
  next => omega

theorem read_constant {text : String} (constant : IsConstant text.toList) :
    read (baseOf text) text =
      if baseOf text = .decimal ∧ digitLimit < text.toList.length then
        .error (.tooManyDigits text.toList.length)
      else .ok (constantValue text.toList : Nat) := by
  rw [read_digits constant.ne_nil (isDigit_baseOf constant), size_baseOf]
  rfl

end Numeral

theorem constantValue_lt {digits : List Char} {limit : Nat} (decimal : ∀ c ∈ digits, IsDecimal c)
    (other : digits.head? ≠ some '0') (short : digits.length ≤ limit) :
    constantValue digits < 10 ^ limit := by
  have base : constantBase digits = 10 := if_neg fun both => other both.1
  have small : ∀ x ∈ digits.reverse.map fun c => c.toNat - '0'.toNat, x < 10 := by
    intro x member
    obtain ⟨c, inside, rfl⟩ := List.mem_map.1 member
    have bounds := (decimal c (List.mem_reverse.1 inside)).toNat_bounds
    change c.toNat - 48 < 10
    omega
  have bound := Nat.ofDigits_lt_base_pow_length (by decide) small
  rw [List.length_map, List.length_reverse] at bound
  rw [constantValue, base]
  exact Nat.lt_of_lt_of_le bound (Nat.pow_le_pow_right (by decide) short)

/-- The limit on decimal digits and the bound on what is written come to one condition. -/
theorem representable_iff {text : String} (constant : IsConstant text.toList) :
    Representable text.toList ↔
      ¬ (Numeral.baseOf text = .decimal ∧ Numeral.digitLimit < text.toList.length) ∧
        constantValue text.toList < 10 ^ 4300 := by
  rw [Numeral.baseOf_eq_decimal_iff, Numeral.digitLimit, Representable]
  by_cases zero : text.toList.head? = some '0'
  · rw [if_pos zero]
    refine (and_iff_right ?_).symm
    rintro ⟨decimal, long⟩
    exact decimal ⟨zero, by omega⟩
  · rw [if_neg zero]
    constructor
    · intro short
      exact ⟨fun both => absurd both.2 (Nat.not_lt.2 short),
        constantValue_lt constant.decimal zero short⟩
    · rintro ⟨fits, -⟩
      exact Nat.not_lt.1 fun long => fits ⟨fun octal => zero octal.1, long⟩

/-- A constant is read and written again just if it is representable, and then it comes out as the
    decimal numeral of its value. -/
theorem write_constant_iff {text written : String} (constant : IsConstant text.toList) :
    (∃ value, Numeral.read (Numeral.baseOf text) text = .ok value ∧
        Numeral.write value = .ok written) ↔
      Representable text.toList ∧ written = toString (constantValue text.toList) := by
  rw [Numeral.read_constant constant, representable_iff constant, and_assoc,
    ← Numeral.write_natCast_eq_ok_iff]
  split
  next long => simp [long]
  next fits => simp [fits]

/-! ## Constants that cannot be written -/

theorem fits_of_zero {text : String} (zero : text.toList.head? = some '0') :
    ¬ (Numeral.baseOf text = .decimal ∧ Numeral.digitLimit < text.toList.length) := by
  rintro ⟨decimal, long⟩
  have several : 1 < text.toList.length := Nat.lt_of_le_of_lt (by decide) long
  exact Numeral.baseOf_eq_decimal_iff.1 decimal ⟨zero, several⟩

theorem zero_of_large {text : String} (digits : IsConstant text.toList)
    (fits : ¬ (Numeral.baseOf text = .decimal ∧ Numeral.digitLimit < text.toList.length))
    (large : 10 ^ 4300 ≤ constantValue text.toList) : text.toList.head? = some '0' := by
  by_contra other
  have decimal : Numeral.baseOf text = .decimal :=
    Numeral.baseOf_eq_decimal_iff.2 fun octal => other octal.1
  have short : text.toList.length ≤ 4300 := Nat.not_lt.1 fun long => fits ⟨decimal, long⟩
  exact Nat.not_lt.2 large (constantValue_lt digits.decimal other short)

end MicroC
