import MicroC.Proofs.EndToEnd
import MicroC.Proofs.Readability

/-! # What assembly tells of its source

The assembly text of a source says which function it defines and which number it returns, and no
more. The decimal numeral in it is a constant of the language that denotes the same number, so a source
with that numeral in the place of its constant has the same assembly.
-/

namespace MicroC

/-! ## Decimal numerals as constants -/

theorem digitsValue_eq_ofDigitChars (base : Nat) (digits : List Char) :
    digitsValue base digits = Nat.ofDigitChars base digits 0 := by
  rw [digitsValue, Nat.ofDigits_eq_foldr, List.foldr_map, List.foldr_reverse,
    Nat.ofDigitChars_eq_foldl]
  simp only [Nat.cast_id, Nat.add_comm]

theorem toDigits_eq_cons {value : Nat} (positive : 0 < value) :
    ∃ first rest, Nat.toDigits 10 value = first :: rest ∧ ('1' ≤ first ∧ first ≤ '9') ∧
      ∀ c ∈ rest, IsDecimal c := by
  induction value using Nat.strongRecOn with
  | ind value ih =>
      by_cases small : value < 10
      · refine ⟨value.digitChar, [], Nat.toDigits_of_lt_base small, ?_, List.forall_mem_nil _⟩
        interval_cases value <;> decide
      · have large : 10 ≤ value := Nat.not_lt.1 small
        obtain ⟨first, rest, digits, nonzero, decimal⟩ :=
          ih (value / 10) (by omega) (by omega)
        refine ⟨first, rest ++ [(value % 10).digitChar], ?_, nonzero, ?_⟩
        · rw [Nat.toDigits_of_base_le (by decide) large, digits, List.cons_append]
        · have last : IsDecimal (value % 10).digitChar := by
            rw [← isDigit_iff, Nat.isDigit_digitChar, decide_eq_true_eq]
            omega
          simpa [or_imp, forall_and] using ⟨decimal, last⟩

theorem toList_toString (value : Nat) : (toString value).toList = Nat.toDigits 10 value := by
  rw [Nat.toString_eq_ofList_toDigits, String.toList_ofList]

theorem isConstant_toString (value : Nat) : IsConstant (toString value).toList := by
  rcases Nat.eq_zero_or_pos value with rfl | positive
  · decide
  · obtain ⟨first, rest, digits, nonzero, decimal⟩ := toDigits_eq_cons positive
    rw [toList_toString, digits]
    exact .inr ⟨nonzero, decimal⟩

theorem constantValue_toString (value : Nat) : constantValue (toString value).toList = value := by
  rcases Nat.eq_zero_or_pos value with rfl | positive
  · decide
  · obtain ⟨first, rest, digits, nonzero, -⟩ := toDigits_eq_cons positive
    have base : constantBase (toString value).toList = 10 := by
      rw [toList_toString, digits, constantBase, if_neg]
      rintro ⟨zero, -⟩
      rw [Option.some.inj zero] at nonzero
      exact absurd nonzero.1 (by decide)
    rw [constantValue, base, digitsValue_eq_ofDigitChars, toList_toString, Nat.ofDigitChars_ten_toDigits]

theorem representable_toString {value : Nat} (small : value < 10 ^ 4300) :
    Representable (toString value).toList := by
  have short : ∀ limit, 0 < limit → value < 10 ^ limit → (toString value).toList.length ≤ limit := by
    intro limit positive less
    rw [toList_toString]
    exact Nat.toDigits_length 10 value limit positive less
  rw [representable_iff (isConstant_toString value), constantValue_toString]
  refine ⟨?_, small⟩
  rintro ⟨-, long⟩
  exact absurd (short 4300 (by decide) small) (Nat.not_le.2 long)

/-! ## The constant of a source -/

/-- Texts around the place of a constant: any constant between them is the one of the program that
    they spell with it. -/
def Encloses (name : String) (before after : List Char) : Prop :=
  ∀ constant : String, IsConstant constant.toList →
    ProgramText name constant (before ++ constant.toList ++ after)

theorem ProgramText.exists_encloses {name constant : String} {source : List Char}
    (written : ProgramText name constant source) :
    ∃ before after, Encloses name before after ∧ source = before ++ constant.toList ++ after := by
  cases written with
  | @spelled w0 w1 w2 w3 w4 w5 w6 w7 w8 w9 w10 blank one two named _ =>
      refine ⟨w0 ++ "int".toList ++ w1 ++ name.toList ++ w2 ++ ['('] ++ w3 ++ "void".toList ++ w4 ++
        [')'] ++ w5 ++ ['{'] ++ w6 ++ "return".toList ++ w7,
        w8 ++ [';'] ++ w9 ++ ['}'] ++ w10, ?_, by simp only [List.append_assoc]⟩
      intro other digits
      have spelled := ProgramText.spelled blank one two named digits
      simp only [List.append_assoc] at spelled ⊢
      exact spelled

/-! ## From a source to its assembly and back -/

/-- The digits behind the first dollar sign of a text. -/
def digitsAfterDollar (text : List Char) : List Char :=
  ((text.dropWhile (· != '$')).drop 1).takeWhile Char.isDigit

theorem digitsAfterDollar_listing {symbol : String} (clean : '$' ∉ symbol.toList) (value : Nat) :
    digitsAfterDollar (listing symbol (toString value)).toList = (toString value).toList := by
  let head := "        .globl  " ++ symbol ++ "\n" ++ symbol ++ ":" ++ "\n" ++ "        movl    "
  let tail := ", %eax" ++ "\n" ++ "        ret" ++ "\n" ++ "\n"
  have mark : "        movl    $" = "        movl    " ++ "$" := by decide
  have shape : listing symbol (toString value) = head ++ ("$" ++ (toString value ++ tail)) := by
    unfold listing
    rw [mark]
    simp only [head, tail, String.append_assoc]
  have plain : ∀ c ∈ head.toList, (c != '$') = true := by
    intro c member
    rw [bne_iff_ne]
    rintro rfl
    simp [head, clean] at member
  have digits : ∀ c ∈ (toString value).toList, c.isDigit = true :=
    fun c member => isDigit_iff.2 ((isConstant_toString value).decimal c member)
  have dollar : ("$" ++ (toString value ++ tail)).toList =
      '$' :: ((toString value).toList ++ tail.toList) := by simp
  have stops : tail.toList.takeWhile Char.isDigit = [] := by decide
  rw [digitsAfterDollar, shape, String.toList_append, List.dropWhile_append_of_pos plain, dollar,
    List.dropWhile_cons_of_neg (by decide), List.drop_one, List.tail_cons,
    List.takeWhile_append_of_pos digits, stops, List.append_nil]

theorem not_mem_symbolPrefix {options : Options} {platform : String} {target : Target}
    (chosen : options.resolveTarget platform = .ok target) {c : Char} (other : c ≠ '_') :
    c ∉ target.symbolPrefix.toList := by
  have hosted : ∀ platform, c ∉ (Target.host platform).symbolPrefix.toList := by
    intro platform
    unfold Target.host
    split <;> simp [Target.darwin, Target.linux, other]
  unfold Options.resolveTarget at chosen
  split at chosen
  next =>
    cases chosen
    exact hosted platform
  next =>
    unfold Target.ofName at chosen
    split at chosen
    next found =>
      cases chosen
      have known := List.mem_of_find?_eq_some found
      simp only [Target.known, List.mem_cons, List.not_mem_nil, or_false] at known
      rcases known with rfl | rfl
      · exact hosted "darwin"
      · exact hosted "linux"
    next => cases chosen

theorem IsName.not_mem {name : String} {c : Char} (named : IsName name.toList)
    (other : ¬ InWord c) : c ∉ name.toList :=
  fun member => other (named.1.inWord c member)

section Returning

variable {target : Target} {name : String} {value : Nat} (named : IsName name.toList)
  (small : value < 10 ^ 4300)
include named small

theorem plain_returning : (Machine.Program.returning name value).Plain where
  named := ⟨name, rfl, named.not_mem (by decide)⟩
  body := by
    simp only [Machine.Program.returning, List.forall_mem_cons]
    exact ⟨.mov (.immediate small) (.register (by decide) (by decide)), .ret, List.forall_mem_nil _⟩

theorem emit_returning_eq_listing :
    (Machine.Program.returning name value).emit target =
      .ok (listing (target.symbol name) (toString value)) := by
  rw [Machine.Program.emit_returning target value named.ne_empty,
    Numeral.write_natCast_eq_ok_iff.2 ⟨small, rfl⟩]
  rfl

theorem listing_inj (prefixed : '\n' ∉ target.symbolPrefix.toList) {other : String} {number : Nat}
    (named' : IsName other.toList) (small' : number < 10 ^ 4300) :
    listing (target.symbol name) (toString value) =
        listing (target.symbol other) (toString number) ↔
      name = other ∧ value = number := by
  constructor
  · intro same
    have emitted : (Machine.Program.returning name value).emit target =
        (Machine.Program.returning other number).emit target := by
      rw [emit_returning_eq_listing named small, emit_returning_eq_listing named' small', same]
    have programs :=
      (plain_returning named small).emit_inj (plain_returning named' small') prefixed emitted
    simpa [Machine.Program.returning] using programs
  · rintro ⟨rfl, rfl⟩
    rfl

end Returning

section Sources

variable {selection : Option String} {platform file source text : String}

theorem exists_listing_of_assemble (compiled : assemble selection platform file source = .ok text) :
    ∃ target name constant, Options.resolveTarget { target := selection } platform = .ok target ∧
      ProgramText name constant source.toList ∧ Representable constant.toList ∧
      text = listing (target.symbol name) (toString (constantValue constant.toList)) := by
  obtain ⟨target, chosen, -⟩ := bind_eq_ok_iff.1 (assemble_eq _ _ _ _ ▸ compiled)
  obtain ⟨found, accepted, kinds⟩ := tokens_of_assemble compiled
  obtain ⟨first, pieces, rfl, segmentation⟩ := Segmentation.of_tokens_eq accepted
  obtain ⟨name, constant, same⟩ :=
    exists_programTokens (List.forall_mem_map.2 segmentation.wellFormed) kinds
  have written := (programText_iff_tokens (Buffer.ofString file source)).2 ⟨_, accepted, same⟩
  obtain ⟨named, digits⟩ := written.lexemes
  exact ⟨target, name, constant, chosen, written,
    (assemble_of_tokens chosen accepted same named digits text).1 compiled⟩

theorem assemble_of_programText {target : Target} {name constant : String}
    (chosen : Options.resolveTarget { target := selection } platform = .ok target)
    (written : ProgramText name constant source.toList) (small : Representable constant.toList) :
    assemble selection platform file source =
      .ok (listing (target.symbol name) (toString (constantValue constant.toList))) := by
  obtain ⟨found, accepted, same⟩ := (programText_iff_tokens (Buffer.ofString file source)).1 written
  obtain ⟨named, digits⟩ := written.lexemes
  exact (assemble_of_tokens chosen accepted same named digits _).2 ⟨small, rfl⟩

end Sources

/-- The assembly of two sources for one target is the same just if their functions have the same name
    and their constants denote the same number. And the decimal numeral in the assembly can take the
    place of the constant in the source: the assembly stays the same. -/
theorem assembly_identifies_program {selection : Option String} {platform file source text : String}
    (compiled : assemble selection platform file source = .ok text) :
    (∃ (name constant : String) (before after : List Char), IsConstant constant.toList ∧
      Encloses name before after ∧ source.toList = before ++ constant.toList ++ after) ∧
    (∀ file' source' text', assemble selection platform file' source' = .ok text' →
      ∀ name constant name' constant', ProgramText name constant source.toList →
        ProgramText name' constant' source'.toList →
        (text = text' ↔
          name = name' ∧ constantValue constant.toList = constantValue constant'.toList)) ∧
    ∀ (name constant : String) (before after : List Char), IsConstant constant.toList →
      Encloses name before after → source.toList = before ++ constant.toList ++ after →
      ∀ file', assemble selection platform file'
        (String.ofList (before ++ digitsAfterDollar text.toList ++ after)) = .ok text := by
  obtain ⟨target, name, constant, chosen, written, small, rfl⟩ := exists_listing_of_assemble compiled
  obtain ⟨named, digits⟩ := written.lexemes
  have bounded := ((representable_iff digits).1 small).2
  refine ⟨?_, ?_, ?_⟩
  · obtain ⟨before, after, encloses, split⟩ := written.exists_encloses
    exact ⟨name, constant, before, after, digits, encloses, split⟩
  · intro file' source' text' compiled' _ _ name' constant' one two
    obtain ⟨rfl, rfl⟩ := written.unique one
    obtain ⟨_, _, _, chosen', written', small', rfl⟩ := exists_listing_of_assemble compiled'
    obtain ⟨rfl, rfl⟩ := written'.unique two
    obtain rfl := Except.ok.inj (chosen.symm.trans chosen')
    obtain ⟨named', digits'⟩ := written'.lexemes
    exact listing_inj named bounded (not_mem_symbolPrefix chosen (by decide)) named'
      ((representable_iff digits').1 small').2
  · intro _ _ before after digits' encloses split file'
    obtain ⟨rfl, rfl⟩ := written.unique (split ▸ encloses _ digits')
    let numeral := toString (constantValue constant.toList)
    have clean : '$' ∉ (target.symbol name).toList := by
      simp [Target.symbol, not_mem_symbolPrefix chosen, named.not_mem (c := '$') (by decide)]
    have rewritten : ProgramText name numeral
        (String.ofList (before ++ numeral.toList ++ after)).toList := by
      rw [String.toList_ofList]
      exact encloses numeral (isConstant_toString _)
    rw [digitsAfterDollar_listing clean,
      assemble_of_programText chosen rewritten (representable_toString bounded),
      constantValue_toString]

/-- An octal constant and the decimal numeral that its assembly shows. -/
theorem assembly_identifies_program_octal :
    ∃ text, assemble (some "linux") "linux" "f.c" "int f(void)\x7breturn 017;\x7d" = .ok text ∧
      digitsAfterDollar text.toList = ['1', '5'] ∧
      assemble (some "linux") "linux" "g.c" "int f(void)\x7breturn 15;\x7d" = .ok text := by
  have chosen : Options.resolveTarget { target := some "linux" } "linux" = .ok .linux := rfl
  have encloses : Encloses "f" "int f(void)\x7breturn ".toList ";\x7d".toList :=
    fun constant digits => programText_returning digits
  have octal : IsConstant "017".toList := by decide
  have value : constantValue "017".toList = 15 := by decide
  have small : Representable "017".toList := by
    rw [Representable, if_pos (by decide), value]
    exact Numeral.small_of_lt (by decide)
  have compiled : assemble (some "linux") "linux" "f.c" "int f(void)\x7breturn 017;\x7d" = .ok _ :=
    assemble_of_programText chosen (encloses "017" octal) small
  have shown : digitsAfterDollar
      (listing (Target.linux.symbol "f") (toString (constantValue "017".toList))).toList =
        ['1', '5'] := by
    rw [digitsAfterDollar_listing (by decide), value]
    decide
  obtain ⟨-, -, again⟩ := assembly_identifies_program compiled
  have replaced := again "f" "017" _ _ octal encloses (by decide) "g.c"
  rw [shown] at replaced
  exact ⟨_, compiled, shown, replaced⟩

end MicroC
