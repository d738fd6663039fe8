import MicroC.Proofs.ConstantValue
import MicroC.Proofs.Listing
import MicroC.Proofs.Phrase
import MicroC.Proofs.Segmentation

/-! # From the source text to the assembly text

A source text compiles exactly if it spells a program with a representable constant, with blanks
wherever they are allowed and where they are needed. The text then fixes the name and the constant,
and the assembly is the listing for them. A source may be any text; the octets of a file are one by
`Text.ofOctets`.
-/

namespace MicroC

/-- A text spells the program that returns a constant from the function of a name. -/
inductive ProgramText (name constant : String) : List Char → Prop where
  /-- Blanks may stand around all lexemes. They must stand between the words that would otherwise
      run together. -/
  | spelled {w0 w1 w2 w3 w4 w5 w6 w7 w8 w9 w10 : List Char} :
      (∀ w ∈ [w0, w1, w2, w3, w4, w5, w6, w7, w8, w9, w10], ∀ c ∈ w, IsBlank c) →
      w1 ≠ [] → w7 ≠ [] → IsName name.toList → IsConstant constant.toList →
      ProgramText name constant
        (w0 ++ "int".toList ++ w1 ++ name.toList ++ w2 ++ ['('] ++ w3 ++ "void".toList ++ w4 ++
          [')'] ++ w5 ++ ['{'] ++ w6 ++ "return".toList ++ w7 ++ constant.toList ++ w8 ++
          [';'] ++ w9 ++ ['}'] ++ w10)

/-- The tokens of a program. -/
def programTokens (name constant : String) : List Token :=
  [{ kind := .intKeyword }, { kind := .identifier, text := some name }, { kind := .leftParen },
    { kind := .voidKeyword }, { kind := .rightParen }, { kind := .leftBrace },
    { kind := .returnKeyword }, { kind := .constant, text := some constant },
    { kind := .semicolon }, { kind := .rightBrace }]

theorem wellFormed_programTokens_iff {name constant : String} :
    (∀ token ∈ programTokens name constant, token.WellFormed) ↔
      IsName name.toList ∧ IsConstant constant.toList := by
  constructor
  · intro formed
    have named := formed { kind := .identifier, text := some name } (by simp [programTokens])
    have digits := formed { kind := .constant, text := some constant } (by simp [programTokens])
    cases named with
    | identifier named =>
        cases digits with
        | constant digits => exact ⟨named, digits⟩
  · rintro ⟨named, digits⟩ token member
    simp only [programTokens, List.mem_cons, List.not_mem_nil, or_false] at member
    rcases member with rfl | rfl | rfl | rfl | rfl | rfl | rfl | rfl | rfl | rfl
    case inr.inl => exact .identifier named
    case inr.inr.inr.inr.inr.inr.inr.inl => exact .constant digits
    all_goals exact .fixed rfl

section Gaps

variable {name constant : String} {w0 w1 w2 w3 w4 w5 w6 w7 w8 w9 w10 : List Char}

theorem flatMap_programTokens :
    w0 ++ ((programTokens name constant).zip [w1, w2, w3, w4, w5, w6, w7, w8, w9, w10]).flatMap
        (fun piece => piece.1.spelling ++ piece.2) =
      w0 ++ "int".toList ++ w1 ++ name.toList ++ w2 ++ ['('] ++ w3 ++ "void".toList ++ w4 ++
        [')'] ++ w5 ++ ['{'] ++ w6 ++ "return".toList ++ w7 ++ constant.toList ++ w8 ++
        [';'] ++ w9 ++ ['}'] ++ w10 := by
  simp [programTokens, Token.Kind.spelling?]

/-- Only two gaps stand between words. -/
theorem isChain_programTokens_iff :
    (((programTokens name constant).zip [w1, w2, w3, w4, w5, w6, w7, w8, w9, w10]).IsChain
      fun piece next =>
        piece.1.kind.isWord = true → next.1.kind.isWord = true → piece.2 ≠ []) ↔
      w1 ≠ [] ∧ w7 ≠ [] := by
  simp [programTokens, Token.Kind.isWord]

end Gaps

theorem programText_iff_segmentation {name constant : String} {source : List Char} :
    ProgramText name constant source ↔
      ∃ first pieces, pieces.map Prod.fst = programTokens name constant ∧
        Segmentation source first pieces := by
  constructor
  · intro written
    cases written with
    | @spelled w0 w1 w2 w3 w4 w5 w6 w7 w8 w9 w10 blank one two named digits =>
        have formed := wellFormed_programTokens_iff.2 ⟨named, digits⟩
        refine ⟨w0, (programTokens name constant).zip [w1, w2, w3, w4, w5, w6, w7, w8, w9, w10],
          rfl, ?_⟩
        exact
          { source_eq := flatMap_programTokens.symm
            first_blank := blank w0 List.mem_cons_self
            gap_blank := fun piece member =>
              blank piece.2 (List.mem_cons_of_mem _ (List.of_mem_zip member).2)
            wellFormed := fun piece member => formed piece.1 (List.of_mem_zip member).1
            apart := isChain_programTokens_iff.2 ⟨one, two⟩ }
  · rintro ⟨w0, pieces, tokens, segmentation⟩
    have formed : ∀ token ∈ programTokens name constant, token.WellFormed :=
      tokens ▸ List.forall_mem_map.2 segmentation.wellFormed
    have blank : ∀ gap ∈ pieces.map Prod.snd, ∀ c ∈ gap, IsBlank c :=
      List.forall_mem_map.2 segmentation.gap_blank
    have pairs : pieces = (programTokens name constant).zip (pieces.map Prod.snd) := by
      rw [← tokens, List.zip_map', List.map_id']
    have length : (pieces.map Prod.snd).length = 10 := by
      have := congrArg List.length tokens
      rwa [List.length_map] at this ⊢
    generalize pieces.map Prod.snd = gaps at pairs length blank
    subst pairs
    match gaps, length with
    | [w1, w2, w3, w4, w5, w6, w7, w8, w9, w10], _ =>
        obtain ⟨one, two⟩ := isChain_programTokens_iff.1 segmentation.apart
        obtain ⟨named, digits⟩ := wellFormed_programTokens_iff.1 formed
        rw [segmentation.source_eq, flatMap_programTokens]
        exact .spelled (List.forall_mem_cons.2 ⟨segmentation.first_blank, blank⟩) one two named
          digits

theorem programText_iff_tokens (buffer : Buffer) {name constant : String} :
    ProgramText name constant buffer.chars ↔
      ∃ found, buffer.tokens = .ok found ∧
        found.map Token.unlocated = programTokens name constant :=
  programText_iff_segmentation.trans Segmentation.exists_iff_tokens.symm

theorem ProgramText.unique {source : List Char} {name constant name' constant' : String}
    (one : ProgramText name constant source) (two : ProgramText name' constant' source) :
    name = name' ∧ constant = constant' := by
  obtain ⟨found, accepted, same⟩ := (programText_iff_tokens ⟨"", source⟩).1 one
  obtain ⟨found', accepted', same'⟩ := (programText_iff_tokens ⟨"", source⟩).1 two
  obtain rfl : found = found' := Except.ok.inj (accepted.symm.trans accepted')
  simpa [programTokens] using same.symm.trans same'

theorem ProgramText.lexemes {source : List Char} {name constant : String}
    (written : ProgramText name constant source) :
    IsName name.toList ∧ IsConstant constant.toList := by
  cases written with
  | spelled _ _ _ named digits => exact ⟨named, digits⟩

theorem programText_returning {constant : String} (digits : IsConstant constant.toList) :
    ProgramText "f" constant
      ("int f(void)\x7breturn ".toList ++ constant.toList ++ ";\x7d".toList) := by
  have written : ProgramText "f" constant _ :=
    @ProgramText.spelled "f" constant [] [' '] [] [] [] [] [] [' '] [] [] [] (by simp [IsBlank])
      (by decide) (by decide) (by decide) digits
  simpa using written

/-! ## Through the stages -/

/-- The kind of a well-formed token says whether it carries a text. -/
theorem Token.WellFormed.unlocated_eq {token : Token} (formed : token.WellFormed) :
    token.unlocated =
      { kind := token.kind
        text := if token.kind.spelling?.isSome then none else some (token.text.getD "") } := by
  cases formed with
  | fixed nonempty => simp [Token.unlocated, nonempty]
  | identifier _ => rfl
  | constant _ => rfl

/-- Well-formed tokens of the kinds of a program are the tokens of a program. -/
theorem exists_programTokens {tokens : List Token} (formed : ∀ token ∈ tokens, token.WellFormed)
    (kinds : tokens.map Token.kind = Source.programKinds) :
    ∃ name constant, tokens.map Token.unlocated = programTokens name constant := by
  rw [List.map_congr_left fun token member => (formed token member).unlocated_eq]
  simp only [Source.programKinds, List.map_eq_cons_iff, List.map_eq_nil_iff] at kinds
  obtain ⟨_, _, rfl, k0, name, _, rfl, k1, _, _, rfl, k2, _, _, rfl, k3, _, _, rfl, k4,
    _, _, rfl, k5, _, _, rfl, k6, constant, _, rfl, k7, _, _, rfl, k8, _, _, rfl, k9, rfl⟩ := kinds
  simp only [List.map_cons, List.map_nil, k0, k1, k2, k3, k4, k5, k6, k7, k8, k9]
  exact ⟨name.text.getD "", constant.text.getD "", rfl⟩

theorem textAt_unlocated (tokens : List Token) (index : Nat) :
    Source.textAt (tokens.map Token.unlocated) index = Source.textAt tokens index := by
  rw [Source.textAt, Source.textAt, List.getElem?_map]
  cases tokens[index]? <;> rfl

/-- What compiles has the tokens of a program. -/
theorem tokens_of_assemble {selection : Option String} {platform file source text : String}
    (compiled : assemble selection platform file source = .ok text) :
    ∃ found, (Buffer.ofString file source).tokens = .ok found ∧
      found.map Token.kind = Source.programKinds := by
  rw [assemble_eq] at compiled
  obtain ⟨target, -, compiled⟩ := bind_eq_ok_iff.1 compiled
  obtain ⟨found, accepted, compiled⟩ := bind_eq_ok_iff.1 compiled
  obtain ⟨program, parsed, -⟩ := bind_eq_ok_iff.1 compiled
  exact ⟨found, mapError_eq_ok_iff.1 accepted, (Source.derive_eq_ok_iff.1 parsed).1⟩

/-- The tokens of a program compile to its listing, unless the constant is not representable. -/
theorem assemble_of_tokens {selection : Option String} {platform file source : String}
    {target : Target} {found : List Token} {name constant : String}
    (chosen : Options.resolveTarget { target := selection } platform = .ok target)
    (accepted : (Buffer.ofString file source).tokens = .ok found)
    (same : found.map Token.unlocated = programTokens name constant)
    (named : IsName name.toList) (digits : IsConstant constant.toList) (text : String) :
    assemble selection platform file source = .ok text ↔
      Representable constant.toList ∧
        text = listing (target.symbol name) (toString (constantValue constant.toList)) := by
  have kinds : found.map Token.kind = Source.programKinds := by
    have := congrArg (List.map Token.kind) same
    rwa [List.map_map] at this
  have parsed : Source.derive found (Text.splitLines source) = .ok (.ofPhrase found) :=
    Source.derive_eq_ok_iff.2 ⟨kinds, rfl⟩
  have nameText : Source.textAt found 1 = some name := by
    rw [← textAt_unlocated, same]
    rfl
  have constantText : Source.textAt found 7 = some constant := by
    rw [← textAt_unlocated, same]
    rfl
  have lowered : (Source.Program.ofPhrase found).lower =
      ((Numeral.read (Numeral.baseOf constant) constant).mapError Failure.numeral).map
        (Machine.Program.returning name) := Source.Program.lower_eq nameText rfl constantText
  rw [assemble_eq, chosen, accepted]
  change (Source.derive found _ >>= _) = _ ↔ _
  rw [parsed]
  change (Source.Program.lower _ >>= _) = _ ↔ _
  rw [lowered]
  constructor
  · intro compiled
    obtain ⟨machine, low, compiled⟩ := bind_eq_ok_iff.1 compiled
    obtain ⟨value, read, rfl⟩ := map_eq_ok_iff.1 low
    obtain ⟨-, -, emitted⟩ := bind_eq_ok_iff.1 compiled
    rw [Machine.Program.emit_returning target value named.ne_empty] at emitted
    obtain ⟨written, write, rfl⟩ := map_eq_ok_iff.1 emitted
    obtain ⟨small, rfl⟩ := (write_constant_iff digits).1
      ⟨value, mapError_eq_ok_iff.1 read, mapError_eq_ok_iff.1 write⟩
    exact ⟨small, rfl⟩
  · rintro ⟨small, rfl⟩
    obtain ⟨value, read, write⟩ := (write_constant_iff digits).2 ⟨small, rfl⟩
    rw [read]
    change (Machine.Program.returning name value).emit target = _
    rw [Machine.Program.emit_returning target value named.ne_empty, write]
    rfl

/-- A source text compiles for a target just if it spells a program with a representable constant, and
    the assembly text is the listing of that program. No text spells two programs. -/
theorem assemble_ok_iff_programText {selection : Option String} {platform : String} {target : Target}
    (chosen : Options.resolveTarget { target := selection } platform = .ok target)
    (file source : String) :
    (∀ text, assemble selection platform file source = .ok text ↔
      ∃ name constant, ProgramText name constant source.toList ∧
        Representable constant.toList ∧
        text = listing (target.symbolPrefix ++ name) (toString (constantValue constant.toList))) ∧
    ∀ name constant name' constant', ProgramText name constant source.toList →
      ProgramText name' constant' source.toList → name = name' ∧ constant = constant' := by
  let buffer := Buffer.ofString file source
  refine ⟨fun text => ⟨?_, ?_⟩, fun _ _ _ _ one two => one.unique two⟩
  · intro compiled
    obtain ⟨found, accepted, kinds⟩ := tokens_of_assemble compiled
    obtain ⟨first, pieces, rfl, segmentation⟩ := Segmentation.of_tokens_eq accepted
    obtain ⟨name, constant, same⟩ :=
      exists_programTokens (List.forall_mem_map.2 segmentation.wellFormed) kinds
    have written := (programText_iff_tokens buffer).2 ⟨_, accepted, same⟩
    obtain ⟨named, digits⟩ := written.lexemes
    exact ⟨name, constant, written,
      (assemble_of_tokens chosen accepted same named digits text).1 compiled⟩
  · rintro ⟨name, constant, written, result⟩
    obtain ⟨found, accepted, same⟩ := (programText_iff_tokens buffer).1 written
    obtain ⟨named, digits⟩ := written.lexemes
    exact (assemble_of_tokens chosen accepted same named digits text).2 result

/-- An octal constant, and no blank that is not needed. -/
theorem assemble_ok_iff_programText_octal :
    Options.resolveTarget { target := some "Darwin" } "linux" = .ok .darwin ∧
    ProgramText "f" "017" "int f(void)\x7breturn 017;\x7d".toList ∧
    assemble (some "Darwin") "linux" "f.c" "int f(void)\x7breturn 017;\x7d" =
      .ok "        .globl  _f\n_f:\n        movl    $15, %eax\n        ret\n\n" := by
  have chosen : Options.resolveTarget { target := some "Darwin" } "linux" = .ok .darwin := rfl
  have written : ProgramText "f" "017" "int f(void)\x7breturn 017;\x7d".toList :=
    @ProgramText.spelled "f" "017" [] [' '] [] [] [] [] [] [' '] [] [] [] (by simp [IsBlank])
      (by decide) (by decide) (by decide) (by decide)
  have value : constantValue "017".toList = 15 := by decide
  have small : Representable "017".toList := by
    rw [Representable, if_pos (by decide), value]
    exact Numeral.small_of_lt (by decide)
  obtain ⟨compiles, -⟩ := assemble_ok_iff_programText chosen "f.c" "int f(void)\x7breturn 017;\x7d"
  have text : listing (Target.darwin.symbolPrefix ++ "f") (toString 15) =
      "        .globl  _f\n_f:\n        movl    $15, %eax\n        ret\n\n" := by decide
  rw [← value] at text
  exact ⟨chosen, written, (compiles _).2 ⟨"f", "017", written, small, text.symm⟩⟩

end MicroC
