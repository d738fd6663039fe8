import MicroC.Proofs.Cutting
import MicroC.Proofs.Pipeline
import Mathlib.Data.List.Chain

/-! # Segmentations

A segmentation reads a text as well-formed tokens with blanks around them, where two words or constants
never touch. Cutting a text into tokens finds a segmentation, and every text that has one is cut into
just its tokens. So a text has at most one segmentation: no character is lost, doubled or given to
another token.
-/

namespace MicroC

/-- The text is the first gap and then each token with the gap behind it. -/
structure Segmentation (source first : List Char) (pieces : List (Token × List Char)) : Prop where
  source_eq : source = first ++ pieces.flatMap fun piece => piece.1.spelling ++ piece.2
  first_blank : ∀ c ∈ first, IsBlank c
  gap_blank : ∀ piece ∈ pieces, ∀ c ∈ piece.2, IsBlank c
  wellFormed : ∀ piece ∈ pieces, piece.1.WellFormed
  apart : pieces.IsChain fun piece next =>
    piece.1.kind.isWord = true → next.1.kind.isWord = true → piece.2 ≠ []

namespace Segmentation

theorem nil_iff {source first : List Char} :
    Segmentation source first [] ↔ source = first ∧ ∀ c ∈ first, IsBlank c := by
  constructor
  · intro segmentation
    exact ⟨by simpa using segmentation.source_eq, segmentation.first_blank⟩
  · rintro ⟨rfl, blank⟩
    exact
      { source_eq := by simp
        first_blank := blank
        gap_blank := by simp
        wellFormed := by simp
        apart := .nil }

/-- The gap behind the first token is the first gap of the rest. -/
theorem cons_iff {source first gap : List Char} {token : Token}
    {pieces : List (Token × List Char)} :
    Segmentation source first ((token, gap) :: pieces) ↔
      ∃ rest, source = first ++ (token.spelling ++ rest) ∧ (∀ c ∈ first, IsBlank c) ∧
        token.WellFormed ∧
        (∀ next ∈ pieces.head?,
          token.kind.isWord = true → next.1.kind.isWord = true → gap ≠ []) ∧
        Segmentation rest gap pieces := by
  constructor
  · intro segmentation
    obtain ⟨apart, later⟩ := List.isChain_cons.1 segmentation.apart
    refine ⟨gap ++ pieces.flatMap fun piece => piece.1.spelling ++ piece.2, ?_,
      segmentation.first_blank, segmentation.wellFormed _ List.mem_cons_self, apart, ?_⟩
    · simpa [List.flatMap_cons] using segmentation.source_eq
    · exact
        { source_eq := rfl
          first_blank := segmentation.gap_blank _ List.mem_cons_self
          gap_blank := fun piece member =>
            segmentation.gap_blank piece (List.mem_cons_of_mem _ member)
          wellFormed := fun piece member =>
            segmentation.wellFormed piece (List.mem_cons_of_mem _ member)
          apart := later }
  · rintro ⟨rest, rfl, blank, formed, apart, segmentation⟩
    exact
      { source_eq := by rw [List.flatMap_cons, segmentation.source_eq]; simp
        first_blank := blank
        gap_blank := by
          intro piece member
          rcases List.mem_cons.1 member with rfl | member
          · exact segmentation.first_blank
          · exact segmentation.gap_blank piece member
        wellFormed := by
          intro piece member
          rcases List.mem_cons.1 member with rfl | member
          · exact formed
          · exact segmentation.wellFormed piece member
        apart := List.isChain_cons.2 ⟨apart, segmentation.apart⟩ }

/-- What follows a word is a boundary: a blank, a delimiter or the end. -/
theorem boundary {rest gap : List Char} {pieces : List (Token × List Char)}
    (segmentation : Segmentation rest gap pieces)
    (apart : ∀ next ∈ pieces.head?, next.1.kind.isWord = true → gap ≠ []) :
    atBoundary rest = true := by
  rw [atBoundary_iff]
  intro c head
  rw [isWordChar_eq_false_iff]
  cases gap with
  | cons d gap =>
      rw [segmentation.source_eq] at head
      obtain rfl : d = c := by simpa using head
      exact (segmentation.first_blank d List.mem_cons_self).not_inWord
  | nil =>
      cases pieces with
      | nil =>
          rw [segmentation.source_eq] at head
          simp at head
      | cons piece pieces =>
          obtain ⟨next, after⟩ := piece
          obtain ⟨later, rfl, -, formed, -, -⟩ := cons_iff.1 segmentation
          have other : next.kind.isWord = false := by
            rw [Bool.eq_false_iff]
            exact fun word => apart _ rfl word rfl
          obtain ⟨d, single, known⟩ := formed.delimiter other
          obtain rfl : d = c := by simpa [single] using head
          exact (isDelimiter_of_delimiter? known).not_inWord

/-- Behind a boundary, the next word can only stand after a gap. -/
theorem gap_ne_nil {rest gap : List Char} {pieces : List (Token × List Char)}
    (segmentation : Segmentation rest gap pieces) (boundary : atBoundary rest = true) :
    ∀ next ∈ pieces.head?, next.1.kind.isWord = true → gap ≠ [] := by
  rintro ⟨next, after⟩ head word rfl
  cases pieces with
  | nil => cases head
  | cons piece pieces =>
      cases head
      obtain ⟨later, rfl, -, formed, -, -⟩ := cons_iff.1 segmentation
      obtain ⟨c, spelling, spelled⟩ := List.exists_cons_of_ne_nil formed.spelling_ne_nil
      have outside : isWordChar c = false := atBoundary_iff.1 boundary c (by simp [spelled])
      have inside : InWord c := formed.inWord word c (by simp [spelled])
      rw [← isWordChar_iff, outside] at inside
      cases inside

theorem stops_spelling {token : Token} (formed : token.WellFormed) (rest : List Char) :
    Stops isSpace (token.spelling ++ rest) := by
  obtain ⟨c, spelling, spelled⟩ := List.exists_cons_of_ne_nil formed.spelling_ne_nil
  intro d head
  obtain rfl : c = d := by simpa [spelled] using head
  rw [isSpace_eq_false_iff]
  exact formed.not_blank c (by simp [spelled])

/-- A text with a segmentation is cut into its tokens. -/
theorem cuts (buffer : Buffer) {cursor : Cursor} {first : List Char}
    {pieces : List (Token × List Char)} (segmentation : Segmentation cursor.rest first pieces) :
    ∃ found finish, Cuts buffer cursor (.ok found) finish ∧
      found.map Token.unlocated = pieces.map fun piece => piece.1.unlocated := by
  induction pieces generalizing cursor first with
  | nil =>
      obtain ⟨same, blank⟩ := nil_iff.1 segmentation
      have ahead : cursor.rest = first ++ [] := by rw [same, List.append_nil]
      obtain ⟨skips, after⟩ := Cursor.skips_of_blank ahead blank (by simp [Stops])
      exact ⟨[], _, .ended skips after, rfl⟩
  | cons piece pieces ih =>
      obtain ⟨token, gap⟩ := piece
      obtain ⟨rest, ahead, blank, formed, apart, later⟩ := cons_iff.1 segmentation
      obtain ⟨skips, start⟩ := Cursor.skips_of_blank ahead blank (stops_spelling formed rest)
      have found : Finds token.spelling rest (.ok token) :=
        .token formed fun word => later.boundary fun next head => apart next head word
      have after :
          ((cursor.advanceBy first.length).advanceBy token.spelling.length).rest = rest := by
        rw [Cursor.rest_advanceBy, start, List.drop_left]
      obtain ⟨tokens, finish, cut, same⟩ := ih (after.symm ▸ later)
      exact ⟨_, finish, .scanned skips start found cut, by simp [same, Token.unlocated]⟩

/-- Every text that is cut into tokens has a segmentation into them. -/
theorem of_cuts {buffer : Buffer} {cursor finish : Cursor}
    {outcome : Except Diagnostic (List Token)} (cut : Cuts buffer cursor outcome finish) :
    ∀ tokens, outcome = .ok tokens →
      ∃ first pieces, pieces.map Prod.fst = tokens ∧ Segmentation cursor.rest first pieces := by
  induction cut with
  | @ended cursor finish blanks skips none =>
      rintro _ ⟨⟩
      refine ⟨blanks, [], rfl, nil_iff.2 ⟨?_, skips.blank⟩⟩
      simpa [none] using skips.ahead
  | refused => rintro _ ⟨⟩
  | @scanned cursor start finish blanks taken rest token outcome skips ahead found cut ih =>
      intro tokens ok
      cases outcome with
      | error diagnostic => cases ok
      | ok later =>
          cases ok
          obtain ⟨gap, pieces, rfl, segmentation⟩ := ih later rfl
          rw [Cursor.rest_advanceBy, ahead, List.drop_left] at segmentation
          cases found with
          | token formed boundary =>
              have formed' :
                  Token.WellFormed { token with location := some (start.location buffer) } :=
                formed.relocate rfl
              refine ⟨blanks, (_, gap) :: pieces, rfl, cons_iff.2 ⟨rest, ?_, skips.blank, formed',
                fun next head word => segmentation.gap_ne_nil (boundary word) next head,
                segmentation⟩⟩
              rw [skips.ahead, ahead]
              rfl

/-- Locations are not part of a segmentation. -/
theorem relabel {source first : List Char} {pieces : List (Token × List Char)} {tokens : List Token}
    (segmentation : Segmentation source first pieces)
    (same : (pieces.map fun piece => piece.1.unlocated) = tokens.map Token.unlocated) :
    ∃ relabelled, relabelled.map Prod.fst = tokens ∧ Segmentation source first relabelled := by
  induction pieces generalizing source first tokens with
  | nil =>
      obtain rfl : tokens = [] := by simpa using same.symm
      exact ⟨[], rfl, segmentation⟩
  | cons piece pieces ih =>
      obtain ⟨token, gap⟩ := piece
      obtain ⟨rest, rfl, blank, formed, apart, later⟩ := cons_iff.1 segmentation
      cases tokens with
      | nil => cases same
      | cons other tokens =>
          obtain ⟨equal, same⟩ := List.cons.inj same
          obtain ⟨relabelled, rfl, segmentation⟩ := ih later same
          have kind : other.kind = token.kind := (congrArg Token.kind equal).symm
          refine ⟨(other, gap) :: relabelled, rfl, cons_iff.2 ⟨rest, ?_, blank,
            formed.relocate equal, fun next head word => ?_, segmentation⟩⟩
          · rw [Token.spelling_congr equal]
          · rw [kind] at word
            have boundary := later.boundary fun next head => apart next head word
            exact segmentation.gap_ne_nil boundary next head

theorem first_eq {source first : List Char} {pieces : List (Token × List Char)}
    (segmentation : Segmentation source first pieces) : source.takeWhile isSpace = first := by
  have all : ∀ c ∈ first, isSpace c = true :=
    fun c member => isSpace_iff.2 (segmentation.first_blank c member)
  cases pieces with
  | nil =>
      rw [(nil_iff.1 segmentation).1]
      exact List.takeWhile_eq_self_iff.2 all
  | cons piece pieces =>
      obtain ⟨token, gap⟩ := piece
      obtain ⟨rest, rfl, -, formed, -, -⟩ := cons_iff.1 segmentation
      exact takeWhile_of_stops all (stops_spelling formed rest)

/-- With the same tokens the gaps are the same too: a gap is all the blanks there are. -/
theorem gaps_unique {source first first' : List Char} {pieces pieces' : List (Token × List Char)}
    (one : Segmentation source first pieces) (two : Segmentation source first' pieces')
    (same : (pieces.map fun piece => piece.1.unlocated) =
      pieces'.map fun piece => piece.1.unlocated) :
    first = first' ∧ (pieces.map fun piece => (piece.1.unlocated, piece.2)) =
      pieces'.map fun piece => (piece.1.unlocated, piece.2) := by
  have firsts : first = first' := one.first_eq.symm.trans two.first_eq
  induction pieces generalizing source first first' pieces' with
  | nil =>
      obtain rfl : pieces' = [] := by simpa using same.symm
      exact ⟨firsts, rfl⟩
  | cons piece pieces ih =>
      cases pieces' with
      | nil => cases same
      | cons piece' pieces' =>
          obtain ⟨token, gap⟩ := piece
          obtain ⟨token', gap'⟩ := piece'
          obtain ⟨equal, equals⟩ := List.cons.inj same
          obtain ⟨rest, whole, -, -, -, later⟩ := cons_iff.1 one
          obtain ⟨rest', whole', -, -, -, later'⟩ := cons_iff.1 two
          have rests : rest = rest' := by
            rw [whole, firsts, Token.spelling_congr equal] at whole'
            exact List.append_cancel_left (List.append_cancel_left whole')
          subst rests
          have gaps : gap = gap' := later.first_eq.symm.trans later'.first_eq
          obtain ⟨-, pairs⟩ := ih later later' equals gaps
          have head : token.unlocated = token'.unlocated := equal
          exact ⟨firsts, by rw [List.map_cons, List.map_cons, pairs, head, gaps]⟩

theorem tokens_eq {buffer : Buffer} {first : List Char} {pieces : List (Token × List Char)}
    (segmentation : Segmentation buffer.chars first pieces) :
    ∃ found, buffer.tokens = .ok found ∧
      found.map Token.unlocated = pieces.map fun piece => piece.1.unlocated := by
  have start : Segmentation (Cursor.start buffer.chars).rest first pieces := segmentation
  obtain ⟨found, finish, cut, same⟩ := start.cuts buffer
  exact ⟨found, Buffer.tokens_eq_iff.2 ⟨finish, cut⟩, same⟩

theorem of_tokens_eq {buffer : Buffer} {found : List Token} (accepted : buffer.tokens = .ok found) :
    ∃ first pieces, pieces.map Prod.fst = found ∧ Segmentation buffer.chars first pieces := by
  obtain ⟨finish, cut⟩ := Buffer.tokens_eq_iff.1 accepted
  exact of_cuts cut found rfl

/-- A buffer is cut into some tokens, wherever they stand, just if it has a segmentation into
    them. -/
theorem exists_iff_tokens {buffer : Buffer} {tokens : List Token} :
    (∃ found, buffer.tokens = .ok found ∧ found.map Token.unlocated = tokens.map Token.unlocated) ↔
      ∃ first pieces, pieces.map Prod.fst = tokens ∧ Segmentation buffer.chars first pieces := by
  constructor
  · rintro ⟨found, accepted, same⟩
    obtain ⟨first, pieces, rfl, segmentation⟩ := of_tokens_eq accepted
    obtain ⟨relabelled, labels, segmentation⟩ :=
      segmentation.relabel (by rw [← same, List.map_map]; rfl)
    exact ⟨first, relabelled, labels, segmentation⟩
  · rintro ⟨first, pieces, rfl, segmentation⟩
    obtain ⟨found, accepted, same⟩ := segmentation.tokens_eq
    refine ⟨found, accepted, ?_⟩
    rw [same, List.map_map]
    rfl

theorem tokens_unique {source first first' : List Char} {pieces pieces' : List (Token × List Char)}
    (one : Segmentation source first pieces) (two : Segmentation source first' pieces') :
    (pieces.map fun piece => piece.1.unlocated) =
      pieces'.map fun piece => piece.1.unlocated := by
  let buffer : Buffer := ⟨"", source⟩
  have one : Segmentation buffer.chars first pieces := one
  have two : Segmentation buffer.chars first' pieces' := two
  obtain ⟨found, accepted, same⟩ := one.tokens_eq
  obtain ⟨found', accepted', same'⟩ := two.tokens_eq
  obtain rfl : found = found' := Except.ok.inj (accepted.symm.trans accepted')
  exact same.symm.trans same'

end Segmentation

theorem Token.WellFormed.exists_lexeme {token : Token} (formed : token.WellFormed) :
    ∃ found, token.lexeme? = some found := by
  cases formed with
  | fixed spelled => exact Option.isSome_iff_exists.1 spelled
  | identifier _ | constant _ => exact ⟨_, rfl⟩

theorem Buffer.spelled {buffer : Buffer} {found : List Token} (accepted : buffer.tokens = .ok found) :
    ∀ token ∈ found, ∃ text, token.lexeme? = some text := by
  obtain ⟨first, pieces, rfl, segmentation⟩ := Segmentation.of_tokens_eq accepted
  intro token member
  exact (List.forall_mem_map.2 segmentation.wellFormed token member).exists_lexeme

/-- The tokens of a buffer are those of its segmentation, and it has no other. -/
theorem lex_ok_iff_segmentation (buffer : Buffer) (tokens : List Token) :
    ((∃ found, buffer.lex.outcome.1 = .ok found ∧
        found.map Token.unlocated = tokens.map Token.unlocated) ↔
      ∃ first pieces, pieces.map Prod.fst = tokens ∧ Segmentation buffer.chars first pieces) ∧
    ∀ first first' pieces pieces', Segmentation buffer.chars first pieces →
      Segmentation buffer.chars first' pieces' →
      first = first' ∧ (pieces.map fun piece => (piece.1.unlocated, piece.2)) =
        pieces'.map fun piece => (piece.1.unlocated, piece.2) := by
  refine ⟨?_, ?_⟩
  · simp only [Buffer.lex_eq_ok_iff]
    exact Segmentation.exists_iff_tokens
  · intro first first' pieces pieces' one two
    exact one.gaps_unique two (one.tokens_unique two)

/-- A keyword, a name that starts like it, and a delimiter that needs no gap. -/
theorem lex_ok_iff_segmentation_intx :
    Segmentation "int\tintx; ".toList [] [({ kind := .intKeyword }, ['\t']),
      ({ kind := .identifier, text := some "intx" }, []), ({ kind := .semicolon }, [' '])] ∧
    (∃ found, (Buffer.ofString "a.c" "int\tintx; ").lex.outcome.1 = .ok found ∧
      found.map Token.unlocated =
        [{ kind := .intKeyword }, { kind := .identifier, text := some "intx" },
          { kind := .semicolon }]) ∧
    ∀ first pieces, Segmentation "int\tintx; ".toList first pieces → first = [] := by
  have segmentation : Segmentation "int\tintx; ".toList [] [({ kind := .intKeyword }, ['\t']),
      ({ kind := .identifier, text := some "intx" }, []), ({ kind := .semicolon }, [' '])] :=
    { source_eq := by decide
      first_blank := by simp
      gap_blank := by simp [IsBlank]
      wellFormed := by
        simp only [List.mem_cons, List.not_mem_nil, or_false]
        rintro piece (rfl | rfl | rfl)
        · exact .fixed rfl
        · exact .identifier (by decide)
        · exact .fixed rfl
      apart := by simp [Token.Kind.isWord] }
  obtain ⟨lexed, unique⟩ := lex_ok_iff_segmentation (Buffer.ofString "a.c" "int\tintx; ")
    [{ kind := .intKeyword }, { kind := .identifier, text := some "intx" }, { kind := .semicolon }]
  exact ⟨segmentation, lexed.2 ⟨[], _, rfl, segmentation⟩,
    fun first pieces other => (unique first [] pieces _ other segmentation).1⟩

end MicroC
