import MicroC.Proofs.Resumption

/-! # Scanning makes progress

A scanned token moves the cursor along its line by its lexeme, which is all of a word or a constant.
So every token uses up at least one character, and a stream of tokens comes to its end. Only at the
end of the text, where a stream no longer scans, a scan finds a token without characters.

Main statements: `scanToken_passes` and `takeKeyword_passes`, what a scan moves over,
`Stream.length_le_of_told`, how many tokens a stream can tell, and `scanning_progresses`.
-/

namespace MicroC

theorem Token.Kind.spelling?_of_keyword {kind : Token.Kind} {chars : List Char}
    (member : (kind, chars) ∈ keywords) : kind.spelling? = some (String.ofList chars) := by
  simp only [keywords, List.mem_cons, Prod.mk.injEq, List.not_mem_nil, or_false] at member
  rcases member with ⟨rfl, rfl⟩ | ⟨rfl, rfl⟩ | ⟨rfl, rfl⟩ <;> rfl

namespace Cursor

/-- The cursor has ahead what the text holds from its offset on. Its line and column may be
    anything. -/
def ReadsFrom (chars : List Char) (cursor : Cursor) : Prop :=
  cursor.rest = chars.drop cursor.offset

/-- The cursor moves along its line over a piece of the text, which is not empty. -/
structure Passes (chars : List Char) (cursor : Cursor) (piece : String) (after : Cursor) :
    Prop where
  length_pos : 1 ≤ piece.length
  extract_eq : chars.extract cursor.offset after.offset = piece.toList
  no_feed : '\n' ∉ piece.toList
  after_eq : after = cursor.along piece.length

variable {chars rest : List Char} {cursor : Cursor}

theorem ReadsFrom.passes {piece : String} (reads : cursor.ReadsFrom chars)
    (ahead : cursor.rest = piece.toList ++ rest) (nonempty : piece.toList ≠ [])
    (feedless : '\n' ∉ piece.toList) :
    cursor.Passes chars piece (cursor.advanceBy piece.length) := by
  have moved : cursor.advanceBy piece.length = cursor.along piece.length :=
    advanceBy_eq_along ahead feedless
  have length : piece.toList.length = piece.length := String.length_toList
  refine ⟨?_, ?_, feedless, moved⟩
  · rw [← length]
    exact List.length_pos_iff.2 nonempty
  · rw [moved, List.extract_eq_take_drop, ← reads, ahead]
    simp [along, ← length]

theorem ReadsFrom.getElem?_behind {taken : List Char} (reads : cursor.ReadsFrom chars)
    (ahead : cursor.rest = taken ++ rest) :
    chars[cursor.offset + taken.length]? = rest.head? := by
  have behind : chars.drop (cursor.offset + taken.length) = rest := by
    rw [← List.drop_drop, ← reads, ahead, List.drop_left]
  rw [← behind, List.head?_drop]

theorem ReadsFrom.rest_ne_nil (reads : cursor.ReadsFrom chars)
    (inside : cursor.offset < chars.length) : cursor.rest ≠ [] := by
  rw [reads]
  simpa using inside

/-- A scan that finds a token moves over its lexeme, and stops behind a word or constant only where
    it ends. -/
theorem scanToken_passes {buffer : Buffer} {token : Token} {after : Cursor}
    (reads : cursor.ReadsFrom buffer.chars) (nonempty : cursor.rest ≠ [])
    (scan : cursor.scanToken buffer = (.ok token, after)) :
    ∃ lexeme, token.lexeme? = some lexeme ∧ cursor.Passes buffer.chars lexeme after ∧
      (token.kind.isWord = true →
        ∀ c, buffer.chars[after.offset]? = some c → ¬ InWord c) := by
  obtain ⟨taken, rest, outcome, ahead, found, made⟩ := scanToken_finds buffer nonempty
  rw [scan] at made
  have dark := found.no_feed
  cases found with
  | malformed | octal | stranger => cases made
  | @token bare rest formed boundary =>
      obtain ⟨lexeme, spelled⟩ := formed.exists_lexeme
      have spelling : bare.spelling = lexeme.toList := by
        rw [Token.spelling, spelled, Option.getD_some]
      have filled := formed.spelling_ne_nil
      obtain ⟨same, rfl⟩ := Prod.mk.inj made
      cases same
      rw [spelling] at ahead filled dark ⊢
      have passes := reads.passes ahead filled dark
      refine ⟨lexeme, spelled, passes, fun word c behind => ?_⟩
      -- What stands behind the lexeme is the first character that is left.
      have last : (cursor.advanceBy lexeme.toList.length).offset =
          cursor.offset + lexeme.toList.length := congrArg offset passes.after_eq
      rw [last, reads.getElem?_behind ahead] at behind
      exact isWordChar_eq_false_iff.1 (atBoundary_iff.1 (boundary word) c behind)

/-- A keyword is taken by its spelling. -/
theorem takeKeyword_passes {kind : Token.Kind} {after : Cursor} (reads : cursor.ReadsFrom chars)
    (taken : cursor.takeKeyword = (some kind, after)) :
    ∃ spelling, kind.spelling? = some spelling ∧ cursor.Passes chars spelling after := by
  unfold takeKeyword at taken
  split at taken
  next other spelling found =>
    cases taken
    have member := List.mem_of_find?_eq_some found
    have stands := List.find?_some found
    obtain ⟨starts, -⟩ := Bool.and_eq_true_iff.1 stands
    obtain ⟨rest, ahead⟩ := List.isPrefixOf_iff_prefix.1 starts
    have word := isWord_of_mem_reserved (Token.Kind.reserved_of_keyword member)
    refine ⟨String.ofList spelling, Token.Kind.spelling?_of_keyword member, ?_⟩
    have length : spelling.length = (String.ofList spelling).length := by simp
    have split : cursor.rest = (String.ofList spelling).toList ++ rest := by
      rw [String.toList_ofList, ahead]
    rw [length]
    apply reads.passes split
    · rw [String.toList_ofList]
      exact List.length_pos_iff.1 (length_pos_of_keyword? found)
    · rw [String.toList_ofList]
      exact fun feed => absurd (word.inWord _ feed) (by decide)
  next => cases taken

theorem Passes.ne {piece : String} {after : Cursor} (passes : cursor.Passes chars piece after) :
    after ≠ cursor := by
  intro same
  have moved : after.offset = cursor.offset + piece.length := congrArg offset passes.after_eq
  have := passes.length_pos
  rw [same] at moved
  omega

theorem takeKeyword_ne_self_iff (reads : cursor.ReadsFrom chars) :
    cursor.takeKeyword.2 ≠ cursor ↔ cursor.takeKeyword.1 ≠ none := by
  cases taken : cursor.takeKeyword with
  | mk kind after =>
      cases kind with
      | some kind =>
          obtain ⟨spelling, -, passes⟩ := takeKeyword_passes reads taken
          exact iff_of_true passes.ne (by simp)
      | none =>
          unfold takeKeyword at taken
          split at taken <;> cases taken
          exact iff_of_false (by simp) (by simp)

end Cursor

namespace Stream

variable {stream : Stream}

/-- A token uses up characters, and any other reply closes the stream. -/
theorem next_cases (live : stream.live = true) :
    (∃ token, stream.next.1 = .token token ∧ stream.next.2.live = true ∧
      stream.next.2.cursor.rest.length < stream.cursor.rest.length) ∨
    ((∀ token, stream.next.1 ≠ .token token) ∧ stream.next.2.live = false) := by
  have meets := meets_next live
  generalize stream.next = reached at meets
  obtain ⟨reply, after⟩ := reached
  cases meets with
  | ended => exact .inr ⟨by simp, rfl⟩
  | refused => exact .inr ⟨by simp, rfl⟩
  | @token start blanks taken rest token skips ahead found =>
      refine .inl ⟨_, rfl, live, ?_⟩
      have filled := List.length_pos_iff.2 found.taken_ne_nil
      rw [skips.ahead, Cursor.rest_advanceBy, ahead, List.drop_left]
      simp only [List.length_append]
      omega

/-- A stream tells at most as many tokens as it has characters ahead, and then it is closed. -/
theorem length_le_of_told (live : stream.live = true) {tokens : List Token} {last : Reply}
    (closing : ∀ token, last ≠ .token token)
    (pass : stream.told (List.replicate (tokens.length + 1) .next) = tokens.map .token ++ [last]) :
    tokens.length ≤ stream.cursor.rest.length ∧
      (stream.after (List.replicate (tokens.length + 1) .next)).live = false := by
  induction tokens generalizing stream with
  | nil =>
      rw [List.length_nil, List.replicate_succ, told_next] at pass
      obtain ⟨told, -⟩ := List.cons.inj pass
      obtain ⟨token, found, -, -⟩ | ⟨-, closed⟩ := next_cases live
      · exact absurd (told.symm.trans found) (closing token)
      · exact ⟨Nat.zero_le _, closed⟩
  | cons token tokens ih =>
      rw [List.length_cons, List.replicate_succ, told_next] at pass
      obtain ⟨told, later⟩ := List.cons.inj pass
      obtain ⟨-, -, opened, shorter⟩ | ⟨other, -⟩ := next_cases live
      · obtain ⟨bounded, closed⟩ := ih opened later
        rw [List.length_cons, List.replicate_succ, after_cons]
        exact ⟨by omega, closed⟩
      · exact absurd told (other token)

end Stream

/-- Wherever a cursor stands in a text before its end, a scan fails or moves it over the lexeme of
    the token that it finds. The lexeme is that piece of the text and has at least one character,
    none of them a line feed, and behind a keyword, a name or a constant no further character of a
    word stands. Taking a keyword moves the cursor if there is one, and then over its spelling. So a
    stream closes after at most as many tokens as the text has characters, although a scan at the
    end of the text finds a name without characters and does not move. -/
theorem scanning_progresses (buffer : Buffer) :
    (∀ cursor : Cursor, cursor.ReadsFrom buffer.chars →
      (cursor.offset < buffer.chars.length →
        (∃ diagnostic, (cursor.scanToken buffer).1 = .error diagnostic) ∨
        ∃ token after lexeme, cursor.scanToken buffer = (.ok token, after) ∧
          token.lexeme? = some lexeme ∧ cursor.Passes buffer.chars lexeme after ∧
          (token.kind.isWord = true →
            ∀ c, buffer.chars[after.offset]? = some c → ¬ InWord c)) ∧
      (cursor.takeKeyword.2 ≠ cursor ↔ cursor.takeKeyword.1 ≠ none) ∧
      (∀ kind after, cursor.takeKeyword = (some kind, after) →
        ∃ spelling, kind.spelling? = some spelling ∧ cursor.Passes buffer.chars spelling after) ∧
      (buffer.chars.length ≤ cursor.offset →
        cursor.scanToken buffer =
          (.ok { kind := .identifier, text := some "", location := some (cursor.location buffer) },
            cursor))) ∧
    ∃ (tokens : List Token) (last : Stream.Reply),
      tokens.length ≤ buffer.chars.length ∧
      (buffer.lex.outcome.1 = .ok tokens ∧ last = .nothing ∨
        ∃ failure, buffer.lex.outcome.1 = .error failure ∧ last = .failed failure) ∧
      (Stream.start buffer).told (List.replicate (tokens.length + 1) .next) =
        tokens.map .token ++ [last] ∧
      ((Stream.start buffer).after (List.replicate (tokens.length + 1) .next)).live = false := by
  constructor
  · intro cursor reads
    refine ⟨fun inside => ?_, Cursor.takeKeyword_ne_self_iff reads,
      fun kind after => Cursor.takeKeyword_passes reads, fun past => ?_⟩
    · cases scan : cursor.scanToken buffer with
      | mk outcome after =>
          cases outcome with
          | error diagnostic => exact .inl ⟨diagnostic, rfl⟩
          | ok token =>
              obtain ⟨lexeme, found⟩ :=
                Cursor.scanToken_passes reads (reads.rest_ne_nil inside) scan
              exact .inr ⟨token, after, lexeme, rfl, found⟩
    · have nothing : cursor.rest = [] := by
        rw [reads]
        exact List.drop_eq_nil_of_le past
      rw [Cursor.scanToken, nothing]
  · obtain ⟨tokens, last, found, closing, pass⟩ := Stream.exists_pass buffer
    obtain ⟨bounded, closed⟩ := Stream.length_le_of_told rfl closing pass
    exact ⟨tokens, last, bounded, found, pass, closed⟩

/-- A scan of a name, from a cursor that counts lines and columns as it likes. -/
theorem scanning_progresses_name :
    let buffer : Buffer := ⟨"a.c", "int x1;\n".toList⟩
    let cursor : Cursor := ⟨4, 9, 40, 7, "x1;\n".toList⟩
    cursor.ReadsFrom buffer.chars ∧ cursor.offset < buffer.chars.length ∧
      cursor.scanToken buffer =
        (.ok { kind := .identifier, text := some "x1", location := some ⟨"a.c", 9, 40⟩ },
          cursor.along 2) ∧
      cursor.Passes buffer.chars "x1" (cursor.along 2) ∧ ¬ InWord ';' := by
  intro buffer cursor
  have reads : cursor.ReadsFrom buffer.chars := rfl
  have inside : cursor.offset < buffer.chars.length := by decide
  have scan : cursor.scanToken buffer =
      (.ok { kind := .identifier, text := some "x1", location := some ⟨"a.c", 9, 40⟩ },
        cursor.along 2) := rfl
  refine ⟨reads, inside, scan, ?_⟩
  obtain ⟨diagnostic, refused⟩ | ⟨token, after, lexeme, found, spelled, passes, ends⟩ :=
    ((scanning_progresses buffer).1 cursor reads).1 inside
  · rw [scan] at refused
    cases refused
  · rw [scan] at found
    cases found
    cases spelled
    exact ⟨passes, ends rfl ';' rfl⟩

end MicroC
