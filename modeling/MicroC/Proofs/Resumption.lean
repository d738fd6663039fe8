import MicroC.Proofs.Concatenation

/-! # Taking up a stream again

A caller who takes whole tokens and whole stretches of blanks, looks around in between and opens the
stream again after a refusal, loses and repeats nothing. `Meets` says what asking for the next token
does, `perform_whole` what the other requests do; what holds along a history follows by induction.
-/

namespace MicroC

/-! ## What a request does -/

/-- The digits that a problem of the lexer rejects. -/
def Problem.rejected? : Problem → Option (List Char)
  | .malformedToken _ text _ => some text.toList
  | .invalidOctal text => some text.toList
  | _ => none

theorem Finds.taken_eq_spelling {taken rest : List Char} {token : Token}
    (found : Finds taken rest (.ok token)) : taken = token.spelling := by
  cases found
  rfl

theorem Finds.taken_eq_rejected {taken rest : List Char} {problem : Problem}
    (found : Finds taken rest (.error problem)) : taken = problem.rejected?.getD [] := by
  cases found <;> simp [Problem.rejected?]

/-- Rejected digits are all that stand there. -/
theorem Finds.digits_of_rejected {taken rest digits : List Char} {problem : Problem}
    (found : Finds taken rest (.error problem)) (rejected : problem.rejected? = some digits) :
    taken = digits ∧ digits ≠ [] ∧ (∀ d ∈ digits, IsDecimal d) ∧ ∀ d ∈ rest.head?, ¬ IsDecimal d := by
  obtain rfl : taken = digits := by rw [found.taken_eq_rejected, rejected, Option.getD_some]
  refine ⟨rfl, ?_⟩
  cases found with
  | malformed nonempty all starts =>
      refine ⟨nonempty, all, ?_⟩
      rintro _ ⟨⟩ digit
      exact digit.not_startsWord starts
  | octal zero all bad boundary =>
      have stops := Cursor.stops_isDigit boundary
      refine ⟨?_, all, fun d member => isDigit_eq_false_iff.1 (stops d member)⟩
      rintro rfl
      cases zero
  | stranger => cases rejected

/-- Behind the blanks there is nothing more to skip. -/
theorem Cursor.Skips.again {cursor start : Cursor} {blanks : List Char}
    (skips : cursor.Skips blanks start) : start.Skips [] start :=
  ⟨rfl, by simp, rfl, skips.stops⟩

theorem Cursor.Skips.take {chars blanks : List Char} {cursor start : Cursor}
    (skips : cursor.Skips blanks start) (sound : cursor.Sound chars) :
    chars.take start.offset = chars.take cursor.offset ++ blanks := by
  rw [skips.start_eq, sound.take_advanceBy skips.ahead]

/-- A cursor that mirrors another to the end of its text skips the same blanks. -/
theorem Cursor.Mirrors.skips {lines columns : Nat} {blanks : List Char} {cursor start other : Cursor}
    (mirrors : cursor.Mirrors lines columns [] other) (skips : cursor.Skips blanks start) :
    ∃ start', start.Mirrors lines columns [] start' ∧ other.Skips blanks start' := by
  have ahead : other.rest = blanks ++ start.rest := by
    rw [mirrors.rest_eq, List.append_nil, skips.ahead]
  refine ⟨_, ?_, (skips_of_blank ahead skips.blank skips.stops).1⟩
  rw [skips.start_eq]
  exact mirrors.passing skips.ahead

namespace Stream

/-- The requests that step over whole tokens and blanks, or over nothing. -/
def Request.Whole : Request → Prop
  | .next | .restart | .skip | .peek _ | .atEnd | .boundary _ | .line => True
  | _ => False

/-- The text that a reply accounts for. -/
def Reply.taken : Reply → List Char
  | .token found => found.spelling
  | .failed (.diagnosed diagnostic) => diagnostic.problem.rejected?.getD []
  | _ => []

/-- What an open stream meets behind the blanks when it is asked for the next token. -/
inductive Meets (stream : Stream) : Reply → Stream → Prop where
  | ended {finish : Cursor} {blanks : List Char} :
      stream.cursor.Skips blanks finish → finish.rest = [] →
      Meets stream .nothing { stream with cursor := finish, live := false }
  | token {start : Cursor} {blanks taken rest : List Char} {token : Token} :
      stream.cursor.Skips blanks start → start.rest = taken ++ rest → Finds taken rest (.ok token) →
      Meets stream (.token { token with location := some (start.location stream.buffer) })
        { stream with cursor := start.advanceBy taken.length }
  | refused {start : Cursor} {blanks taken rest : List Char} {problem : Problem} :
      stream.cursor.Skips blanks start → start.rest = taken ++ rest →
      Finds taken rest (.error problem) →
      Meets stream
        (.failed (.diagnosed { problem, location := some (start.location stream.buffer),
                               sourceLine := some (start.currentLine stream.buffer) }))
        { stream with cursor := start.advanceBy taken.length, live := false }

theorem Meets.next_eq {stream after : Stream} {reply : Reply} (live : stream.live = true)
    (meets : stream.Meets reply after) : stream.next = (reply, after) := by
  cases meets with
  | ended skips none => simp [next, live, skips.skipSpaces, none]
  | token skips ahead found | refused skips ahead found =>
      have nonempty := found.append_ne_nil
      rw [← ahead] at nonempty
      simp [next, live, skips.skipSpaces, nonempty, Cursor.scanToken_eq _ ahead found, Cursor.report]

theorem meets_next {stream : Stream} (live : stream.live = true) :
    stream.Meets stream.next.1 stream.next.2 := by
  have skips := stream.cursor.skips_skipSpaces
  -- Something is met, and what is met determines the reply.
  suffices ∃ reply after, stream.Meets reply after by
    obtain ⟨reply, after, meets⟩ := this
    rwa [meets.next_eq live]
  by_cases nonempty : stream.cursor.skipSpaces.rest = []
  · exact ⟨_, _, .ended skips nonempty⟩
  · obtain ⟨taken, rest, outcome, ahead, found⟩ := exists_finds nonempty
    cases outcome with
    | ok token => exact ⟨_, _, .token skips ahead found⟩
    | error problem => exact ⟨_, _, .refused skips ahead found⟩

theorem next_closed {stream : Stream} (closed : stream.live = false) :
    stream.next = (.nothing, stream) := by
  simp [next, closed]

/-- Any other whole request steps over blanks at most, and leaves the stream open if it is. -/
theorem perform_whole {request : Request} (whole : request.Whole) (other : request ≠ .next)
    (stream : Stream) :
    (stream.perform request).1.taken = [] ∧
      (stream.perform request).2 =
        { stream with
          cursor := if request = .skip then stream.cursor.skipSpaces else stream.cursor
          live := stream.live || request = .restart } := by
  cases request with
  | next => exact absurd rfl other
  | drain | advance | keyword | scan | run => exact whole.elim
  | restart | skip | atEnd | boundary | line => simp [perform, Reply.taken]
  | peek offset =>
      cases looked : stream.buffer.charAt (stream.cursor.offset + offset) with
      | ok text => simp [perform, looked, Reply.taken]
      | error failure => simp [perform, looked, Reply.taken, Buffer.charAt_error looked]

/-- The replies to the requests for the next token, in their order. -/
def told (stream : Stream) : List Request → List Reply
  | [] => []
  | request :: history =>
      let step := stream.perform request
      if request = .next then step.1 :: step.2.told history else step.2.told history

theorem told_next (stream : Stream) (history : List Request) :
    stream.told (.next :: history) = stream.next.1 :: stream.next.2.told history :=
  rfl

theorem told_other {request : Request} (other : request ≠ .next) (stream : Stream)
    (history : List Request) :
    stream.told (request :: history) = (stream.perform request).2.told history :=
  if_neg other

/-! ## No token is lost or repeated -/

/-- Both streams are open and see the same text behind the blanks. -/
structure Alike (one two : Stream) : Prop where
  buffer_eq : one.buffer = two.buffer
  skipSpaces_eq : one.cursor.skipSpaces = two.cursor.skipSpaces
  live : one.live = true
  live' : two.live = true

theorem Alike.refl {stream : Stream} (live : stream.live = true) : stream.Alike stream :=
  ⟨rfl, rfl, live, live⟩

theorem Alike.next_eq {one two : Stream} (alike : one.Alike two) : one.next = two.next := by
  simp [next, alike.buffer_eq, alike.skipSpaces_eq, alike.live, alike.live']

theorem Alike.perform {one two : Stream} (alike : one.Alike two) {request : Request}
    (whole : request.Whole) (other : request ≠ .next) : (one.perform request).2.Alike two := by
  rw [(perform_whole whole other one).2]
  refine ⟨alike.buffer_eq, ?_, by simp [alike.live], alike.live'⟩
  by_cases skip : request = .skip
  · have again := one.cursor.skips_skipSpaces.again.skipSpaces
    rw [if_pos skip, again, alike.skipSpaces_eq]
  · rw [if_neg skip, alike.skipSpaces_eq]

/-- The tokens and the last reply that one pass over a text gives when cutting it has the outcome. -/
inductive Closes : Except Diagnostic (List Token) → List Token → Reply → Prop where
  | ended (tokens : List Token) : Closes (.ok tokens) tokens .nothing
  | refused (tokens : List Token) (diagnostic : Diagnostic) :
      Closes (.error diagnostic) tokens (.failed (.diagnosed diagnostic))

namespace Closes

variable {outcome : Except Diagnostic (List Token)} {tokens : List Token} {last : Reply}

theorem cons (closes : Closes outcome tokens last) (token : Token) :
    Closes (outcome.map (token :: ·)) (token :: tokens) last := by
  cases closes with
  | ended => exact .ended _
  | refused => exact .refused _ _

theorem ne_token (closes : Closes outcome tokens last) (token : Token) : last ≠ .token token := by
  cases closes <;> nofun

end Closes

/-- An open stream that is asked for nothing but tokens makes one pass over what is left. -/
theorem told_of_cuts {buffer : Buffer} {cursor finish : Cursor}
    {outcome : Except Diagnostic (List Token)} (cut : Cuts buffer cursor outcome finish) :
    ∃ tokens last, Closes outcome tokens last ∧
      told { buffer, cursor } (List.replicate (tokens.length + 1) .next) =
        tokens.map .token ++ [last] := by
  induction cut with
  | ended skips ended =>
      have meets : Meets { buffer, cursor := _ } _ _ := .ended skips ended
      refine ⟨[], _, .ended [], ?_⟩
      rw [List.length_nil, List.replicate_succ, told_next, meets.next_eq rfl]
      rfl
  | refused skips ahead found =>
      have meets : Meets { buffer, cursor := _ } _ _ := .refused skips ahead found
      refine ⟨[], _, .refused [] _, ?_⟩
      rw [List.length_nil, List.replicate_succ, told_next, meets.next_eq rfl]
      rfl
  | scanned skips ahead found _ ih =>
      have meets : Meets { buffer, cursor := _ } _ _ := .token skips ahead found
      obtain ⟨tokens, last, closes, run⟩ := ih
      refine ⟨_ :: tokens, last, closes.cons _, ?_⟩
      rw [List.length_cons, List.replicate_succ, told_next, meets.next_eq rfl, run]
      rfl

theorem live_of_token {stream : Stream} {token : Token} (live : stream.live = true)
    (found : stream.next.1 = .token token) : stream.next.2.live = true := by
  have meets := meets_next live
  rw [found] at meets
  generalize stream.next.2 = after at meets
  cases meets
  exact live

/-- Whatever else is asked in between, the replies begin like those of one pass, up to its end. -/
theorem Alike.told_isPrefix {one two : Stream} (alike : one.Alike two) {history : List Request}
    (whole : ∀ request ∈ history, request.Whole) {tokens lead : List Token} {last : Reply}
    {later : List Reply} (closes : ∀ token, last ≠ .token token)
    (pass : two.told (List.replicate (tokens.length + 1) .next) = tokens.map .token ++ [last])
    (told : one.told history = lead.map .token ++ later) :
    lead.map .token ++ later.take 1 <+: tokens.map .token ++ [last] := by
  induction history generalizing one two tokens lead with
  | nil =>
      obtain ⟨rfl, rfl⟩ : lead = [] ∧ later = [] := by simpa [Stream.told] using told
      exact List.nil_prefix
  | cons request history ih =>
      obtain ⟨first, others⟩ := List.forall_mem_cons.1 whole
      by_cases other : request = .next
      · subst other
        rw [List.replicate_succ, told_next] at pass
        rw [told_next, alike.next_eq] at told
        -- Both streams are asked; a reply that is no token ends what is compared.
        cases tokens with
        | nil =>
            obtain ⟨closing, -⟩ := List.cons.inj pass
            rw [closing] at told
            cases lead with
            | nil =>
                obtain rfl : later = _ := told.symm
                simp
            | cons found lead => exact absurd (List.cons.inj told).1 (closes found)
        | cons token tokens =>
            obtain ⟨given, pass⟩ := List.cons.inj pass
            have live := live_of_token alike.live' given
            rw [given] at told
            cases lead with
            | nil =>
                obtain rfl : later = _ := told.symm
                simp
            | cons found lead =>
                obtain ⟨same, behind⟩ := List.cons.inj told
                cases same
                exact (List.prefix_cons_inj _).2 (ih (.refl live) others pass behind)
      · rw [told_other other] at told
        exact ih (alike.perform first other) others pass told

/-! ## A character that nothing starts with -/

/-- The cursor stands in front of a problem that takes no text. -/
structure Stuck (stream : Stream) (start : Cursor) (problem : Problem) : Prop where
  cursor_eq : stream.cursor = start
  skips : start.Skips [] start
  found : Finds [] start.rest (.error problem)

namespace Stuck

variable {stream : Stream} {start : Cursor} {problem : Problem}

theorem meets (stuck : stream.Stuck start problem) :
    stream.Meets
      (.failed (.diagnosed { problem, location := some (start.location stream.buffer),
                             sourceLine := some (start.currentLine stream.buffer) }))
      { stream with cursor := start, live := false } := by
  have skips : stream.cursor.Skips [] start := by
    rw [stuck.cursor_eq]
    exact stuck.skips
  exact .refused skips (List.nil_append _).symm stuck.found

theorem perform (stuck : stream.Stuck start problem) {request : Request} (whole : request.Whole) :
    (stream.perform request).2.Stuck start problem := by
  refine ⟨?_, stuck.skips, stuck.found⟩
  by_cases other : request = .next
  · subst other
    cases live : stream.live with
    | false => exact (congrArg (·.2.cursor) (next_closed live)).trans stuck.cursor_eq
    | true => exact congrArg (·.2.cursor) (stuck.meets.next_eq live)
  · simp [(perform_whole whole other stream).2, stuck.cursor_eq, stuck.skips.skipSpaces]

theorem after (stuck : stream.Stuck start problem) {history : List Request}
    (whole : ∀ request ∈ history, request.Whole) : (stream.after history).Stuck start problem := by
  induction history generalizing stream with
  | nil => exact stuck
  | cons request history ih =>
      obtain ⟨first, others⟩ := List.forall_mem_cons.1 whole
      rw [after_cons]
      exact ih (stuck.perform first) others

/-- However the stream is opened again, the next token is refused in the same way. -/
theorem again (stuck : stream.Stuck start problem) {history : List Request}
    (whole : ∀ request ∈ history, request.Whole) :
    (stream.after (history ++ [.restart])).next.1 =
      .failed (.diagnosed { problem, location := some (start.location stream.buffer),
                            sourceLine := some (start.currentLine stream.buffer) }) := by
  have opening : Request.restart.Whole := trivial
  have stays := (stuck.after whole).perform opening
  rw [after_append, after_cons, ← (stream.forward_after history).1]
  exact congrArg Prod.fst (stays.meets.next_eq rfl)

end Stuck

/-! ## Going on behind rejected digits -/

/-- A reply about a text, as it reads when lines and columns are put in front of the text. -/
def Reply.moved (lines columns : Nat) : Reply → Reply
  | .token found => .token (found.moved lines columns)
  | .tokens found => .tokens (found.map (Token.moved lines columns))
  | .failed failure => .failed (failure.moved lines columns)
  | other => other

/-- The reply without the line that it quotes. -/
def Reply.unquoted : Reply → Reply
  | .failed failure => .failed failure.unquoted
  | other => other

/-- The other stream has the same text ahead, and counts its lines and columns from another start. -/
structure Mirrors (lines columns : Nat) (stream other : Stream) : Prop where
  file_eq : other.buffer.file = stream.buffer.file
  live_eq : other.live = stream.live
  cursor : stream.cursor.Mirrors lines columns [] other.cursor

namespace Mirrors

variable {lines columns : Nat} {stream other : Stream}

theorem next (mirrors : Mirrors lines columns stream other) :
    other.next.1.unquoted = (stream.next.1.moved lines columns).unquoted ∧
      Mirrors lines columns stream.next.2 other.next.2 := by
  cases live : stream.live with
  | false =>
      rw [next_closed live, next_closed (mirrors.live_eq.trans live)]
      exact ⟨rfl, mirrors⟩
  | true =>
      have live' := mirrors.live_eq.trans live
      have meets := meets_next live
      generalize stream.next = step at meets ⊢
      obtain ⟨reply, after⟩ := step
      cases meets with
      | ended skips none =>
          obtain ⟨start, placed, skips'⟩ := mirrors.cursor.skips skips
          have meets : other.Meets _ _ := .ended skips' (by rw [placed.rest_eq, none]; rfl)
          rw [meets.next_eq live']
          exact ⟨rfl, mirrors.file_eq, rfl, placed⟩
      | token skips ahead found =>
          obtain ⟨start, placed, skips'⟩ := mirrors.cursor.skips skips
          have ahead' := placed.rest_eq
          rw [List.append_nil, ahead] at ahead'
          have meets : other.Meets _ _ := .token skips' ahead' found
          rw [meets.next_eq live', placed.location mirrors.file_eq]
          exact ⟨rfl, mirrors.file_eq, mirrors.live_eq, placed.passing ahead⟩
      | refused skips ahead found =>
          obtain ⟨start, placed, skips'⟩ := mirrors.cursor.skips skips
          have ahead' := placed.rest_eq
          rw [List.append_nil, ahead] at ahead'
          have meets : other.Meets _ _ := .refused skips' ahead' found
          rw [meets.next_eq live', placed.location mirrors.file_eq]
          exact ⟨rfl, mirrors.file_eq, rfl, placed.passing ahead⟩

theorem perform (mirrors : Mirrors lines columns stream other) {request : Request}
    (whole : request.Whole) (quiet : request ≠ .next) :
    Mirrors lines columns (stream.perform request).2 (other.perform request).2 := by
  rw [(perform_whole whole quiet stream).2, (perform_whole whole quiet other).2]
  refine ⟨mirrors.file_eq, by simp [mirrors.live_eq], ?_⟩
  by_cases skip : request = .skip
  · obtain ⟨start, placed, skips⟩ := mirrors.cursor.skips stream.cursor.skips_skipSpaces
    simpa [skip, skips.skipSpaces] using placed
  · simpa [skip] using mirrors.cursor

theorem told (mirrors : Mirrors lines columns stream other) {history : List Request}
    (whole : ∀ request ∈ history, request.Whole) :
    (other.told history).map Reply.unquoted =
        (stream.told history).map (fun reply => (reply.moved lines columns).unquoted) ∧
      Mirrors lines columns (stream.after history) (other.after history) := by
  induction history generalizing stream other with
  | nil => exact ⟨rfl, mirrors⟩
  | cons request history ih =>
      obtain ⟨first, others⟩ := List.forall_mem_cons.1 whole
      rw [after_cons, after_cons]
      by_cases quiet : request = .next
      · subst quiet
        obtain ⟨reply, step⟩ := mirrors.next
        obtain ⟨replies, run⟩ := ih step others
        rw [told_next, told_next, List.map_cons, List.map_cons, reply, replies]
        exact ⟨rfl, run⟩
      · rw [told_other quiet, told_other quiet]
        exact ih (mirrors.perform first quiet) others

end Mirrors

/-! ## Nothing is passed over -/

/-- A whole request steps over blanks, and then over what its reply accounts for. -/
theorem exists_gap {stream : Stream} (sound : stream.cursor.Sound stream.buffer.chars)
    {request : Request} (whole : request.Whole) :
    ∃ gap : List Char, (∀ c ∈ gap, IsBlank c) ∧
      stream.buffer.chars.take (stream.perform request).2.cursor.offset =
        stream.buffer.chars.take stream.cursor.offset ++
          (gap ++ (stream.perform request).1.taken) := by
  by_cases other : request = .next
  · subst other
    cases live : stream.live with
    | false =>
        refine ⟨[], by simp, ?_⟩
        simp [perform, next_closed live, Reply.taken]
    | true =>
        have meets := meets_next live
        rw [perform]
        generalize stream.next = step at meets ⊢
        obtain ⟨reply, after⟩ := step
        cases meets with
        | @ended _ blanks skips none =>
            exact ⟨blanks, skips.blank, by simp [skips.take sound, Reply.taken]⟩
        | @token start blanks taken _ _ skips ahead found =>
            refine ⟨blanks, skips.blank, ?_⟩
            rw [(skips.forward.sound sound).take_advanceBy ahead, skips.take sound, List.append_assoc,
              found.taken_eq_spelling]
            rfl
        | @refused start blanks taken _ _ skips ahead found =>
            refine ⟨blanks, skips.blank, ?_⟩
            rw [(skips.forward.sound sound).take_advanceBy ahead, skips.take sound, List.append_assoc,
              found.taken_eq_rejected]
            rfl
  · obtain ⟨quiet, moved⟩ := perform_whole whole other stream
    rw [quiet, moved]
    by_cases skip : request = .skip
    · have skips := stream.cursor.skips_skipSpaces
      exact ⟨_, skips.blank, by simp [skip, skips.take sound]⟩
    · exact ⟨[], by simp, by simp [skip]⟩

/-- The replies to a history of requests. -/
def replies (stream : Stream) (history : List Request) : List Reply :=
  (stream.performAll history).map Prod.fst

theorem exists_gaps {stream : Stream} (sound : stream.cursor.Sound stream.buffer.chars)
    {history : List Request} (whole : ∀ request ∈ history, request.Whole) :
    ∃ gaps : List (List Char), gaps.length = history.length ∧ (∀ gap ∈ gaps, ∀ c ∈ gap, IsBlank c) ∧
      stream.buffer.chars.take (stream.after history).cursor.offset =
        stream.buffer.chars.take stream.cursor.offset ++
          (List.zipWith (fun gap reply => gap ++ reply.taken) gaps
            (stream.replies history)).flatten := by
  induction history generalizing stream with
  | nil => exact ⟨[], rfl, by simp, by simp [after, performAll]⟩
  | cons request history ih =>
      obtain ⟨first, others⟩ := List.forall_mem_cons.1 whole
      obtain ⟨gap, blank, step⟩ := exists_gap sound first
      obtain ⟨same, forward⟩ := stream.forward_perform request
      have sound' := forward.sound sound
      rw [← same] at sound'
      obtain ⟨gaps, size, blanks, run⟩ := ih sound' others
      refine ⟨gap :: gaps, by simp [size], by simpa using ⟨blank, blanks⟩, ?_⟩
      rw [same, step] at run
      rw [after_cons, run]
      simp [replies, performAll]

theorem refused_of_failed {stream : Stream} {diagnostic : Diagnostic}
    (failed : stream.next.1 = .failed (.diagnosed diagnostic)) :
    ∃ start blanks taken rest, stream.cursor.Skips blanks start ∧ start.rest = taken ++ rest ∧
      Finds taken rest (.error diagnostic.problem) ∧
      diagnostic.location = some (start.location stream.buffer) ∧
      diagnostic.sourceLine = some (start.currentLine stream.buffer) ∧
      stream.next.2 = { stream with cursor := start.advanceBy taken.length, live := false } := by
  cases live : stream.live with
  | false =>
      rw [next_closed live] at failed
      cases failed
  | true =>
      have meets := meets_next live
      rw [failed] at meets
      generalize stream.next.2 = after at meets ⊢
      cases meets with
      | refused skips ahead found => exact ⟨_, _, _, _, skips, ahead, found, rfl, rfl, rfl⟩

/-- A stream that is asked for nothing but tokens tells what lexing finds. -/
theorem exists_pass (buffer : Buffer) :
    ∃ tokens last,
      (buffer.lex.outcome.1 = .ok tokens ∧ last = .nothing ∨
        ∃ failure, buffer.lex.outcome.1 = .error failure ∧ last = .failed failure) ∧
      (∀ token, last ≠ Reply.token token) ∧
      (start buffer).told (List.replicate (tokens.length + 1) .next) =
        tokens.map .token ++ [last] := by
  obtain ⟨finish, cut⟩ := Buffer.tokens_eq_iff.1 (rfl : buffer.tokens = _)
  obtain ⟨tokens, last, closes, pass⟩ := told_of_cuts cut
  refine ⟨tokens, last, ?_, closes.ne_token, pass⟩
  generalize found : buffer.tokens = outcome at closes
  cases closes with
  | ended => exact .inl ⟨Buffer.lex_eq_ok_iff.2 found, rfl⟩
  | refused _ diagnostic =>
      exact .inr ⟨_, Buffer.lex_eq_error_iff.2 ⟨diagnostic, found, rfl⟩, rfl⟩

theorem stuck_of_stranger {stream : Stream} {diagnostic : Diagnostic} {c : Char}
    (failed : stream.next.1 = .failed (.diagnosed diagnostic))
    (stranger : diagnostic.problem = .invalidCharacter c) :
    ∃ start, stream.cursor.skipSpaces = start ∧ start.rest.head? = some c ∧
      stream.next.2.Stuck start diagnostic.problem ∧
      diagnostic.location = some (start.location stream.next.2.buffer) ∧
      diagnostic.sourceLine = some (start.currentLine stream.next.2.buffer) := by
  obtain ⟨start, blanks, taken, rest, skips, ahead, found, place, line, after⟩ :=
    refused_of_failed failed
  rw [stranger] at found ⊢
  cases found with
  | stranger other outside =>
      have stuck : Finds [] start.rest (.error (.invalidCharacter c)) := by
        rw [ahead]
        exact .stranger other outside
      rw [after]
      exact ⟨start, skips.skipSpaces, by rw [ahead]; rfl, ⟨rfl, skips.again, stuck⟩, place, line⟩

/-- Behind rejected digits a stream that is opened again goes on like one at the start of the rest. -/
theorem mirrors_behind_digits {stream : Stream} {diagnostic : Diagnostic} {digits : List Char}
    (sound : stream.cursor.Sound stream.buffer.chars)
    (failed : stream.next.1 = .failed (.diagnosed diagnostic))
    (rejected : diagnostic.problem.rejected? = some digits) :
    ∃ before rest, stream.buffer.chars = before ++ digits ++ rest ∧ digits ≠ [] ∧
      (∀ d ∈ digits, IsDecimal d) ∧ (∀ d ∈ rest.head?, ¬ IsDecimal d) ∧
      diagnostic.location = some (placeAfter stream.buffer.file before) ∧
      stream.next.2.cursor.offset = (before ++ digits).length ∧
      Mirrors ((before ++ digits).count '\n') (lastLength (before ++ digits))
        (start ⟨stream.buffer.file, rest⟩) { stream.next.2 with live := true } := by
  obtain ⟨scan, blanks, taken, rest, skips, ahead, found, place, -, after⟩ := refused_of_failed failed
  obtain ⟨rfl, nonempty, all, ends⟩ := found.digits_of_rejected rejected
  have begun := skips.forward.sound sound
  have behind := begun.advanceBy taken.length
  have passed := begun.take_advanceBy ahead
  -- The scan began in front of the digits, so the text splits around them.
  have chars : stream.buffer.chars.take scan.offset ++ taken ++ rest = stream.buffer.chars := by
    rw [List.append_assoc, ← ahead, begun.take_append_rest]
  refine ⟨_, rest, chars.symm, nonempty, all, ends, ?_, ?_, ?_⟩
  · rw [place, begun.location]
    rfl
  · rw [after, ← passed, List.length_take, Nat.min_eq_left behind.offset_le]
  · rw [after]
    rw [← chars] at behind
    exact ⟨rfl, rfl, behind.mirrors_start (by rw [Cursor.rest_advanceBy, ahead, List.drop_left])⟩

end Stream

/-- Let whole requests be made of a stream. The replies to those for a token begin, up to the first
    that is none, like those of one pass over the text. Where nothing starts with the next character,
    the cursor stays in front of it, and the stream fails in the same way however often it is opened
    again. Behind rejected digits the opened stream goes on like one for the rest of the text, but for
    the counting of places and the line that a diagnostic quotes. Blanks, tokens and rejected digits
    together are all of the text that lies behind the cursor. -/
theorem stream_loses_nothing (buffer : Buffer) {history : List Stream.Request}
    (whole : ∀ request ∈ history, request.Whole) :
    let stream := (Stream.start buffer).after history
    (∃ tokens last,
      (buffer.lex.outcome.1 = .ok tokens ∧ last = .nothing ∨
        ∃ failure, buffer.lex.outcome.1 = .error failure ∧ last = .failed failure) ∧
      (Stream.start buffer).told (List.replicate (tokens.length + 1) .next) =
        tokens.map .token ++ [last] ∧
      ∀ (lead : List Token) later, (Stream.start buffer).told history = lead.map .token ++ later →
        lead.map .token ++ later.take 1 <+: tokens.map .token ++ [last]) ∧
    (∀ diagnostic c, (stream.perform .next).1 = .failed (.diagnosed diagnostic) →
      diagnostic.problem = .invalidCharacter c →
      (stream.after [.skip]).cursor.rest.head? = some c ∧
      ∀ more : List Stream.Request, (∀ request ∈ more, request.Whole) →
        (stream.after (.next :: more)).cursor = (stream.after [.skip]).cursor ∧
        ((stream.after (.next :: more ++ [.restart])).perform .next).1 =
          .failed (.diagnosed diagnostic)) ∧
    (∀ diagnostic digits, (stream.perform .next).1 = .failed (.diagnosed diagnostic) →
      diagnostic.problem.rejected? = some digits →
      ∃ before rest, buffer.chars = before ++ digits ++ rest ∧ digits ≠ [] ∧
        (∀ d ∈ digits, IsDecimal d) ∧ (∀ d ∈ rest.head?, ¬ IsDecimal d) ∧
        diagnostic.location = some (placeAfter buffer.file before) ∧
        (stream.after [.next]).cursor.offset = (before ++ digits).length ∧
        ∀ more : List Stream.Request, (∀ request ∈ more, request.Whole) →
          let again := stream.after [.next, .restart]
          let fresh := Stream.start ⟨buffer.file, rest⟩
          (again.told more).map Stream.Reply.unquoted =
              (fresh.told more).map (fun reply =>
                (reply.moved ((before ++ digits).count '\n')
                  (lastLength (before ++ digits))).unquoted) ∧
            (again.after more).cursor.rest = (fresh.after more).cursor.rest) ∧
    ∃ gaps : List (List Char), gaps.length = history.length ∧ (∀ gap ∈ gaps, ∀ c ∈ gap, IsBlank c) ∧
      (List.zipWith (fun gap reply => gap ++ reply.taken) gaps
        ((Stream.start buffer).replies history)).flatten = buffer.chars.take stream.cursor.offset := by
  intro stream
  obtain ⟨same, forward⟩ := (Stream.start buffer).forward_after history
  have sound := forward.sound (Cursor.sound_start buffer.chars)
  refine ⟨?_, ?_, ?_, ?_⟩
  · obtain ⟨tokens, last, found, closes, pass⟩ := Stream.exists_pass buffer
    refine ⟨tokens, last, found, pass, fun lead later told => ?_⟩
    exact (Stream.Alike.refl rfl).told_isPrefix whole closes pass told
  · intro diagnostic c failed stranger
    obtain ⟨start, skipped, ahead, stuck, place, line⟩ := Stream.stuck_of_stranger failed stranger
    have there : (stream.after [.skip]).cursor = start := skipped
    rw [there]
    refine ⟨ahead, fun more wholeMore => ⟨?_, ?_⟩⟩
    · rw [Stream.after_cons]
      exact (stuck.after wholeMore).cursor_eq
    · rw [List.cons_append, Stream.after_cons]
      refine (stuck.again wholeMore).trans ?_
      rw [← place, ← line]
  · intro diagnostic digits failed rejected
    have sound' : stream.cursor.Sound stream.buffer.chars := same.symm ▸ sound
    obtain ⟨before, rest, chars, nonempty, all, ends, place, offset, mirrors⟩ :=
      Stream.mirrors_behind_digits sound' failed rejected
    rw [show stream.buffer = buffer from same] at chars place mirrors
    refine ⟨before, rest, chars, nonempty, all, ends, place, offset, fun more wholeMore => ?_⟩
    obtain ⟨told, after⟩ := mirrors.told wholeMore
    exact ⟨told, after.cursor.rest_eq.trans (List.append_nil _)⟩
  · obtain ⟨gaps, size, blank, run⟩ :=
      @Stream.exists_gaps (.start buffer) (Cursor.sound_start _) _ whole
    exact ⟨gaps, size, blank, run.symm⟩

/-- Digits that run into a name are refused, and the opened stream goes on with the name. -/
theorem stream_loses_nothing_name_behind_digits :
    let buffer : Buffer := ⟨"a.c", " 09b $".toList⟩
    let history : List Stream.Request := [.skip, .peek 1]
    let stream := (Stream.start buffer).after history
    (∀ request ∈ history, request.Whole) ∧
    (∃ diagnostic, (stream.perform .next).1 = .failed (.diagnosed diagnostic) ∧
      diagnostic.problem = .malformedToken "constant" "09" "b") ∧
    (stream.after [.next]).cursor.offset = 3 ∧
    ((stream.after [.next, .restart]).told [.next]).map Stream.Reply.unquoted =
      [.token { kind := .identifier, text := some "b", location := some ⟨"a.c", 1, 4⟩ }] := by
  intro buffer history stream
  have whole : ∀ request ∈ history, request.Whole := by
    simp [history, Stream.Request.Whole]
  have there : stream = ⟨buffer, ⟨1, 1, 2, 0, "09b $".toList⟩, true⟩ := by decide +kernel
  have found : Finds ['0', '9'] ['b', ' ', '$'] (.error (.malformedToken "constant" "09" "b")) :=
    .malformed (by simp) (by simp [IsDecimal]) (by simp [StartsWord, IsLetter])
  have skips : stream.cursor.Skips [] stream.cursor := by
    rw [there]
    exact ⟨rfl, by simp, rfl, by rintro _ ⟨⟩; rfl⟩
  have meets : stream.Meets _ _ := .refused skips (by rw [there]; rfl) found
  have failed := congrArg Prod.fst (meets.next_eq (by rw [there]))
  obtain ⟨-, -, rejects, -⟩ := stream_loses_nothing buffer whole
  obtain ⟨before, rest, chars, -, -, -, -, offset, goesOn⟩ := rejects _ "09".toList failed rfl
  have behind : (stream.after [.next]).cursor.offset = 3 := by decide +kernel
  have single : before.length + 2 = 3 := by rw [← behind, offset, List.length_append]; rfl
  obtain ⟨c, rfl⟩ : ∃ c, before = [c] := List.length_eq_one_iff.1 (by omega)
  obtain ⟨rfl, rfl⟩ : ' ' = c ∧ ['b', ' ', '$'] = rest := by simpa [buffer] using chars
  have nextWhole : ∀ request ∈ [Stream.Request.next], request.Whole := by
    simp [Stream.Request.Whole]
  exact ⟨whole, ⟨_, failed, rfl⟩, behind, (goesOn [.next] nextWhole).1.trans rfl⟩

end MicroC
