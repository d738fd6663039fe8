import MicroC.Proofs.Cutting
import MicroC.Proofs.Pipeline
import MicroC.Token.Stream

/-! # Positions along a stream

Whatever is asked of a stream, and whether it succeeds or not, the cursor only steps forward. That is
all a request does to it, so every cursor of every history is sound. Hence what a scan reports stands
at the place where the scan started, and the tokens of a text stand in its order.
-/

namespace MicroC

/-! ## Requests step forward -/

/-- The second cursor is reached from the first by advancing. -/
def Cursor.Forward (cursor after : Cursor) : Prop :=
  ∃ count, after = cursor.advanceBy count

namespace Cursor

theorem advanceBy_add (first second : Nat) (cursor : Cursor) :
    cursor.advanceBy (first + second) = (cursor.advanceBy first).advanceBy second := by
  induction first generalizing cursor with
  | zero => rw [Nat.zero_add, advanceBy]
  | succ first ih => rw [Nat.succ_add, advanceBy, advanceBy, ih]

namespace Forward

theorem refl (cursor : Cursor) : cursor.Forward cursor :=
  ⟨0, rfl⟩

theorem advanceBy (cursor : Cursor) (count : Nat) : cursor.Forward (cursor.advanceBy count) :=
  ⟨count, rfl⟩

theorem trans {first second third : Cursor} (one : first.Forward second)
    (two : second.Forward third) : first.Forward third := by
  obtain ⟨count, rfl⟩ := one
  obtain ⟨more, rfl⟩ := two
  exact ⟨count + more, (advanceBy_add count more first).symm⟩

theorem sound {chars : List Char} {cursor after : Cursor} (forward : cursor.Forward after)
    (sound : cursor.Sound chars) : after.Sound chars := by
  obtain ⟨count, rfl⟩ := forward
  exact sound.advanceBy count

theorem offset_le {cursor after : Cursor} (forward : cursor.Forward after) :
    cursor.offset ≤ after.offset := by
  obtain ⟨count, rfl⟩ := forward
  exact offset_le_advanceBy count cursor

end Forward

theorem Skips.forward {cursor start : Cursor} {blanks : List Char}
    (skips : cursor.Skips blanks start) : cursor.Forward start :=
  ⟨blanks.length, skips.start_eq⟩

theorem forward_takeKeyword (cursor : Cursor) : cursor.Forward cursor.takeKeyword.2 := by
  unfold takeKeyword
  split
  · exact .advanceBy cursor _
  · exact .refl cursor

theorem forward_takeRun (cursor : Cursor) (buffer : Buffer) (p : Char → Bool) (kind : String)
    (place : Location) : cursor.Forward (cursor.takeRun buffer p kind place).2 := by
  rw [takeRun_snd]
  exact .advanceBy cursor _

theorem forward_scanToken (cursor : Cursor) (buffer : Buffer) :
    cursor.Forward (cursor.scanToken buffer).2 := by
  by_cases nonempty : cursor.rest = []
  · rw [scanToken, nonempty]
    exact .refl cursor
  · obtain ⟨taken, rest, outcome, -, -, scan⟩ := scanToken_finds buffer nonempty
    rw [scan]
    exact .advanceBy cursor _

end Cursor

theorem Cuts.forward {buffer : Buffer} {cursor finish : Cursor}
    {outcome : Except Diagnostic (List Token)} (cut : Cuts buffer cursor outcome finish) :
    cursor.Forward finish := by
  induction cut with
  | ended skips _ => exact skips.forward
  | refused skips _ _ => exact skips.forward.trans (.advanceBy _ _)
  | scanned skips _ _ _ ih => exact (skips.forward.trans (.advanceBy _ _)).trans ih

namespace Stream

theorem forward_next (stream : Stream) :
    stream.next.2.buffer = stream.buffer ∧ stream.cursor.Forward stream.next.2.cursor := by
  have skipped := stream.cursor.skips_skipSpaces.forward
  have scanned := skipped.trans (stream.cursor.skipSpaces.forward_scanToken stream.buffer)
  unfold next
  split
  · dsimp only
    split
    · exact ⟨rfl, skipped⟩
    · split
      next scan => exact ⟨rfl, by rwa [scan] at scanned⟩
      next scan => exact ⟨rfl, by rwa [scan] at scanned⟩
  · exact ⟨rfl, .refl _⟩

theorem forward_drain (stream : Stream) :
    stream.drain.2.buffer = stream.buffer ∧ stream.cursor.Forward stream.drain.2.cursor := by
  have cut := (stream.cursor.scanAll_sound stream.buffer).forward
  unfold drain
  split
  · dsimp only
    split
    · exact ⟨rfl, cut⟩
    · exact ⟨rfl, cut⟩
  · exact ⟨rfl, .refl _⟩

/-- A request keeps the text, and moves the cursor forward or not at all. -/
theorem forward_perform (stream : Stream) (request : Request) :
    (stream.perform request).2.buffer = stream.buffer ∧
      stream.cursor.Forward (stream.perform request).2.cursor := by
  cases request with
  | next => exact stream.forward_next
  | drain => exact stream.forward_drain
  | restart | atEnd | boundary | line => exact ⟨rfl, .refl _⟩
  | peek offset =>
      simp only [perform]
      split <;> exact ⟨rfl, .refl _⟩
  | advance => exact ⟨rfl, .advanceBy _ 1⟩
  | skip => exact ⟨rfl, stream.cursor.skips_skipSpaces.forward⟩
  | keyword =>
      have forward := stream.cursor.forward_takeKeyword
      simp only [perform]
      split
      next taken => exact ⟨rfl, by rwa [taken] at forward⟩
      next taken => exact ⟨rfl, by rwa [taken] at forward⟩
  | scan =>
      have forward := stream.cursor.forward_scanToken stream.buffer
      simp only [perform]
      split
      next scan => exact ⟨rfl, by rwa [scan] at forward⟩
      next scan => exact ⟨rfl, by rwa [scan] at forward⟩
  | run chars kind =>
      have forward := stream.cursor.forward_takeRun stream.buffer chars.toList.contains kind
        (stream.cursor.location stream.buffer)
      simp only [perform]
      split
      next taken => exact ⟨rfl, by rwa [taken] at forward⟩
      next taken => exact ⟨rfl, by rwa [taken] at forward⟩

/-- The stream as a history of requests leaves it. -/
def after (stream : Stream) (history : List Request) : Stream :=
  ((stream.performAll history).getLast?.map Prod.snd).getD stream

theorem after_cons (stream : Stream) (request : Request) (history : List Request) :
    stream.after (request :: history) = (stream.perform request).2.after history := by
  simp only [after, performAll, List.getLast?_cons, Option.map_some, Option.getD_some]
  cases ((stream.perform request).2.performAll history).getLast? <;> rfl

theorem after_append (stream : Stream) (history more : List Request) :
    stream.after (history ++ more) = (stream.after history).after more := by
  induction history generalizing stream with
  | nil => rfl
  | cons request history ih => rw [List.cons_append, after_cons, after_cons, ih]

theorem forward_after (stream : Stream) (history : List Request) :
    (stream.after history).buffer = stream.buffer ∧
      stream.cursor.Forward (stream.after history).cursor := by
  induction history generalizing stream with
  | nil => exact ⟨rfl, .refl _⟩
  | cons request history ih =>
      obtain ⟨same, step⟩ := stream.forward_perform request
      obtain ⟨kept, run⟩ := ih (stream.perform request).2
      rw [after_cons]
      exact ⟨kept.trans same, step.trans run⟩

end Stream

/-! ## Where scans start -/

/-- When the text ahead of a cursor is cut into tokens, a scan of `start` is made and has the
    outcome. -/
inductive Cursor.Scans (buffer : Buffer) : Cursor → Cursor → Except Diagnostic Token → Prop where
  /-- The scan behind the blanks. -/
  | first {cursor : Cursor} :
      cursor.skipSpaces.rest ≠ [] →
      Scans buffer cursor cursor.skipSpaces (cursor.skipSpaces.scanToken buffer).1
  /-- A scan behind the first token. -/
  | later {cursor after start : Cursor} {token : Token} {outcome : Except Diagnostic Token} :
      cursor.skipSpaces.rest ≠ [] → cursor.skipSpaces.scanToken buffer = (.ok token, after) →
      Scans buffer after start outcome → Scans buffer cursor start outcome

/-- A request to a stream makes a scan of `start` with the outcome. -/
inductive Stream.Scans (stream : Stream) :
    Stream.Request → Cursor → Except Diagnostic Token → Prop where
  /-- The next token stands behind the blanks. -/
  | next :
      stream.cursor.skipSpaces.rest ≠ [] →
      Scans stream .next stream.cursor.skipSpaces
        (stream.cursor.skipSpaces.scanToken stream.buffer).1
  /-- Draining scans for all tokens that are left. -/
  | drain {start : Cursor} {outcome : Except Diagnostic Token} :
      stream.cursor.Scans stream.buffer start outcome → Scans stream .drain start outcome
  /-- A scan by itself starts where the cursor stands. -/
  | scan : Scans stream .scan stream.cursor (stream.cursor.scanToken stream.buffer).1
  /-- So does a run, which tells of itself only when it is refused. -/
  | run {chars kind : String} {diagnostic : Diagnostic} :
      (stream.cursor.takeRun stream.buffer chars.toList.contains kind
        (stream.cursor.location stream.buffer)).1 = .error diagnostic →
      Scans stream (.run chars kind) stream.cursor (.error diagnostic)

/-- What cutting a text tells: its tokens, or the diagnostic of its refusal. -/
def reportedBy : Except Diagnostic (List Token) → List (Except Diagnostic Token)
  | .ok tokens => tokens.map .ok
  | .error diagnostic => [.error diagnostic]

/-- The tokens and diagnostics in a reply. -/
def Stream.Reply.reported : Stream.Reply → List (Except Diagnostic Token)
  | .token found => [.ok found]
  | .tokens found => reportedBy (.ok found)
  | .failed (.diagnosed diagnostic) => [.error diagnostic]
  | _ => []

/-- The place that a token or a diagnostic carries. -/
def reportedPlace : Except Diagnostic Token → Option Location
  | .ok token => token.location
  | .error diagnostic => diagnostic.location

namespace Cursor

theorem reportedPlace_scanToken (cursor : Cursor) (buffer : Buffer) :
    reportedPlace (cursor.scanToken buffer).1 = some (cursor.location buffer) := by
  by_cases nonempty : cursor.rest = []
  · rw [scanToken, nonempty]
    rfl
  · obtain ⟨taken, rest, outcome, -, -, scan⟩ := scanToken_finds buffer nonempty
    rw [scan]
    cases outcome with
    | ok token => rfl
    | error problem => rfl

theorem Scans.located {buffer : Buffer} {cursor start : Cursor} {outcome : Except Diagnostic Token}
    (scans : cursor.Scans buffer start outcome) :
    cursor.Forward start ∧ reportedPlace outcome = some (start.location buffer) := by
  induction scans with
  | @first cursor _ =>
      exact ⟨cursor.skips_skipSpaces.forward, cursor.skipSpaces.reportedPlace_scanToken buffer⟩
  | @later cursor _ _ _ _ _ scan _ ih =>
      have step := cursor.skipSpaces.forward_scanToken buffer
      rw [scan] at step
      exact ⟨(cursor.skips_skipSpaces.forward.trans step).trans ih.1, ih.2⟩

theorem location_of_takeRun {cursor : Cursor} {buffer : Buffer} {p : Char → Bool} {kind : String}
    {place : Location} {diagnostic : Diagnostic}
    (refused : (cursor.takeRun buffer p kind place).1 = .error diagnostic) :
    diagnostic.location = some place := by
  unfold takeRun at refused
  dsimp only at refused
  split at refused
  · cases refused
  · split at refused <;> cases refused
    rfl

theorem mem_reportedBy_map {told : Except Diagnostic (List Token)} {token : Token}
    {outcome : Except Diagnostic Token}
    (member : outcome ∈ reportedBy (told.map (token :: ·))) :
    outcome = .ok token ∨ outcome ∈ reportedBy told := by
  cases told with
  | ok tokens => exact List.mem_cons.1 member
  | error diagnostic => exact .inr member

theorem scans_of_scanAll (cursor : Cursor) (buffer : Buffer) :
    ∀ outcome ∈ reportedBy (cursor.scanAll buffer).1,
      ∃ start, cursor.Scans buffer start outcome := by
  induction cursor using scanAll.induct buffer with
  | case1 cursor start none =>
      rw [scanAll_end none]
      intro outcome member
      cases member
  | case2 cursor start nonempty diagnostic after scan =>
      rw [scanAll_error nonempty scan]
      have made : cursor.Scans buffer _ _ := .first nonempty
      rw [scan] at made
      intro outcome member
      obtain rfl := List.mem_singleton.1 member
      exact ⟨_, made⟩
  | case3 cursor start nonempty token after scan tokens finish _ ih =>
      rw [scanAll_token nonempty scan]
      have made : cursor.Scans buffer _ _ := .first nonempty
      rw [scan] at made
      intro outcome member
      rcases mem_reportedBy_map member with rfl | further
      · exact ⟨_, made⟩
      · obtain ⟨start, later⟩ := ih outcome further
        exact ⟨start, .later nonempty scan later⟩

end Cursor

/-- Looking at a character out of range is no matter of the text. -/
theorem Buffer.charAt_error {buffer : Buffer} {position : Int} {failure : Failure}
    (failed : buffer.charAt position = .error failure) : failure = .internal .textIndex := by
  unfold charAt at failed
  dsimp only at failed
  generalize (if position < 0 then (buffer.chars.length : Int) + position else position) = index
    at failed
  split at failed
  · cases failed
  · split at failed <;> cases failed
    rfl

namespace Stream

theorem Scans.located {stream : Stream} {request : Request} {start : Cursor}
    {outcome : Except Diagnostic Token} (scans : stream.Scans request start outcome) :
    stream.cursor.Forward start ∧
      reportedPlace outcome = some (start.location stream.buffer) := by
  cases scans with
  | next _ =>
      exact ⟨stream.cursor.skips_skipSpaces.forward, Cursor.reportedPlace_scanToken _ _⟩
  | drain scans => exact scans.located
  | scan => exact ⟨.refl _, Cursor.reportedPlace_scanToken _ _⟩
  | run refused => exact ⟨.refl _, Cursor.location_of_takeRun refused⟩

/-- What a reply tells, it has from a scan that the request makes. -/
theorem scans_of_perform {stream : Stream} {request : Request} {outcome : Except Diagnostic Token}
    (member : outcome ∈ (stream.perform request).1.reported) :
    ∃ start, stream.Scans request start outcome := by
  cases request with
  | restart | atEnd | boundary | line | advance | skip => cases member
  | next =>
      simp only [perform, next] at member
      split at member
      · split at member
        · cases member
        next nonempty =>
          have made : stream.Scans .next _ _ := .next (by simpa using nonempty)
          split at member
          all_goals
            next scan =>
              rw [scan] at made
              obtain rfl := List.mem_singleton.1 member
              exact ⟨_, made⟩
      · cases member
  | drain =>
      have all := stream.cursor.scans_of_scanAll stream.buffer outcome
      simp only [perform, drain] at member
      split at member
      · split at member
        all_goals
          next told =>
            rw [told] at all
            obtain ⟨start, made⟩ := all member
            exact ⟨start, .drain made⟩
      · cases member
  | scan =>
      have made : stream.Scans .scan _ _ := .scan
      simp only [perform] at member
      split at member
      all_goals
        next scan =>
          rw [scan] at made
          obtain rfl := List.mem_singleton.1 member
          exact ⟨_, made⟩
  | run chars kind =>
      simp only [perform] at member
      split at member
      next => cases member
      next taken =>
        obtain rfl := List.mem_singleton.1 member
        exact ⟨_, .run (by rw [taken])⟩
  | keyword =>
      simp only [perform] at member
      split at member <;> cases member
  | peek offset =>
      simp only [perform] at member
      split at member
      next => cases member
      next failed =>
        rw [Buffer.charAt_error failed] at member
        cases member

end Stream

/-! ## The order of the tokens -/

/-- The tokens of a text stand at places whose offsets rise. -/
theorem Cuts.offsets {buffer : Buffer} {cursor finish : Cursor}
    {outcome : Except Diagnostic (List Token)} (cut : Cuts buffer cursor outcome finish)
    (sound : cursor.Sound buffer.chars) {tokens : List Token} (accepted : outcome = .ok tokens) :
    ∃ offsets : List Nat,
      tokens.map Token.location = offsets.map (fun offset => some (buffer.place offset)) ∧
      offsets.Pairwise (· < ·) ∧
      ∀ offset ∈ offsets, cursor.offset ≤ offset ∧ offset ≤ buffer.chars.length := by
  induction cut generalizing tokens with
  | ended _ _ =>
      cases accepted
      exact ⟨[], rfl, .nil, fun _ member => nomatch member⟩
  | refused _ _ _ => cases accepted
  | @scanned cursor start finish blanks taken rest token outcome skips ahead found _ ih =>
      cases outcome with
      | error diagnostic => cases accepted
      | ok later =>
          cases accepted
          have begun := skips.forward.sound sound
          obtain ⟨offsets, places, rising, within⟩ := ih (begun.advanceBy taken.length) rfl
          -- A token has characters, so the rest of the text starts behind this one's place.
          have further : start.offset < (start.advanceBy taken.length).offset := by
            rw [Cursor.offset_advanceBy (by rw [ahead, List.length_append]; omega)]
            have := List.length_pos_iff.2 found.taken_ne_nil
            omega
          refine ⟨start.offset :: offsets, ?_, .cons ?_ rising, ?_⟩
          · rw [List.map_cons, List.map_cons, places, begun.location]
          · intro offset member
            exact Nat.lt_of_lt_of_le further (within offset member).1
          · intro offset member
            rcases List.mem_cons.1 member with rfl | member
            · exact ⟨skips.forward.offset_le, begun.offset_le⟩
            · have below := skips.forward.offset_le
              have bounds := within offset member
              omega

theorem Buffer.places_increase {buffer : Buffer} {tokens : List Token}
    (accepted : buffer.tokens = .ok tokens) :
    (tokens.map Token.location).Pairwise fun first second =>
      ∃ one two, first = some one ∧ second = some two ∧ one.Precedes two := by
  obtain ⟨finish, cut⟩ := Buffer.tokens_eq_iff.1 accepted
  obtain ⟨offsets, places, rising, within⟩ :=
    cut.offsets (Cursor.sound_start buffer.chars) rfl
  rw [places, List.pairwise_map]
  exact rising.imp_of_mem fun _ member less =>
    ⟨_, _, rfl, rfl, Buffer.place_precedes less (within _ member).2⟩

/-- After any history a stream's cursor is sound for its text, and no further request takes it back.
    Whatever a reply tells is the outcome of a scan, and carries the place where that scan started;
    the tokens of the whole text stand in the order of their places. -/
theorem stream_positions (buffer : Buffer) (history : List Stream.Request) :
    ((Stream.start buffer).after history).cursor.Sound buffer.chars ∧
    (∀ more : List Stream.Request,
      ((Stream.start buffer).after history).cursor.offset ≤
        ((Stream.start buffer).after (history ++ more)).cursor.offset) ∧
    (∀ request, ∀ outcome ∈
        (((Stream.start buffer).after history).perform request).1.reported,
      ∃ start, ((Stream.start buffer).after history).Scans request start outcome ∧
        start.Sound buffer.chars ∧
        reportedPlace outcome = some (buffer.place start.offset)) ∧
    ∀ tokens, buffer.lex.outcome.1 = .ok tokens →
      (tokens.map Token.location).Pairwise fun first second =>
        ∃ one two, first = some one ∧ second = some two ∧ one.Precedes two := by
  obtain ⟨same, forward⟩ := (Stream.start buffer).forward_after history
  have sound := forward.sound (Cursor.sound_start buffer.chars)
  refine ⟨sound, ?_, ?_, ?_⟩
  · intro more
    rw [Stream.after_append]
    exact (Stream.forward_after _ more).2.offset_le
  · intro request outcome member
    obtain ⟨start, scans⟩ := Stream.scans_of_perform member
    obtain ⟨ahead, place⟩ := scans.located
    have begun := ahead.sound sound
    rw [same] at place
    exact ⟨start, scans, begun, place.trans (congrArg some begun.location)⟩
  · intro tokens accepted
    exact Buffer.places_increase (Buffer.lex_eq_ok_iff.1 accepted)

/-- The second of two names stands on the second line, behind a blank. -/
theorem stream_positions_second_line :
    let buffer : Buffer := ⟨"a.c", ['a', '\n', ' ', 'b']⟩
    let stream := (Stream.start buffer).after [.next]
    (∃ outcome ∈ (stream.perform .next).1.reported,
      reportedPlace outcome = some ⟨"a.c", 2, 2⟩) ∧
    ∃ tokens, buffer.lex.outcome.1 = .ok tokens ∧ tokens.length = 2 ∧
      (tokens.map Token.location).Pairwise fun first second =>
        ∃ one two, first = some one ∧ second = some two ∧ one.Precedes two := by
  intro buffer stream
  obtain ⟨-, -, reports, ordered⟩ := stream_positions buffer [.next]
  refine ⟨?_, ?_⟩
  · have begins : stream.cursor.skipSpaces.offset = 3 := by decide +kernel
    have third : buffer.place 3 = ⟨"a.c", 2, 2⟩ := by decide
    have single : (stream.perform .next).1.reported.length = 1 := by decide +kernel
    obtain ⟨outcome, told⟩ := List.length_eq_one_iff.1 single
    have member : outcome ∈ (stream.perform .next).1.reported := by
      rw [told]
      exact List.mem_singleton_self outcome
    obtain ⟨start, scans, -, place⟩ := reports .next outcome member
    cases scans with
    | next _ =>
        rw [begins, third] at place
        exact ⟨_, member, place⟩
  · have size : buffer.tokens.toOption.map List.length = some 2 := by decide +kernel
    cases found : buffer.tokens with
    | error diagnostic =>
        rw [found] at size
        cases size
    | ok tokens =>
        rw [found] at size
        have accepted := Buffer.lex_eq_ok_iff.2 found
        exact ⟨tokens, accepted, Option.some.inj size, ordered tokens accepted⟩

end MicroC
