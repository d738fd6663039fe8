import MicroC.Proofs.Phrase
import MicroC.Source.Session

/-! # Sessions without memory

A session records its misses, and no reply but the failure of the record depends on them. So every
nonterminal finds after any history what it finds in a new session. What it finds depends on nothing
but the tokens that it reads: the same tokens elsewhere, among other tokens, give the same tree.
-/

namespace MicroC.Source

/-! ## Nonterminals read phrases -/

theorem Rule.Reads.map {rule : Rule α} {kinds : List Token.Kind} {value : List Token → α}
    (reads : rule.Reads kinds value) (f : α → β) :
    (f <$> rule).Reads kinds fun read => f (value read) := by
  intro tokens position
  change Rule.andThen rule (fun a => Rule.found (f a)) tokens position = _
  rw [Rule.andThen, reads]
  rcases fit_or_miss kinds (tokens.drop position) with full | ⟨kind, missed⟩
  · rw [Attempt.phrase_of_fit value full, Attempt.phrase_of_fit _ full]
    rfl
  · rw [Attempt.phrase_of_miss value missed, Attempt.phrase_of_miss _ missed]

/-- Tokens of the right kinds are read wherever they stand. -/
theorem Rule.Reads.found_between {rule : Rule α} {kinds : List Token.Kind} {value : List Token → α}
    (reads : rule.Reads kinds value) {read : List Token} (same : read.map Token.kind = kinds)
    (before rest : List Token) :
    (rule (before ++ read ++ rest) before.length).found =
      some (value read, ((before.length + kinds.length : Nat) : Int)) := by
  have length : kinds.length = read.length := by rw [← same, List.length_map]
  have ahead : (before ++ read ++ rest).drop before.length = read ++ rest := by
    rw [List.append_assoc, List.drop_left]
  have taken : (read ++ rest).take kinds.length = read := by rw [length, List.take_left]
  have fits : fit kinds ((before ++ read ++ rest).drop before.length) = kinds.length := by
    rw [ahead, fit_eq_length_iff, taken, same]
  rw [reads, Attempt.phrase_of_fit value fits, ahead, taken]

namespace Nonterminal

/-- The kinds of the tokens that a nonterminal reads. -/
def kinds : Nonterminal → List Token.Kind
  | .program | .function => programKinds
  | .statement | .returnStatement => [.returnKeyword, .constant, .semicolon]
  | .expression | .constantExpression | .integerConstant => [.constant]
  | .identifier => [.identifier]

theorem length_kinds_pos (nonterminal : Nonterminal) : 0 < nonterminal.kinds.length := by
  cases nonterminal <;> decide

theorem exists_reads (nonterminal : Nonterminal) :
    ∃ value, nonterminal.rule.Reads nonterminal.kinds value := by
  have statement_eq : Source.statement = Source.returnStatement := Rule.firstOf_singleton _
  have expression_eq : Source.expression = Source.constantExpression := Rule.firstOf_singleton _
  cases nonterminal with
  | program => exact ⟨_, reads_program.map _⟩
  | function => exact ⟨_, reads_function.map _⟩
  | statement => exact ⟨_, reads_statement.map _⟩
  | returnStatement => exact ⟨_, (statement_eq ▸ reads_statement).map _⟩
  | expression => exact ⟨_, reads_expression.map _⟩
  | constantExpression => exact ⟨_, (expression_eq ▸ reads_expression).map _⟩
  | identifier => exact ⟨_, reads_identifier.map _⟩
  | integerConstant => exact ⟨_, reads_integerConstant.map _⟩

end Nonterminal

theorem Rule.found_firstOf (rules : List (Rule α)) (tokens : List Token) (position : Int) :
    (firstOf rules tokens position).found =
      rules.findSome? fun rule => (rule tokens position).found := by
  induction rules with
  | nil => rfl
  | cons rule rules ih =>
      rw [firstOf, List.findSome?_cons]
      dsimp only
      cases found : (rule tokens position).found with
      | none => exact ih
      | some match' => exact found

/-! ## Replies -/

namespace Session

/-- The session as a history of requests leaves it. -/
def after (session : Session) (history : List Request) : Session :=
  ((session.performAll history).getLast?.map Prod.snd).getD session

theorem after_cons (session : Session) (request : Request) (history : List Request) :
    session.after (request :: history) = (session.perform request).2.after history := by
  simp only [after, performAll, List.getLast?_cons, Option.map_some, Option.getD_some]
  cases ((session.perform request).2.performAll history).getLast? <;> rfl

theorem guarded_frame (session : Session) (position : Int) {step : Reply × Session}
    (frame : ∃ furthest, step.2 = { session with furthest }) :
    ∃ furthest, (session.guarded position step).2 = { session with furthest } := by
  unfold guarded
  split
  · exact frame
  · exact ⟨session.furthest, rfl⟩

/-- A request changes nothing but the record. -/
theorem perform_frame (session : Session) (request : Request) :
    ∃ furthest, (session.perform request).2 = { session with furthest } := by
  cases request with
  | attempt nonterminal position => exact session.guarded_frame position ⟨_, rfl⟩
  | first nonterminals position =>
      cases nonterminals with
      | nil => exact ⟨session.furthest, rfl⟩
      | cons => exact session.guarded_frame position ⟨_, rfl⟩
  | expect kind position => exact session.guarded_frame position ⟨_, rfl⟩
  | sequence kinds position =>
      cases kinds with
      | nil => exact ⟨session.furthest, rfl⟩
      | cons => exact session.guarded_frame position ⟨_, rfl⟩
  | peek position =>
      apply session.guarded_frame position
      cases tokenAt? session.tokens position <;> exact ⟨session.furthest, rfl⟩
  | advance | failure => exact ⟨session.furthest, rfl⟩
  | record | parse => exact ⟨_, rfl⟩
  | sourceLine index =>
      simp only [perform]
      cases tokenAt? session.tokens index with
      | none => exact ⟨session.furthest, rfl⟩
      | some token =>
          dsimp only
          cases lineOf? session.lines token <;> exact ⟨session.furthest, rfl⟩

theorem after_frame (session : Session) (history : List Request) :
    ∃ furthest, session.after history = { session with furthest } := by
  induction history generalizing session with
  | nil => exact ⟨session.furthest, rfl⟩
  | cons request history ih =>
      obtain ⟨recorded, step⟩ := session.perform_frame request
      obtain ⟨furthest, run⟩ := ih (session.perform request).2
      rw [after_cons, run, step]
      exact ⟨furthest, rfl⟩

theorem reply_guarded (session : Session) (furthest : Furthest) (position : Int)
    {step other : Reply × Session} (same : step.1 = other.1) :
    (({ session with furthest } : Session).guarded position step).1 =
      (session.guarded position other).1 := by
  unfold guarded
  dsimp only
  split
  · exact same
  · rfl

/-- The record decides the reply to no request but the one for its failure. -/
theorem reply_of_record (session : Session) (furthest : Furthest) {request : Request}
    (other : request ≠ .failure) :
    (({ session with furthest } : Session).perform request).1 = (session.perform request).1 := by
  cases request with
  | failure => exact absurd rfl other
  | attempt nonterminal position => exact session.reply_guarded furthest position rfl
  | first nonterminals position =>
      cases nonterminals with
      | nil => rfl
      | cons => exact session.reply_guarded furthest position rfl
  | expect kind position => exact session.reply_guarded furthest position rfl
  | sequence kinds position =>
      cases kinds with
      | nil => rfl
      | cons => exact session.reply_guarded furthest position rfl
  | peek position =>
      apply session.reply_guarded furthest position
      dsimp only
      cases tokenAt? session.tokens position <;> rfl
  | advance | record | parse => rfl
  | sourceLine index =>
      simp only [perform]
      cases tokenAt? session.tokens index with
      | none => rfl
      | some token =>
          dsimp only
          cases lineOf? session.lines token <;> rfl

theorem reply_after (session : Session) (history : List Request) (request : Request)
    (other : request ≠ .failure) :
    ((session.after history).perform request).1 = (session.perform request).1 := by
  obtain ⟨furthest, run⟩ := session.after_frame history
  rw [run, session.reply_of_record furthest other]

/-! ## What nonterminals find -/

/-- The reply that tells what a rule has found. -/
def Reply.ofFound : Option (Tree × Int) → Reply
  | some (tree, finish) => .node tree finish
  | none => .nothing

/-- Whether a reply tells that something was found. -/
def Reply.isNode : Reply → Bool
  | .node .. => true
  | _ => false

theorem Reply.ofFound_eq_node_iff {answer : Option (Tree × Int)} {tree : Tree} {finish : Int} :
    ofFound answer = .node tree finish ↔ answer = some (tree, finish) := by
  cases answer with
  | none => simp [ofFound]
  | some found => simp [ofFound, Prod.ext_iff]

theorem reply_at (session : Session) (rule : Rule Tree) (position : Nat) :
    (session.guarded position (session.apply rule position .node)).1 =
      .ofFound (rule session.tokens position).found := by
  have reachable : isReachable session.tokens position = true := by
    simp only [isReachable, decide_eq_true_eq]
    omega
  rw [guarded, if_pos reachable, apply]
  cases (rule session.tokens position).found <;> rfl

theorem reply_attempt (session : Session) (nonterminal : Nonterminal) (position : Nat) :
    (session.perform (.attempt nonterminal position)).1 =
      .ofFound (nonterminal.rule session.tokens position).found :=
  session.reply_at _ _

theorem find_ofFound (answers : List (Option (Tree × Int))) :
    ((answers.map Reply.ofFound).find? Reply.isNode).getD .nothing =
      .ofFound (answers.findSome? id) := by
  induction answers with
  | nil => rfl
  | cons answer answers ih =>
      cases answer with
      | none => exact ih
      | some found => rfl

theorem reply_first (session : Session) (nonterminals : List Nonterminal) (position : Nat) :
    (session.perform (.first nonterminals position)).1 =
      ((nonterminals.map fun nonterminal =>
        (session.perform (.attempt nonterminal position)).1).find? Reply.isNode).getD .nothing := by
  cases nonterminals with
  | nil => rfl
  | cons nonterminal others =>
      simp only [reply_attempt]
      calc (session.perform (.first (nonterminal :: others) position)).1
        _ = .ofFound (Rule.firstOf ((nonterminal :: others).map Nonterminal.rule) session.tokens
              position).found := session.reply_at _ _
        _ = .ofFound (((nonterminal :: others).map fun nonterminal =>
              (nonterminal.rule session.tokens position).found).findSome? id) := by
            rw [Rule.found_firstOf, List.findSome?_map, List.findSome?_map]
            rfl
        _ = _ := by
            rw [← find_ofFound, List.map_map]
            rfl

end Session

/-- What a nonterminal finds depends on the tokens that it reads and on nothing else. -/
theorem Nonterminal.found_local {nonterminal : Nonterminal} {tokens : List Token} {position : Nat}
    {tree : Tree} {finish : Int}
    (found : (nonterminal.rule tokens position).found = some (tree, finish)) :
    ∃ stop : Nat, finish = stop ∧ position < stop ∧ stop ≤ tokens.length ∧
      ∀ before rest : List Token,
        (nonterminal.rule (before ++ (tokens.drop position).take (stop - position) ++ rest)
          before.length).found =
            some (tree, ((before.length + (stop - position) : Nat) : Int)) := by
  obtain ⟨value, reads⟩ := nonterminal.exists_reads
  have nonempty := nonterminal.length_kinds_pos
  rw [reads] at found
  rcases fit_or_miss nonterminal.kinds (tokens.drop position) with full | ⟨kind, missed⟩
  · rw [Attempt.phrase_of_fit value full] at found
    cases found
    have kinds := fit_eq_length_iff.1 full
    have within : nonterminal.kinds.length ≤ tokens.length - position := by
      have := congrArg List.length kinds
      rw [List.length_map, List.length_take, List.length_drop] at this
      omega
    refine ⟨position + nonterminal.kinds.length, rfl, by omega, by omega, ?_⟩
    intro before rest
    rw [Nat.add_sub_cancel_left]
    exact reads.found_between kinds before rest
  · rw [Attempt.phrase_of_miss value missed] at found
    cases found

/-- After any history a session replies to a nonterminal, to a choice of nonterminals and to the
    request for the whole program as a new session does. A nonterminal that finds something reads at
    least one token, and finds the same wherever the tokens that it reads stand; of a choice, the first
    nonterminal that finds something on its own decides. -/
theorem session_memoryless (tokens : List Token) (lines : List String)
    (history : List Session.Request) :
    let fresh : Session := { tokens, lines }
    let used := fresh.after history
    (∀ (nonterminal : Nonterminal) (position : Int),
      (used.perform (.attempt nonterminal position)).1 =
        (fresh.perform (.attempt nonterminal position)).1) ∧
    (∀ (nonterminal : Nonterminal) (position : Nat) (tree : Tree) (finish : Int),
      (used.perform (.attempt nonterminal position)).1 = .node tree finish →
      ∃ stop : Nat, finish = stop ∧ position < stop ∧ stop ≤ tokens.length ∧
        ∀ (before rest : List Token) (otherLines : List String)
          (otherHistory : List Session.Request),
          let other : Session :=
            { tokens := before ++ (tokens.drop position).take (stop - position) ++ rest
              lines := otherLines }
          ((other.after otherHistory).perform (.attempt nonterminal before.length)).1 =
            .node tree ((before.length + (stop - position) : Nat) : Int)) ∧
    (∀ (nonterminals : List Nonterminal) (position : Nat),
      (used.perform (.first nonterminals position)).1 =
        ((nonterminals.map fun nonterminal =>
          (fresh.perform (.attempt nonterminal position)).1).find?
            Session.Reply.isNode).getD .nothing) ∧
    (used.perform .parse).1 = (fresh.perform .parse).1 := by
  intro fresh used
  have same : ∀ request ≠ .failure, (used.perform request).1 = (fresh.perform request).1 := by
    intro request other
    exact fresh.reply_after history request other
  refine ⟨?_, ?_, ?_, same .parse nofun⟩
  · intro nonterminal position
    exact same (.attempt nonterminal position) nofun
  · intro nonterminal position tree finish replied
    rw [same (.attempt nonterminal position) nofun, Session.reply_attempt,
      Session.Reply.ofFound_eq_node_iff] at replied
    obtain ⟨stop, finish_eq, later, inside, elsewhere⟩ := Nonterminal.found_local replied
    refine ⟨stop, finish_eq, later, inside, ?_⟩
    intro before rest otherLines otherHistory other
    rw [other.reply_after otherHistory (.attempt nonterminal before.length) nofun,
      Session.reply_attempt, elsewhere]
    rfl
  · intro nonterminals position
    rw [same (.first nonterminals position) nofun, Session.reply_first]

/-- A statement is found after misses elsewhere, and again behind a brace. -/
theorem session_memoryless_statement :
    let tokens : List Token :=
      [{ kind := .returnKeyword }, { kind := .constant, text := some "7" }, { kind := .semicolon }]
    let used := ({ tokens } : Session).after [.attempt .function 0, .record ⟨9, "x"⟩, .parse]
    let behind : Session := { tokens := { kind := .leftBrace } :: tokens }
    ∃ tree, (used.perform (.attempt .statement 0)).1 = .node tree 3 ∧
      (behind.perform (.attempt .statement 1)).1 = .node tree 4 := by
  intro tokens used behind
  obtain ⟨same, elsewhere, -, -⟩ :=
    session_memoryless tokens [] [.attempt .function 0, .record ⟨9, "x"⟩, .parse]
  have replied : (used.perform (.attempt .statement 0)).1 = .node _ 3 := (same .statement 0).trans rfl
  obtain ⟨stop, three, -, -, again⟩ := elsewhere .statement 0 _ 3 replied
  obtain rfl : stop = 3 := by omega
  exact ⟨_, replied, again [{ kind := .leftBrace }] [] [] []⟩

end MicroC.Source
