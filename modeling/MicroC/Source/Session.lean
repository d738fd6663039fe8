import MicroC.Source.Parse

/-! # Parsing sessions

A session applies single rules to one token sequence and keeps the furthest miss of all of them. No
answer depends on the steps before, apart from the record itself and the failure it amounts to.
-/

namespace MicroC.Source

/-- A token sequence with the furthest miss so far. -/
structure Session where
  tokens : List Token
  lines : List String := []
  furthest : Furthest := {}
  deriving Repr

namespace Session

/-- A step of a session. -/
inductive Request where
  | attempt (nonterminal : Nonterminal) (position : Int)
  /-- Apply rules in order until one finds something. -/
  | first (nonterminals : List Nonterminal) (position : Int)
  | expect (kind : Token.Kind) (position : Int)
  | sequence (kinds : List Token.Kind) (position : Int)
  | peek (position : Int)
  | advance (position count : Int)
  | record (miss : Miss)
  /-- The failure that the record amounts to. -/
  | failure
  | sourceLine (index : Int)
  /-- Forget the record and read the tokens as a program. -/
  | parse
  deriving Repr

/-- The answer to a step. -/
inductive Reply where
  /-- Nothing was found, or there is nothing to say. -/
  | nothing
  | node (tree : Tree) (position : Int)
  | matched (token : Token) (position : Int)
  | token (token : Token)
  | position (position : Int)
  | line (text : String)
  | program (program : Program)
  | failed (failure : Failure)
  deriving Repr

/-- Apply a rule at a position, put its value into a reply and keep its misses. -/
def apply (session : Session) (rule : Rule α) (position : Int) (reply : α → Int → Reply) :
    Reply × Session :=
  let attempt := rule session.tokens position
  let answer := match attempt.found with
    | some (value, after) => reply value after
    | none => .nothing
  (answer, { session with furthest := session.furthest.recordAll attempt.misses })

/-- Take a step only if its position is not before the first token. -/
def guarded (session : Session) (position : Int) (step : Reply × Session) : Reply × Session :=
  if isReachable session.tokens position then step else (.failed (.internal .tokenIndex), session)

/-- Read all of the tokens as a program, on a new record. -/
def parseAll (session : Session) : Reply × Session :=
  let answer := match parse session.tokens session.lines with
    | .ok result => .program result
    | .error failure => .failed failure
  (answer, { session with furthest := Furthest.recordAll {} (program session.tokens 0).misses })

/-- Take one step. -/
def perform (session : Session) : Request → Reply × Session
  | .attempt nonterminal position =>
      session.guarded position (session.apply nonterminal.rule position .node)
  | .first [] _ => (.nothing, session)
  | .first nonterminals position =>
      session.guarded position
        (session.apply (Rule.firstOf (nonterminals.map Nonterminal.rule)) position .node)
  | .expect kind position =>
      session.guarded position (session.apply (Rule.expect kind) position .matched)
  | .sequence [] position => (.position position, session)
  | .sequence kinds position =>
      session.guarded position
        (session.apply (Rule.expectAll kinds) position fun _ after => .position after)
  | .peek position =>
      session.guarded position <|
        match tokenAt? session.tokens position with
        | some token => (.token token, session)
        | none => (.nothing, session)
  | .advance position count => (.position (position + count), session)
  | .record miss => (.nothing, { session with furthest := session.furthest.record miss })
  | .failure => (.failed (session.furthest.failure session.tokens session.lines).raised, session)
  | .sourceLine index =>
      match tokenAt? session.tokens index with
      | none => (.failed (.internal .tokenIndex), session)
      | some token =>
          match lineOf? session.lines token with
          | some text => (.line text, session)
          | none => (.nothing, session)
  | .parse => session.parseAll

/-- Take steps in order; each answer comes with the session after it. -/
def performAll (session : Session) : List Request → List (Reply × Session)
  | [] => []
  | request :: requests =>
      let (reply, after) := session.perform request
      (reply, after) :: after.performAll requests

end Session

end MicroC.Source
