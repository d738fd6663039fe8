import MicroC.Token.Scan

/-! # Token streams

A stream hands out the tokens of a buffer one at a time. It closes at the end of the text and at the
first refusal, and can be opened again where its cursor stands. All operations on the cursor are
open to the caller between two tokens; `Request` names them and `Stream.perform` carries them out.
-/

namespace MicroC

/-- The characters of words, in a fixed order. -/
def wordAlphabet : List Char :=
  "abcdefghijklmnopqrstuvwxyzABCDEFGHIJKLMNOPQRSTUVWXYZ0123456789_".toList

/-- Whether a text occurs in another, its characters side by side. -/
def occursIn (part : List Char) : List Char → Bool
  | [] => part.isEmpty
  | c :: rest => part.isPrefixOf (c :: rest) || occursIn part rest

/-- Whether a text ends a word: the empty text does, and any other that is no piece of the
    alphabet of words. -/
def isBoundaryText (text : String) : Bool :=
  text.isEmpty || !occursIn text.toList wordAlphabet

/-- The character at a position, empty past the end. Negative positions count from the end of the
    text. -/
def Buffer.charAt (buffer : Buffer) (position : Int) : Except Failure String :=
  let size : Int := buffer.chars.length
  let index := if position < 0 then size + position else position
  if size ≤ position then .ok ""
  else if index < 0 then .error (.internal .textIndex)
  else .ok ((buffer.chars[index.toNat]?.map Char.toString).getD "")

/-- A buffer that is being cut into tokens. -/
structure Stream where
  buffer : Buffer
  cursor : Cursor
  /-- Whether more tokens may come. -/
  live : Bool := true
  deriving Repr, DecidableEq

/-- What a caller may ask of a stream. -/
inductive Stream.Request where
  | next
  /-- Open the stream again where the cursor stands. -/
  | restart
  | drain
  | peek (offset : Int)
  | advance
  | atEnd
  | skip
  | keyword
  /-- Scan one token, blanks not skipped. -/
  | scan
  /-- Step over a run of the given characters, named for the refusal. -/
  | run (chars kind : String)
  /-- Whether a text ends a word. -/
  | boundary (text : String)
  | line
  deriving Repr, DecidableEq

/-- What a stream answers. -/
inductive Stream.Reply where
  | nothing
  | token (token : Token)
  | tokens (tokens : List Token)
  | kind (kind : Token.Kind)
  | text (text : String)
  | truth (value : Bool)
  | failed (failure : Failure)
  deriving Repr

namespace Stream

/-- A stream at the start of a buffer. -/
def start (buffer : Buffer) : Stream :=
  { buffer, cursor := Cursor.start buffer.chars }

/-- The next token. A closed stream has none; the end of the text and a refusal close it. -/
def next (stream : Stream) : Reply × Stream :=
  if stream.live then
    let start := stream.cursor.skipSpaces
    if start.rest.isEmpty then (.nothing, { stream with cursor := start, live := false })
    else
      match start.scanToken stream.buffer with
      | (.ok token, after) => (.token token, { stream with cursor := after })
      | (.error diagnostic, after) =>
          (.failed (.diagnosed diagnostic), { stream with cursor := after, live := false })
  else (.nothing, stream)

/-- All tokens that are left. The stream is closed afterwards. -/
def drain (stream : Stream) : Reply × Stream :=
  if stream.live then
    let (outcome, after) := stream.cursor.scanAll stream.buffer
    let closed := { stream with cursor := after, live := false }
    match outcome with
    | .ok tokens => (.tokens tokens, closed)
    | .error diagnostic => (.failed (.diagnosed diagnostic), closed)
  else (.tokens [], stream)

/-- Carry out a request. -/
def perform (stream : Stream) : Request → Reply × Stream
  | .next => stream.next
  | .restart => (.nothing, { stream with live := true })
  | .drain => stream.drain
  | .peek offset =>
      match stream.buffer.charAt (stream.cursor.offset + offset) with
      | .ok text => (.text text, stream)
      | .error failure => (.failed failure, stream)
  | .advance =>
      (.text ((stream.cursor.rest.head?.map Char.toString).getD ""),
       { stream with cursor := stream.cursor.advance })
  | .atEnd => (.truth stream.cursor.rest.isEmpty, stream)
  | .skip => (.nothing, { stream with cursor := stream.cursor.skipSpaces })
  | .keyword =>
      match stream.cursor.takeKeyword with
      | (some kind, after) => (.kind kind, { stream with cursor := after })
      | (none, after) => (.nothing, { stream with cursor := after })
  | .scan =>
      match stream.cursor.scanToken stream.buffer with
      | (.ok token, after) => (.token token, { stream with cursor := after })
      | (.error diagnostic, after) =>
          (.failed (.diagnosed diagnostic), { stream with cursor := after })
  | .run chars kind =>
      match stream.cursor.takeRun stream.buffer chars.toList.contains kind
          (stream.cursor.location stream.buffer) with
      | (.ok run, after) => (.text (String.ofList run), { stream with cursor := after })
      | (.error diagnostic, after) =>
          (.failed (.diagnosed diagnostic), { stream with cursor := after })
  | .boundary text => (.truth (isBoundaryText text), stream)
  | .line => (.text (stream.cursor.currentLine stream.buffer), stream)

/-- Carry out requests in order, with the stream as it is after each. -/
def performAll (stream : Stream) : List Request → List (Reply × Stream)
  | [] => []
  | request :: rest =>
      let step := stream.perform request
      step :: performAll step.2 rest

end Stream

end MicroC
