import EcmaLex.Scanner.Run
import EcmaLex.SourceFile

/-!
# Sessions with a scanner

A session asks one scanner for steps, items and other facts in any order. It can keep the state of
the scanner and return to it.

## Main definitions

* `EcmaLex.Session.Request` : what a session may ask.
* `EcmaLex.Session.Answer` : what it is told.
* `EcmaLex.Session.run` : the answers to a list of requests.
-/

namespace EcmaLex

/-- A scanner, the file it scans, and the states that were kept. -/
structure Session where
  file : SourceFile
  scanner : Scanner
  /-- The states that were kept, the last one first. -/
  saved : List Scanner := []

/-- A token with the piece of the source that it takes. -/
structure RawToken where
  /-- The value of the token written out. -/
  display : String
  /-- The source text under its span. -/
  source : Option String
  length : Option Nat
  isEmpty : Bool
  deriving DecidableEq, Repr

namespace Session

/-- What a session may ask: for steps, with the source text of the token in `raw`, for items and
their number, for the position and the label, and to keep the state of the scanner or to return to
the state kept last. -/
inductive Request
  | next (goal : Goal)
  | all
  | pull
  | drain
  | pullUpTo (n : Nat)
  | nth (n : Nat)
  | count
  | position
  | source
  | save
  | restore
  | raw
  deriving DecidableEq, Repr

/-- What a session is told. A `number` is a number of items or of kept states. -/
inductive Answer
  | result (r : Result)
  | tokens (ts : Except ScanError (List Token))
  | item (r : Option Result)
  | items (rs : List Result)
  | number (n : Nat)
  | position (p : Option Position)
  | source (label : Option String)
  | raw (r : Except ScanError RawToken)

/-- A token with the piece of the source that it takes. -/
def rawToken (session : Session) (t : Token) : RawToken where
  display := t.lexeme.display
  source := session.file.sourceAt t.span
  length := t.span.length?
  isEmpty := t.span.isEmpty

/-- The session with its scanner in another state. -/
def withScanner (session : Session) (s : Scanner) : Session := { session with scanner := s }

/-- The answer to a request, and the session after it. -/
def answer (session : Session) : Request → Answer × Session
  | .next goal =>
    let (r, s) := session.scanner.next goal
    (.result r, session.withScanner s)
  | .all =>
    let (ts, s) := session.scanner.all
    (.tokens ts, session.withScanner s)
  | .pull =>
    let (item, s) := session.scanner.pull
    (.item item, session.withScanner s)
  | .drain =>
    let (items, s) := session.scanner.drain
    (.items items, session.withScanner s)
  | .pullUpTo n =>
    let (items, s) := session.scanner.pullUpTo n
    (.items items, session.withScanner s)
  | .nth n =>
    let (item, s) := session.scanner.nth n
    (.item item, session.withScanner s)
  | .count =>
    let (items, s) := session.scanner.drain
    (.number items.length, session.withScanner s)
  | .position => (.position (some session.scanner.position), session)
  | .source => (.source session.scanner.config.source, session)
  | .save =>
    let saved := session.scanner :: session.saved
    (.number saved.length, { session with saved := saved })
  | .restore =>
    match session.saved with
    | [] => (.position none, session)
    | s :: saved => (.position (some s.position), { session with scanner := s, saved := saved })
  | .raw =>
    let (r, s) := session.scanner.next .regularExpression
    (.raw (r.map session.rawToken), session.withScanner s)

/-- The answers to a list of requests. -/
def run : List Request → Session → List Answer
  | [], _ => []
  | request :: requests, session =>
    let (answer, session) := session.answer request
    answer :: run requests session

end Session

end EcmaLex
