import EcmaLex.Scanner.Run

/-!
# Events of a scanner

What a scanner does is reported as events: its creation, each token, the end of the text included,
and its failure. An event has a level and named fields.

## Main definitions

* `EcmaLex.Event` : the events.
* `EcmaLex.Scanner.events` : the events from the creation of a scanner to the end of its run.
-/

namespace EcmaLex

/-- The levels of events: `debug` for what happens once in a run, and `trace` for what happens with
every token. -/
inductive Level
  | debug
  | trace
  deriving DecidableEq, Repr

/-- The name of a level. -/
def Level.text : Level → String
  | debug => "DEBUG"
  | trace => "TRACE"

/-- The value of a field of an event. -/
inductive FieldValue
  | text (s : String)
  | number (n : Nat)
  | flag (b : Bool)
  deriving DecidableEq, Repr

/-- What a scanner reports: that it was made for a text of so many bytes, that it read a token, or
that a step failed. -/
inductive Event
  | created (bytes : Nat) (config : Config)
  | scanned (t : Token)
  | failed (e : ScanError)

namespace Event

/-- The part of the program that reports the events of scanners. -/
def target : String := "toker::lexing::scanner"

/-- The level of an event. -/
def level : Event → Level
  | created .. | failed _ => .debug
  | scanned _ => .trace

/-- The fields of an event, by name. -/
def fields : Event → List (String × FieldValue)
  | created bytes config =>
    [("message", .text "new scanner"), ("len", .number bytes),
      ("emit_comments", .flag config.emitComments)] ++
      config.source.toList.map fun label => ("source", .text label)
  | scanned t =>
    [("message", .text "token"), ("tag", .text t.tag.text), ("lexeme", .text t.lexeme.display),
      ("loc", .text t.location.text)]
  | failed e => [("message", .text "scan failed"), ("err", .text e.message)]

/-- The event of a step. -/
def ofResult : Result → Event
  | .ok t => scanned t
  | .error e => failed e

end Event

/-- The event of the creation of a scanner, and those of the steps of its run. -/
def Scanner.events (goal : Goal) (s : Scanner) : List Event :=
  let run := s.run goal
  .created (Text.byteLength s.cursor.rest) s.config ::
    (run.tokens.map .scanned ++ [Event.ofResult run.ending])

end EcmaLex
