import EcmaLex.Layout

/-!
# Walks of a cursor

A walk moves one cursor over a text in steps of any kind: by characters, by layout, or by a rule of
the grammar. It can keep the state of the cursor and return to it, and it remembers one byte offset
from which spans are taken.

## Main definitions

* `EcmaLex.Walk.Step` : the steps of a walk.
* `EcmaLex.Walk.Answer` : what a step gives.
* `EcmaLex.Walk.run` : the answers to a list of steps, and where the cursor is after each.
-/

namespace EcmaLex

/-- All rules of the grammar, in the order in which a walk lists those that apply. -/
def Kind.all : List Kind :=
  [.ofRule .comment, .lineComment, .blockComment, .ofRule .decimal, .ofRule .word, .ofRule .string,
    .ofRule .regularExpression, .ofRule .operator, .ofRule .single, .whitespace, .lineTerminator]

/-- A cursor, the whole text, an offset that was marked, and the states that were kept. -/
structure Walk where
  text : String
  config : Config
  cursor : Cursor := Cursor.ofString text
  mark : Nat := 0
  /-- The states that were kept, the last one first. -/
  saved : List Cursor := []

namespace Walk

/-- The steps of a walk. They move its cursor, ask for what is ahead of it, mark an offset and take
the span from there, keep the state of the cursor and return to the state kept last, give the
failure to close a construct that starts here, and apply the rules of the grammar. -/
inductive Step
  | take
  | takeN (n : Nat)
  | takeWhile (p : Char → Bool)
  | peek
  | peekNth (n : Nat)
  | upcoming (text : String)
  | upcomingIf (p : Char → Bool)
  | rest
  | text
  | finished
  | mark
  | span
  | save
  | restore
  | unterminated (construct : Delimited)
  | skip
  | kinds
  | lex (kind : Kind)

/-- What a step gives. A `number` is a number of kept states. -/
inductive Answer
  | char (c : Option Char)
  | text (s : String)
  | flag (b : Bool)
  | done
  | span (s : Span)
  | number (n : Nat)
  | failure (e : ScanError)
  | skipped (r : Except ScanError Unit)
  | kinds (ks : List Kind)
  | lexed (kind : Kind) (r : Except ScanError (Lexed (Option Form)))

/-- The walk with its cursor elsewhere. -/
def moveTo (w : Walk) (k : Cursor) : Walk := { w with cursor := k }

/-- What a step gives, and the walk after it. -/
def answer (w : Walk) : Step → Answer × Walk
  | .take =>
    let (c, k) := w.cursor.take
    (.char c, w.moveTo k)
  | .takeN n =>
    let (s, k) := w.cursor.takeN n
    (.text (String.ofList s), w.moveTo k)
  | .takeWhile p =>
    let (s, k) := w.cursor.takeWhile p
    (.text (String.ofList s), w.moveTo k)
  | .peek => (.char w.cursor.peek, w)
  | .peekNth n => (.char (w.cursor.peekNth n), w)
  | .upcoming s => (.flag (w.cursor.upcoming s.toList), w)
  | .upcomingIf p => (.flag (w.cursor.upcomingIf p), w)
  | .rest => (.text (String.ofList w.cursor.rest), w)
  | .text => (.text w.text, w)
  | .finished => (.flag w.cursor.isFinished, w)
  | .mark => (.done, { w with mark := w.cursor.offset })
  | .span => (.span (w.cursor.spanFrom w.mark), w)
  | .save =>
    let saved := w.cursor :: w.saved
    (.number saved.length, { w with saved := saved })
  | .restore =>
    match w.saved with
    | [] => (.flag false, w)
    | k :: saved => (.flag true, { w with cursor := k, saved := saved })
  | .unterminated construct => (.failure ⟨construct, w.cursor.position⟩, w)
  | .skip =>
    let (r, k) := w.cursor.skip w.config
    (.skipped r, w.moveTo k)
  | .kinds => (.kinds (Kind.all.filter fun kind => kind.starts w.config w.cursor.rest), w)
  | .lex kind =>
    let (r, k) := w.cursor.lex w.config kind
    (.lexed kind r, w.moveTo k)

/-- What the steps give, each with the offset and the position of the cursor after it. -/
def run : List Step → Walk → List (Answer × Nat × Position)
  | [], _ => []
  | step :: steps, w =>
    let (answer, w) := w.answer step
    (answer, w.cursor.offset, w.cursor.position) :: run steps w

end Walk

end EcmaLex
