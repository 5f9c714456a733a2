import EcmaLex.Scanner

/-!
# Runs of a scanner

A scanner is run to the end of the text or to a failure, or it is pulled from one item at a time.
An item is a token or a failure, and there is none once the end is reached. Pulling goes on after a
failure, but nothing is left then.

## Main definitions

* `EcmaLex.Scanner.run` : all steps with one goal up to the end or a failure.
* `EcmaLex.Scanner.steps` : the steps with given goals.
* `EcmaLex.Scanner.pull` : the next item.
* `EcmaLex.Scanner.drain`, `EcmaLex.Scanner.pullUpTo`, `EcmaLex.Scanner.nth`,
  `EcmaLex.Scanner.all` : several items at once.

## Main results

* `EcmaLex.Scanner.length_rest_pull_lt` : every item shortens the text ahead.
-/

namespace EcmaLex

/-- What a step of a scanner gives. -/
abbrev Result := Except ScanError Token

/-- What a scanner gives up to the end of the text or a failure. -/
structure Run where
  /-- The tokens, the end of the text not among them. -/
  tokens : List Token
  /-- The token for the end of the text, or the failure. -/
  ending : Result
  after : Scanner

namespace Scanner

/-- The steps with given goals, and the scanner after them. -/
def steps : List Goal → Scanner → List Result × Scanner
  | [], s => ([], s)
  | goal :: goals, s =>
    let (result, s) := s.next goal
    let (results, s) := steps goals s
    (result :: results, s)

/-- All steps with one goal up to the end of the text or a failure. -/
def run (goal : Goal) (s : Scanner) : Run :=
  match _h : (s.next goal).1 with
  | .error e => ⟨[], .error e, (s.next goal).2⟩
  | .ok t =>
    if _ht : t.isEof then ⟨[], .ok t, (s.next goal).2⟩
    else
      let rest := run goal (s.next goal).2
      { rest with tokens := t :: rest.tokens }
termination_by s.cursor.rest.length
decreasing_by exact length_rest_next_lt _h (Bool.eq_false_iff.mpr _ht)

/-- The next item: a token or a failure, or none at the end of the text. -/
def pull (s : Scanner) : Option Result × Scanner :=
  match s.next .regularExpression with
  | (.ok t, s) => if t.isEof then (none, s) else (some (.ok t), s)
  | (.error e, s) => (some (.error e), s)

theorem length_rest_pull_lt {s : Scanner} {item : Result} (h : s.pull.1 = some item) :
    s.pull.2.cursor.rest.length < s.cursor.rest.length := by
  unfold pull at h ⊢
  rcases hnext : s.next .regularExpression with ⟨e | t, after⟩
  · have hlt := length_rest_next_lt_of_error (congrArg Prod.fst hnext)
    rwa [hnext] at hlt
  · rw [hnext] at h
    cases heof : t.isEof with
    | true => simp [heof] at h
    | false =>
      have hlt := length_rest_next_lt (congrArg Prod.fst hnext) heof
      rw [hnext] at hlt
      simpa [heof] using hlt

/-- All remaining items, those behind a failure included. -/
def drain (s : Scanner) : List Result × Scanner :=
  match _h : s.pull.1 with
  | none => ([], s.pull.2)
  | some item =>
    let rest := drain s.pull.2
    (item :: rest.1, rest.2)
termination_by s.cursor.rest.length
decreasing_by exact length_rest_pull_lt _h

/-- The next items, `n` at most. -/
def pullUpTo : Nat → Scanner → List Result × Scanner
  | 0, s => ([], s)
  | n + 1, s =>
    match s.pull with
    | (none, s) => ([], s)
    | (some item, s) =>
      let (items, s) := pullUpTo n s
      (item :: items, s)

/-- The item behind the next `n`, which are dropped; none if the end comes first. -/
def nth : Nat → Scanner → Option Result × Scanner
  | 0, s => s.pull
  | n + 1, s =>
    match s.pull with
    | (none, s) => (none, s)
    | (some _, s) => nth n s

/-- All remaining tokens, or the failure that comes first; the tokens before it are lost. -/
def all (s : Scanner) : Except ScanError (List Token) × Scanner :=
  let run := s.run .regularExpression
  (run.ending.map fun _ => run.tokens, run.after)

end Scanner

end EcmaLex
