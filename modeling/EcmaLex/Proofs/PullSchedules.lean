import EcmaLex.Proofs.SessionStates
import EcmaLex.Proofs.TokenLines

/-!
# Schedules of pulls

A scanner can be read by single steps, by items, by several items at once and to its end, and in
any order of these. Whatever the order is, what is read is one sequence: the results of the steps up
to the end of the text or a failure. Each call reads the part of the sequence that comes next, as
far as it reaches, and is answered from this part alone; the next call goes on behind it. Behind the
sequence there is nothing but the end of the text.

The invariant is what a scanner has ahead: no result at the end of the text, and else the result of
the next step and what the scanner behind it has ahead.

## Main definitions

* `EcmaLex.Scanner.Call` : the calls that read from a scanner.
* `EcmaLex.Scanner.Call.reads`, `EcmaLex.Scanner.Call.reply` : how far a call reads, and how it is
  answered.
* `EcmaLex.Scanner.replies` : the answers to a schedule of calls.
* `EcmaLex.Scanner.Ahead` : what a scanner has ahead.

## Main results

* `EcmaLex.Scanner.Ahead.pullUpTo`, `EcmaLex.Scanner.Ahead.nth`, `EcmaLex.Scanner.Ahead.drain`,
  `EcmaLex.Scanner.Ahead.all` : what each call reads.
* `EcmaLex.Scanner.pulls_read_one_sequence` : every schedule reads the results of the steps.
-/

namespace EcmaLex

/-- The items among results, which are all of them but the end of the text. -/
def Result.items (results : List Result) : List Result := results.filter fun r => !isEnd r

namespace Result

variable {r : Result}

theorem items_cons (h : isEnd r = false) (results : List Result) :
    items (r :: results) = r :: items results :=
  List.filter_cons_of_pos (by rw [h]; rfl)

theorem items_cons_of_isEnd (h : isEnd r = true) (results : List Result) :
    items (r :: results) = items results :=
  List.filter_cons_of_neg (by rw [h]; exact Bool.false_ne_true)

end Result

namespace Scanner

/-- The calls that read from a scanner: one step; the next item, the item behind a number of others,
the next items up to a number, all remaining items, or their number; and all remaining tokens. -/
inductive Call
  | next
  | pull
  | nth (n : Nat)
  | pullUpTo (n : Nat)
  | drain
  | count
  | all
  deriving DecidableEq, Repr

namespace Call

/-- The request of a session that makes the call. -/
def request : Call → Session.Request
  | next => .next .regularExpression
  | pull => .pull
  | nth n => .nth n
  | pullUpTo n => .pullUpTo n
  | drain => .drain
  | count => .count
  | all => .all

/-- How many of the results ahead a call reads, if there are as many. -/
def reads (left : List Result) : Call → Nat
  | next | pull => 1
  | nth n => n + 1
  | pullUpTo n => n
  | drain | count | all => left.length

/-- The answer to a call that reads `part`; `last` is the end of the text. -/
def reply (last : Token) (part : List Result) : Call → Session.Answer
  | next => .result (part.headD (.ok last))
  | pull => .item (Result.items part).head?
  | nth n => .item (Result.items part)[n]?
  | pullUpTo _ | drain => .items (Result.items part)
  | count => .number (Result.items part).length
  | all => .tokens ((Result.items part).mapM id)

end Call

/-- The answers to a schedule of calls with the results `left` ahead: each call is answered from
the part that it reads, and leaves the rest to the calls behind it. -/
def replies (last : Token) : List Call → List Result → List Session.Answer
  | [], _ => []
  | call :: calls, left =>
    call.reply last (left.take (call.reads left)) ::
      replies last calls (left.drop (call.reads left))

/-- The scanner at the end of its text. -/
def finished (s : Scanner) : Scanner := s.moveTo s.cursor.finish

/-- What a scanner has ahead when slashes start regular expressions: nothing at the end of the text,
and otherwise the result of the next step and what is ahead behind it, which is nothing if the step
gives the end of the text. -/
inductive Ahead : Scanner → List Result → Prop
  | nothing {s : Scanner} (hend : s.cursor.rest = []) : Ahead s []
  | step {s : Scanner} {left : List Result} (hlater : Ahead (s.next .regularExpression).2 left)
      (hlast : Result.isEnd (s.next .regularExpression).1 = true → left = []) :
      Ahead s ((s.next .regularExpression).1 :: left)

variable {s : Scanner} {left : List Result}

/-! ### Single calls -/

/-- A scanner has the results of its run ahead. -/
theorem ahead_run (s : Scanner) : Ahead s (s.run .regularExpression).results := by
  obtain ⟨t, ht, heof⟩ | hending := exists_token_or_ending .regularExpression s
  · rw [results_run_of_token ht heof, ← ht]
    refine .step (ahead_run (s.next .regularExpression).2) fun hend => ?_
    rw [ht] at hend
    exact absurd (heof.symm.trans hend) Bool.false_ne_true
  · rw [results_run_of_ending hending]
    exact .step (.nothing (rest_next_eq_nil hending)) fun _ => rfl
termination_by s.cursor.rest.length
decreasing_by exact length_rest_next_lt ht heof

namespace Ahead

theorem next (h : Ahead s left) :
    (s.next .regularExpression).1 = (left.take 1).headD (.ok s.finished.eof) ∧
      Ahead (s.next .regularExpression).2 (left.drop 1) := by
  cases h with
  | nothing hend =>
    have hfinish : s.finished = s := by
      rw [finished, Cursor.finish, hend, List.length_nil, Cursor.advance_zero]
      rfl
    rw [next_of_rest_eq_nil hend, hfinish]
    exact ⟨rfl, .nothing hend⟩
  | step hlater => exact ⟨rfl, hlater⟩

/-- Pulling gives the result ahead as an item, or none where there is no item ahead. -/
theorem pull_cases (h : Ahead s left) :
    (∃ s', s.pull = (none, s') ∧ Ahead s' [] ∧
      ∀ n, Result.items (left.take n) = [] ∧ left.drop (n + 1) = []) ∨
    ∃ item later s', s.pull = (some item, s') ∧ Ahead s' later ∧ left = item :: later ∧
      ∀ rs, Result.items (item :: rs) = item :: Result.items rs := by
  cases h with
  | nothing hend =>
    refine .inl ⟨s, pull_of_rest_eq_nil hend, .nothing hend, fun n => ?_⟩
    rw [List.take_nil, List.drop_nil]
    exact ⟨rfl, rfl⟩
  | @step _ later hlater hlast =>
    rw [pull_eq]
    cases hend : Result.isEnd (s.next .regularExpression).1 with
    | true =>
      obtain rfl := hlast hend
      refine .inl ⟨_, rfl, hlater, fun n => ⟨?_, List.drop_nil⟩⟩
      cases n with
      | zero => rfl
      | succ n => rw [List.take_succ_cons, Result.items_cons_of_isEnd hend, List.take_nil]; rfl
    | false =>
      exact .inr ⟨_, later, _, rfl, hlater, rfl, Result.items_cons hend⟩

theorem nth (h : Ahead s left) (n : Nat) :
    (s.nth n).1 = (Result.items (left.take (n + 1)))[n]? ∧
      Ahead (s.nth n).2 (left.drop (n + 1)) := by
  induction n generalizing s left with
  | zero =>
    obtain ⟨s', hpull, hafter, hnone⟩ | ⟨item, later, s', hpull, hafter, rfl, hitem⟩ := h.pull_cases
    · rw [Scanner.nth, hpull, (hnone 1).1, (hnone 0).2]
      exact ⟨rfl, hafter⟩
    · rw [Scanner.nth, hpull, List.take_succ_cons, hitem]
      exact ⟨rfl, hafter⟩
  | succ n ih =>
    obtain ⟨s', hpull, hafter, hnone⟩ | ⟨item, later, s', hpull, hafter, rfl, hitem⟩ := h.pull_cases
    · rw [Scanner.nth, hpull, (hnone (n + 2)).1, (hnone (n + 1)).2]
      exact ⟨rfl, hafter⟩
    · rw [Scanner.nth, hpull, List.take_succ_cons, hitem]
      exact ih hafter

theorem pullUpTo (h : Ahead s left) (n : Nat) :
    (s.pullUpTo n).1 = Result.items (left.take n) ∧
      Ahead (s.pullUpTo n).2 (left.drop n) := by
  induction n generalizing s left with
  | zero => exact ⟨rfl, h⟩
  | succ n ih =>
    obtain ⟨s', hpull, hafter, hnone⟩ | ⟨item, later, s', hpull, hafter, rfl, hitem⟩ := h.pull_cases
    · rw [Scanner.pullUpTo, hpull, (hnone (n + 1)).1, (hnone n).2]
      exact ⟨rfl, hafter⟩
    · obtain ⟨hitems, hlater⟩ := ih hafter
      rw [Scanner.pullUpTo, hpull, List.take_succ_cons, hitem, ← hitems]
      exact ⟨rfl, hlater⟩

theorem drain (h : Ahead s left) : s.drain.1 = Result.items left ∧ Ahead s.drain.2 [] := by
  fun_induction Scanner.drain s generalizing left with
  | case1 s hnone =>
    obtain ⟨s', hpull, hafter, hitems⟩ | ⟨item, later, s', hpull, -⟩ := h.pull_cases
    · obtain ⟨hitems, -⟩ := hitems left.length
      rw [List.take_length] at hitems
      rw [hitems, hpull]
      exact ⟨rfl, hafter⟩
    · rw [hpull] at hnone
      cases hnone
  | case2 s item hitem rest =>
    rename_i ih
    obtain ⟨s', hpull, -⟩ | ⟨item', later, s', hpull, hafter, rfl, hitems⟩ := h.pull_cases
    · rw [hpull] at hitem
      cases hitem
    · obtain rfl : item' = item := Option.some.inj (by rw [← hitem, hpull])
      obtain rfl : s.pull.2 = s' := by rw [hpull]
      obtain ⟨hlater, hend⟩ := ih hafter
      rw [hitems, ← hlater]
      exact ⟨rfl, hend⟩

theorem all (h : Ahead s left) :
    s.all.1 = (Result.items left).mapM id ∧ Ahead s.all.2 [] := by
  rw [Scanner.all]
  induction h with
  | @nothing s hend =>
    have hnext := next_of_rest_eq_nil hend .regularExpression
    rw [run_of_eof (congrArg Prod.fst hnext) rfl, hnext]
    exact ⟨rfl, .nothing hend⟩
  | @step s left hlater hlast ih =>
    obtain ⟨htokens, hafter⟩ := ih
    cases hnext : (s.next .regularExpression).1 with
    | error e =>
      rw [run_of_error hnext]
      exact ⟨rfl, .nothing (rest_next_eq_nil fun t ht => by cases hnext.symm.trans ht)⟩
    | ok t =>
      cases heof : t.isEof with
      | true =>
        obtain rfl := hlast (by rwa [hnext])
        rw [run_of_eof hnext heof, Result.items_cons_of_isEnd (r := .ok t) heof]
        exact ⟨rfl, hlater⟩
      | false =>
        rw [run_of_token hnext heof, Result.items_cons (r := .ok t) heof, List.mapM_cons, ← htokens]
        refine ⟨?_, hafter⟩
        cases ((s.next .regularExpression).2.run .regularExpression).ending <;> rfl

end Ahead

/-- Every scanner further on in a text has the same end. -/
theorem Reaches.finished_eq {s' : Scanner} (h : s.Reaches s') : s'.finished = s.finished := by
  obtain ⟨piece, hpiece⟩ := h.exists_passes
  rw [finished, finished, hpiece.finish_eq]
  exact congrArg (Scanner.mk s.cursor.finish) h.config_eq

end Scanner

/-! ### Schedules -/

namespace Session

open Scanner

variable {s : Scanner} {session : Session} {left : List Result}

/-- **A call is answered from the part that it reads**, and has the scanner behind this part. -/
theorem answer_call (h : Ahead session.scanner left) (call : Call) :
    (session.answer call.request).1 =
        call.reply session.scanner.finished.eof (left.take (call.reads left)) ∧
      Ahead (session.answer call.request).2.scanner (left.drop (call.reads left)) := by
  cases call with
  | next =>
    obtain ⟨hresult, hafter⟩ := h.next
    exact ⟨congrArg Answer.result hresult, hafter⟩
  | pull =>
    obtain ⟨hitem, hafter⟩ := h.nth 0
    exact ⟨congrArg Answer.item (hitem.trans List.head?_eq_getElem?.symm), hafter⟩
  | nth n =>
    obtain ⟨hitem, hafter⟩ := h.nth n
    exact ⟨congrArg Answer.item hitem, hafter⟩
  | pullUpTo n =>
    obtain ⟨hitems, hafter⟩ := h.pullUpTo n
    exact ⟨congrArg Answer.items hitems, hafter⟩
  | drain =>
    obtain ⟨hitems, hafter⟩ := h.drain
    rw [Call.reads, List.take_length, List.drop_length]
    exact ⟨congrArg Answer.items hitems, hafter⟩
  | count =>
    obtain ⟨hitems, hafter⟩ := h.drain
    rw [Call.reads, List.take_length, List.drop_length]
    exact ⟨congrArg (fun rs : List Result => Answer.number rs.length) hitems, hafter⟩
  | all =>
    obtain ⟨htokens, hafter⟩ := h.all
    rw [Call.reads, List.take_length, List.drop_length]
    exact ⟨congrArg Answer.tokens htokens, hafter⟩

/-- The answers to a schedule are those to its calls, each from the part that comes next. -/
theorem run_calls (calls : List Call) (hwithin : Within s session)
    (h : Ahead session.scanner left) :
    run (calls.map Call.request) session = replies s.finished.eof calls left := by
  induction calls generalizing session left with
  | nil => rfl
  | cons call calls ih =>
    obtain ⟨hanswer, hafter⟩ := answer_call h call
    rw [hwithin.scanner.finished_eq] at hanswer
    rw [replies, ← hanswer, ← ih (hwithin.answer call.request) hafter]
    rfl

end Session

namespace Scanner

open CommandLine

/-- **Every schedule of calls reads one sequence**, the results of the steps up to the end of the
text or a failure: any calls in a row are answered from the parts of the sequence that they read, one
behind the other. The command line prints it as well, each token on a line of its own, and reports
the failure behind the tokens. -/
theorem pulls_read_one_sequence (file : SourceFile) (config : Config) :
    let s := ofString file.contents config
    let results := (s.run .regularExpression).results
    (steps (List.replicate results.length .regularExpression) s).1 = results ∧
    (∀ calls : List Call, Session.run (calls.map Call.request) (Session.start file config) =
      replies s.finished.eof calls results) ∧
    ∃ (tokens : List Token) (ending : Result), results = tokens.map .ok ++ [ending] ∧
      (∀ t ∈ tokens, t.isEof = false ∧ ∃ row, t.line = row ++ ['\n'] ∧ '\n' ∉ row) ∧
      (∀ t, ending = .ok t → t.isEof = true) ∧
      ∀ options : Options, options.division = false →
        options.config.withDefaultSource file.path = config →
        options.tokenize (.ok file) =
          match ending with
          | .ok _ => ⟨0, String.ofList (tokens.flatMap Token.line), ""⟩
          | .error e => ⟨1, String.ofList (tokens.flatMap Token.line),
              failureReport ("Could not tokenize " ++ file.path) e.message⟩ := by
  intro s results
  refine ⟨steps_eq_results _ s, fun calls => ?_, _, _, rfl, fun t ht => ?_,
    fun t => isEof_of_run_ending, ?_⟩
  · have hstart : Session.Within s (Session.start file config) :=
      ⟨.refl s, List.forall_mem_nil _⟩
    exact Session.run_calls calls hstart (ahead_run s)
  · exact ⟨isEof_eq_false_of_mem_run ht, exists_row_of_mem_run ht⟩
  · rintro options hdivision rfl
    have hscan : options.scan file = s.run .regularExpression := by
      rw [Options.scan, Options.goal, hdivision]
      rfl
    rw [← hscan]
    rfl

/-- Calls up to an unclosed string, over it and behind it; the command line fails there as well. -/
theorem pulls_around_unclosed_string :
    let file : SourceFile := ⟨"f", "a-'"⟩
    let options : Options := { file := "f" }
    let word : Token := ⟨.identifier, .text "a", ⟨⟨1, 0⟩, ⟨1, 1⟩⟩, some "f", ⟨0, 1⟩⟩
    let minus : Token := ⟨.operator, .text "-", ⟨⟨1, 1⟩, ⟨1, 2⟩⟩, some "f", ⟨1, 2⟩⟩
    let last : Token := ⟨.eof, .text "eof", ⟨⟨1, 3⟩, ⟨1, 3⟩⟩, some "f", ⟨3, 3⟩⟩
    Session.run [.next .regularExpression, .nth 0, .all, .all, .pull, .next .regularExpression]
        (Session.start file (options.config.withDefaultSource file.path)) =
      [.result (.ok word), .item (some (.ok minus)), .tokens (.error ⟨.string, ⟨1, 2⟩⟩),
        .tokens (.ok []), .item none, .result (.ok last)] ∧
    (options.tokenize (.ok file)).code = 1 := by
  intro file options word minus last
  let config := options.config.withDefaultSource file.path
  have hsteps : (steps (List.replicate ([word, minus].length + 1) .regularExpression)
      (ofString file.contents config)).1 =
        [word, minus].map .ok ++ [.error ⟨.string, ⟨1, 2⟩⟩] := by decide +kernel
  obtain ⟨htokens, hending⟩ := run_of_steps hsteps (by decide) fun _ h => by cases h
  obtain ⟨-, hcalls, tokens, ending, hresults, -, -, hprinted⟩ :=
    pulls_read_one_sequence file config
  have heof : (ofString file.contents config).finished.eof = last := by decide +kernel
  rw [Run.results, htokens, hending] at hcalls hresults
  rw [heof] at hcalls
  refine ⟨hcalls [.next, .nth 0, .all, .all, .pull, .next], ?_⟩
  obtain ⟨-, hlast⟩ := List.append_inj' hresults rfl
  obtain rfl := List.singleton_inj.mp hlast
  rw [hprinted options rfl rfl]

end Scanner

end EcmaLex
