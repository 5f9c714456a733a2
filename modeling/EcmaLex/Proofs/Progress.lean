import EcmaLex.CommandLine.Tokenize
import EcmaLex.Proofs.CursorLoops
import EcmaLex.Proofs.ScannerStep

/-!
# Progress and termination

Every step either gives the end of the text or passes a character, so no more steps give something
else than there are characters, and the end is given by one step more at the latest. This holds for
all configurations, since a rule that is selected always reads a character, whatever the classes of
characters are that decide its selection.

The same measure, the number of characters ahead, bounds every loop: those over characters and over
layout inside a step, and those that ask for one step after the other until the end or a failure.

## Main definitions

* `EcmaLex.Scanner.consumeRound`, `EcmaLex.Scanner.drainRound` : one round of the loops that ask a
  scanner for its tokens.

## Main results

* `EcmaLex.Scanner.isEnd_or_passes_next` : the progress of one step.
* `EcmaLex.Scanner.countP_steps_le`, `EcmaLex.Scanner.exists_isEnd_of_steps` : how many steps there
  are before the end.
* `EcmaLex.Scanner.progress_to_end` : progress and termination of all calls.
-/

namespace EcmaLex.Scanner

variable {s : Scanner} {goals : List Goal}

/-! ### Progress of steps -/

/-- **A step gives the end of the text or passes a character.** -/
theorem isEnd_or_passes_next (goal : Goal) (s : Scanner) :
    Result.isEnd (s.next goal).1 = true ∨
      ∃ piece, piece ≠ [] ∧ s.cursor.Passes piece (s.next goal).2.cursor := by
  cases hend : Result.isEnd (s.next goal).1 with
  | true => exact .inl rfl
  | false =>
    have hlt : (s.next goal).2.cursor.rest.length < s.cursor.rest.length := by
      cases hnext : (s.next goal).1 with
      | error e => exact length_rest_next_lt_of_error hnext
      | ok t => exact length_rest_next_lt hnext (by rwa [hnext] at hend)
    obtain ⟨piece, hpiece⟩ := s.exists_passes_next goal
    refine .inr ⟨piece, ?_, hpiece⟩
    rintro rfl
    rw [hpiece.rest_eq] at hlt
    exact Nat.lt_irrefl _ hlt

/-- A step that does not give the end shortens the text ahead. -/
theorem length_rest_next_lt_of_not_isEnd {goal : Goal}
    (h : Result.isEnd (s.next goal).1 = false) :
    (s.next goal).2.cursor.rest.length < s.cursor.rest.length := by
  obtain hend | ⟨piece, hne, hpiece⟩ := isEnd_or_passes_next goal s
  · exact absurd (h.symm.trans hend) Bool.false_ne_true
  · rw [hpiece.rest_eq, List.length_append]
    exact Nat.lt_add_of_pos_left (List.length_pos_iff.mpr hne)

/-- Each result but the end of the text takes a character from those ahead. -/
theorem countP_steps_le (goals : List Goal) (s : Scanner) :
    (steps goals s).1.countP (fun r => !Result.isEnd r) +
      (steps goals s).2.cursor.rest.length ≤ s.cursor.rest.length := by
  induction goals generalizing s with
  | nil => exact Nat.le_of_eq (Nat.zero_add _)
  | cons goal goals ih =>
    have hlater := ih (s.next goal).2
    rw [steps_cons]
    dsimp only
    cases hend : Result.isEnd (s.next goal).1 with
    | true =>
      obtain ⟨piece, hpiece⟩ := s.exists_passes_next goal
      have hlen := congrArg List.length hpiece.rest_eq
      rw [List.length_append] at hlen
      rw [List.countP_cons_of_neg (by simp [hend])]
      omega
    | false =>
      have hlt := length_rest_next_lt_of_not_isEnd hend
      rw [List.countP_cons_of_pos (by simp [hend])]
      omega

/-- Steps do not lengthen the text ahead. -/
theorem length_rest_steps_le (goals : List Goal) (s : Scanner) :
    (steps goals s).2.cursor.rest.length ≤ s.cursor.rest.length :=
  Nat.le_trans (Nat.le_add_left _ _) (countP_steps_le goals s)

/-- Of more steps than there are characters ahead, one gives the end of the text. -/
theorem exists_isEnd_of_steps (h : s.cursor.rest.length < goals.length) :
    ∃ i ≤ s.cursor.rest.length, ∃ r, (steps goals s).1[i]? = some r ∧ Result.isEnd r = true := by
  induction goals generalizing s with
  | nil => exact absurd h (Nat.not_lt_zero _)
  | cons goal goals ih =>
    rw [steps_cons]
    cases hend : Result.isEnd (s.next goal).1 with
    | true => exact ⟨0, Nat.zero_le _, _, rfl, hend⟩
    | false =>
      have hlt := length_rest_next_lt_of_not_isEnd hend
      obtain ⟨i, hi, r, hr, hlast⟩ := ih (Nat.lt_of_lt_of_le hlt (Nat.le_of_lt_succ h))
      exact ⟨i + 1, Nat.succ_le_of_lt (Nat.lt_of_le_of_lt hi hlt), r, hr, hlast⟩

/-! ### Loops over the steps -/

/-- A round of a loop that takes the tokens of a scanner up to the end or a failure, and adds each
by `add` to what it has. -/
def consumeRound {α : Type} (add : α → Token → α) (goal : Goal) :
    α × Scanner → (α × Scanner) ⊕ (α × Result × Scanner)
  | (a, s) =>
    match s.next goal with
    | (.ok t, s) => if t.isEof then .inr (a, .ok t, s) else .inl (add a t, s)
    | (.error e, s) => .inr (a, .error e, s)

/-- A round of a loop that takes the items of a scanner, failures among them. -/
def drainRound : List Result × Scanner → (List Result × Scanner) ⊕ (List Result × Scanner)
  | (items, s) =>
    match s.pull with
    | (none, s) => .inr (items, s)
    | (some item, s) => .inl (items ++ [item], s)

theorem within_consumeRound {α : Type} (add : α → Token → α) (goal : Goal) (a : α) (s : Scanner) :
    Loop.within (consumeRound add goal) (s.cursor.rest.length + 1) (a, s) =
      some ((s.run goal).tokens.foldl add a, (s.run goal).ending, (s.run goal).after) := by
  obtain ⟨t, ht, heof⟩ | hending := exists_token_or_ending goal s
  · have hround : consumeRound add goal (a, s) = .inl (add a t, (s.next goal).2) := by
      rw [consumeRound, ← Prod.eta (s.next goal), ht]
      exact if_neg (Bool.eq_false_iff.mp heof)
    have hlater := within_consumeRound add goal (add a t) (s.next goal).2
    rw [run_of_token ht heof]
    exact Loop.within_of_continue hround hlater (length_rest_next_lt ht heof)
  · have hround : consumeRound add goal (a, s) = .inr (a, (s.next goal).1, (s.next goal).2) := by
      rw [consumeRound, ← Prod.eta (s.next goal)]
      cases hnext : (s.next goal).1 with
      | error e => rfl
      | ok t => exact if_pos (hending t hnext)
    rw [Loop.within_of_stop hround, run_of_ending hending]
    rfl
termination_by s.cursor.rest.length
decreasing_by exact length_rest_next_lt ht heof

theorem within_drainRound (items : List Result) (s : Scanner) :
    Loop.within drainRound (s.cursor.rest.length + 1) (items, s) =
      some (items ++ s.drain.1, s.drain.2) := by
  fun_induction drain s generalizing items with
  | case1 s hnone =>
    have hround : drainRound (items, s) = .inr (items, s.pull.2) := by
      rw [drainRound, ← Prod.eta s.pull, hnone]
    rw [Loop.within_of_stop hround, List.append_nil]
  | case2 s item hitem rest =>
    rename_i ih
    have hround : drainRound (items, s) = .inl (items ++ [item], s.pull.2) := by
      rw [drainRound, ← Prod.eta s.pull, hitem]
    have hlater := ih (items ++ [item])
    rw [List.append_assoc, List.singleton_append] at hlater
    exact Loop.within_of_continue hround hlater (length_rest_pull_lt hitem)

/-! ### All calls -/

open CommandLine

/-- **Every call makes progress, and everything terminates.** For a text of `n` characters and any
configuration, no more than `n` steps give something else than the end, and of `n + 1` steps one
gives the end. From wherever steps lead, one step more gives the end of the text or passes a
character, and reading all tokens and reading all items stop within `n + 1` rounds, as printing the
tokens does. All loops inside a step stop within one round more than there are characters ahead. A
rule that is selected reads a character. -/
theorem progress_to_end (file : SourceFile) (config : Config) :
    let n := file.contents.toList.length
    let s := ofString file.contents config
    (∀ goals, (steps goals s).1.countP (fun r => !Result.isEnd r) ≤ n ∧
      (n < goals.length →
        ∃ i ≤ n, ∃ r, (steps goals s).1[i]? = some r ∧ Result.isEnd r = true)) ∧
    (∀ goals,
      let s' := (steps goals s).2
      (∀ goal, Result.isEnd (s'.next goal).1 = true ∨
        ∃ piece, piece ≠ [] ∧ s'.cursor.Passes piece (s'.next goal).2.cursor) ∧
      ((Loop.within (consumeRound (fun tokens t => tokens ++ [t]) .regularExpression) (n + 1)
          ([], s')).map fun (tokens, ending, after) => (ending.map fun _ => tokens, after)) =
        some s'.all ∧
      Loop.within drainRound (n + 1) ([], s') = some s'.drain) ∧
    (∀ options : Options,
      ((Loop.within (consumeRound (fun out t => out ++ t.line) options.goal) (n + 1)
          ([], file.scanner options.config)).map fun (out, _, _) => String.ofList out) =
        some (options.tokenize (.ok file)).output) ∧
    (∀ k : Cursor, k.LoopsStop config) ∧
    ∀ goal text r, text ≠ [] → (Rule.select config goal text).read config text = .ok r →
      0 < r.length := by
  intro n s
  refine ⟨fun goals => ⟨?_, exists_isEnd_of_steps (s := s)⟩, fun goals => ⟨?_, ?_, ?_⟩,
    fun options => ?_, Cursor.loopsStop config,
    fun goal text r hne hread => Rule.length_pos_of_starts (Rule.starts_select hne) hread⟩
  · exact Nat.le_trans (Nat.le_add_right _ _) (countP_steps_le goals s)
  · exact fun goal => isEnd_or_passes_next goal _
  · have hall := Loop.within_mono
      (within_consumeRound (fun tokens t => tokens ++ [t]) .regularExpression [] (steps goals s).2)
      (Nat.succ_le_succ (length_rest_steps_le goals s))
    rw [← List.flatMap_eq_foldl, List.flatMap_singleton'] at hall
    exact congrArg (Option.map _) hall
  · exact Loop.within_mono (within_drainRound [] (steps goals s).2)
      (Nat.succ_le_succ (length_rest_steps_le goals s))
  · have hprint := within_consumeRound (fun out t => out ++ t.line) options.goal []
      (file.scanner options.config)
    rw [← List.flatMap_eq_foldl] at hprint
    rw [Options.output_tokenize]
    exact congrArg (Option.map _) hprint

end EcmaLex.Scanner
