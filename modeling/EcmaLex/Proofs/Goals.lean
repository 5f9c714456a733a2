import EcmaLex.Proofs.TokenPieces

/-!
# What the goal of a step decides

A step asks for its goal in one place only: behind the layout, where a slash is ahead that opens no
comment and starts no word. There the slash starts a regular expression for the one goal, and an
operator or a token of its own for the other. Everywhere else the step is the same for both goals,
with the same result and the same scanner after it. So a run for which slashes start regular
expressions, and which meets none, is the run for which they are divisions.

## Main definitions

* `EcmaLex.Result.regularExpressionStart?` : where the regular expression starts that a result is
  about.
* `EcmaLex.Token.IsDivision` : a token that starts with a slash and is no regular expression.

## Main results

* `EcmaLex.Scanner.next_division_eq_or_isDivision` : the two cases of a step.
* `EcmaLex.Scanner.goal_matters_at_regularExpressions` : steps and runs with either goal.
-/

namespace EcmaLex

/-- Where the regular expression starts that a result is about, as a token or as a failure. -/
def Result.regularExpressionStart? : Result → Option Position
  | .ok t => if t.tag = .regularExpressionLiteral then some t.location.start else none
  | .error e => if e.construct = .regularExpression then some e.start else none

/-- A token at a position that starts with a slash and is no regular expression: an operator where
the slash is an operator character, and else the slash alone. -/
structure Token.IsDivision (config : Config) (start : Position) (t : Token) : Prop where
  start_eq : t.location.start = start
  tag_eq : t.tag = if config.isOperatorChar '/' then .operator else .char '/'
  lexeme_eq : ∃ run, t.lexeme = .text (String.ofList ('/' :: run))

variable {config : Config} {goal : Goal} {rule : Rule} {c : Char}

theorem Token.IsDivision.regularExpressionStart?_eq_none {t : Token} {start : Position}
    (h : t.IsDivision config start) : Result.regularExpressionStart? (.ok t) = none := by
  have htag : t.tag ≠ .regularExpressionLiteral := by
    rw [h.tag_eq]
    split <;> decide
  exact if_neg htag

/-! ### The rule for a slash -/

theorem Rule.atHead_eq_of_ne_slash (h : c ≠ '/') :
    atHead config goal c = atHead config .division c := by
  simp [atHead, h]

theorem Rule.atHead_slash :
    atHead config goal '/' =
      if config.isWordStart '/' then .word
      else if goal = .regularExpression then .regularExpression
      else if config.isOperatorChar '/' then .operator
      else .single := by
  have hdigit : isDigit '/' = false := by decide
  have hquote : isQuote '/' = false := by decide
  simp [atHead, hdigit, hquote]

namespace Scanner

variable {s : Scanner}

/-! ### One step -/

/-- Only the rule for regular expressions reads one or fails to. -/
theorem regularExpressionStart?_readToken (h : rule.starts s.config s.cursor.rest = true) :
    Result.regularExpressionStart? (s.readToken rule).1 =
      if rule = .regularExpression then some s.position else none := by
  cases hread : rule.read s.config s.cursor.rest with
  | ok r =>
    rw [readToken_of_ok hread]
    simp only [Result.regularExpressionStart?, token,
      (Rule.gives_of_read hread).eq_regularExpressionLiteral_iff]
  | error construct =>
    obtain ⟨rfl, -⟩ := Rule.unclosed_of_read h hread
    rw [readToken_of_error hread]
    cases construct with
    | string => rfl
    | regularExpression => rfl
    | blockComment => rfl

/-- Where the slash starts no regular expression, it is read as a division. -/
theorem exists_isDivision_of_readToken {rest : List Char} (hrest : s.cursor.rest = '/' :: rest) :
    ∃ t, (s.readToken (if s.config.isOperatorChar '/' then .operator else .single)).1 = .ok t ∧
      t.IsDivision s.config s.position := by
  by_cases hoperator : s.config.isOperatorChar '/' = true
  · have hread : Rule.operator.read s.config s.cursor.rest =
        .ok ((Grammar.operator s.config s.cursor.rest).map .operator) := rfl
    rw [if_pos hoperator, readToken_of_ok hread]
    refine ⟨_, rfl, rfl, (if_pos hoperator).symm, rest.takeWhile s.config.isOperatorChar, ?_⟩
    simp [token, Reading.map, Grammar.operator, Form.lexeme, hrest, hoperator]
  · have hread : Rule.single.read s.config s.cursor.rest =
        .ok ((Grammar.single s.cursor.rest).map .single) := rfl
    rw [if_neg hoperator, readToken_of_ok hread]
    refine ⟨_, rfl, rfl, ?_, [], ?_⟩
    · simp [token, Reading.map, Grammar.single, Form.tag, hrest, hoperator]
    · simp [token, Reading.map, Grammar.single, Form.lexeme, hrest]

/-- In front of a token the two goals differ at a slash alone. -/
theorem next_division_of_layoutKind?_eq_none
    (hstop : layoutKind? s.config s.cursor.rest = none) (hne : s.cursor.rest ≠ []) :
    s.next .division = s.next .regularExpression ∧
      Result.regularExpressionStart? (s.next .regularExpression).1 = none ∨
    Result.regularExpressionStart? (s.next .regularExpression).1 = some s.position ∧
      ∃ t, (s.next .division).1 = .ok t ∧ t.IsDivision s.config s.position := by
  have hnext : ∀ goal, s.next goal = s.readToken (Rule.select s.config goal s.cursor.rest) :=
    fun goal => next_of_layoutKind?_eq_none hstop hne
  have hstart : Result.regularExpressionStart? (s.next .regularExpression).1 =
      if Rule.select s.config .regularExpression s.cursor.rest = .regularExpression then
        some s.position else none := by
    rw [hnext]
    exact regularExpressionStart?_readToken (Rule.starts_select hne)
  -- a rule for both goals that is not the one for regular expressions
  have hsame : ∀ rule, rule ≠ .regularExpression →
      (∀ goal, Rule.select s.config goal s.cursor.rest = rule) →
      s.next .division = s.next .regularExpression ∧
        Result.regularExpressionStart? (s.next .regularExpression).1 = none := by
    intro rule hrule hselect
    rw [hstart, hselect, if_neg hrule, hnext, hnext, hselect, hselect]
    exact ⟨rfl, rfl⟩
  obtain ⟨c, rest, hrest⟩ := List.exists_cons_of_ne_nil hne
  by_cases hopen : Grammar.startsComment s.cursor.rest = true
  · have hshow := emitComments_of_startsComment hstop hopen
    exact .inl (hsame .comment (by decide)
      fun goal => Rule.select_eq_comment_iff.mpr ⟨hshow, hopen⟩)
  · have hselect : ∀ goal, Rule.select s.config goal s.cursor.rest =
        Rule.atHead s.config goal c := fun goal =>
      Rule.select_of_head (by rw [hrest]; rfl) (Bool.not_eq_true _ ▸ hopen)
    by_cases hc : c = '/'
    · subst hc
      simp only [Rule.atHead_slash] at hselect
      by_cases hword : s.config.isWordStart '/' = true
      · exact .inl (hsame .word (by decide) fun goal => by rw [hselect, if_pos hword])
      · refine .inr ⟨?_, ?_⟩
        · rw [hstart, hselect, if_neg hword, if_pos rfl, if_pos rfl]
        · rw [hnext, hselect, if_neg hword, if_neg (by decide)]
          exact exists_isDivision_of_readToken hrest
    · refine .inl (hsame (Rule.atHead s.config .division c) ?_ fun goal => ?_)
      · intro hrule
        have hgoal := Rule.goal_of_select ((hselect .division).trans hrule)
        cases hgoal
      · rw [hselect, Rule.atHead_eq_of_ne_slash hc]

/-- **A step is the same for both goals**, and not about a regular expression, unless it is about
one for the one goal and gives a division at the same place for the other. -/
theorem next_division_eq_or_isDivision (s : Scanner) :
    s.next .division = s.next .regularExpression ∧
      Result.regularExpressionStart? (s.next .regularExpression).1 = none ∨
    ∃ start, Result.regularExpressionStart? (s.next .regularExpression).1 = some start ∧
      ∃ t, (s.next .division).1 = .ok t ∧ t.IsDivision s.config start := by
  have hskip := s.cursor.skips_skip s.config
  generalize hskipped : s.cursor.skip s.config = skipped at hskip
  obtain ⟨r, k⟩ := skipped
  cases hskip with
  | unclosed =>
    have hnext : ∀ goal, s.next goal = (.error ⟨.blockComment, _⟩, s.moveTo _) := fun goal => by
      rw [next, hskipped]
    rw [hnext, hnext]
    exact .inl ⟨rfl, rfl⟩
  | done hgap hlayout hstop =>
    rw [next_of_passes hgap hlayout, next_of_passes hgap hlayout]
    by_cases hend : k.rest = []
    · have hnext := next_of_rest_eq_nil (s := s.moveTo k) hend
      rw [hnext, hnext]
      exact .inl ⟨rfl, rfl⟩
    · exact (next_division_of_layoutKind?_eq_none (s := s.moveTo k) hstop hend).imp_right
        fun h => ⟨_, h⟩

theorem next_division_eq
    (h : Result.regularExpressionStart? (s.next .regularExpression).1 = none) :
    s.next .division = s.next .regularExpression := by
  obtain ⟨hsame, -⟩ | ⟨start, hstart, -⟩ := next_division_eq_or_isDivision s
  · exact hsame
  · cases h.symm.trans hstart

/-! ### Runs -/

/-- Where no step is about a regular expression, the goals of the steps do not matter. -/
theorem steps_eq_of_regularExpressionStart?_eq_none {goals : List Goal}
    (h : ∀ r ∈ (steps (List.replicate goals.length .regularExpression) s).1,
      Result.regularExpressionStart? r = none) :
    steps goals s = steps (List.replicate goals.length .regularExpression) s := by
  induction goals generalizing s with
  | nil => rfl
  | cons goal goals ih =>
    rw [List.length_cons, List.replicate_succ, steps_cons] at h
    obtain ⟨hfirst, hlater⟩ := List.forall_mem_cons.mp h
    have hnext : s.next goal = s.next .regularExpression := by
      cases goal with
      | regularExpression => rfl
      | division => exact next_division_eq hfirst
    rw [List.length_cons, List.replicate_succ, steps_cons, steps_cons, hnext, ih hlater]

/-- A run for which slashes start regular expressions, and which meets none, is the run for which
they are divisions. -/
theorem run_division_eq {s : Scanner}
    (h : ∀ r ∈ (s.run .regularExpression).results, Result.regularExpressionStart? r = none) :
    s.run .division = s.run .regularExpression := by
  obtain ⟨t, ht, heof⟩ | hending := exists_token_or_ending .regularExpression s
  · rw [results_run_of_token ht heof] at h
    obtain ⟨hfirst, hlater⟩ := List.forall_mem_cons.mp h
    have hsame := next_division_eq (ht ▸ hfirst)
    rw [run_of_token ht heof, run_of_token (hsame ▸ ht) heof, hsame, run_division_eq hlater]
  · rw [results_run_of_ending hending] at h
    have hsame := next_division_eq (h _ (List.mem_singleton_self _))
    rw [run_of_ending hending, run_of_ending (hsame ▸ hending), hsame]
termination_by s.cursor.rest.length
decreasing_by exact length_rest_next_lt ht heof

/-- **The goal matters at regular expressions only.** Where a step for which slashes start regular
expressions is not about one, the step for which they are divisions is the same. Where it is, as a
token or as a failure, the other gives a token that starts with the slash there and is an operator
or the slash alone. A step for which slashes are divisions is never about a regular expression. Steps
and runs that meet no regular expression are the same for both goals. -/
theorem goal_matters_at_regularExpressions (s : Scanner) :
    (Result.regularExpressionStart? (s.next .regularExpression).1 = none →
      s.next .division = s.next .regularExpression) ∧
    (∀ start, Result.regularExpressionStart? (s.next .regularExpression).1 = some start →
      ∃ t, (s.next .division).1 = .ok t ∧ t.IsDivision s.config start) ∧
    Result.regularExpressionStart? (s.next .division).1 = none ∧
    (∀ goals, (∀ r ∈ (steps (List.replicate goals.length .regularExpression) s).1,
        Result.regularExpressionStart? r = none) →
      steps goals s = steps (List.replicate goals.length .regularExpression) s) ∧
    ((∀ r ∈ (s.run .regularExpression).results, Result.regularExpressionStart? r = none) →
      s.run .division = s.run .regularExpression) := by
  refine ⟨next_division_eq, fun start hstart => ?_, ?_,
    fun _ => steps_eq_of_regularExpressionStart?_eq_none, run_division_eq⟩
  · obtain ⟨-, hnone⟩ | ⟨start', hstart', hdivision⟩ := next_division_eq_or_isDivision s
    · cases hnone.symm.trans hstart
    · obtain rfl := Option.some.inj (hstart'.symm.trans hstart)
      exact hdivision
  · obtain ⟨hsame, hnone⟩ | ⟨start, -, t, ht, hdivision⟩ := next_division_eq_or_isDivision s
    · rw [hsame, hnone]
    · rw [ht]
      exact hdivision.regularExpressionStart?_eq_none

/-- A text without slashes, and the slash of a regular expression that is never closed, behind a
comment. -/
theorem goal_matters_at_unclosed_slash :
    (ofString "a-" {}).next .division = (ofString "a-" {}).next .regularExpression ∧
    steps [.regularExpression, .division, .division] (ofString "a-" {}) =
      steps [.regularExpression, .regularExpression, .regularExpression] (ofString "a-" {}) ∧
    (ofString "a-" {}).run .division = (ofString "a-" {}).run .regularExpression ∧
    ∃ t, ((ofString "//\n/=a" {}).next .division).1 = .ok t ∧ t.IsDivision {} ⟨2, 0⟩ := by
  obtain ⟨hnext, -, -, hsame, hrun⟩ := goal_matters_at_regularExpressions (ofString "a-" {})
  obtain ⟨-, hslash, -⟩ := goal_matters_at_regularExpressions (ofString "//\n/=a" {})
  let tokens : List Token := [⟨.identifier, .text "a", ⟨⟨1, 0⟩, ⟨1, 1⟩⟩, none, ⟨0, 1⟩⟩,
    ⟨.operator, .text "-", ⟨⟨1, 1⟩, ⟨1, 2⟩⟩, none, ⟨1, 2⟩⟩]
  let last : Token := ⟨.eof, .text "eof", ⟨⟨1, 2⟩, ⟨1, 2⟩⟩, none, ⟨2, 2⟩⟩
  have hsteps : (steps (List.replicate (tokens.length + 1) .regularExpression)
      (ofString "a-" {})).1 = tokens.map .ok ++ [.ok last] := by decide +kernel
  have hnone : ∀ r ∈ tokens.map .ok ++ [.ok last], Result.regularExpressionStart? r = none := by
    decide
  obtain ⟨htokens, hending⟩ := run_of_steps hsteps (by decide) fun _ h => Except.ok.inj h ▸ rfl
  exact ⟨hnext (by decide +kernel), hsame [.regularExpression, .division, .division] (hsteps ▸ hnone),
    hrun (by rwa [Run.results, htokens, hending]), hslash _ (by decide +kernel)⟩

end Scanner

end EcmaLex
