import EcmaLex.Proofs.LayoutPieces
import EcmaLex.Scanner.Run

/-!
# Steps of a scanner

Everything that one step of a scanner can do is one of three things. The layout ahead reaches to
the end of the text; or it ends in front of a token, which the rule for it reads; or it ends in
front of a construct that is not closed. The last happens in two ways that look alike from outside:
a comment that is skipped is found unclosed by skipping, any other construct by its rule.

What holds of every step and of every list of steps is derived from these three cases.

## Main definitions

* `EcmaLex.Scanner.Step` : what one step does.
* `EcmaLex.Result.isEnd` : whether a step gave the end of the text.
* `EcmaLex.Run.results` : what the steps of a run give.

## Main results

* `EcmaLex.Scanner.step_next` : a step does one of these things.
* `EcmaLex.Scanner.exists_passes_steps` : steps only move the cursor forward.
* `EcmaLex.Scanner.exists_steps_eq_run` : a run consists of steps.
* `EcmaLex.Scanner.steps_of_rest_eq_nil` : at the end of the text nothing happens any more.
-/

namespace EcmaLex

variable {config : Config} {goal : Goal} {gap text : List Char}

theorem Rule.goal_of_select
    (h : Rule.select config goal text = .regularExpression) : goal = .regularExpression := by
  cases goal with
  | regularExpression => rfl
  | division =>
    have hother : (Goal.division == .regularExpression &&
      Rule.regularExpression.starts config text) = false := rfl
    rw [select, hother, if_neg Bool.false_ne_true] at h
    repeat' split at h
    all_goals cases h

/-- The rule for comments is selected where a comment is ahead that is to be a token. -/
theorem Rule.select_eq_comment_iff :
    Rule.select config goal text = .comment ↔
      config.emitComments = true ∧ Grammar.startsComment text = true := by
  unfold select
  split
  · rename_i h
    exact iff_of_true rfl (Bool.and_eq_true_iff.mp h)
  · rename_i h
    refine iff_of_false ?_ fun hboth => h (Bool.and_eq_true_iff.mpr hboth)
    repeat' split
    all_goals decide

/-- Whether a result is the end of the text. -/
def Result.isEnd : Result → Bool
  | .ok t => t.isEof
  | .error _ => false

/-- What the steps of a run give, its ending last. -/
def Run.results (r : Run) : List Result := r.tokens.map .ok ++ [r.ending]

namespace Scanner

theorem readToken_of_ok {s : Scanner} {rule : Rule} {r : Reading Form}
    (h : rule.read s.config s.cursor.rest = .ok r) :
    s.readToken rule =
      (.ok ((s.moveTo (s.cursor.advance r.length)).token s.position
        ((s.cursor.advance r.length).spanFrom s.cursor.offset) r.value.tag r.value.lexeme),
        s.moveTo (s.cursor.advance r.length)) := by
  rw [readToken, h]
  rfl

theorem readToken_of_error {s : Scanner} {rule : Rule} {construct : Delimited}
    (h : rule.read s.config s.cursor.rest = .error construct) :
    s.readToken rule = (.error ⟨construct, s.position⟩, s.moveTo s.cursor.finish) := by
  rw [readToken, h]
  rfl

/-- What one step of a scanner does: it passes layout, and then it is at the end of the text, or
passes a token, or a construct is ahead that is not closed. -/
inductive Step (goal : Goal) (s : Scanner) : Result → Scanner → Prop
  | eof {gap : List Char} {k : Cursor} (hgap : s.cursor.Passes gap k)
      (hlayout : Layout s.config gap k.rest) (hend : k.rest = []) :
      Step goal s (.ok (s.moveTo k).eof) (s.moveTo k)
  | token {gap raw : List Char} {k k' : Cursor} {form : Form} (hgap : s.cursor.Passes gap k)
      (hlayout : Layout s.config gap k.rest) (hstop : layoutKind? s.config k.rest = none)
      (hread : (Rule.select s.config goal k.rest).read s.config k.rest = .ok ⟨raw.length, form⟩)
      (hne : raw ≠ []) (hraw : k.Passes raw k') :
      Step goal s
        (.ok ((s.moveTo k').token k.position ⟨k.offset, k'.offset⟩ form.tag form.lexeme))
        (s.moveTo k')
  | failure {gap : List Char} {k : Cursor} {construct : Delimited}
      (hgap : s.cursor.Passes gap k) (hlayout : Layout s.config gap k.rest)
      (hopen : Unclosed construct k.rest)
      (hgoal : construct = .regularExpression → goal = .regularExpression) :
      Step goal s (.error ⟨construct, k.position⟩) (s.moveTo k.finish)

/-- **A step does one of three things.** -/
theorem step_next (goal : Goal) (s : Scanner) :
    Step goal s (s.next goal).1 (s.next goal).2 := by
  have hskip := s.cursor.skips_skip s.config
  unfold next
  generalize s.cursor.skip s.config = skipped at hskip
  obtain ⟨r, k⟩ := skipped
  cases hskip with
  | unclosed hgap hlayout _ hopen =>
    exact .failure hgap hlayout hopen fun h => by cases h
  | done hgap hlayout hstop =>
    by_cases hend : k.rest = []
    · simp only [k.isFinished_iff.mpr hend, if_true]
      exact .eof hgap hlayout hend
    · have hfin : ¬ k.isFinished = true := fun h => hend (k.isFinished_iff.mp h)
      have hstart : (Rule.select s.config goal k.rest).starts s.config k.rest = true :=
        Rule.starts_select hend
      simp only [hfin, readToken, cursor_moveTo, config_moveTo]
      cases hread : (Rule.select s.config goal k.rest).read s.config k.rest with
      | error construct =>
        obtain ⟨hrule, hopen⟩ := Rule.unclosed_of_read hstart hread
        refine .failure hgap hlayout hopen fun h => ?_
        subst h
        exact Rule.goal_of_select hrule
      | ok r =>
        obtain ⟨raw, rest, hrest, hlen⟩ :
            ∃ raw rest, k.rest = raw ++ rest ∧ raw.length = r.length :=
          ⟨_, _, (List.take_append_drop r.length k.rest).symm,
            List.length_take_of_le (Rule.length_le_of_read hread)⟩
        have hpos := Rule.length_pos_of_starts hstart hread
        obtain ⟨n, form⟩ := r
        obtain rfl : raw.length = n := hlen
        exact .token hgap hlayout hstop hread (List.length_pos_iff.mp hpos)
          (Cursor.Passes.of_rest_eq hrest)

variable {s : Scanner}

/-- A step that starts with layout is the step behind the layout. -/
theorem next_of_passes {k : Cursor} (h : s.cursor.Passes gap k)
    (hlayout : Layout s.config gap k.rest) : s.next goal = (s.moveTo k).next goal := by
  have hskip : s.cursor.skip s.config = (s.moveTo k).cursor.skip (s.moveTo k).config :=
    h.skip_eq hlayout
  rw [next, hskip, next]
  rfl

/-- Where something else than layout is ahead, a step reads a token. -/
theorem next_of_layoutKind?_eq_none (hstop : layoutKind? s.config s.cursor.rest = none)
    (hne : s.cursor.rest ≠ []) :
    s.next goal = s.readToken (Rule.select s.config goal s.cursor.rest) := by
  rw [next, Cursor.skip_of_layoutKind?_eq_none hstop]
  exact if_neg fun hfin => hne (s.cursor.isFinished_iff.mp hfin)

/-! ### What every step keeps -/

@[simp] theorem config_next (goal : Goal) (s : Scanner) :
    (s.next goal).2.config = s.config := by
  have hstep := s.step_next goal
  generalize (s.next goal).1 = r, (s.next goal).2 = s' at hstep
  cases hstep with
  | eof => rfl
  | token => rfl
  | failure => rfl

/-- A step moves the cursor forward. -/
theorem exists_passes_next (goal : Goal) (s : Scanner) :
    ∃ piece, s.cursor.Passes piece (s.next goal).2.cursor := by
  have hstep := s.step_next goal
  generalize (s.next goal).1 = r, (s.next goal).2 = s' at hstep
  cases hstep with
  | eof hgap => exact ⟨_, hgap⟩
  | token hgap _ _ _ _ hraw => exact ⟨_, hgap.trans hraw⟩
  | failure hgap => exact ⟨_, hgap.trans (.finish _)⟩

/-- The token of a step ends where the cursor is left. -/
theorem span_stop_eq_of_next {t : Token} (h : (s.next goal).1 = .ok t) :
    t.span.stop = (s.next goal).2.cursor.offset := by
  have hstep := s.step_next goal
  generalize (s.next goal).1 = r, (s.next goal).2 = s' at hstep h
  cases hstep with
  | eof =>
    cases h
    rfl
  | token =>
    cases h
    rfl
  | failure => cases h

/-! ### Steps in a row -/

variable {goals : List Goal}

@[simp] theorem steps_nil (s : Scanner) : steps [] s = ([], s) := rfl

theorem steps_cons (goal : Goal) (goals : List Goal) (s : Scanner) :
    steps (goal :: goals) s =
      ((s.next goal).1 :: (steps goals (s.next goal).2).1, (steps goals (s.next goal).2).2) := rfl

@[simp] theorem config_steps (goals : List Goal) (s : Scanner) :
    (steps goals s).2.config = s.config := by
  induction goals generalizing s with
  | nil => rfl
  | cons goal goals ih => exact (ih (s.next goal).2).trans (config_next goal s)

@[simp] theorem length_steps (goals : List Goal) (s : Scanner) :
    (steps goals s).1.length = goals.length := by
  induction goals generalizing s with
  | nil => rfl
  | cons goal goals ih => exact congrArg (· + 1) (ih (s.next goal).2)

/-- Steps only move the cursor forward. -/
theorem exists_passes_steps (goals : List Goal) (s : Scanner) :
    ∃ piece, s.cursor.Passes piece (steps goals s).2.cursor := by
  induction goals generalizing s with
  | nil => exact ⟨[], .refl _⟩
  | cons goal goals ih =>
    obtain ⟨piece, hpiece⟩ := s.exists_passes_next goal
    obtain ⟨more, hmore⟩ := ih (s.next goal).2
    exact ⟨piece ++ more, hpiece.trans hmore⟩

theorem steps_append (goals more : List Goal) (s : Scanner) :
    steps (goals ++ more) s =
      ((steps goals s).1 ++ (steps more (steps goals s).2).1,
        (steps more (steps goals s).2).2) := by
  induction goals generalizing s with
  | nil => rfl
  | cons goal goals ih =>
    rw [List.cons_append, steps_cons, steps_cons, ih]
    rfl

theorem steps_concat (goals : List Goal) (goal : Goal) (s : Scanner) :
    steps (goals ++ [goal]) s =
      ((steps goals s).1 ++ [((steps goals s).2.next goal).1],
        ((steps goals s).2.next goal).2) := by
  rw [steps_append]
  rfl

/-- Each result is that of the step with the goal at its place, behind the steps before it. -/
theorem getElem?_steps {i : Nat} (h : goals[i]? = some goal) :
    (steps goals s).1[i]? = some ((steps (goals.take i) s).2.next goal).1 := by
  induction goals generalizing s i with
  | nil => cases h
  | cons first goals ih =>
    cases i with
    | zero =>
      obtain rfl := Option.some.inj h
      rfl
    | succ i => exact ih h

/-- What steps give, each single step gives behind some of the others. -/
theorem exists_next_of_mem_steps {r : Result} (h : r ∈ (steps goals s).1) :
    ∃ before goal, before ++ [goal] <+: goals ∧ ((steps before s).2.next goal).1 = r := by
  induction goals generalizing s with
  | nil => cases h
  | cons goal goals ih =>
    rw [steps_cons] at h
    obtain rfl | h := List.mem_cons.mp h
    · exact ⟨[], goal, ⟨goals, rfl⟩, rfl⟩
    · obtain ⟨before, goal', hprefix, hnext⟩ := ih h
      exact ⟨goal :: before, goal', List.cons_prefix_cons.mpr ⟨rfl, hprefix⟩, hnext⟩

/-! ### Runs to the end -/

theorem run_of_error {goal : Goal} {e : ScanError} (h : (s.next goal).1 = .error e) :
    s.run goal = ⟨[], .error e, (s.next goal).2⟩ := by
  rw [run]
  split
  · rename_i e' he'
    cases h.symm.trans he'
    rfl
  · rename_i t ht
    cases h.symm.trans ht

theorem run_of_eof {goal : Goal} {t : Token} (h : (s.next goal).1 = .ok t)
    (ht : t.isEof = true) : s.run goal = ⟨[], .ok t, (s.next goal).2⟩ := by
  rw [run]
  split
  · rename_i e he
    cases h.symm.trans he
  · rename_i t' ht'
    cases h.symm.trans ht'
    rw [dif_pos ht]

theorem run_of_token {goal : Goal} {t : Token} (h : (s.next goal).1 = .ok t)
    (ht : t.isEof = false) :
    s.run goal = ⟨t :: ((s.next goal).2.run goal).tokens, ((s.next goal).2.run goal).ending,
      ((s.next goal).2.run goal).after⟩ := by
  rw [run]
  split
  · rename_i e he
    cases h.symm.trans he
  · rename_i t' ht'
    cases h.symm.trans ht'
    rw [dif_neg (Bool.eq_false_iff.mp ht)]

/-- A step gives a token of the text, or a run ends with it. -/
theorem exists_token_or_ending (goal : Goal) (s : Scanner) :
    (∃ t, (s.next goal).1 = .ok t ∧ t.isEof = false) ∨
      ∀ t, (s.next goal).1 = .ok t → t.isEof = true := by
  cases hnext : (s.next goal).1 with
  | error e => exact .inr fun t ht => by cases ht
  | ok t =>
    cases heof : t.isEof with
    | false => exact .inl ⟨t, rfl, heof⟩
    | true => exact .inr fun u hu => Except.ok.inj hu ▸ heof

/-- A run whose first step gives no token of the text has no other. -/
theorem run_of_ending {goal : Goal} (h : ∀ t, (s.next goal).1 = .ok t → t.isEof = true) :
    s.run goal = ⟨[], (s.next goal).1, (s.next goal).2⟩ := by
  cases hnext : (s.next goal).1 with
  | error e => exact run_of_error hnext
  | ok t => exact run_of_eof hnext (h t hnext)

theorem results_run_of_ending {goal : Goal}
    (h : ∀ t, (s.next goal).1 = .ok t → t.isEof = true) :
    (s.run goal).results = [(s.next goal).1] := by
  rw [run_of_ending h]
  rfl

theorem results_run_of_token {goal : Goal} {t : Token} (h : (s.next goal).1 = .ok t)
    (ht : t.isEof = false) :
    (s.run goal).results = .ok t :: ((s.next goal).2.run goal).results := by
  rw [run_of_token h ht]
  rfl

/-- A run makes steps with its goal, of which the last gives the ending. -/
theorem exists_steps_eq_run (goal : Goal) (s : Scanner) :
    ∃ n, steps (List.replicate (n + 1) goal) s =
      ((s.run goal).tokens.map .ok ++ [(s.run goal).ending], (s.run goal).after) := by
  fun_induction run goal s with
  | case1 s e he => exact ⟨0, by rw [List.replicate_one, steps_cons, he]; rfl⟩
  | case2 s t ht => exact ⟨0, by rw [List.replicate_one, steps_cons, ht]; rfl⟩
  | case3 s t ht _ rest ih =>
    obtain ⟨n, hn⟩ := ih
    refine ⟨n + 1, ?_⟩
    rw [List.replicate_succ, steps_cons, hn, ht]
    rfl

/-- As many steps as a run has results give these results. -/
theorem steps_eq_results (goal : Goal) (s : Scanner) :
    (steps (List.replicate (s.run goal).results.length goal) s).1 = (s.run goal).results := by
  obtain ⟨n, hn⟩ := exists_steps_eq_run goal s
  have hresults : (steps (List.replicate (n + 1) goal) s).1 = (s.run goal).results :=
    congrArg Prod.fst hn
  have hlen := congrArg List.length hresults
  rw [length_steps, List.length_replicate] at hlen
  rw [← hlen, hresults]

/-- A run makes steps that give its tokens, and then the step that gives its ending. -/
theorem exists_steps_before_ending (goal : Goal) (s : Scanner) :
    ∃ n, (steps (List.replicate n goal) s).1 = (s.run goal).tokens.map .ok ∧
      ((steps (List.replicate n goal) s).2.next goal).1 = (s.run goal).ending := by
  obtain ⟨n, hn⟩ := exists_steps_eq_run goal s
  rw [List.replicate_succ', steps_concat] at hn
  obtain ⟨htokens, hending⟩ := List.append_inj' (congrArg Prod.fst hn) rfl
  exact ⟨n, htokens, List.singleton_inj.mp hending⟩

/-- A run goes on behind steps with its goal that give tokens. -/
theorem run_of_steps_tokens {goal : Goal} {n : Nat} {tokens : List Token}
    (h : (steps (List.replicate n goal) s).1 = tokens.map .ok)
    (htokens : ∀ t ∈ tokens, t.isEof = false) :
    (s.run goal).tokens =
        tokens ++ ((steps (List.replicate n goal) s).2.run goal).tokens ∧
      (s.run goal).ending = ((steps (List.replicate n goal) s).2.run goal).ending := by
  induction n generalizing s tokens with
  | zero =>
    obtain rfl := List.map_eq_nil_iff.mp h.symm
    exact ⟨rfl, rfl⟩
  | succ n ih =>
    rw [List.replicate_succ, steps_cons] at h ⊢
    obtain ⟨t, tokens, rfl, hnext, hlater⟩ := List.map_eq_cons_iff.mp h.symm
    obtain ⟨ht, htokens⟩ := List.forall_mem_cons.mp htokens
    obtain ⟨hrest, hend⟩ := ih hlater.symm htokens
    rw [run_of_token hnext.symm ht, hrest, hend]
    exact ⟨rfl, rfl⟩

/-- Steps with one goal that give tokens, and then the end or a failure, are a run. -/
theorem run_of_steps {goal : Goal} {tokens : List Token} {ending : Result}
    (h : (steps (List.replicate (tokens.length + 1) goal) s).1 = tokens.map .ok ++ [ending])
    (htokens : ∀ t ∈ tokens, t.isEof = false) (hending : ∀ t, ending = .ok t → t.isEof = true) :
    (s.run goal).tokens = tokens ∧ (s.run goal).ending = ending := by
  induction tokens generalizing s with
  | nil =>
    have hnext : (s.next goal).1 = ending := List.head_eq_of_cons_eq h
    cases ending with
    | error e =>
      rw [run_of_error hnext]
      exact ⟨rfl, rfl⟩
    | ok t =>
      rw [run_of_eof hnext (hending t rfl)]
      exact ⟨rfl, rfl⟩
  | cons t tokens ih =>
    rw [List.length_cons, List.replicate_succ, steps_cons, List.map_cons, List.cons_append] at h
    obtain ⟨hnext, hsteps⟩ := List.cons.inj h
    obtain ⟨ht, htokens⟩ := List.forall_mem_cons.mp htokens
    obtain ⟨hrest, hend⟩ := ih hsteps htokens
    rw [run_of_token hnext ht, hrest, hend]
    exact ⟨rfl, rfl⟩

/-- The end of the text is not among the tokens of a run. -/
theorem isEof_eq_false_of_mem_run {goal : Goal} {t : Token} (h : t ∈ (s.run goal).tokens) :
    t.isEof = false := by
  fun_induction run goal s with
  | case1 => cases h
  | case2 => cases h
  | case3 s t' _ ht' rest ih =>
    obtain rfl | h := List.mem_cons.mp h
    · exact Bool.eq_false_iff.mpr ht'
    · exact ih h

/-- The only token that ends a run is the end of the text. -/
theorem isEof_of_run_ending {goal : Goal} {t : Token} (h : (s.run goal).ending = .ok t) :
    t.isEof = true := by
  fun_induction run goal s with
  | case1 => cases h
  | case2 s t' _ heof =>
    cases h
    exact heof
  | case3 _ _ _ _ rest ih => exact ih h

/-- The tokens of a run do not end in front of its start. -/
theorem offset_le_of_mem_run {goal : Goal} {t : Token} (h : t ∈ (s.run goal).tokens) :
    s.cursor.offset ≤ t.span.stop := by
  fun_induction run goal s with
  | case1 => cases h
  | case2 => cases h
  | case3 s t' ht' _ rest ih =>
    obtain ⟨piece, hpiece⟩ := s.exists_passes_next goal
    have hle : s.cursor.offset ≤ (s.next goal).2.cursor.offset := by
      rw [hpiece.offset_eq]
      exact Nat.le_add_right _ _
    obtain rfl | h := List.mem_cons.mp h
    · exact Nat.le_trans hle (Nat.le_of_eq (span_stop_eq_of_next ht').symm)
    · exact Nat.le_trans hle (ih h)

/-- A run is determined by its first step. -/
theorem run_congr {goal : Goal} {s' : Scanner} (h : s.next goal = s'.next goal) :
    s.run goal = s'.run goal := by
  rw [run.eq_def goal s, run.eq_def goal s', h]

/-! ### Pulling -/

/-- Pulling makes one step, for which a slash starts a regular expression, and gives its result
unless that is the end of the text. -/
theorem pull_eq (s : Scanner) :
    s.pull =
      (if Result.isEnd (s.next .regularExpression).1 then none
        else some (s.next .regularExpression).1, (s.next .regularExpression).2) := by
  rw [pull]
  rcases s.next .regularExpression with ⟨e | t, s'⟩
  · rfl
  · cases ht : t.isEof <;> simp [Result.isEnd, ht]

theorem pull_snd (s : Scanner) : s.pull.2 = (s.next .regularExpression).2 := by rw [pull_eq]

/-! ### The end of the text -/

theorem next_of_rest_eq_nil (h : s.cursor.rest = []) (goal : Goal) :
    s.next goal = (.ok s.eof, s) := by
  have hskip : s.cursor.skip s.config = (.ok (), s.cursor) :=
    Cursor.skip_of_layoutKind?_eq_none (by rw [h, layoutKind?_nil])
  rw [next, hskip]
  exact if_pos (s.cursor.isFinished_iff.mpr h)

/-- At the end of the text every step gives the end and changes nothing. -/
theorem steps_of_rest_eq_nil (h : s.cursor.rest = []) (goals : List Goal) :
    steps goals s = (List.replicate goals.length (.ok s.eof), s) := by
  induction goals with
  | nil => rfl
  | cons goal goals ih =>
    rw [steps_cons, next_of_rest_eq_nil h, ih]
    rfl

/-- At the end of the text there is no further item. -/
theorem pull_of_rest_eq_nil (h : s.cursor.rest = []) : s.pull = (none, s) := by
  rw [pull, next_of_rest_eq_nil h]
  rfl

/-- A step that gives the end of the text has passed layout up to there. -/
theorem exists_layout_of_eof {goal : Goal} {t : Token} (h : (s.next goal).1 = .ok t)
    (ht : t.isEof = true) :
    ∃ gap, s.cursor.Passes gap (s.next goal).2.cursor ∧ Layout s.config gap [] ∧
      (s.next goal).2.cursor.rest = [] ∧ t = (s.next goal).2.eof := by
  have hstep := s.step_next goal
  generalize (s.next goal).1 = r, (s.next goal).2 = s' at hstep h
  cases hstep with
  | eof hgap hlayout hend =>
    cases h
    exact ⟨_, hgap, hend ▸ hlayout, hend, rfl⟩
  | failure => cases h
  | token _ _ _ hread =>
    cases h
    exact absurd (eq_of_beq ht) (Rule.gives_of_read hread).ne_eof

/-- A step that gives the end of the text or a failure leaves nothing ahead. -/
theorem rest_next_eq_nil {goal : Goal} (h : ∀ t, (s.next goal).1 = .ok t → t.isEof = true) :
    (s.next goal).2.cursor.rest = [] := by
  have hstep := s.step_next goal
  generalize (s.next goal).1 = r, (s.next goal).2 = s' at hstep h
  cases hstep with
  | eof _ _ hend => exact hend
  | failure => exact Cursor.rest_finish _
  | token _ _ _ hread =>
    have heof := eq_of_beq (h _ rfl)
    exact absurd heof (Rule.gives_of_read hread).ne_eof

end Scanner

end EcmaLex
