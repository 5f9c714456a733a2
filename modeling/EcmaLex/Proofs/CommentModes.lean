import EcmaLex.Proofs.ScannerStep

/-!
# Comments as tokens and comments as layout

A scanner gives comments as tokens or leaves them out with the rest of the layout, and nothing
else depends on which. Hiding the comments of a scanner is a simulation: a step that gives a comment
is no step at all once comments are hidden, since the next skip passes the comment along with the
layout on both sides, and every other step stays the same step. A comment that is not closed fails
either way, found by its rule or by the skip, with the same report.

## Main definitions

* `EcmaLex.Scanner.hideComments` : a scanner with comments as layout.

## Main results

* `EcmaLex.Scanner.next_hideComments` : the simulation.
* `EcmaLex.Scanner.run_hideComments` : runs of both scanners.
* `EcmaLex.Scanner.comment_modes_agree` : the two modes on a text.
-/

namespace EcmaLex

/-- The configuration with comments as layout. -/
def Config.hideComments (config : Config) : Config := { config with emitComments := false }

variable {config : Config} {goal : Goal} {gap piece rest text : List Char}

/-! ### Rules and layout -/

theorem Rule.read_hideComments (rule : Rule) (text : List Char) :
    rule.read config.hideComments text = rule.read config text := by
  cases rule <;> rfl

/-- Where no comment is ahead, the same rule is selected. -/
theorem Rule.select_hideComments (h : Grammar.startsComment text = false) :
    Rule.select config.hideComments goal text = Rule.select config goal text := by
  have hcomment : Rule.comment.starts config text = false := h
  unfold select
  rw [hcomment, Bool.and_false]
  rfl

theorem LayoutPiece.hideComments (h : LayoutPiece config piece rest) :
    LayoutPiece config.hideComments piece rest := by
  cases h with
  | crlf => exact .crlf
  | terminator hc hrest => exact .terminator hc hrest
  | blanks hne hrun hrest => exact .blanks hne hrun hrest
  | lineComment _ hbody hrest => exact .lineComment rfl hbody hrest
  | blockComment _ hbody => exact .blockComment rfl hbody

theorem Layout.hideComments (h : Layout config gap rest) :
    Layout config.hideComments gap rest := by
  induction h with
  | nil => exact .nil
  | cons hpiece _ ih => exact .cons hpiece.hideComments ih

namespace Scanner

/-- The scanner with comments as layout. -/
def hideComments (s : Scanner) : Scanner := { s with config := s.config.hideComments }

variable {s : Scanner}

/-! ### One step -/

theorem readToken_hideComments (rule : Rule) :
    s.hideComments.readToken rule = ((s.readToken rule).1, (s.readToken rule).2.hideComments) := by
  unfold readToken
  rw [show rule.read s.hideComments.config s.hideComments.cursor.rest =
    rule.read s.config s.cursor.rest from Rule.read_hideComments rule _]
  rfl

/-- A comment that is ahead is passed where comments are layout, and fails in the same way where it
is not closed. -/
theorem next_hideComments_of_startsComment (goal : Goal)
    (hstart : Grammar.startsComment s.cursor.rest = true) :
    (∃ t, (s.readToken .comment).1 = .ok t ∧ t.tag = .comment ∧
      s.hideComments.next goal = (s.readToken .comment).2.hideComments.next goal) ∨
    (∃ e, (s.readToken .comment).1 = .error e ∧
      s.hideComments.next goal = (.error e, (s.readToken .comment).2.hideComments)) := by
  have hkind : layoutKind? s.config.hideComments s.cursor.rest = some (.ofRule .comment) :=
    layoutKind?_eq_some_iff.mpr (.inr (.inr ⟨rfl, rfl, hstart⟩))
  cases hread : Rule.comment.read s.config s.cursor.rest with
  | ok r =>
    have hlex : (Kind.ofRule .comment).read s.config.hideComments s.cursor.rest =
        .ok (r.map some) := by
      rw [Kind.read, Rule.read_hideComments, hread]
      rfl
    have hskip : s.hideComments.cursor.skip s.hideComments.config =
        (s.cursor.advance r.length).skip s.config.hideComments :=
      Cursor.skip_of_read_eq_ok hkind hlex
    rw [readToken_of_ok hread]
    refine .inl ⟨_, rfl, Rule.gives_of_read hread, ?_⟩
    rw [next, hskip, next]
    rfl
  | error construct =>
    have hlex : (Kind.ofRule .comment).read s.config.hideComments s.cursor.rest =
        .error construct := by
      rw [Kind.read, Rule.read_hideComments, hread]
      rfl
    have hskip : s.hideComments.cursor.skip s.hideComments.config =
        (.error ⟨construct, s.position⟩, s.cursor.finish) :=
      Cursor.skip_of_read_eq_error hkind hlex
    rw [readToken_of_error hread]
    refine .inr ⟨_, rfl, ?_⟩
    rw [next, hskip]
    rfl

/-- Where neither layout nor a comment is ahead, hiding comments changes nothing in what is read,
and nothing that is read is a comment. -/
theorem next_hideComments_of_not_startsComment (goal : Goal)
    (hstop : layoutKind? s.config s.cursor.rest = none)
    (hstart : Grammar.startsComment s.cursor.rest = false) :
    (∀ t, (s.next goal).1 = .ok t → t.tag ≠ .comment) ∧
      s.hideComments.next goal = ((s.next goal).1, (s.next goal).2.hideComments) := by
  by_cases hend : s.cursor.rest = []
  · have hhidden : s.hideComments.cursor.rest = [] := hend
    rw [next_of_rest_eq_nil hend, next_of_rest_eq_nil hhidden]
    refine ⟨fun t ht htag => ?_, rfl⟩
    cases ht
    cases htag
  · obtain ⟨hterm, hblank, -⟩ := layoutKind?_eq_none_iff.mp hstop
    have hhidden : layoutKind? s.hideComments.config s.hideComments.cursor.rest = none :=
      layoutKind?_eq_none_iff.mpr ⟨hterm, hblank, fun _ => hstart⟩
    have hrule : Rule.select s.hideComments.config goal s.hideComments.cursor.rest =
        Rule.select s.config goal s.cursor.rest := Rule.select_hideComments hstart
    rw [next_of_layoutKind?_eq_none hstop hend, next_of_layoutKind?_eq_none hhidden hend, hrule]
    refine ⟨fun t ht htag => ?_, readToken_hideComments _⟩
    cases hread : (Rule.select s.config goal s.cursor.rest).read s.config s.cursor.rest with
    | error construct =>
      rw [readToken_of_error hread] at ht
      cases ht
    | ok r =>
      rw [readToken_of_ok hread] at ht
      cases ht
      have hcomment := (Rule.gives_of_read hread).eq_comment_iff.mp htag
      obtain ⟨-, hyes⟩ := Rule.select_eq_comment_iff.mp hcomment
      exact Bool.false_ne_true (hstart.symm.trans hyes)

/-- **Hiding comments is a simulation.** A step that gives a comment leaves what the scanner does
next with comments hidden; every other step is also made with comments hidden. -/
theorem next_hideComments (goal : Goal) (hshow : s.config.emitComments = true) :
    (∃ t, (s.next goal).1 = .ok t ∧ t.tag = .comment ∧
      s.hideComments.next goal = (s.next goal).2.hideComments.next goal) ∨
    ((∀ t, (s.next goal).1 = .ok t → t.tag ≠ .comment) ∧
      s.hideComments.next goal = ((s.next goal).1, (s.next goal).2.hideComments)) := by
  -- where comments are tokens, skipping meets no comment and cannot fail
  obtain ⟨gap, k, hgap, hlayout, hstop⟩ : ∃ gap k, s.cursor.Passes gap k ∧
      Layout s.config gap k.rest ∧ layoutKind? s.config k.rest = none := by
    have hskips := s.cursor.skips_skip s.config
    generalize (s.cursor.skip s.config).1 = r, (s.cursor.skip s.config).2 = k at hskips
    cases hskips with
    | done hgap hlayout hstop => exact ⟨_, _, hgap, hlayout, hstop⟩
    | unclosed _ _ hhide => exact absurd (hshow.symm.trans hhide) (by decide)
  have hhidden : s.hideComments.next goal = (s.moveTo k).hideComments.next goal :=
    next_of_passes (s := s.hideComments) hgap hlayout.hideComments
  rw [next_of_passes hgap hlayout, hhidden]
  cases hstart : Grammar.startsComment k.rest with
  | false => exact .inr (next_hideComments_of_not_startsComment goal hstop hstart)
  | true =>
    have happlies : Rule.comment.starts s.config k.rest = true := hstart
    have hne : k.rest ≠ [] := Rule.ne_nil_of_starts happlies
    have hrule : Rule.select s.config goal k.rest = .comment :=
      Rule.select_eq_comment_iff.mpr ⟨hshow, hstart⟩
    have hnext : (s.moveTo k).next goal = (s.moveTo k).readToken .comment := by
      rw [next_of_layoutKind?_eq_none hstop hne]
      exact congrArg _ hrule
    rw [hnext]
    obtain hpass | ⟨e, he, hfail⟩ :=
      next_hideComments_of_startsComment (s := s.moveTo k) goal hstart
    · exact .inl hpass
    · refine .inr ⟨fun t ht => ?_, by rw [he, hfail]⟩
      cases he.symm.trans ht

/-! ### Runs -/

/-- A run with comments hidden gives the tokens of the run without it that are no comments, ends as
it does, and leaves the scanner where it does. -/
theorem run_hideComments (goal : Goal) (s : Scanner) (hshow : s.config.emitComments = true) :
    s.hideComments.run goal =
      ⟨(s.run goal).tokens.filter fun t => t.tag != .comment, (s.run goal).ending,
        (s.run goal).after.hideComments⟩ := by
  fun_induction run goal s with
  | case1 s e he =>
    obtain ⟨t, ht, -⟩ | ⟨-, hsame⟩ := next_hideComments goal hshow
    · cases he.symm.trans ht
    · have hfail : (s.hideComments.next goal).1 = .error e := by rw [hsame, he]
      rw [run_of_error hfail, hsame]
      rfl
  | case2 s t ht heof =>
    obtain ⟨u, hu, htag, -⟩ | ⟨-, hsame⟩ := next_hideComments goal hshow
    · cases ht.symm.trans hu
      have hend : t.tag = .eof := eq_of_beq heof
      cases htag.symm.trans hend
    · have hend : (s.hideComments.next goal).1 = .ok t := by rw [hsame, ht]
      rw [run_of_eof hend heof, hsame]
      rfl
  | case3 s t ht heof rest ih =>
    have hrest := ih (by rwa [config_next])
    obtain ⟨u, hu, htag, hpass⟩ | ⟨htag, hsame⟩ := next_hideComments goal hshow
    · cases ht.symm.trans hu
      rw [run_congr hpass, hrest]
      simp [htag, rest]
    · have hnext : (s.hideComments.next goal).1 = .ok t := by rw [hsame, ht]
      rw [run_of_token hnext (Bool.eq_false_iff.mpr heof), hsame, hrest]
      simp [htag t ht, rest]

/-- **The two comment modes agree.** Without its comments, a run that gives comments as tokens gives
the tokens of the run that hides them. Both end with the same token for the end of the text or with
the same failure, and leave the cursor at the same place. -/
theorem comment_modes_agree (text : String) (config : Config) (goal : Goal) :
    ((ofString text { config with emitComments := true }).run goal).tokens.filter
        (fun t => t.tag != .comment) =
      ((ofString text { config with emitComments := false }).run goal).tokens ∧
    ((ofString text { config with emitComments := true }).run goal).ending =
      ((ofString text { config with emitComments := false }).run goal).ending ∧
    ((ofString text { config with emitComments := true }).run goal).after.cursor =
      ((ofString text { config with emitComments := false }).run goal).after.cursor := by
  have hrun := run_hideComments goal (ofString text { config with emitComments := true }) rfl
  rw [show ofString text { config with emitComments := false } =
    (ofString text { config with emitComments := true }).hideComments from rfl, hrun]
  exact ⟨rfl, rfl, rfl⟩

end Scanner

end EcmaLex
