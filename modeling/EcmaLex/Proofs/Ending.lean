import EcmaLex.Proofs.LineColumn
import EcmaLex.Proofs.Tiling

/-!
# How scanning ends

Scanning ends at the end of the text, or in front of a construct that is not closed. Either way
the whole text is consumed, so that every later step gives the end of the text again and nothing
else can follow. A failure breaks the text down without remainder: the tiles of the tokens before
it, a gap, and the construct, which reaches from the reported position to the end.

## Main definitions

* `EcmaLex.Breakdown` : a text broken down at an unclosed construct.
* `EcmaLex.Scanner.Exhausted` : scanners that have nothing more to give.

## Main results

* `EcmaLex.Scanner.exists_tokens_of_rest_ne_nil` : as long as text is ahead, only tokens were given.
* `EcmaLex.Scanner.exists_breakdown_of_next` : a failing step breaks the text down.
* `EcmaLex.Scanner.ending_is_exact_and_final` : failures and ends leave nothing unaccounted for,
  and nothing follows them.
-/

namespace EcmaLex

/-- A text broken down at a construct that is not closed, where a step with the given goal reports
a failure. -/
structure Breakdown (text : List Char) (config : Config) (goal : Goal) (e : ScanError) where
  /-- The tokens in front of it, with what they take. -/
  tiles : List Tile
  /-- The text left out between the last token and the construct. -/
  gap : List Char
  /-- The construct, to the end of the text. -/
  opened : List Char
  isEof_eq : ∀ tile ∈ tiles, tile.token.isEof = false
  tiled : Tiled config 0 tiles
  isGap : IsGap config gap
  unclosed : Unclosed e.construct opened
  /-- A slash opens a regular expression only where the goal is one. -/
  goal_eq : e.construct = .regularExpression → goal = .regularExpression
  text_eq : text = tiles.flatMap Tile.text ++ gap ++ opened
  /-- The reported position is that of the first character of the construct. -/
  positionAt_eq :
    Text.positionAt text (Text.byteLength (tiles.flatMap Tile.text ++ gap)) = some e.start

namespace Scanner

/-- A scanner that has consumed the text: from now on every step gives the end of the text, with an
empty span there, every pull gives no item, and nothing changes any more. -/
structure Exhausted (text : List Char) (s : Scanner) : Prop where
  isFinished : s.cursor.isFinished = true
  offset_eq : s.cursor.offset = Text.byteLength text
  steps_eq : ∀ goals, steps goals s = (List.replicate goals.length (.ok s.eof), s)
  isEof_eof : s.eof.isEof = true
  span_eof : s.eof.span = ⟨Text.byteLength text, Text.byteLength text⟩
  location_eof : s.eof.location = ⟨s.position, s.position⟩
  pull_iterate : ∀ n, ((fun s => s.pull.2)^[n] s).pull = (none, s)

variable {text : String} {config : Config} {goals : List Goal} {goal : Goal} {s : Scanner}
  {e : ScanError}

theorem exhausted_of_rest_eq_nil {behind : List Char}
    (h : (Cursor.ofString text).Passes behind s.cursor) (hend : s.cursor.rest = []) :
    Exhausted text.toList s := by
  have htext := h.toList_eq
  rw [hend, List.append_nil] at htext
  have hoffset : s.cursor.offset = Text.byteLength text.toList := by
    rw [h.offset_eq_byteLength, htext]
  have hpull := pull_of_rest_eq_nil hend
  refine ⟨s.cursor.isFinished_iff.mpr hend, hoffset, steps_of_rest_eq_nil hend, rfl, ?_, rfl,
    fun n => ?_⟩
  · rw [← hoffset]
    rfl
  · have hfixed : s.pull.2 = s := by rw [hpull]
    rw [Function.iterate_fixed hfixed n, hpull]

/-- A step that gives no token of the text leaves nothing to give. -/
theorem exhausted_next
    (h : ∀ t, ((steps goals (ofString text config)).2.next goal).1 = .ok t → t.isEof = true) :
    Exhausted text.toList ((steps goals (ofString text config)).2.next goal).2 := by
  obtain ⟨behind, hpass⟩ := exists_passes_steps goals (ofString text config)
  obtain ⟨piece, hnext⟩ := exists_passes_next goal (steps goals (ofString text config)).2
  exact exhausted_of_rest_eq_nil (hpass.trans hnext) (rest_next_eq_nil h)

/-! ### What comes before an ending -/

/-- As long as text is ahead, nothing but tokens was given. -/
theorem exists_tokens_of_rest_ne_nil (h : (steps goals s).2.cursor.rest ≠ []) :
    ∃ tokens : List Token, (steps goals s).1 = tokens.map .ok ∧ ∀ t ∈ tokens, t.isEof = false := by
  induction goals generalizing s with
  | nil => exact ⟨[], rfl, List.forall_mem_nil _⟩
  | cons goal goals ih =>
    rw [steps_cons] at h ⊢
    have hnext : (s.next goal).2.cursor.rest ≠ [] := by
      intro hnil
      rw [steps_of_rest_eq_nil hnil] at h
      exact h hnil
    obtain ⟨t, ht, heof⟩ := (exists_token_or_ending goal s).resolve_right fun hending =>
      hnext (rest_next_eq_nil hending)
    obtain ⟨tokens, htokens, hall⟩ := ih h
    exact ⟨t :: tokens, by rw [ht, htokens]; rfl, List.forall_mem_cons.mpr ⟨heof, hall⟩⟩

theorem rest_ne_nil_of_next_eq_error (h : (s.next goal).1 = .error e) : s.cursor.rest ≠ [] := by
  intro hnil
  rw [next_of_rest_eq_nil hnil] at h
  cases h

/-- **A failing step breaks the text down** into what the tokens before it take, a gap, and a
construct that is not closed. -/
theorem exists_breakdown_of_next
    (h : ((steps goals (ofString text config)).2.next goal).1 = .error e) :
    ∃ b : Breakdown text.toList config goal e,
      (steps goals (ofString text config)).1 = (b.tiles.map Tile.token).map .ok := by
  obtain ⟨tokens, htokens, heof⟩ := exists_tokens_of_rest_ne_nil (rest_ne_nil_of_next_eq_error h)
  obtain ⟨tiles, rfl, htiled, hpass⟩ := exists_tiled_of_steps htokens heof
  have hconfig := config_steps goals (ofString text config)
  have hstep := (steps goals (ofString text config)).2.step_next goal
  generalize ((steps goals (ofString text config)).2.next goal).1 = r,
    ((steps goals (ofString text config)).2.next goal).2 = s' at hstep h
  cases hstep with
  | eof => cases h
  | token => cases h
  | @failure gap k construct hgap hlayout hopen hgoal =>
    cases h
    rw [hconfig] at hlayout
    have hreach := hpass.trans hgap
    have htext := hreach.toList_eq
    have hplace := hreach.positionAt_offset
    rw [hreach.offset_eq_byteLength] at hplace
    exact ⟨⟨tiles, gap, k.rest, fun tile htile => heof _ (List.mem_map_of_mem htile), htiled,
      hlayout.isGap, hopen, hgoal, htext, hplace⟩, htokens⟩

/-! ### The ending -/

theorem isEof_of_pull (h : ∀ t, s.pull.1 ≠ some (.ok t)) :
    ∀ t, (s.next .regularExpression).1 = .ok t → t.isEof = true := by
  intro t ht
  rw [pull_eq, ht] at h
  by_contra heof
  exact h t (if_neg heof)

/-- **Failures are exact, and every ending is final.** When a step fails, the tokens before it, a
gap and the unclosed construct are the whole text, and no step before it gave the end or failed.
When a step fails or gives the end of the text, or a pull gives no token, the text is consumed and
nothing but its end can follow. -/
theorem ending_is_exact_and_final (text : String) (config : Config) (goals : List Goal) :
    (∀ goal e, ((steps goals (ofString text config)).2.next goal).1 = .error e →
      Exhausted text.toList ((steps goals (ofString text config)).2.next goal).2 ∧
      ∃ b : Breakdown text.toList config goal e, ∀ later,
        (steps (goals ++ goal :: later) (ofString text config)).1 =
          (b.tiles.map Tile.token).map .ok ++ .error e :: List.replicate later.length
            (.ok ((steps goals (ofString text config)).2.next goal).2.eof)) ∧
    (∀ goal t, ((steps goals (ofString text config)).2.next goal).1 = .ok t → t.isEof = true →
      Exhausted text.toList ((steps goals (ofString text config)).2.next goal).2) ∧
    ((∀ t, (steps goals (ofString text config)).2.pull.1 ≠ some (.ok t)) →
      Exhausted text.toList (steps goals (ofString text config)).2.pull.2) := by
  refine ⟨fun goal e h => ?_, fun goal t h ht => ?_, fun h => ?_⟩
  · have hfinal : Exhausted text.toList ((steps goals (ofString text config)).2.next goal).2 :=
      exhausted_next fun t ht => by cases h.symm.trans ht
    obtain ⟨b, hb⟩ := exists_breakdown_of_next h
    refine ⟨hfinal, b, fun later => ?_⟩
    rw [steps_append, steps_cons, hb, h, hfinal.steps_eq]
  · refine exhausted_next fun u hu => ?_
    obtain rfl : t = u := Except.ok.inj (h.symm.trans hu)
    exact ht
  · rw [pull_snd]
    exact exhausted_next (isEof_of_pull h)

/-- A string in front of a block comment whose only slash behind the asterisk shares it with the
opening delimiter. -/
theorem breakdown_of_shared_asterisk :
    ∃ b : Breakdown "'a'\n /*/".toList {} .division ⟨.blockComment, ⟨2, 1⟩⟩,
      b.tiles.map Tile.token = [⟨.stringLiteral, .text "a", ⟨⟨1, 0⟩, ⟨1, 3⟩⟩, none, ⟨0, 3⟩⟩] ∧
      Exhausted "'a'\n /*/".toList (steps [.division, .division] (ofString "'a'\n /*/" {})).2 := by
  have hsteps : (steps ([.division] ++ [.division]) (ofString "'a'\n /*/" {})).1 =
      [⟨.stringLiteral, .text "a", ⟨⟨1, 0⟩, ⟨1, 3⟩⟩, none, ⟨0, 3⟩⟩].map .ok ++
        [.error ⟨.blockComment, ⟨2, 1⟩⟩] := by decide +kernel
  have hfail : ((steps [.division] (ofString "'a'\n /*/" {})).2.next .division).1 =
      .error ⟨.blockComment, ⟨2, 1⟩⟩ := by decide +kernel
  obtain ⟨hfinal, b, hb⟩ := (ending_is_exact_and_final "'a'\n /*/" {} [.division]).1 _ _ hfail
  obtain ⟨htokens, -⟩ := List.append_inj' ((hb []).symm.trans hsteps) rfl
  exact ⟨b, (List.map_inj_right fun _ _ => Except.ok.inj).mp htokens, hfinal⟩

end Scanner

end EcmaLex
