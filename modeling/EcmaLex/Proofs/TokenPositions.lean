import EcmaLex.Proofs.LineColumn
import EcmaLex.Proofs.Tiling

/-!
# The positions of tokens and failures

A token reports where it starts and ends twice, in bytes and in lines and columns. The two agree:
the positions of a token are those of the ends of its span, the position of a scanner is that of
the offset of its cursor, and a failure reports the position of the offset at which the construct
opens. Positions grow with offsets, so the tokens of a run follow one another by their positions
as they do by their spans.

## Main definitions

* `EcmaLex.Token.Located` : tokens whose positions are those of their spans.

## Main results

* `EcmaLex.Scanner.located_of_next` : each step gives a located token behind where it started.
* `EcmaLex.Scanner.positions_of_steps` : the positions of all tokens and failures of a run.
-/

namespace EcmaLex

/-- The positions of a token are those of the ends of its span in the text. They are in order, and
differ unless the token is the end of the text. -/
structure Token.Located (text : List Char) (t : Token) : Prop where
  positionAt_start : Text.positionAt text t.span.start = some t.location.start
  positionAt_stop : Text.positionAt text t.span.stop = some t.location.stop
  start_le_stop : t.location.start ≤ t.location.stop
  start_eq_stop_iff : t.location.start = t.location.stop ↔ t.isEof = true

namespace Scanner

variable {text : String} {config : Config} {goals : List Goal} {goal : Goal} {s : Scanner}
  {behind : List Char} {t : Token} {e : ScanError}

/-- **A step gives a located token.** It starts at or behind the position of the scanner before the
step, and ends at its position after the step. -/
theorem located_of_next (h : (Cursor.ofString text).Passes behind s.cursor)
    (ht : (s.next goal).1 = .ok t) :
    t.Located text.toList ∧ s.position ≤ t.location.start ∧
      t.location.stop = (s.next goal).2.position := by
  have hstep := s.step_next goal
  generalize (s.next goal).1 = r, (s.next goal).2 = s' at hstep ht ⊢
  cases hstep with
  | failure => cases ht
  | @eof gap k hgap =>
    cases ht
    have hplace := (h.trans hgap).positionAt_offset
    exact ⟨⟨hplace, hplace, le_rfl, iff_of_true rfl rfl⟩, h.position_le hgap, rfl⟩
  | @token gap raw k k' form hgap _ _ hread hne hraw =>
    cases ht
    have hstart := (h.trans hgap).positionAt_offset
    have hstop := ((h.trans hgap).trans hraw).positionAt_offset
    have hlt : k.position < k'.position := (h.trans hgap).position_lt hraw hne
    have htag : ¬ (form.tag == .eof) = true :=
      fun heof => (Rule.gives_of_read hread).ne_eof (eq_of_beq heof)
    exact ⟨⟨hstart, hstop, hlt.le, iff_of_false hlt.ne htag⟩, h.position_le hgap, rfl⟩

/-- A failure reports the position at which the construct opens, behind a gap. -/
theorem positionAt_of_next_eq_error (h : (Cursor.ofString text).Passes behind s.cursor)
    (he : (s.next goal).1 = .error e) :
    ∃ gap opened, s.cursor.rest = gap ++ opened ∧ IsGap s.config gap ∧
      Unclosed e.construct opened ∧
      Text.positionAt text.toList (s.cursor.offset + Text.byteLength gap) = some e.start := by
  have hstep := s.step_next goal
  generalize (s.next goal).1 = r, (s.next goal).2 = s' at hstep he
  cases hstep with
  | eof => cases he
  | token => cases he
  | @failure gap k construct hgap hlayout hopen =>
    cases he
    have hplace := (h.trans hgap).positionAt_offset
    rw [hgap.offset_eq] at hplace
    exact ⟨gap, k.rest, hgap.rest_eq, hlayout.isGap, hopen, hplace⟩

/-- The tokens of some steps are located, lie behind the position of the scanner before the steps,
and follow one another. -/
theorem located_of_steps (goals : List Goal)
    (h : (Cursor.ofString text).Passes behind s.cursor) :
    (∀ t ∈ (steps goals s).1.filterMap Except.toOption,
      t.Located text.toList ∧ s.position ≤ t.location.start) ∧
    ((steps goals s).1.filterMap Except.toOption).Pairwise fun t u =>
      t.location.stop ≤ u.location.start := by
  induction goals generalizing s behind with
  | nil => exact ⟨List.forall_mem_nil _, .nil⟩
  | cons goal goals ih =>
    obtain ⟨piece, hpass⟩ := s.exists_passes_next goal
    have hforward : s.position ≤ (s.next goal).2.position := h.position_le hpass
    obtain ⟨hlater, hpairs⟩ := ih (h.trans hpass)
    have hbehind : ∀ u ∈ (steps goals (s.next goal).2).1.filterMap Except.toOption,
        u.Located text.toList ∧ s.position ≤ u.location.start := fun u hu =>
      ⟨(hlater u hu).1, hforward.trans (hlater u hu).2⟩
    rw [steps_cons]
    cases hnext : (s.next goal).1 with
    | error e => exact ⟨hbehind, hpairs⟩
    | ok t =>
      obtain ⟨hloc, hstart, hstop⟩ := located_of_next h hnext
      refine ⟨List.forall_mem_cons.mpr ⟨⟨hloc, hstart⟩, hbehind⟩, .cons (fun u hu => ?_) hpairs⟩
      rw [hstop]
      exact (hlater u hu).2

/-- **Lines and columns are a function of the byte offset.** All tokens of a run have the positions
of the ends of their spans, the scanner has the position of its offset after every step, and a
failure of the next step has the position of the offset at which the construct opens. Positions
are strictly increasing in the offset, and the tokens of a run follow one another by position. -/
theorem positions_of_steps (text : String) (config : Config) (goals : List Goal) :
    (∀ t, .ok t ∈ (steps goals (ofString text config)).1 → t.Located text.toList) ∧
    Text.positionAt text.toList (steps goals (ofString text config)).2.cursor.offset =
      some (steps goals (ofString text config)).2.position ∧
    (∀ goal e, ((steps goals (ofString text config)).2.next goal).1 = .error e →
      ∃ gap opened, (steps goals (ofString text config)).2.cursor.rest = gap ++ opened ∧
        IsGap config gap ∧ Unclosed e.construct opened ∧
        Text.positionAt text.toList ((steps goals (ofString text config)).2.cursor.offset +
          Text.byteLength gap) = some e.start) ∧
    (∀ j k p q, Text.positionAt text.toList j = some p → Text.positionAt text.toList k = some q →
      j < k → p < q) ∧
    ((steps goals (ofString text config)).1.filterMap Except.toOption).Pairwise
      fun t u => t.location.stop ≤ u.location.start := by
  obtain ⟨behind, hpass⟩ := exists_passes_steps goals (ofString text config)
  have hstart : (Cursor.ofString text).Passes [] (ofString text config).cursor := .refl _
  obtain ⟨hlocated, hpairs⟩ := located_of_steps goals hstart
  refine ⟨fun t ht => ?_, Cursor.Passes.positionAt_offset hpass, fun goal e he => ?_,
    fun j k p q hp hq h => Text.positionAt_lt hp hq h, hpairs⟩
  · exact (hlocated t (List.mem_filterMap.mpr ⟨.ok t, ht, rfl⟩)).1
  · have hfail := positionAt_of_next_eq_error hpass he
    rwa [config_steps] at hfail

/-- An operator that takes a carriage return ends in the middle of a line end. -/
theorem located_operator_in_line_end :
    (⟨.operator, .text "+\r", ⟨⟨1, 0⟩, ⟨1, 2⟩⟩, none, ⟨0, 2⟩⟩ : Token).Located "+\r\n".toList :=
  (positions_of_steps "+\r\n" { operators := ["+", "\r"] } [.division]).1 _ <|
    List.mem_singleton.mpr (by decide +kernel)

end Scanner

end EcmaLex
