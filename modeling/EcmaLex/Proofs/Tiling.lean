import EcmaLex.Proofs.ScannerStep

/-!
# Tokens and gaps tile the text

Nothing of a text is lost between the tokens that a scanner gives. Each token takes a piece of the
text, not an empty one, and what is left out between two tokens is a gap: skipping alone consumes
it, and where comments are tokens it holds nothing but white space and line terminators. Gaps and
pieces in turn are the text, up to the gap in front of its end.

## Main definitions

* `EcmaLex.IsGap` : the texts that can stand between two tokens.
* `EcmaLex.Tile` : a token with the piece of text that it takes and the gap in front of it.
* `EcmaLex.Tiled` : tiles that lie one behind the other from a byte offset on.

## Main results

* `EcmaLex.Scanner.exists_tiled_of_steps` : steps that give tokens lay tiles.
* `EcmaLex.Scanner.tiled_of_steps_to_eof` : the tokens up to the end of the text tile it.
-/

namespace EcmaLex

/-- A text that can stand between two tokens: skipping consumes it alone, and where comments are
tokens it holds none. -/
structure IsGap (config : Config) (gap : List Char) : Prop where
  skippable : Skippable config gap
  blank : config.emitComments = true →
    ∀ c ∈ gap, isWhitespace c = true ∨ isLineTerminator c = true

theorem Layout.isGap {config : Config} {gap rest : List Char} (h : Layout config gap rest) :
    IsGap config gap := ⟨h.skippable, h.blank⟩

/-- A token, the piece of text that it takes, and the gap in front of it. -/
structure Tile where
  gap : List Char
  raw : List Char
  token : Token

/-- The text of a tile: the gap, and behind it what the token takes. -/
def Tile.text (tile : Tile) : List Char := tile.gap ++ tile.raw

/-- Tiles that lie one behind the other from the byte offset `start` on. The span of each token
covers what the token takes, which is not empty, and begins where the gap ends. -/
def Tiled (config : Config) : Nat → List Tile → Prop
  | _, [] => True
  | start, tile :: tiles =>
    (IsGap config tile.gap ∧ tile.raw ≠ [] ∧
      tile.token.span = ⟨start + Text.byteLength tile.gap, start + Text.byteLength tile.text⟩) ∧
    Tiled config (start + Text.byteLength tile.text) tiles

namespace Tiled

variable {config : Config} {start : Nat} {tiles : List Tile}

/-- The spans of tiled tokens are not empty and lie between the ends of the tiling. -/
theorem span_bounds (h : Tiled config start tiles) :
    ∀ tile ∈ tiles, start ≤ tile.token.span.start ∧
      tile.token.span.start < tile.token.span.stop ∧
      tile.token.span.stop ≤ start + Text.byteLength (tiles.flatMap Tile.text) := by
  induction tiles generalizing start with
  | nil => exact List.forall_mem_nil _
  | cons tile tiles ih =>
    obtain ⟨⟨-, hne, hspan⟩, htiles⟩ := h
    have hpos : 0 < Text.byteLength tile.raw :=
      Nat.lt_of_lt_of_le (List.length_pos_iff.mpr hne) (Text.length_le_byteLength _)
    refine List.forall_mem_cons.mpr ⟨?_, fun other hother => ?_⟩
    · rw [hspan, List.flatMap_cons, Text.byteLength_append, Tile.text, Text.byteLength_append]
      dsimp only
      omega
    · obtain ⟨hstart, hlt, hstop⟩ := ih htiles other hother
      rw [List.flatMap_cons, Text.byteLength_append]
      omega

/-- Tiled tokens take disjoint parts of the text, the earlier token the earlier part. -/
theorem pairwise_span (h : Tiled config start tiles) :
    (tiles.map Tile.token).Pairwise fun t u => t.span.stop ≤ u.span.start := by
  induction tiles generalizing start with
  | nil => exact .nil
  | cons tile tiles ih =>
    obtain ⟨⟨-, -, hspan⟩, htiles⟩ := h
    refine .cons (fun u hu => ?_) (ih htiles)
    obtain ⟨other, hother, rfl⟩ := List.mem_map.mp hu
    rw [hspan]
    exact (htiles.span_bounds other hother).1

/-- The span of a tiled token cuts what the token takes out of the text. -/
theorem slice?_eq_some (h : Tiled config start tiles) {before after : List Char}
    (hstart : start = Text.byteLength before) :
    ∀ tile ∈ tiles, Text.slice? (before ++ tiles.flatMap Tile.text ++ after)
      tile.token.span.start tile.token.span.stop = some tile.raw := by
  induction tiles generalizing start before with
  | nil => exact List.forall_mem_nil _
  | cons tile tiles ih =>
    obtain ⟨⟨-, -, hspan⟩, htiles⟩ := h
    refine List.forall_mem_cons.mpr ⟨?_, fun other hother => ?_⟩
    · have hcut := Text.slice?_append (before ++ tile.gap) tile.raw
        (tiles.flatMap Tile.text ++ after)
      rw [hspan, hstart, ← Text.byteLength_append, ← Text.byteLength_append, Tile.text]
      simpa [Tile.text, List.append_assoc] using hcut
    · have hnext : start + Text.byteLength tile.text = Text.byteLength (before ++ tile.text) := by
        rw [hstart, Text.byteLength_append]
      have hcut := ih htiles hnext other hother
      rwa [List.append_assoc before] at hcut

end Tiled

namespace Scanner

variable {goals : List Goal} {s : Scanner} {tokens : List Token}

/-- **Steps that give tokens lay tiles**, one behind the other from where the scanner stands to
where it stands afterwards. -/
theorem exists_tiled_of_steps (hsteps : (steps goals s).1 = tokens.map .ok)
    (htokens : ∀ t ∈ tokens, t.isEof = false) :
    ∃ tiles, tiles.map Tile.token = tokens ∧ Tiled s.config s.cursor.offset tiles ∧
      s.cursor.Passes (tiles.flatMap Tile.text) (steps goals s).2.cursor := by
  induction goals generalizing s tokens with
  | nil =>
    obtain rfl := List.map_eq_nil_iff.mp hsteps.symm
    exact ⟨[], rfl, trivial, .refl _⟩
  | cons goal goals ih =>
    rw [steps_cons] at hsteps ⊢
    obtain ⟨t, tokens, rfl, hnext, hrest⟩ := List.map_eq_cons_iff.mp hsteps.symm
    obtain ⟨ht, htokens⟩ := List.forall_mem_cons.mp htokens
    have hconfig := s.config_next goal
    have hstep := s.step_next goal
    obtain ⟨tiles, htoks, htiled, hpass⟩ := ih hrest.symm htokens
    generalize (s.next goal).1 = r, (s.next goal).2 = s' at hnext hstep hconfig htiled hpass ⊢
    cases hstep with
    | eof =>
      cases hnext
      cases ht
    | failure => cases hnext
    | @token gap raw k k' form hgap hlayout _ _ hne hraw =>
      cases hnext
      have hboth := hgap.trans hraw
      refine ⟨⟨gap, raw, _⟩ :: tiles, congrArg (_ :: ·) htoks, ⟨⟨hlayout.isGap, hne, ?_⟩, ?_⟩,
        hboth.trans hpass⟩
      · change (⟨k.offset, k'.offset⟩ : Span) = _
        rw [hgap.offset_eq, hboth.offset_eq]
        rfl
      · rw [Tile.text, ← hboth.offset_eq]
        exact htiled

/-- **The tokens up to the end of the text tile the text.** Their spans are not empty, lie between
characters of the text, one behind the other; gaps and the pieces under the spans in turn make up
the text, with one gap more in front of its end, where the cursor is then. -/
theorem tiled_of_steps_to_eof {text : String} {config : Config} {last : Token}
    (hsteps : (steps goals (ofString text config)).1 = tokens.map .ok ++ [.ok last])
    (htokens : ∀ t ∈ tokens, t.isEof = false) (hlast : last.isEof = true) :
    (∀ t ∈ tokens, t.span.start < t.span.stop ∧ t.span.stop ≤ Text.byteLength text.toList) ∧
    tokens.Pairwise (fun t u => t.span.stop ≤ u.span.start) ∧
    (∃ tiles tail, tiles.map Tile.token = tokens ∧ Tiled config 0 tiles ∧
      (∀ tile ∈ tiles, Text.slice? text.toList tile.token.span.start tile.token.span.stop =
        some tile.raw) ∧
      IsGap config tail ∧ text.toList = tiles.flatMap Tile.text ++ tail) ∧
    last.span = ⟨Text.byteLength text.toList, Text.byteLength text.toList⟩ ∧
    (steps goals (ofString text config)).2.cursor.isFinished = true ∧
    (steps goals (ofString text config)).2.cursor.offset = Text.byteLength text.toList := by
  obtain rfl | ⟨goals, goal, rfl⟩ := List.eq_nil_or_concat goals
  · simp at hsteps
  rw [List.concat_eq_append, steps_concat] at hsteps ⊢
  obtain ⟨hfront, hone⟩ := List.append_inj' hsteps rfl
  obtain ⟨tiles, rfl, htiled, hpass⟩ := exists_tiled_of_steps hfront htokens
  obtain ⟨tail, htail, hlayout, hend, rfl⟩ :=
    exists_layout_of_eof (List.singleton_inj.mp hone) hlast
  rw [config_steps] at hlayout
  have htext := (hpass.trans htail).toList_eq
  have hoffset := (hpass.trans htail).offset_eq_byteLength
  rw [hend, List.append_nil] at htext
  rw [← htext] at hoffset
  refine ⟨fun t ht => ?_, htiled.pairwise_span,
    ⟨tiles, tail, rfl, htiled, ?_, hlayout.isGap, htext⟩, ?_,
    (Cursor.isFinished_iff _).mpr hend, hoffset⟩
  · obtain ⟨tile, htile, rfl⟩ := List.mem_map.mp ht
    obtain ⟨-, hlt, hstop⟩ := htiled.span_bounds tile htile
    have hzero : (ofString text config).cursor.offset = 0 := rfl
    refine ⟨hlt, ?_⟩
    rw [htext, Text.byteLength_append]
    omega
  · rw [htext]
    exact htiled.slice?_eq_some (show _ = Text.byteLength [] from rfl)
  · rw [← hoffset]
    rfl

/-- Two strings with a line comment, an end of line and a block comment between them. -/
theorem tiled_of_steps_with_comments :
    ∃ tiles tail, tiles.map (fun tile => tile.token.span) = [⟨0, 4⟩, ⟨16, 19⟩] ∧ Tiled {} 0 tiles ∧
      IsGap {} tail ∧ "'é' //b\r\n/*/**/'c' ".toList = tiles.flatMap Tile.text ++ tail := by
  have hsteps : (steps [.division, .regularExpression, .division]
      (ofString "'é' //b\r\n/*/**/'c' " {})).1 =
        [⟨.stringLiteral, .text "é", ⟨⟨1, 0⟩, ⟨1, 3⟩⟩, none, ⟨0, 4⟩⟩,
          ⟨.stringLiteral, .text "c", ⟨⟨2, 6⟩, ⟨2, 9⟩⟩, none, ⟨16, 19⟩⟩].map .ok ++
        [.ok ⟨.eof, .text "eof", ⟨⟨2, 10⟩, ⟨2, 10⟩⟩, none, ⟨20, 20⟩⟩] := by decide +kernel
  obtain ⟨-, -, ⟨tiles, tail, htokens, htiled, -, htail, htext⟩, -⟩ :=
    tiled_of_steps_to_eof hsteps (by decide) rfl
  refine ⟨tiles, tail, ?_, htiled, htail, htext⟩
  have hspans := congrArg (List.map Token.span) htokens
  rwa [List.map_map] at hspans

end Scanner

end EcmaLex
