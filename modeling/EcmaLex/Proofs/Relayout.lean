import EcmaLex.Proofs.TokenPieces
import Mathlib.Data.List.Forall2

/-!
# Tokens with another layout

The tokens of a text depend on the pieces that they take and not on the layout between them. When
the pieces are taken out of the text and put together again, with other white space and other line
terminators between them, scanning gives the same kinds and values from the same pieces. Each
separator starts with a line terminator that neither a word nor an operator goes on with, since a
piece has to end where it did; a line comment ends in front of it as well.

## Main definitions

* `EcmaLex.Token.raw?` : the piece of a text under the span of a token.
* `EcmaLex.Token.ReadFrom` : a token that a piece of text gives by itself.
* `EcmaLex.Config.Separates` : the texts that can stand behind a token.
* `EcmaLex.Text.joined` : pieces with separators between them.

## Main results

* `EcmaLex.Scanner.next_of_readFrom`, `EcmaLex.Scanner.run_of_readFrom` : a step and a run over
  pieces that give tokens.
* `EcmaLex.Scanner.tokens_of_other_layout` : the tokens of a text with another layout.
-/

namespace EcmaLex

/-! ### Pieces and separators -/

/-- The piece of a text under the span of a token. -/
def Token.raw? (text : List Char) (t : Token) : Option (List Char) :=
  Text.slice? text t.span.start t.span.stop

/-- A piece of text gives a token of this kind and value when nothing follows. -/
def Token.ReadFrom (config : Config) (goal : Goal) (t : Token) (raw : List Char) : Prop :=
  ∃ form, TokenPiece config goal raw form [] ∧ t.tag = form.tag ∧ t.lexeme = form.lexeme

/-- A text of white space and line terminators. -/
def IsBlank (text : List Char) : Prop :=
  ∀ c ∈ text, isWhitespace c = true ∨ isLineTerminator c = true

instance (text : List Char) : Decidable (IsBlank text) := List.decidableBAll _ text

/-- A text that is blank and, unless it is empty, starts with a line terminator in front of which
every token ends. -/
structure Config.Separates (config : Config) (sep : List Char) : Prop where
  isBlank : IsBlank sep
  isBreak : ∀ c ∈ sep.head?, config.IsBreak c

/-- Pieces of text with separators between them. -/
def Text.joined : List (List Char) → List (List Char) → List Char
  | piece :: pieces, sep :: seps => piece ++ sep ++ joined pieces seps
  | pieces, [] => pieces.flatten
  | [], _ => []

variable {config : Config} {goal : Goal} {text : String} {lead trail : List Char}
  {raws seps : List (List Char)} {tokens : List Token}

theorem Text.joined_cons (raw : List Char) (hlen : seps.length = raws.length) :
    joined (raw :: raws) seps = raw ++ (seps.headD [] ++ joined raws seps.tail) := by
  cases seps with
  | nil =>
    obtain rfl := List.length_eq_zero_iff.mp hlen.symm
    simp [joined]
  | cons sep seps => simp [joined]

/-- What follows a piece is blank, and every token ends in front of it. -/
theorem isBreak_head_of_joined (hlen : seps.length = raws.length)
    (hseps : ∀ sep ∈ seps, sep ≠ [] ∧ config.Separates sep) (htrail : config.Separates trail) :
    ∀ c ∈ (seps.headD [] ++ (Text.joined raws seps.tail ++ trail)).head?, config.IsBreak c := by
  intro c hc
  cases seps with
  | nil =>
    obtain rfl := List.length_eq_zero_iff.mp hlen.symm
    exact htrail.isBreak c hc
  | cons sep seps =>
    obtain ⟨hne, hsep⟩ := hseps sep List.mem_cons_self
    obtain ⟨d, sep, rfl⟩ := List.exists_cons_of_ne_nil hne
    exact hsep.isBreak c hc

namespace Scanner

variable {s : Scanner} {behind : List Char}

/-! ### Runs over pieces -/

theorem run_of_isBlank {k : Cursor} (hgap : s.cursor.Passes lead k) (hlead : IsBlank lead)
    (hend : k.rest = []) :
    s.run goal = ⟨[], .ok (s.moveTo k).eof, s.moveTo k⟩ := by
  have hlayout : Layout s.config lead k.rest := .of_blank hlead (by simp [hend])
  have hnext : s.next goal = _ := next_of_layout_to_end hgap hlayout hend
  rw [run_of_eof (congrArg Prod.fst hnext) rfl, hnext]

/-- A piece that gives a token gives it behind blank text and in front of a break as well. -/
theorem next_of_readFrom {t : Token} {raw back : List Char}
    (hread : t.ReadFrom s.config goal raw) (hrest : s.cursor.rest = lead ++ (raw ++ back))
    (hlead : IsBlank lead) (hback : ∀ c ∈ back.head?, s.config.IsBreak c) :
    ∃ k k' u, s.cursor.Passes lead k ∧ k.Passes raw k' ∧ k'.rest = back ∧
      s.next goal = (.ok u, s.moveTo k') ∧ u.isEof = false ∧
      u.tag = t.tag ∧ u.lexeme = t.lexeme ∧ u.span = ⟨k.offset, k'.offset⟩ := by
  obtain ⟨form, hpiece, htag, hlexeme⟩ := hread
  -- the cursor in front of the piece, and the one behind it
  have hgap := Cursor.Passes.of_rest_eq hrest
  generalize s.cursor.advance lead.length = k at hgap
  have hkrest := List.append_cancel_left (hgap.rest_eq.symm.trans hrest)
  have hraw := Cursor.Passes.of_rest_eq hkrest
  generalize k.advance raw.length = k' at hraw
  obtain rfl : k'.rest = back := List.append_cancel_left (hraw.rest_eq.symm.trans hkrest)
  have hpiece' : TokenPiece s.config goal raw form k'.rest :=
    hpiece.congr fun c hc => .inr (hback c hc)
  have hlayout : Layout s.config lead k.rest := by
    obtain ⟨hterm, hblank, -⟩ := layoutKind?_eq_none_iff.mp hpiece'.layoutKind?_eq_none
    rw [← hkrest] at hterm hblank
    refine .of_blank hlead fun c hc => ?_
    rw [Option.mem_def.mp hc] at hterm hblank
    exact ⟨hblank, hterm⟩
  have hform : form.tag ≠ .eof := (Rule.gives_of_read hpiece.read_eq).ne_eof
  exact ⟨k, k', _, hgap, hraw, rfl, Reads.next_eq ⟨hgap, hlayout, hraw, hpiece'⟩,
    beq_false_of_ne hform, htag.symm, hlexeme.symm, rfl⟩

/-- **A run over pieces that give tokens** gives these tokens from these pieces, whatever separates
them, and then the end of the text. -/
theorem run_of_readFrom (hconfig : s.config = config)
    (hpieces : List.Forall₂ (Token.ReadFrom config goal) tokens raws)
    (hk : (Cursor.ofString text).Passes behind s.cursor)
    (hrest : s.cursor.rest = lead ++ (Text.joined raws seps ++ trail)) (hlead : IsBlank lead)
    (hlen : seps.length = raws.length - 1)
    (hseps : ∀ sep ∈ seps, sep ≠ [] ∧ config.Separates sep) (htrail : config.Separates trail) :
    (∃ last, (s.run goal).ending = .ok last ∧ last.isEof = true) ∧
      (s.run goal).tokens.map Token.tag = tokens.map Token.tag ∧
      (s.run goal).tokens.map Token.lexeme = tokens.map Token.lexeme ∧
      (s.run goal).tokens.map (Token.raw? text.toList) = raws.map some := by
  induction hpieces generalizing s behind lead seps with
  | nil =>
    obtain rfl := List.length_eq_zero_iff.mp hlen
    have hblank : IsBlank s.cursor.rest := by
      rw [hrest]
      exact List.forall_mem_append.mpr ⟨hlead, htrail.isBlank⟩
    rw [run_of_isBlank (.finish s.cursor) hblank (Cursor.rest_finish _)]
    exact ⟨⟨_, rfl, rfl⟩, rfl, rfl, rfl⟩
  | @cons t raw tokens raws hread _ ih =>
    rw [List.length_cons, Nat.add_sub_cancel] at hlen
    rw [Text.joined_cons raw hlen, List.append_assoc, List.append_assoc] at hrest
    have hback := isBreak_head_of_joined hlen hseps htrail
    subst hconfig
    obtain ⟨k, k', u, hgap, hraw, hk'rest, hnext, heof, htag, hlexeme, hspan⟩ :=
      next_of_readFrom hread hrest hlead hback
    have hsep : IsBlank (seps.headD []) := by
      cases seps with
      | nil => exact List.forall_mem_nil _
      | cons sep seps => exact (hseps sep List.mem_cons_self).2.isBlank
    have hlater : ∀ sep ∈ seps.tail, sep ≠ [] ∧ s.config.Separates sep :=
      fun sep hsep => hseps sep (List.mem_of_mem_tail hsep)
    obtain ⟨hending, htags, hlexemes, hraws⟩ := ih (s := s.moveTo k') rfl
      ((hk.trans hgap).trans hraw) hk'rest hsep (by rw [List.length_tail, hlen]) hlater
    have hslice : u.raw? text.toList = some raw := by
      rw [Token.raw?, hspan]
      exact (hk.trans hgap).slice?_eq_some hraw
    rw [run_of_token (congrArg Prod.fst hnext) heof, hnext]
    refine ⟨hending, ?_, ?_, ?_⟩
    · exact congrArg₂ List.cons htag htags
    · exact congrArg₂ List.cons hlexeme hlexemes
    · exact congrArg₂ List.cons hslice hraws

/-! ### Another layout -/

/-- A token of a run is read from its piece of the text. -/
theorem exists_readFrom_of_mem_run {t : Token}
    (h : t ∈ ((ofString text config).run goal).tokens) :
    ∃ raw, t.raw? text.toList = some raw ∧ t.ReadFrom config goal raw := by
  obtain ⟨n, hsteps⟩ := exists_steps_eq_run goal (ofString text config)
  have hmem : .ok t ∈ (steps (List.replicate (n + 1) goal) (ofString text config)).1 := by
    rw [hsteps]
    exact List.mem_append_left _ (List.mem_map_of_mem h)
  obtain ⟨goal', hgoal, before, raw, after, form, htext, hspan, hpiece, hform⟩ :=
    exists_tokenPiece_of_mem_steps hmem (isEof_eq_false_of_mem_run h)
  obtain rfl := List.eq_of_mem_replicate hgoal
  refine ⟨raw, ?_, form, hpiece.congr fun c hc => (Option.not_mem_none c hc).elim, hform⟩
  rw [Token.raw?, hspan, htext]
  exact Text.slice?_append before raw after

/-- **The tokens do not depend on the layout.** The tokens of a run take pieces of the text. When
these pieces are put together with blank text in front, with blank separators between them that
start with a line terminator in front of which words and operators end, and with nothing or such a
separator behind them, then scanning reaches the end, and it gives tokens of the same kinds with
the same values from the same pieces. -/
theorem tokens_of_other_layout (text : String) (config : Config) (goal : Goal) :
    ∃ raws, ((ofString text config).run goal).tokens.map (Token.raw? text.toList) =
        raws.map some ∧
      ∀ lead seps trail, IsBlank lead → seps.length = raws.length - 1 →
        (∀ sep ∈ seps, sep ≠ [] ∧ config.Separates sep) → config.Separates trail →
        let relaid := String.ofList (lead ++ (Text.joined raws seps ++ trail))
        (∃ last, ((ofString relaid config).run goal).ending = .ok last ∧ last.isEof = true) ∧
          ((ofString relaid config).run goal).tokens.map Token.tag =
            ((ofString text config).run goal).tokens.map Token.tag ∧
          ((ofString relaid config).run goal).tokens.map Token.lexeme =
            ((ofString text config).run goal).tokens.map Token.lexeme ∧
          ((ofString relaid config).run goal).tokens.map (Token.raw? relaid.toList) =
            raws.map some := by
  let raws := ((ofString text config).run goal).tokens.map fun t =>
    (t.raw? text.toList).getD []
  refine ⟨raws, ?_, fun lead seps trail hlead hlen hseps htrail => ?_⟩
  · rw [List.map_map]
    refine List.map_congr_left fun t ht => ?_
    obtain ⟨raw, hraw, -⟩ := exists_readFrom_of_mem_run ht
    rw [hraw, Function.comp_apply, hraw, Option.getD_some]
  · have hpieces : List.Forall₂ (Token.ReadFrom config goal)
        ((ofString text config).run goal).tokens raws := by
      refine List.forall₂_map_right_iff.mpr (List.forall₂_same.mpr fun t ht => ?_)
      obtain ⟨raw, hraw, hread⟩ := exists_readFrom_of_mem_run ht
      rw [hraw, Option.getD_some]
      exact hread
    exact run_of_readFrom rfl hpieces (.refl _) String.toList_ofList hlead hlen hseps htrail

/-- Two slashes with a blank between them stay two operators on lines of their own. -/
theorem tokens_of_slashes_on_lines :
    ((ofString "/\n/\r\n ;" {}).run .division).tokens.map Token.lexeme =
        [.text "/", .text "/", .text ";"] ∧
      ((ofString "/\n/\r\n ;" {}).run .division).tokens.map
        (Token.raw? "/\n/\r\n ;".toList) = [some ['/'], some ['/'], some [';']] := by
  have hrun : ((ofString "/ /;" {}).run .division).tokens =
      [⟨.operator, .text "/", ⟨⟨1, 0⟩, ⟨1, 1⟩⟩, none, ⟨0, 1⟩⟩,
        ⟨.operator, .text "/", ⟨⟨1, 2⟩, ⟨1, 3⟩⟩, none, ⟨2, 3⟩⟩,
        ⟨.char ';', .text ";", ⟨⟨1, 3⟩, ⟨1, 4⟩⟩, none, ⟨3, 4⟩⟩] := by
    have hend : (⟨.eof, .text "eof", ⟨⟨1, 4⟩, ⟨1, 4⟩⟩, none, ⟨4, 4⟩⟩ : Token).isEof = true := rfl
    exact (run_of_steps (by decide +kernel) (by decide) fun _ h => Except.ok.inj h ▸ hend).1
  have hlf : Config.Separates {} ['\n'] := by
    refine ⟨by decide, fun c hc => ?_⟩
    obtain rfl := Option.some.inj hc
    exact ⟨rfl, by decide +kernel, by decide +kernel⟩
  have hcr : Config.Separates {} ['\r', '\n', ' '] := by
    refine ⟨by decide, fun c hc => ?_⟩
    obtain rfl := Option.some.inj hc
    exact ⟨rfl, by decide +kernel, by decide +kernel⟩
  have hseps : ∀ sep ∈ [['\n'], ['\r', '\n', ' ']], sep ≠ [] ∧ Config.Separates {} sep :=
    List.forall_mem_cons.mpr ⟨⟨List.cons_ne_nil _ _, hlf⟩,
      List.forall_mem_singleton.mpr ⟨List.cons_ne_nil _ _, hcr⟩⟩
  obtain ⟨raws, hraws, hrelaid⟩ := tokens_of_other_layout "/ /;" {} .division
  rw [hrun] at hraws hrelaid
  obtain rfl : [['/'], ['/'], [';']] = raws :=
    (List.map_inj_right fun _ _ => Option.some.inj).mp hraws
  obtain ⟨-, -, hlexemes, hpieces⟩ := hrelaid [] _ [] (List.forall_mem_nil _) rfl hseps
    ⟨List.forall_mem_nil _, fun _ h => by cases h⟩
  exact ⟨hlexemes, hpieces⟩

end Scanner

end EcmaLex
