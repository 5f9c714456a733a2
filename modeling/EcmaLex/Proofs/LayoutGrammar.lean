import EcmaLex.Proofs.FirstCloser
import EcmaLex.Proofs.LineColumn

/-!
# The grammar of layout

Layout is made of atoms: ends of lines, single characters of white space and, where comments are no
tokens, comments. An atom is told by the text that it stands in, so a text can be cut into atoms in
one way only, and there is one place where no further atom follows: either something else is ahead
there, or a block comment that is not closed. Skipping stops at this place. It succeeds in the one
case and fails in the other, where it goes on to the end of the text.

## Main definitions

* `EcmaLex.LayoutAtom` : one atom in front of a text.
* `EcmaLex.LayoutAtoms` : atoms one behind the other.
* `EcmaLex.LayoutStops`, `EcmaLex.LayoutEnds` : the texts in front of which layout stops.

## Main results

* `EcmaLex.LayoutAtom.unique`, `EcmaLex.LayoutAtoms.unique` : a text is cut into atoms in one way.
* `EcmaLex.Layout.exists_atoms` : the pieces that are skipped fall into atoms.
* `EcmaLex.Cursor.Passes.line_eq` : the lines that a cursor counts while it moves.
* `EcmaLex.Cursor.skip_passes_atoms` : skipping passes the atoms ahead and nothing else.
-/

namespace EcmaLex

/-! ### Atoms -/

/-- An atom of layout in front of a text: a line terminator, where a carriage return and a line feed
behind it are one, a character of white space, or, where comments are no tokens, a comment. A line
comment goes up to the end of its line or of the text, and a block comment up to the first delimiter
that closes it. -/
inductive LayoutAtom (config : Config) : List Char → List Char → Prop
  | crlf {rest : List Char} : LayoutAtom config ['\r', '\n'] rest
  | terminator {c : Char} {rest : List Char} (hc : isLineTerminator c = true)
      (hrest : c = '\r' → rest.head? ≠ some '\n') : LayoutAtom config [c] rest
  | blank {c : Char} {rest : List Char} (hc : isWhitespace c = true) : LayoutAtom config [c] rest
  | lineComment {body rest : List Char} (hhide : config.emitComments = false)
      (hbody : ∀ c ∈ body, isLineTerminator c = false)
      (hrest : ∀ c ∈ rest.head?, isLineTerminator c = true) :
      LayoutAtom config ('/' :: '/' :: body) rest
  | blockComment {body rest : List Char} (hhide : config.emitComments = false)
      (hbody : Text.IsBeforeFirst ['*', '/'] (body ++ ['*', '/'] ++ rest) body) :
      LayoutAtom config ('/' :: '*' :: (body ++ ['*', '/'])) rest

/-- Atoms of layout, one behind the other, in front of a text. -/
def LayoutAtoms (config : Config) : List (List Char) → List Char → Prop
  | [], _ => True
  | atom :: atoms, rest =>
    LayoutAtom config atom (atoms.flatten ++ rest) ∧ LayoutAtoms config atoms rest

/-- A text that starts with no layout: it is empty or starts with neither a line terminator nor
white space nor, where comments are no tokens, a comment. -/
structure LayoutStops (config : Config) (text : List Char) : Prop where
  head : ∀ c ∈ text.head?, isLineTerminator c = false ∧ isWhitespace c = false
  comment : config.emitComments = false → ¬ ['/', '/'] <+: text ∧ ¬ ['/', '*'] <+: text

/-- A text in front of which layout ends: it starts with no layout, or with a block comment that is
not closed. -/
def LayoutEnds (config : Config) (text : List Char) : Prop :=
  LayoutStops config text ∨ config.emitComments = false ∧ Unclosed .blockComment text

variable {config : Config} {atom piece gap rest rest' text : List Char}
  {atoms atoms' : List (List Char)}

theorem Grammar.startsComment_eq_false_iff :
    startsComment text = false ↔ ¬ ['/', '/'] <+: text ∧ ¬ ['/', '*'] <+: text := by
  have hblock : startsBlockComment text = true ↔ ['/', '*'] <+: text := by
    rw [startsBlockComment_iff]
    exact ⟨fun ⟨rest, h⟩ => ⟨rest, h.symm⟩, fun ⟨rest, h⟩ => ⟨rest, h.symm⟩⟩
  have hline : startsLineComment text = true ↔ ['/', '/'] <+: text := by
    rw [startsLineComment_iff]
    exact ⟨fun ⟨rest, h⟩ => ⟨rest, h.symm⟩, fun ⟨rest, h⟩ => ⟨rest, h.symm⟩⟩
  rw [← hblock, ← hline, startsComment]
  cases startsBlockComment text <;> simp

theorem layoutStops_iff : LayoutStops config text ↔ layoutKind? config text = none := by
  have hhead : (∀ c ∈ text.head?, isLineTerminator c = false ∧ isWhitespace c = false) ↔
      text.head?.any isLineTerminator = false ∧ text.head?.any isWhitespace = false := by
    cases text with
    | nil => simp
    | cons c text => simp
  rw [layoutKind?_eq_none_iff, ← and_assoc, ← hhead]
  simp only [Grammar.startsComment_eq_false_iff]
  exact ⟨fun h => ⟨h.head, h.comment⟩, fun h => ⟨h.1, h.2⟩⟩

namespace LayoutAtom

/-- An atom is one character of white space, or a piece of layout that starts with none. -/
theorem blank_or_piece (h : LayoutAtom config atom rest) :
    (∃ c, atom = [c] ∧ isWhitespace c = true) ∨
      LayoutPiece config atom rest ∧ ∃ c tail, atom = c :: tail ∧ isWhitespace c = false := by
  cases h with
  | crlf => exact .inr ⟨.crlf, '\r', ['\n'], rfl, by decide⟩
  | @terminator c _ hc hrest =>
    exact .inr ⟨.terminator hc hrest, c, [], rfl, not_isWhitespace_of_isLineTerminator hc⟩
  | @blank c _ hc => exact .inl ⟨c, rfl, hc⟩
  | lineComment hhide hbody hrest =>
    exact .inr ⟨.lineComment hhide hbody hrest, _, _, rfl, isWhitespace_slash⟩
  | blockComment hhide hbody =>
    have hno := (Text.isBeforeFirst_iff (List.cons_ne_nil _ _)).mp hbody |>.2
    exact .inr ⟨.blockComment hhide hno, _, _, rfl, isWhitespace_slash⟩

/-- Skipping goes on where an atom is ahead. -/
theorem exists_layoutKind? (h : LayoutAtom config atom rest) :
    ∃ kind, layoutKind? config (atom ++ rest) = some kind := by
  rcases h.blank_or_piece with ⟨c, rfl, hc⟩ | ⟨hpiece, -⟩
  · exact ⟨.whitespace, layoutKind?_eq_some_iff.mpr (.inr (.inl ⟨rfl, hc⟩))⟩
  · obtain ⟨kind, -, hkind, -⟩ := hpiece.exists_read
    exact ⟨kind, hkind⟩

/-- No block comment that is not closed starts where an atom is ahead. -/
theorem not_unclosed (h : LayoutAtom config atom rest) :
    ¬ Unclosed .blockComment (atom ++ rest) := by
  intro hopen
  generalize htext : atom ++ rest = text at hopen
  cases hopen with
  | @blockComment body hno =>
    cases h with
    | crlf => cases htext
    | terminator hc =>
      obtain ⟨rfl, -⟩ := List.cons.inj htext
      cases hc
    | blank hc =>
      obtain ⟨rfl, -⟩ := List.cons.inj htext
      exact Bool.false_ne_true (isWhitespace_slash.symm.trans hc)
    | lineComment => cases htext
    | @blockComment inner _ =>
      obtain ⟨-, hbody⟩ := List.cons.inj htext
      obtain ⟨-, hbody⟩ := List.cons.inj hbody
      exact hno ⟨inner, rest, hbody⟩

theorem not_layoutEnds (h : LayoutAtom config atom rest) : ¬ LayoutEnds config (atom ++ rest) := by
  rintro (hstop | ⟨-, hopen⟩)
  · obtain ⟨kind, hkind⟩ := h.exists_layoutKind?
    cases hkind.symm.trans (layoutStops_iff.mp hstop)
  · exact h.not_unclosed hopen

/-- **The atom in front of a text is told by the text.** -/
theorem unique {atom' : List Char} (h : LayoutAtom config atom rest)
    (h' : LayoutAtom config atom' rest') (htext : atom ++ rest = atom' ++ rest') :
    atom = atom' ∧ rest = rest' := by
  suffices hlength : atom.length = atom'.length from List.append_inj htext hlength
  rcases h.blank_or_piece with ⟨c, rfl, hc⟩ | ⟨hpiece, c, tail, rfl, hc⟩
  · rcases h'.blank_or_piece with ⟨c', rfl, -⟩ | ⟨-, c', tail', rfl, hc'⟩
    · rfl
    · obtain ⟨rfl, -⟩ := List.cons.inj htext
      exact absurd (hc.symm.trans hc') (by decide)
  · rcases h'.blank_or_piece with ⟨c', rfl, hc'⟩ | ⟨hpiece', -⟩
    · obtain ⟨rfl, -⟩ := List.cons.inj htext
      exact absurd (hc.symm.trans hc') (by decide)
    · -- both are what the rule for the text reads
      obtain ⟨kind, value, hkind, hread⟩ := hpiece.exists_read
      obtain ⟨kind', value', hkind', hread'⟩ := hpiece'.exists_read
      rw [htext] at hkind hread
      obtain rfl := Option.some.inj (hkind.symm.trans hkind')
      have hreading := Except.ok.inj (hread.symm.trans hread')
      exact congrArg Reading.length hreading

end LayoutAtom

/-! ### Sequences of atoms -/

namespace LayoutAtoms

theorem append (h : LayoutAtoms config atoms (atoms'.flatten ++ rest))
    (h' : LayoutAtoms config atoms' rest) : LayoutAtoms config (atoms ++ atoms') rest := by
  induction atoms with
  | nil => exact h'
  | cons atom atoms ih =>
    obtain ⟨hatom, hatoms⟩ := h
    rw [← List.append_assoc, ← List.flatten_append] at hatom
    exact ⟨hatom, ih hatoms⟩

/-- White space is made of atoms of one character. -/
theorem of_blanks {run : List Char} (hrun : ∀ c ∈ run, isWhitespace c = true) (rest : List Char) :
    LayoutAtoms config (run.map fun c => [c]) rest := by
  induction run with
  | nil => trivial
  | cons c run ih =>
    obtain ⟨hc, hrun⟩ := List.forall_mem_cons.mp hrun
    exact ⟨.blank hc, ih hrun⟩

/-- **A text is cut into atoms in one way only**, up to the place where layout ends. -/
theorem unique (h : LayoutAtoms config atoms rest) (h' : LayoutAtoms config atoms' rest')
    (hend : LayoutEnds config rest) (hend' : LayoutEnds config rest')
    (htext : atoms.flatten ++ rest = atoms'.flatten ++ rest') : atoms = atoms' ∧ rest = rest' := by
  induction atoms generalizing atoms' with
  | nil =>
    cases atoms' with
    | nil => exact ⟨rfl, htext⟩
    | cons atom' atoms' =>
      rw [List.flatten_nil, List.nil_append, List.flatten_cons, List.append_assoc] at htext
      exact absurd (htext ▸ hend) h'.1.not_layoutEnds
  | cons atom atoms ih =>
    rw [List.flatten_cons, List.append_assoc] at htext
    cases atoms' with
    | nil =>
      rw [List.flatten_nil, List.nil_append] at htext
      exact absurd (htext ▸ hend') h.1.not_layoutEnds
    | cons atom' atoms' =>
      rw [List.flatten_cons, List.append_assoc] at htext
      obtain ⟨rfl, hbehind⟩ := h.1.unique h'.1 htext
      obtain ⟨rfl, rfl⟩ := ih h.2 h'.2 hbehind
      exact ⟨rfl, rfl⟩

end LayoutAtoms

theorem LayoutPiece.exists_atoms (h : LayoutPiece config piece rest) :
    ∃ atoms : List (List Char), atoms.flatten = piece ∧ LayoutAtoms config atoms rest := by
  have hone : LayoutAtom config piece rest →
      ∃ atoms : List (List Char), atoms.flatten = piece ∧ LayoutAtoms config atoms rest :=
    fun hatom => ⟨[piece], List.append_nil piece, hatom, trivial⟩
  cases h with
  | crlf => exact hone .crlf
  | terminator hc hrest => exact hone (.terminator hc hrest)
  | blanks _ hrun =>
    refine ⟨_, ?_, LayoutAtoms.of_blanks hrun rest⟩
    rw [← List.flatMap_def, List.flatMap_singleton']
  | lineComment hhide hbody hrest => exact hone (.lineComment hhide hbody hrest)
  | blockComment hhide hbody =>
    refine hone (.blockComment hhide ((Text.isBeforeFirst_iff (List.cons_ne_nil _ _)).mpr ?_))
    exact ⟨List.prefix_append _ rest, hbody⟩

/-- **The pieces that are skipped fall into atoms.** -/
theorem Layout.exists_atoms (h : Layout config gap rest) :
    ∃ atoms : List (List Char), atoms.flatten = gap ∧ LayoutAtoms config atoms rest := by
  induction h with
  | nil => exact ⟨[], rfl, trivial⟩
  | cons hpiece _ ih =>
    obtain ⟨front, rfl, hfront⟩ := hpiece.exists_atoms
    obtain ⟨atoms, rfl, hatoms⟩ := ih
    exact ⟨front ++ atoms, List.flatten_append, hfront.append hatoms⟩

/-! ### Runs of white space -/

theorem LayoutPiece.layout (h : LayoutPiece config piece rest) : Layout config piece rest := by
  have hcons : Layout config (piece ++ []) rest := .cons h .nil
  rwa [List.append_nil] at hcons

/-- White space is layout in front of anything else, also where there is none of it. -/
theorem Layout.of_run {run : List Char} (hrun : ∀ c ∈ run, isWhitespace c = true)
    (hrest : ∀ c ∈ rest.head?, isWhitespace c = false) : Layout config run rest := by
  by_cases hne : run = []
  · subst hne
    exact .nil
  · exact (LayoutPiece.blanks hne hrun hrest).layout

/-! ### Lines -/

/-- The lines that end in a text, counted from behind its first character. -/
theorem Text.count_endsLineAt_cons (c : Char) (text : List Char) (n : Nat) :
    Nat.count (fun i => endsLineAt (c :: text) i = true) (n + 1) =
      Nat.count (fun i => endsLineAt text i = true) n +
        if endsLine c text.head? = true then 1 else 0 := by
  have hfirst : endsLineAt (c :: text) 0 = endsLine c text.head? := endsLineAt_length [] text c
  rw [Nat.count_succ', hfirst]
  rfl

theorem Position.line_after (p : Position) (c : Char) (next : Option Char) :
    (p.after c next).line = p.line + if endsLine c next = true then 1 else 0 := by
  unfold after
  split <;> rfl

/-- A cursor counts the lines that end among the characters that it passes. -/
theorem Cursor.Passes.line_eq {k k' : Cursor} (h : k.Passes piece k') :
    k'.position.line =
      k.position.line + Nat.count (fun i => Text.endsLineAt k.rest i = true) piece.length := by
  induction piece generalizing k with
  | nil =>
    rw [← h.advance_eq, List.length_nil, Nat.count_zero, Nat.add_zero, advance_zero]
  | cons c piece ih =>
    have hrest : k.rest = c :: (piece ++ k'.rest) := h.rest_eq
    have hlater := ih ((cons_iff hrest).mp h)
    have hpast : (k.past c (piece ++ k'.rest)).position.line =
        k.position.line + if endsLine c (piece ++ k'.rest).head? = true then 1 else 0 :=
      Position.line_after _ _ _
    rw [hlater, hpast, hrest, List.length_cons, Text.count_endsLineAt_cons]
    exact Nat.add_right_comm _ _ _ |>.trans (Nat.add_assoc _ _ _)

/-! ### Skipping -/

namespace Cursor

/-- Skipping succeeds behind the atoms ahead. -/
theorem exists_atoms_of_skip_ok {k k' : Cursor} (h : k.skip config = (.ok (), k')) :
    ∃ atoms : List (List Char), k.Passes atoms.flatten k' ∧ LayoutAtoms config atoms k'.rest ∧
      LayoutStops config k'.rest := by
  have hskips := k.skips_skip config
  rw [h] at hskips
  cases hskips with
  | done hgap hlayout hstop =>
    obtain ⟨atoms, rfl, hatoms⟩ := hlayout.exists_atoms
    exact ⟨atoms, hgap, hatoms, layoutStops_iff.mpr hstop⟩

/-- Skipping fails behind the atoms ahead, at a block comment that is not closed. -/
theorem exists_atoms_of_skip_error {k k' : Cursor} {e : ScanError}
    (h : k.skip config = (.error e, k')) :
    config.emitComments = false ∧ ∃ (atoms : List (List Char)) (stop : Cursor),
      k.Passes atoms.flatten stop ∧ LayoutAtoms config atoms stop.rest ∧
        Unclosed .blockComment stop.rest ∧ e = ⟨.blockComment, stop.position⟩ ∧
        k' = stop.finish := by
  have hskips := k.skips_skip config
  rw [h] at hskips
  cases hskips with
  | unclosed hgap hlayout hhide hopen =>
    obtain ⟨atoms, rfl, hatoms⟩ := hlayout.exists_atoms
    exact ⟨hhide, atoms, _, hgap, hatoms, hopen, rfl, rfl⟩

/-- Skipping goes on behind an atom as if it had started there. -/
theorem Passes.skip_eq_of_atom {k k' : Cursor} (h : k.Passes atom k')
    (hatom : LayoutAtom config atom k'.rest) : k.skip config = k'.skip config := by
  rcases hatom.blank_or_piece with ⟨c, rfl, hc⟩ | ⟨hpiece, -⟩
  · -- white space is skipped as a run, of which the other characters are still ahead
    obtain ⟨run, rest, hrest, -, hrun, hstop⟩ := Text.exists_longest_run isWhitespace k'.rest
    have hlater : k'.Passes run (k'.advance run.length) := .of_rest_eq hrest
    rw [← List.append_cancel_left (hlater.rest_eq.symm.trans hrest)] at hstop
    calc k.skip config = (k'.advance run.length).skip config :=
          (h.trans hlater).skip_eq
            (Layout.of_run (List.forall_mem_cons.mpr ⟨hc, hrun⟩) hstop)
      _ = k'.skip config := (hlater.skip_eq (Layout.of_run hrun hstop)).symm
  · exact h.skip_eq hpiece.layout

/-- Skipping goes on behind any number of atoms as if it had started there. -/
theorem Passes.skip_eq_of_atoms {k k' : Cursor} (h : k.Passes atoms.flatten k')
    (hatoms : LayoutAtoms config atoms k'.rest) : k.skip config = k'.skip config := by
  induction atoms generalizing k with
  | nil => rw [← h.advance_eq, List.flatten_nil, List.length_nil, advance_zero]
  | cons atom atoms ih =>
    obtain ⟨hatom, hatoms⟩ := hatoms
    rw [List.flatten_cons] at h
    obtain ⟨hfirst, hlater⟩ := h.split
    rw [← hlater.rest_eq] at hatom
    rw [hfirst.skip_eq_of_atom hatom]
    exact ih hlater hatoms

/-- Skipping fails where a block comment is ahead that is not closed. -/
theorem skip_of_unclosed {k : Cursor} (hhide : config.emitComments = false)
    (hopen : Unclosed .blockComment k.rest) :
    k.skip config = (.error ⟨.blockComment, k.position⟩, k.finish) := by
  generalize hrest : k.rest = text at hopen
  cases hopen with
  | @blockComment body hno =>
    have hkind : layoutKind? config k.rest = some (.ofRule .comment) := by
      rw [hrest]
      exact layoutKind?_eq_some_iff.mpr (.inr (.inr ⟨rfl, hhide, rfl⟩))
    have hread : (Kind.ofRule .comment).read config k.rest = .error .blockComment := by
      rw [hrest, Kind.read, Rule.read, Grammar.comment_block,
        Grammar.blockText?_eq_none_iff.mpr hno]
      rfl
    exact skip_of_read_eq_error hkind hread

/-- **Skipping passes the atoms ahead and nothing else.** It succeeds at a cursor if and only if
atoms lead there and no layout is ahead, and it fails if and only if atoms lead to a block comment
that is not closed, which it then reports, with the cursor at the end of the text; comments that are
tokens never make it fail. A text is cut into such atoms in one way only. Skipping once more changes
nothing, and the line grows by the number of line feeds, carriage returns that no line feed follows,
line separators and paragraph separators that are passed. -/
theorem skip_passes_atoms (config : Config) (k : Cursor) :
    (∀ k', k.skip config = (.ok (), k') ↔ ∃ atoms : List (List Char),
      k.Passes atoms.flatten k' ∧ LayoutAtoms config atoms k'.rest ∧
        LayoutStops config k'.rest) ∧
    (∀ e k', k.skip config = (.error e, k') ↔
      config.emitComments = false ∧ ∃ (atoms : List (List Char)) (stop : Cursor),
        k.Passes atoms.flatten stop ∧ LayoutAtoms config atoms stop.rest ∧
          Unclosed .blockComment stop.rest ∧ e = ⟨.blockComment, stop.position⟩ ∧
          k' = stop.finish) ∧
    (∀ (atoms atoms' : List (List Char)) (rest rest' : List Char),
      k.rest = atoms.flatten ++ rest → LayoutAtoms config atoms rest → LayoutEnds config rest →
      k.rest = atoms'.flatten ++ rest' → LayoutAtoms config atoms' rest' →
        LayoutEnds config rest' → atoms = atoms' ∧ rest = rest') ∧
    ((k.skip config).1 = .ok () →
      (k.skip config).2.skip config = (.ok (), (k.skip config).2)) ∧
    ∃ consumed, k.Passes consumed (k.skip config).2 ∧
      (k.skip config).2.position.line = k.position.line +
        Nat.count (fun i => Text.endsLineAt k.rest i = true) consumed.length := by
  refine ⟨fun k' => ⟨exists_atoms_of_skip_ok, ?_⟩,
    fun e k' => ⟨exists_atoms_of_skip_error, ?_⟩, ?_, ?_, ?_⟩
  · rintro ⟨atoms, hpass, hatoms, hstop⟩
    rw [hpass.skip_eq_of_atoms hatoms]
    exact skip_of_layoutKind?_eq_none (layoutStops_iff.mp hstop)
  · rintro ⟨hhide, atoms, stop, hpass, hatoms, hopen, rfl, rfl⟩
    rw [hpass.skip_eq_of_atoms hatoms]
    exact skip_of_unclosed hhide hopen
  · intro atoms atoms' rest rest' htext hatoms hend htext' hatoms' hend'
    exact hatoms.unique hatoms' hend hend' (htext.symm.trans htext')
  · intro hok
    obtain ⟨-, -, -, hstop⟩ := exists_atoms_of_skip_ok (Prod.ext hok rfl)
    exact skip_of_layoutKind?_eq_none (layoutStops_iff.mp hstop)
  · obtain ⟨consumed, hpass⟩ := k.exists_passes_skip config
    exact ⟨consumed, hpass, hpass.line_eq⟩

end Cursor

end EcmaLex
