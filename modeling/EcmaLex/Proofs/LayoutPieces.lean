import EcmaLex.Layout
import EcmaLex.Proofs.CursorPassage
import EcmaLex.Proofs.RulePieces

/-!
# Layout as a sequence of pieces

Skipping moves over pieces of layout one by one. What a piece is can be told without the rules that
read it: an end of line, a run of white space, or, where comments are no tokens, a comment. All that
a piece asks of the text behind it is asked of its first character, so a sequence of pieces stays
one when the text behind it is cut off, and layout can be skipped alone wherever it was skipped in
front of something else.

## Main definitions

* `EcmaLex.LayoutPiece` : one piece in front of a text.
* `EcmaLex.Layout` : a sequence of pieces in front of a text.
* `EcmaLex.Skippable` : texts that skipping consumes when they stand alone.
* `EcmaLex.Skips` : what skipping does to a cursor.

## Main results

* `EcmaLex.LayoutPiece.exists_read`, `EcmaLex.exists_layoutPiece` : the pieces are what skipping
  reads.
* `EcmaLex.Cursor.skips_skip` : skipping passes layout, up to something else or to an unclosed block
  comment.
* `EcmaLex.Layout.skippable` : layout is skippable alone.
-/

namespace EcmaLex

/-! ### Pieces -/

/-- A piece of layout in front of a text: a line terminator, where a carriage return and a line feed
behind it are one, white space, as much as there is, or, where comments are no tokens, a comment. A
line comment goes up to the end of its line or of the text, and a block comment up to the first
delimiter that closes it. -/
inductive LayoutPiece (config : Config) : List Char → List Char → Prop
  | crlf {rest : List Char} : LayoutPiece config ['\r', '\n'] rest
  | terminator {c : Char} {rest : List Char} (hc : isLineTerminator c = true)
      (hrest : c = '\r' → rest.head? ≠ some '\n') : LayoutPiece config [c] rest
  | blanks {run rest : List Char} (hne : run ≠ []) (hrun : ∀ c ∈ run, isWhitespace c = true)
      (hrest : ∀ c ∈ rest.head?, isWhitespace c = false) : LayoutPiece config run rest
  | lineComment {body rest : List Char} (hhide : config.emitComments = false)
      (hbody : ∀ c ∈ body, isLineTerminator c = false)
      (hrest : ∀ c ∈ rest.head?, isLineTerminator c = true) :
      LayoutPiece config ('/' :: '/' :: body) rest
  | blockComment {body rest : List Char} (hhide : config.emitComments = false)
      (hbody : ¬ Grammar.blockClose <:+: body ++ ['*']) :
      LayoutPiece config ('/' :: '*' :: (body ++ Grammar.blockClose)) rest

variable {config : Config} {piece gap rest text : List Char}

namespace LayoutPiece

/-- A piece stays one in front of a text that is empty or starts with the same character. -/
theorem congr {rest' : List Char} (h : LayoutPiece config piece rest)
    (hrest' : ∀ c ∈ rest'.head?, c ∈ rest.head?) : LayoutPiece config piece rest' := by
  cases h with
  | crlf => exact .crlf
  | terminator hc hrest => exact .terminator hc fun hcr hlf => hrest hcr (hrest' _ hlf)
  | blanks hne hrun hrest => exact .blanks hne hrun fun c hc => hrest c (hrest' c hc)
  | lineComment hhide hbody hrest =>
    exact .lineComment hhide hbody fun c hc => hrest c (hrest' c hc)
  | blockComment hhide hbody => exact .blockComment hhide hbody

/-- A comment is a piece of layout where comments are no tokens. -/
theorem ofComment {c : Grammar.Comment} (hhide : config.emitComments = false)
    (h : Grammar.CommentPiece piece c rest) : LayoutPiece config piece rest := by
  cases h with
  | line hbody hrest => exact .lineComment hhide hbody hrest
  | block hbody => exact .blockComment hhide hbody

end LayoutPiece

theorem isLineTerminator_slash : isLineTerminator '/' = false := by decide

theorem isWhitespace_slash : isWhitespace '/' = false := by decide

/-- The rule for the piece of layout ahead is told by the first characters; the three rules never
compete for a text. -/
theorem layoutKind?_eq_some_iff {kind : Kind} :
    layoutKind? config text = some kind ↔
      (kind = .lineTerminator ∧ text.head?.any isLineTerminator = true) ∨
      (kind = .whitespace ∧ text.head?.any isWhitespace = true) ∨
      (kind = .ofRule .comment ∧ config.emitComments = false ∧
        Grammar.startsComment text = true) := by
  have hcomment : (Kind.ofRule .comment).starts config text = true →
      Kind.lineTerminator.starts config text = false ∧
        Kind.whitespace.starts config text = false := by
    intro h
    obtain h | h := Bool.or_eq_true_iff.mp h
    · obtain ⟨rest, rfl⟩ := Grammar.startsBlockComment_iff.mp h
      exact ⟨isLineTerminator_slash, isWhitespace_slash⟩
    · obtain ⟨rest, rfl⟩ := Grammar.startsLineComment_iff.mp h
      exact ⟨isLineTerminator_slash, isWhitespace_slash⟩
  have hblank : Kind.lineTerminator.starts config text = true →
      Kind.whitespace.starts config text = false := by
    cases text with
    | nil => exact fun _ => rfl
    | cons c text => exact not_isWhitespace_of_isLineTerminator
  unfold layoutKind?
  constructor
  · intro h
    split at h
    · exact .inl ⟨(Option.some.inj h).symm, by assumption⟩
    · split at h
      · exact .inr (.inl ⟨(Option.some.inj h).symm, by assumption⟩)
      · split at h
        · rename_i hhide
          obtain ⟨hemit, hstart⟩ := Bool.and_eq_true_iff.mp hhide
          exact .inr (.inr ⟨(Option.some.inj h).symm, by simpa using hemit, hstart⟩)
        · cases h
  · rintro (⟨rfl, hterm⟩ | ⟨rfl, hspace⟩ | ⟨rfl, hhide, hstart⟩)
    · exact if_pos hterm
    · have hterm : ¬ Kind.lineTerminator.starts config text = true := fun h =>
        Bool.false_ne_true ((hblank h).symm.trans hspace)
      rw [if_neg hterm]
      exact if_pos hspace
    · obtain ⟨hterm, hspace⟩ := hcomment hstart
      rw [if_neg (ne_true_of_eq_false hterm), if_neg (ne_true_of_eq_false hspace)]
      exact if_pos (Bool.and_eq_true_iff.mpr ⟨by simpa using hhide, hstart⟩)

theorem layoutKind?_eq_none_iff :
    layoutKind? config text = none ↔
      text.head?.any isLineTerminator = false ∧ text.head?.any isWhitespace = false ∧
      (config.emitComments = false → Grammar.startsComment text = false) := by
  rw [Option.eq_none_iff_forall_ne_some]
  simp only [ne_eq, layoutKind?_eq_some_iff, not_or, not_and, Bool.not_eq_true]
  refine ⟨fun h => ⟨(h .lineTerminator).1 rfl, (h .whitespace).2.1 rfl,
    (h (.ofRule .comment)).2.2 rfl⟩, fun h kind => ⟨fun _ => h.1, fun _ => h.2.1, fun _ => h.2.2⟩⟩

@[simp] theorem layoutKind?_nil : layoutKind? config [] = none :=
  layoutKind?_eq_none_iff.mpr ⟨rfl, rfl, fun _ => rfl⟩

namespace LayoutPiece

private theorem exists_read_comment {c : Grammar.Comment} (hhide : config.emitComments = false)
    (h : Grammar.CommentPiece piece c rest) :
    ∃ kind value, layoutKind? config (piece ++ rest) = some kind ∧
      kind.read config (piece ++ rest) = .ok ⟨piece.length, value⟩ := by
  have hread := (h.rulePiece config).read_eq
  refine ⟨.ofRule .comment, some (.comment c),
    layoutKind?_eq_some_iff.mpr (.inr (.inr ⟨rfl, hhide, h.startsComment⟩)), ?_⟩
  rw [Kind.read, hread]
  rfl

/-- Skipping reads a piece of layout, and no more than the piece. -/
theorem exists_read (h : LayoutPiece config piece rest) :
    ∃ kind value, layoutKind? config (piece ++ rest) = some kind ∧
      kind.read config (piece ++ rest) = .ok ⟨piece.length, value⟩ := by
  cases h with
  | crlf => exact ⟨.lineTerminator, none, rfl, rfl⟩
  | terminator hc hrest =>
    refine ⟨.lineTerminator, none, layoutKind?_eq_some_iff.mpr (.inl ⟨rfl, hc⟩), ?_⟩
    rw [Kind.read, List.singleton_append, Grammar.lineTerminator_cons hrest]
    rfl
  | blanks hne hrun hrest =>
    obtain ⟨c, run, rfl⟩ := List.exists_cons_of_ne_nil hne
    have hc : isWhitespace c = true := hrun c List.mem_cons_self
    refine ⟨.whitespace, none, layoutKind?_eq_some_iff.mpr (.inr (.inl ⟨rfl, hc⟩)), ?_⟩
    rw [Kind.read, Grammar.whitespace, Text.takeWhile_append_eq hrun hrest]
    rfl
  | lineComment hhide hbody hrest => exact exists_read_comment hhide (.line hbody hrest)
  | blockComment hhide hbody => exact exists_read_comment hhide (.block hbody)

end LayoutPiece

/-- What skipping reads is a piece of layout. -/
theorem exists_layoutPiece {kind : Kind} {r : Reading (Option Form)}
    (hkind : layoutKind? config text = some kind) (hread : kind.read config text = .ok r) :
    ∃ piece rest, text = piece ++ rest ∧ piece.length = r.length ∧
      LayoutPiece config piece rest := by
  obtain ⟨rfl, hterm⟩ | ⟨rfl, hspace⟩ | ⟨rfl, hhide, hcomment⟩ :=
    layoutKind?_eq_some_iff.mp hkind
  · obtain ⟨c, text, rfl, hc⟩ := Text.exists_cons_of_head?_any hterm
    cases hread
    by_cases hcrlf : c = '\r' ∧ text.head? = some '\n'
    · obtain ⟨rfl, hlf⟩ := hcrlf
      obtain ⟨more, rfl⟩ := List.head?_eq_some_iff.mp hlf
      exact ⟨['\r', '\n'], more, rfl, rfl, .crlf⟩
    · rw [not_and] at hcrlf
      refine ⟨[c], text, rfl, ?_, .terminator hc hcrlf⟩
      rw [Grammar.lineTerminator_cons hcrlf]
      rfl
  · cases hread
    obtain ⟨rest, htext, hrun, hrest⟩ :=
      Text.takeWhile_eq_iff.mp (Eq.refl (text.takeWhile isWhitespace))
    refine ⟨_, rest, htext, rfl, .blanks (fun hnil => ?_) hrun hrest⟩
    rw [hnil, List.nil_append] at htext
    rw [htext] at hspace
    obtain ⟨c, more, rfl, hc⟩ := Text.exists_cons_of_head?_any hspace
    exact Bool.false_ne_true ((hrest c rfl).symm.trans hc)
  · obtain ⟨form, hform, rfl⟩ := Finding.exists_of_map_eq_ok hread
    obtain ⟨c, hc, rfl⟩ := Finding.exists_of_map_eq_ok hform
    obtain ⟨piece, rest, htext, hlen, hpiece⟩ := Grammar.exists_commentPiece hcomment hc
    exact ⟨piece, rest, htext, hlen, .ofComment hhide hpiece⟩

/-! ### Sequences of pieces -/

/-- A sequence of pieces of layout in front of a text. -/
inductive Layout (config : Config) : List Char → List Char → Prop
  | nil {rest : List Char} : Layout config [] rest
  | cons {piece gap rest : List Char} (hpiece : LayoutPiece config piece (gap ++ rest))
      (hgap : Layout config gap rest) : Layout config (piece ++ gap) rest

namespace Layout

/-- Layout stays layout in front of a text that is empty or starts with the same character. -/
theorem congr {rest' : List Char} (h : Layout config gap rest)
    (hrest' : ∀ c ∈ rest'.head?, c ∈ rest.head?) : Layout config gap rest' := by
  induction h with
  | nil => exact .nil
  | @cons piece gap rest hpiece _ ih =>
    refine .cons (hpiece.congr fun c hc => ?_) (ih hrest')
    cases gap with
    | nil => exact hrest' c hc
    | cons d gap => exact hc

/-- Where comments are tokens, layout is made of white space and line terminators. -/
theorem blank (h : Layout config gap rest) (hshow : config.emitComments = true) :
    ∀ c ∈ gap, isWhitespace c = true ∨ isLineTerminator c = true := by
  induction h with
  | nil => exact List.forall_mem_nil _
  | cons hpiece _ ih =>
    refine List.forall_mem_append.mpr ⟨fun c hc => ?_, ih⟩
    cases hpiece with
    | crlf =>
      obtain rfl | hc := List.mem_cons.mp hc
      · exact .inr rfl
      · exact .inr (List.mem_singleton.mp hc ▸ rfl)
    | terminator hterm => exact .inr (List.mem_singleton.mp hc ▸ hterm)
    | blanks _ hrun => exact .inl (hrun c hc)
    | lineComment hhide => exact absurd (hshow.symm.trans hhide) (by decide)
    | blockComment hhide => exact absurd (hshow.symm.trans hhide) (by decide)

/-- White space and line terminators are layout in front of anything else. -/
theorem of_blank {gap rest : List Char}
    (hgap : ∀ c ∈ gap, isWhitespace c = true ∨ isLineTerminator c = true)
    (hrest : ∀ c ∈ rest.head?, isWhitespace c = false ∧ isLineTerminator c = false) :
    Layout config gap rest := by
  match gap with
  | [] => exact .nil
  | c :: gap =>
    by_cases hc : isWhitespace c = true
    · obtain ⟨run, after, hall, hfound, hrun, hafter⟩ :=
        Text.exists_longest_run isWhitespace (c :: gap)
      have hne : run ≠ [] := by
        rw [← hfound]
        simp [hc]
      have hshorter : after.length < (c :: gap).length := by
        rw [hall, List.length_append]
        exact Nat.lt_add_of_pos_left (List.length_pos_iff.mpr hne)
      have hlater : Layout config after rest :=
        of_blank (fun d hd => hgap d (hall ▸ List.mem_append_right run hd)) hrest
      rw [hall]
      refine .cons (.blanks hne hrun fun d hd => ?_) hlater
      cases after with
      | nil => exact (hrest d hd).1
      | cons e after => exact hafter d hd
    · obtain ⟨hblank, hlater⟩ := List.forall_mem_cons.mp hgap
      have hterm : isLineTerminator c = true := hblank.resolve_left hc
      by_cases hcrlf : c = '\r' ∧ gap.head? = some '\n'
      · obtain ⟨rfl, hlf⟩ := hcrlf
        obtain ⟨more, hmore⟩ := List.head?_eq_some_iff.mp hlf
        have hshorter : more.length < gap.length := by
          rw [hmore]
          exact Nat.lt_succ_self _
        have hcrlf : LayoutPiece config ['\r', '\n'] (more ++ rest) := .crlf
        have hlast : Layout config more rest :=
          of_blank (fun d hd => hlater d (hmore ▸ List.mem_cons_of_mem _ hd)) hrest
        rw [hmore]
        exact .cons hcrlf hlast
      · have hpiece : LayoutPiece config [c] (gap ++ rest) := by
          refine .terminator hterm fun hcr hlf => ?_
          cases gap with
          | nil => exact absurd (hrest '\n' hlf).2 (by decide)
          | cons d gap => exact hcrlf ⟨hcr, hlf⟩
        exact .cons hpiece (of_blank hlater hrest)
termination_by gap.length
decreasing_by
  · exact hshorter
  · exact Nat.lt_succ_of_lt hshorter
  · exact Nat.lt_succ_self _

end Layout

/-! ### Skipping -/

namespace Cursor

variable {k k' : Cursor}

theorem skip_of_layoutKind?_eq_none (h : layoutKind? config k.rest = none) :
    k.skip config = (.ok (), k) := by
  rw [skip]
  split
  · rfl
  · rename_i hkind
    rw [h] at hkind
    cases hkind

/-- A piece of layout shortens the text ahead. -/
theorem length_rest_advance_lt {kind : Kind} {r : Reading (Option Form)}
    (hkind : layoutKind? config k.rest = some kind) (hread : kind.read config k.rest = .ok r) :
    (k.advance r.length).rest.length < k.rest.length := by
  have hpos := Kind.length_pos_of_starts (starts_of_layoutKind? hkind) hread
  have hne := List.length_pos_iff.mpr (Kind.ne_nil_of_starts (starts_of_layoutKind? hkind))
  rw [rest_advance, List.length_drop]
  omega

theorem skip_of_read_eq_ok {kind : Kind} {r : Reading (Option Form)}
    (hkind : layoutKind? config k.rest = some kind) (hread : kind.read config k.rest = .ok r) :
    k.skip config = (k.advance r.length).skip config := by
  rw [skip]
  split
  · rename_i hnone
    rw [hkind] at hnone
    cases hnone
  · rename_i kind' hkind'
    obtain rfl := Option.some.inj (hkind.symm.trans hkind')
    rw [lex, hread]
    rfl

theorem skip_of_read_eq_error {kind : Kind} {construct : Delimited}
    (hkind : layoutKind? config k.rest = some kind)
    (hread : kind.read config k.rest = .error construct) :
    k.skip config = (.error ⟨construct, k.position⟩, k.finish) := by
  rw [skip]
  split
  · rename_i hnone
    rw [hkind] at hnone
    cases hnone
  · rename_i kind' hkind'
    obtain rfl := Option.some.inj (hkind.symm.trans hkind')
    rw [lex, hread]
    rfl

/-- Skipping goes on behind layout as if it had started there. -/
theorem Passes.skip_eq (h : k.Passes gap k') (hlayout : Layout config gap k'.rest) :
    k.skip config = k'.skip config := by
  generalize hrest : k'.rest = rest at hlayout
  induction hlayout generalizing k with
  | nil => rw [← h.advance_eq, List.length_nil, advance_zero]
  | @cons piece gap rest hpiece _ ih =>
    have hk : k.rest = piece ++ (gap ++ rest) := by
      rw [h.rest_eq, hrest, List.append_assoc]
    obtain ⟨kind, value, hkind, hread⟩ := hpiece.exists_read
    rw [← hk] at hkind hread
    rw [skip_of_read_eq_ok hkind hread]
    refine ih ⟨?_, ?_⟩ hrest
    · rw [rest_advance, hk, List.drop_left, hrest]
    · rw [← advance_add, ← List.length_append, h.advance_eq]

end Cursor

/-- What skipping does to a cursor: it passes layout, and then something else is ahead, or a block
comment that is not closed, from which the cursor goes to the end of the text. -/
inductive Skips (config : Config) (k : Cursor) : Except ScanError Unit → Cursor → Prop
  | done {gap : List Char} {k' : Cursor} (hgap : k.Passes gap k')
      (hlayout : Layout config gap k'.rest) (hstop : layoutKind? config k'.rest = none) :
      Skips config k (.ok ()) k'
  | unclosed {gap : List Char} {k' : Cursor} (hgap : k.Passes gap k')
      (hlayout : Layout config gap k'.rest) (hhide : config.emitComments = false)
      (hopen : Unclosed .blockComment k'.rest) :
      Skips config k (.error ⟨.blockComment, k'.position⟩) k'.finish

theorem Skips.cons {k k' k'' : Cursor} {r : Except ScanError Unit} (hk : k.Passes piece k')
    (hpiece : LayoutPiece config piece k'.rest) (h : Skips config k' r k'') :
    Skips config k r k'' := by
  cases h with
  | done hgap hlayout hstop =>
    exact .done (hk.trans hgap) (.cons (hgap.rest_eq ▸ hpiece) hlayout) hstop
  | unclosed hgap hlayout hhide hopen =>
    exact .unclosed (hk.trans hgap) (.cons (hgap.rest_eq ▸ hpiece) hlayout) hhide hopen

namespace Cursor

/-- A rule for layout that succeeds passes a piece. -/
theorem exists_passes_of_lex {k : Cursor} {kind : Kind} {lexed : Lexed (Option Form)}
    (hkind : layoutKind? config k.rest = some kind) (h : (k.lex config kind).1 = .ok lexed) :
    ∃ piece, k.Passes piece (k.lex config kind).2 ∧
      LayoutPiece config piece (k.lex config kind).2.rest := by
  cases hread : kind.read config k.rest with
  | error construct =>
    rw [lex, hread] at h
    cases h
  | ok r =>
    obtain ⟨piece, rest, hrest, hlen, hpiece⟩ := exists_layoutPiece hkind hread
    have hpass := Passes.of_rest_eq hrest
    rw [hlen] at hpass
    rw [lex, hread]
    refine ⟨piece, hpass, ?_⟩
    rwa [List.append_cancel_left (hrest.symm.trans hpass.rest_eq)] at hpiece

/-- A rule for layout fails only at an unclosed block comment. -/
theorem unclosed_of_lex {k : Cursor} {kind : Kind} {e : ScanError}
    (hkind : layoutKind? config k.rest = some kind) (h : (k.lex config kind).1 = .error e) :
    config.emitComments = false ∧ Unclosed .blockComment k.rest ∧
      e = ⟨.blockComment, k.position⟩ ∧ (k.lex config kind).2 = k.finish := by
  cases hread : kind.read config k.rest with
  | ok r =>
    rw [lex, hread] at h
    cases h
  | error construct =>
    rw [lex, hread] at h
    rw [lex, hread]
    cases h
    obtain ⟨rfl, -⟩ | ⟨rfl, -⟩ | ⟨rfl, hhide, hstart⟩ := layoutKind?_eq_some_iff.mp hkind
    · cases hread
    · cases hread
    · have hcomment : Rule.comment.starts config k.rest = true := hstart
      obtain ⟨hconstruct, hopen⟩ :=
        Rule.unclosed_of_read hcomment (Finding.eq_error_of_map hread)
      cases construct with
      | blockComment => exact ⟨hhide, hopen, rfl, rfl⟩
      | string => cases hconstruct
      | regularExpression => cases hconstruct

/-- **Skipping passes layout**, up to something else or to an unclosed block comment. -/
theorem skips_skip (config : Config) (k : Cursor) :
    Skips config k (k.skip config).1 (k.skip config).2 := by
  fun_induction skip config k with
  | case1 k hnone => exact .done (.refl k) .nil hnone
  | case2 k kind hkind lexed hlex ih =>
    obtain ⟨piece, hpass, hpiece⟩ := exists_passes_of_lex hkind hlex
    exact ih.cons hpass hpiece
  | case3 k kind hkind e hlex =>
    obtain ⟨hhide, hopen, rfl, hfinish⟩ := unclosed_of_lex hkind hlex
    rw [hfinish]
    exact .unclosed (.refl k) .nil hhide hopen

/-- Skipping moves the cursor forward. -/
theorem exists_passes_skip (config : Config) (k : Cursor) :
    ∃ piece, k.Passes piece (k.skip config).2 := by
  have hskip := k.skips_skip config
  generalize (k.skip config).1 = r, (k.skip config).2 = k' at hskip
  cases hskip with
  | done hgap => exact ⟨_, hgap⟩
  | unclosed hgap => exact ⟨_, hgap.trans (.finish _)⟩

end Cursor

/-! ### Layout alone -/

/-- Skipping consumes the text, taken alone, to its end and without failure. -/
def Skippable (config : Config) (text : List Char) : Prop :=
  ∃ k, (Cursor.ofString (String.ofList text)).skip config = (.ok (), k) ∧ k.isFinished = true

/-- **Layout is skippable alone**, whatever stands behind it. -/
theorem Layout.skippable (h : Layout config gap rest) : Skippable config gap := by
  have hgap : Layout config gap [] := h.congr (by simp)
  have hpass := Cursor.Passes.finish (Cursor.ofString (String.ofList gap))
  rw [Cursor.rest_ofString, String.toList_ofList] at hpass
  refine ⟨(Cursor.ofString (String.ofList gap)).finish, ?_, ?_⟩
  · rw [hpass.skip_eq (by rwa [Cursor.rest_finish])]
    exact Cursor.skip_of_layoutKind?_eq_none (by rw [Cursor.rest_finish, layoutKind?_nil])
  · rw [Cursor.isFinished_iff, Cursor.rest_finish]

end EcmaLex
