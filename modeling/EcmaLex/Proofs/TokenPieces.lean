import EcmaLex.Proofs.ScannerStep

/-!
# Pieces of text that tokens take

A step that gives a token reads a comment, where comments are tokens and one is ahead, and else a
piece for the rule that the first character selects. Between them, skipping and the order of the
rules ask for three things of the text that is read: its first character is neither white space nor
a line terminator, no comment starts with it, and the rule for the first character reads the piece.
The text behind the piece matters only by its first character, so a token is read again in front of
any text that starts in the same way, and in front of nothing or a line terminator that no token
goes on with.

## Main definitions

* `EcmaLex.Rule.atHead` : the rule that a first character selects.
* `EcmaLex.TokenPiece` : a token in front of a text.
* `EcmaLex.Scanner.Reads` : what a step reads that gives a token.

## Main results

* `EcmaLex.TokenPiece.congr` : a token stays one in front of another text.
* `EcmaLex.Scanner.Reads.next_eq`, `EcmaLex.Scanner.exists_reads_of_next` : a step gives a token
  exactly where layout and a token are ahead.
-/

namespace EcmaLex

/-- The rule that a character selects at the front of a token that is no comment. -/
def Rule.atHead (config : Config) (goal : Goal) (c : Char) : Rule :=
  if isDigit c then .decimal
  else if config.isWordStart c then .word
  else if isQuote c then .string
  else if goal = .regularExpression ∧ c = '/' then .regularExpression
  else if config.isOperatorChar c then .operator
  else .single

/-- A token, read with the given goal, in front of a text: a comment, where comments are tokens, or,
where neither layout nor a comment is ahead, what the rule for the first character reads. -/
inductive TokenPiece (config : Config) (goal : Goal) : List Char → Form → List Char → Prop
  | comment {raw rest : List Char} {c : Grammar.Comment} (hshow : config.emitComments = true)
      (h : Grammar.CommentPiece raw c rest) : TokenPiece config goal raw (.comment c) rest
  | ofHead {c : Char} {raw rest : List Char} {form : Form} (hterm : isLineTerminator c = false)
      (hblank : isWhitespace c = false) (hopen : Grammar.startsComment (c :: raw ++ rest) = false)
      (h : RulePiece config (Rule.atHead config goal c) (c :: raw) form rest) :
      TokenPiece config goal (c :: raw) form rest

variable {config : Config} {goal : Goal} {gap raw rest text : List Char} {form : Form}

/-! ### The rule for the first character -/

theorem Grammar.startsComment_cons_iff {c : Char} :
    startsComment (c :: text) = true ↔
      c = '/' ∧ (text.head? = some '*' ∨ text.head? = some '/') := by
  rw [startsComment, Bool.or_eq_true, startsBlockComment_iff, startsLineComment_iff]
  cases text with
  | nil => simp
  | cons d text => simp [and_or_left]

/-- A comment that is ahead and no layout is to be a token. -/
theorem emitComments_of_startsComment (hstop : layoutKind? config text = none)
    (hstart : Grammar.startsComment text = true) : config.emitComments = true := by
  obtain ⟨-, -, hhidden⟩ := layoutKind?_eq_none_iff.mp hstop
  refine Bool.of_not_eq_false fun hhide => ?_
  exact Bool.false_ne_true ((hhidden hhide).symm.trans hstart)

/-- Where no comment is ahead, the first character alone selects the rule: a slash has no other
slash behind it. -/
theorem Rule.select_of_head {c : Char} (hhead : text.head? = some c)
    (hopen : Grammar.startsComment text = false) :
    select config goal text = atHead config goal c := by
  obtain ⟨text, rfl⟩ := List.head?_eq_some_iff.mp hhead
  have hcomment : comment.starts config (c :: text) = false := hopen
  have hslash : regularExpression.starts config (c :: text) = decide (c = '/') := by
    by_cases hc : c = '/'
    · have hnext : text.head? ≠ some '/' := fun h =>
        Bool.false_ne_true
          (hopen.symm.trans (Grammar.startsComment_cons_iff.mpr ⟨hc, .inr h⟩))
      simpa [starts, hc, ← List.head?_eq_getElem?] using hnext
    · simp [starts, hc]
  rw [select, hcomment, Bool.and_false, if_neg Bool.false_ne_true, hslash]
  simp only [Bool.and_eq_true, beq_iff_eq, decide_eq_true_eq]
  rfl

namespace TokenPiece

theorem ne_nil (h : TokenPiece config goal raw form rest) : raw ≠ [] := by
  cases h with
  | comment _ h => exact (h.rulePiece config).ne_nil
  | ofHead => exact List.cons_ne_nil _ _

theorem layoutKind?_eq_none (h : TokenPiece config goal raw form rest) :
    layoutKind? config (raw ++ rest) = none := by
  rw [layoutKind?_eq_none_iff]
  cases h with
  | comment hshow h =>
    have hhide : config.emitComments ≠ false := by simp [hshow]
    cases h with
    | line => exact ⟨isLineTerminator_slash, isWhitespace_slash, fun h => absurd h hhide⟩
    | block => exact ⟨isLineTerminator_slash, isWhitespace_slash, fun h => absurd h hhide⟩
  | ofHead hterm hblank hopen => exact ⟨hterm, hblank, fun _ => hopen⟩

/-- The selected rule reads the token and no more. -/
theorem read_eq (h : TokenPiece config goal raw form rest) :
    (Rule.select config goal (raw ++ rest)).read config (raw ++ rest) =
      .ok ⟨raw.length, form⟩ := by
  cases h with
  | comment hshow h =>
    rw [Rule.select_eq_comment_iff.mpr ⟨hshow, h.startsComment⟩]
    exact (RulePiece.comment h).read_eq
  | ofHead _ _ hopen h =>
    rw [Rule.select_of_head rfl hopen]
    exact h.read_eq

/-- A token is read again in front of a text that is empty, starts with the same character as
before, or starts with a character in front of which everything ends. -/
theorem congr {rest' : List Char} (h : TokenPiece config goal raw form rest)
    (hrest' : ∀ c ∈ rest'.head?, c ∈ rest.head? ∨ config.IsBreak c) :
    TokenPiece config goal raw form rest' := by
  cases h with
  | comment hshow h =>
    have hpiece := (h.rulePiece config).congr hrest'
    cases hpiece with
    | comment h => exact .comment hshow h
  | @ofHead c raw _ _ hterm hblank hopen h =>
    refine .ofHead hterm hblank ?_ (h.congr hrest')
    rw [← Bool.not_eq_true, List.cons_append, Grammar.startsComment_cons_iff] at hopen ⊢
    rintro ⟨hc, hnext⟩
    refine hopen ⟨hc, ?_⟩
    cases raw with
    | cons d raw => exact hnext
    | nil =>
      -- no line terminator makes a comment of the slash in front of it
      have hkeep : ∀ d, isLineTerminator d = false → rest'.head? = some d → rest.head? = some d :=
        fun d hd h => (hrest' d h).resolve_right fun hbreak =>
          Bool.false_ne_true (hd.symm.trans hbreak.isLineTerminator)
      exact hnext.imp (hkeep '*' (by decide)) (hkeep '/' isLineTerminator_slash)

end TokenPiece

/-- What the selected rule reads, where no layout is ahead, is a token. -/
theorem exists_tokenPiece {r : Reading Form} (hstop : layoutKind? config text = none)
    (hne : text ≠ []) (hread : (Rule.select config goal text).read config text = .ok r) :
    ∃ raw rest, text = raw ++ rest ∧ raw.length = r.length ∧
      TokenPiece config goal raw r.value rest := by
  obtain ⟨raw, rest, rfl, hlen, hpiece⟩ := Rule.exists_piece_of_read (Rule.starts_select hne) hread
  refine ⟨raw, rest, rfl, hlen, ?_⟩
  obtain ⟨hterm, hblank, -⟩ := layoutKind?_eq_none_iff.mp hstop
  obtain ⟨c, raw, rfl⟩ := List.exists_cons_of_ne_nil hpiece.ne_nil
  by_cases hopen : Grammar.startsComment (c :: raw ++ rest) = true
  · have hshow := emitComments_of_startsComment hstop hopen
    rw [Rule.select_eq_comment_iff.mpr ⟨hshow, hopen⟩] at hpiece
    generalize r.value = form at hpiece ⊢
    cases hpiece with
    | comment h => exact .comment hshow h
  · rw [Bool.not_eq_true] at hopen
    rw [Rule.select_of_head rfl hopen] at hpiece
    exact .ofHead hterm hblank hopen hpiece

/-! ### Steps that give tokens -/

namespace Scanner

/-- A step reads layout and a token: `k` is the cursor in front of the token, and `k'` the one
behind it. -/
structure Reads (goal : Goal) (s : Scanner) (gap raw : List Char) (form : Form)
    (k k' : Cursor) : Prop where
  gap_passes : s.cursor.Passes gap k
  layout : Layout s.config gap k.rest
  raw_passes : k.Passes raw k'
  piece : TokenPiece s.config goal raw form k'.rest

variable {s : Scanner} {t : Token}

/-- A step gives the token that it reads. -/
theorem Reads.next_eq {k k' : Cursor} (h : s.Reads goal gap raw form k k') :
    s.next goal =
      (.ok ((s.moveTo k').token k.position ⟨k.offset, k'.offset⟩ form.tag form.lexeme),
        s.moveTo k') := by
  have hrest : (s.moveTo k).cursor.rest = raw ++ k'.rest := h.raw_passes.rest_eq
  have hstop : layoutKind? (s.moveTo k).config (s.moveTo k).cursor.rest = none := by
    rw [hrest]
    exact h.piece.layoutKind?_eq_none
  have hne : (s.moveTo k).cursor.rest ≠ [] := by
    rw [hrest]
    exact List.append_ne_nil_of_left_ne_nil h.piece.ne_nil _
  have hread : (Rule.select (s.moveTo k).config goal (s.moveTo k).cursor.rest).read
      (s.moveTo k).config (s.moveTo k).cursor.rest = .ok ⟨raw.length, form⟩ := by
    rw [hrest]
    exact h.piece.read_eq
  rw [next_of_passes h.gap_passes h.layout, next_of_layoutKind?_eq_none hstop hne,
    readToken_of_ok hread, cursor_moveTo, h.raw_passes.advance_eq]
  rfl

/-- A step that gives a token reads layout and the token. -/
theorem exists_reads_of_next (h : (s.next goal).1 = .ok t) (ht : t.isEof = false) :
    ∃ gap raw form k k', s.Reads goal gap raw form k k' := by
  have hstep := s.step_next goal
  generalize (s.next goal).1 = r, (s.next goal).2 = s' at hstep h
  cases hstep with
  | eof =>
    cases h
    cases ht
  | failure => cases h
  | @token gap raw k k' form hgap hlayout hstop hread hne hraw =>
    have hnil : k.rest ≠ [] := by
      rw [hraw.rest_eq]
      exact List.append_ne_nil_of_left_ne_nil hne _
    obtain ⟨raw', rest, hrest, hlen, hpiece⟩ := exists_tokenPiece hstop hnil hread
    obtain ⟨rfl, rfl⟩ := List.append_inj (hraw.rest_eq.symm.trans hrest) hlen.symm
    exact ⟨gap, raw, form, k, k', hgap, hlayout, hraw, hpiece⟩

/-- A step gives the end of the text behind layout that reaches to it. -/
theorem next_of_layout_to_end {k : Cursor} (hgap : s.cursor.Passes gap k)
    (hlayout : Layout s.config gap k.rest) (hend : k.rest = []) :
    s.next goal = (.ok (s.moveTo k).eof, s.moveTo k) := by
  rw [next_of_passes hgap hlayout]
  exact next_of_rest_eq_nil hend goal

/-- The token of a step behind others takes a piece of the text that is this token, read with the
goal of the step, in front of what follows it in the text. -/
theorem exists_tokenPiece_of_next {config : Config} {text : String} {goals : List Goal}
    (h : ((steps goals (ofString text config)).2.next goal).1 = .ok t) (ht : t.isEof = false) :
    ∃ before raw after form, text.toList = before ++ raw ++ after ∧
      t.span = ⟨Text.byteLength before, Text.byteLength (before ++ raw)⟩ ∧
      TokenPiece config goal raw form after ∧ t.tag = form.tag ∧ t.lexeme = form.lexeme := by
  obtain ⟨behind, hpass⟩ := exists_passes_steps goals (ofString text config)
  obtain ⟨gap, raw, form, k, k', hreads⟩ := exists_reads_of_next h ht
  have hk : (Cursor.ofString text).Passes (behind ++ gap) k := hpass.trans hreads.gap_passes
  have hk' := hk.trans hreads.raw_passes
  have hpiece := hreads.piece
  rw [config_steps] at hpiece
  rw [hreads.next_eq] at h
  cases h
  refine ⟨behind ++ gap, raw, k'.rest, form, hk'.toList_eq, ?_, hpiece, rfl, rfl⟩
  rw [← hk.offset_eq_byteLength, ← hk'.offset_eq_byteLength]
  rfl

/-- Every token of a run takes a piece of the text that is this token in front of what follows it
in the text. -/
theorem exists_tokenPiece_of_mem_steps {config : Config} {text : String} {goals : List Goal}
    (h : .ok t ∈ (steps goals (ofString text config)).1) (ht : t.isEof = false) :
    ∃ goal ∈ goals, ∃ before raw after form, text.toList = before ++ raw ++ after ∧
      t.span = ⟨Text.byteLength before, Text.byteLength (before ++ raw)⟩ ∧
      TokenPiece config goal raw form after ∧ t.tag = form.tag ∧ t.lexeme = form.lexeme := by
  obtain ⟨goals', goal, hprefix, hnext⟩ := exists_next_of_mem_steps h
  have hgoal : goal ∈ goals :=
    hprefix.subset (List.mem_append_right _ (List.mem_singleton_self goal))
  exact ⟨goal, hgoal, exists_tokenPiece_of_next hnext ht⟩

end Scanner

end EcmaLex
