import EcmaLex.Proofs.LineColumn
import EcmaLex.Proofs.PrefixStability

/-!
# Unclosed constructs closed by more text

A scanner fails for one reason, that the text ends inside a construct; no failure is beyond repair.
Two characters at the end of the text close the construct: its delimiter, with a letter in front of
it unless the delimiter has two characters itself. The letter keeps the delimiter apart from what
the text ends with, a backslash that would escape a quote or a lone slash that would make a comment
of another slash. The text with the two characters is scanned to its end, and it has the tokens of
the text by itself and then the construct as a token, or no other token where the construct is a
comment and comments are layout.

## Main definitions

* `EcmaLex.Delimited.closing` : what closes a construct at the end of a text.
* `EcmaLex.Delimited.tag` : the kind of token of a closed construct.
* `EcmaLex.ScanError.ClosedAs` : the tokens in place of a failure when the construct is closed.
* `EcmaLex.Cursor.Extends` : a cursor in a text, and one at the same place of a longer text.

## Main results

* `EcmaLex.Unclosed.exists_closed` : an unclosed construct with what closes it is read as a whole.
* `EcmaLex.Scanner.steps_of_extends` : steps that leave text ahead are the same in a longer text.
* `EcmaLex.Scanner.completed_of_failure` : every failure is mended by closing the construct.
-/

namespace EcmaLex

namespace Delimited

/-- What closes a construct with the first character `c` at the end of a text. -/
def closing : Delimited → Char → List Char
  | string, c => ['x', c]
  | regularExpression, _ => ['x', '/']
  | blockComment, _ => ['*', '/']

/-- The kind of token of a closed construct. -/
def tag : Delimited → Tag
  | string => .stringLiteral
  | regularExpression => .regularExpressionLiteral
  | blockComment => .comment

end Delimited

/-- The tokens that a failure gives way to when the construct is closed and takes the bytes of
`span`: none where it is a comment and comments are layout, and else the construct as a token. -/
def ScanError.ClosedAs (config : Config) (e : ScanError) (span : Span) (tokens : List Token) :
    Prop :=
  if e.construct = .blockComment ∧ config.emitComments = false then tokens = []
  else ∃ t, tokens = [t] ∧ t.tag = e.construct.tag ∧ t.location.start = e.start ∧ t.span = span

variable {config : Config} {goal : Goal} {construct : Delimited} {body text : List Char} {c : Char}

/-! ### Closed constructs -/

namespace Grammar

/-- A text without a closing quote is made of units that fit, but for a backslash at its end. -/
theorem exists_units_of_stringUnits?_eq_none {quote : Char} (h : stringUnits? quote text = none) :
    ∃ units : List StringUnit, (∀ u ∈ units, u.Fits quote) ∧
      (text = units.flatMap StringUnit.source ∨ text = units.flatMap StringUnit.source ++ ['\\']) := by
  fun_induction stringUnits? quote text with
  | case1 => exact ⟨[], List.forall_mem_nil _, .inl rfl⟩
  | case2 => cases h
  | case3 c hc =>
    by_cases hback : c = '\\'
    · exact ⟨[], List.forall_mem_nil _, .inr (congrArg (fun c => [c]) hback)⟩
    · exact ⟨[.plain c], List.forall_mem_singleton.mpr ⟨hc, hback⟩, .inl rfl⟩
  | case4 => cases h
  | case5 d rest _ ih =>
    obtain ⟨units, hfit, hrest⟩ := ih (Option.map_eq_none_iff.mp h)
    refine ⟨.escaped d :: units, List.forall_mem_cons.mpr ⟨trivial, hfit⟩, ?_⟩
    exact hrest.imp (congrArg ('\\' :: d :: ·)) (congrArg ('\\' :: d :: ·))
  | case6 c d rest hc hback ih =>
    obtain ⟨units, hfit, hrest⟩ := ih (Option.map_eq_none_iff.mp h)
    refine ⟨.plain c :: units, List.forall_mem_cons.mpr ⟨⟨hc, hback⟩, hfit⟩, ?_⟩
    exact hrest.imp (congrArg (c :: ·)) (congrArg (c :: ·))

/-- A letter and a quote close what has no closing quote; a backslash at its end escapes the
letter. -/
theorem exists_units_closing {quote : Char} (hquote : isQuote quote = true)
    (h : ∀ (units : List StringUnit) (rest : List Char), (∀ u ∈ units, u.Fits quote) →
      body ≠ units.flatMap StringUnit.source ++ quote :: rest) :
    ∃ units : List StringUnit, (∀ u ∈ units, u.Fits quote) ∧
      body ++ ['x'] = units.flatMap StringUnit.source := by
  have hnone : stringUnits? quote body = none := by
    refine Option.eq_none_iff_forall_ne_some.mpr fun units hunits => ?_
    obtain ⟨hfit, rest, hbody⟩ := fits_of_stringUnits? hunits
    exact h units rest hfit hbody
  have hletter : 'x' ≠ quote := by
    rintro rfl
    cases hquote
  obtain ⟨units, hfit, rfl | rfl⟩ := exists_units_of_stringUnits?_eq_none hnone
  · refine ⟨units ++ [.plain 'x'], ?_, by simp [StringUnit.source]⟩
    exact List.forall_mem_append.mpr
      ⟨hfit, List.forall_mem_singleton.mpr ⟨hletter, by decide⟩⟩
  · refine ⟨units ++ [.escaped 'x'], ?_, by simp [StringUnit.source]⟩
    exact List.forall_mem_append.mpr ⟨hfit, List.forall_mem_singleton.mpr trivial⟩

/-- A text without the delimiter that closes a block comment does not get one by an asterisk. -/
theorem not_blockClose_infix_append (h : ¬ blockClose <:+: body) :
    ¬ blockClose <:+: body ++ ['*'] := by
  intro hin
  obtain ⟨front, hfront⟩ | hin := List.infix_concat_iff.mp hin
  · have hlast := congrArg List.getLast? hfront
    simp [blockClose] at hlast
  · exact h hin

/-- Whether a comment starts is not changed by a text behind the first character that starts with a
letter. -/
theorem startsComment_append_letter (more : List Char) :
    startsComment (c :: (body ++ 'x' :: more)) = startsComment (c :: body) := by
  rw [Bool.eq_iff_iff, startsComment_cons_iff, startsComment_cons_iff]
  cases body with
  | nil => simp
  | cons d body => rfl

end Grammar

/-- What closes a construct that is no comment starts with a letter. -/
theorem Delimited.eq_blockComment_or_letter (construct : Delimited) (c : Char) :
    construct = .blockComment ∨
      construct.rule ≠ .comment ∧ ∃ more, construct.closing c = 'x' :: more := by
  cases construct with
  | string => exact .inr ⟨by decide, _, rfl⟩
  | regularExpression => exact .inr ⟨by decide, _, rfl⟩
  | blockComment => exact .inl rfl

theorem Unclosed.ne_nil (h : Unclosed construct text) : text ≠ [] := by
  cases h with
  | string => exact List.cons_ne_nil _ _
  | regularExpression => exact List.cons_ne_nil _ _
  | blockComment => exact List.cons_ne_nil _ _

/-- **An unclosed construct with what closes it** is what the rule for it reads. -/
theorem Unclosed.exists_closed (config : Config) (h : Unclosed construct (c :: body)) :
    ∃ form, form.tag = construct.tag ∧
      RulePiece config construct.rule (c :: (body ++ construct.closing c)) form [] := by
  cases h with
  | string hquote hopen =>
    obtain ⟨units, hfit, hbody⟩ := Grammar.exists_units_closing hquote hopen
    let s : Grammar.StringLiteral := ⟨c, units⟩
    have hraw : body ++ Delimited.string.closing c = s.body ++ [c] := by
      rw [Delimited.closing, Grammar.StringLiteral.body, ← hbody, List.append_assoc]
      rfl
    rw [hraw]
    exact ⟨.string s, rfl, .string (s := s) hquote hfit⟩
  | regularExpression hopen =>
    have hraw : body ++ Delimited.regularExpression.closing '/' = body ++ ['x'] ++ ['/'] := by
      rw [Delimited.closing, List.append_assoc]
      rfl
    have hslash : '/' ∉ body ++ ['x'] := by simpa using hopen
    rw [hraw]
    exact ⟨_, rfl, .regularExpression (by simp) hslash⟩
  | @blockComment body hopen =>
    exact ⟨_, rfl, .comment (.block (Grammar.not_blockClose_infix_append hopen))⟩

/-- Where a step comes to an unclosed construct by its rule, the construct with what closes it is
a token. -/
theorem Unclosed.exists_tokenPiece_closed (hopen : Unclosed construct (c :: body))
    (hstop : layoutKind? config (c :: body) = none)
    (hselect : Rule.select config goal (c :: body) = construct.rule) :
    ∃ form, form.tag = construct.tag ∧
      TokenPiece config goal (c :: (body ++ construct.closing c)) form [] := by
  obtain ⟨form, htag, hpiece⟩ := hopen.exists_closed config
  refine ⟨form, htag, ?_⟩
  obtain rfl | ⟨hrule, more, hletter⟩ := construct.eq_blockComment_or_letter c
  · obtain ⟨hshow, -⟩ := Rule.select_eq_comment_iff.mp hselect
    cases hpiece with
    | comment h => exact .comment hshow h
  · have hno : Grammar.startsComment (c :: body) = false := by
      refine Bool.eq_false_iff.mpr fun hstart => hrule ?_
      rw [← hselect, Rule.select_eq_comment_iff]
      exact ⟨emitComments_of_startsComment hstop hstart, hstart⟩
    obtain ⟨hterm, hblank, -⟩ := layoutKind?_eq_none_iff.mp hstop
    refine .ofHead hterm hblank ?_ ?_
    · rw [List.append_nil, hletter, Grammar.startsComment_append_letter, hno]
    · rwa [← Rule.select_of_head rfl hno, hselect]

/-! ### Longer texts -/

/-- A cursor in a text, and one at the same place of the text with more behind it. -/
structure Cursor.Extends (more : List Char) (k k' : Cursor) : Prop where
  rest_eq : k'.rest = k.rest ++ more
  offset_eq : k'.offset = k.offset
  position_eq : k'.position = k.position

namespace Cursor

variable {k k' j : Cursor} {piece more : List Char}

theorem Extends.agree (h : Extends more k k') : Agree k.rest k k' where
  front_left := List.prefix_refl _
  front_right := h.rest_eq ▸ List.prefix_append _ _
  offset_eq := h.offset_eq.symm
  position_eq := h.position_eq.symm

/-- Cursors that pass the same piece and agree behind it are again in a text and a longer one. -/
theorem Extends.of_passes {front : List Char} {j' : Cursor} (h : Extends more k k')
    (hpass : k.Passes piece j) (hpass' : k'.Passes piece j') (hagree : Agree front j j') :
    Extends more j j' := by
  refine ⟨?_, hagree.offset_eq.symm, hagree.position_eq.symm⟩
  have hrest := hpass'.rest_eq
  rw [h.rest_eq, hpass.rest_eq, List.append_assoc] at hrest
  exact (List.append_cancel_left hrest).symm

/-- What is passed in a text, with something left, is passed in a longer text. -/
theorem Extends.exists_passes (h : Extends more k k') (hpass : k.Passes piece j)
    (hne : j.rest ≠ []) : ∃ j', k'.Passes piece j' ∧ Extends more j j' := by
  have hagree : Agree (piece ++ j.rest) k k' := hpass.rest_eq ▸ h.agree
  obtain ⟨j', hpass', hbehind⟩ := hagree.exists_passes hne hpass
  exact ⟨j', hpass', h.of_passes hpass hpass' hbehind⟩

theorem Passes.offset_lt (hpass : k.Passes piece j) (hne : j.rest ≠ []) :
    j.offset < k.offset + Text.byteLength k.rest := by
  have hlen : j.rest.length ≤ Text.byteLength j.rest := Text.length_le_byteLength _
  have hpos : 0 < j.rest.length := List.length_pos_iff.mpr hne
  rw [hpass.offset_eq, hpass.rest_eq, Text.byteLength_append]
  omega

end Cursor

namespace Scanner

variable {s s' : Scanner} {more : List Char} {e : ScanError}

/-- A step that leaves text ahead is the same in a longer text. -/
theorem next_of_extends (hext : Cursor.Extends more s.cursor s'.cursor)
    (hconfig : s.config = s'.config) (hne : (s.next goal).2.cursor.rest ≠ []) :
    (s'.next goal).1 = (s.next goal).1 ∧
      Cursor.Extends more (s.next goal).2.cursor (s'.next goal).2.cursor := by
  obtain ⟨t, ht, heof⟩ | hending := exists_token_or_ending goal s
  · obtain ⟨piece, hpiece⟩ := s.exists_passes_next goal
    have hlt : t.span.stop < s.cursor.offset + Text.byteLength s.cursor.rest := by
      rw [span_stop_eq_of_next ht]
      exact hpiece.offset_lt hne
    obtain ⟨piece, left, ht', hpass, hpass', hagree, -⟩ :=
      next_of_agree hext.agree hconfig ht heof hlt
    exact ⟨ht'.trans ht.symm, hext.of_passes hpass hpass' hagree⟩
  · exact absurd (rest_next_eq_nil hending) hne

/-- **Steps that leave text ahead are the same in a longer text.** -/
theorem steps_of_extends {goals : List Goal} (hext : Cursor.Extends more s.cursor s'.cursor)
    (hconfig : s.config = s'.config) (hne : (steps goals s).2.cursor.rest ≠ []) :
    (steps goals s').1 = (steps goals s).1 ∧
      Cursor.Extends more (steps goals s).2.cursor (steps goals s').2.cursor := by
  induction goals generalizing s s' with
  | nil => exact ⟨rfl, hext⟩
  | cons goal goals ih =>
    rw [steps_cons] at hne
    have hnext : (s.next goal).2.cursor.rest ≠ [] := fun hnil => by
      rw [steps_of_rest_eq_nil hnil] at hne
      exact hne hnil
    obtain ⟨hsame, hbehind⟩ := next_of_extends hext hconfig hnext
    have hconfig' : (s.next goal).2.config = (s'.next goal).2.config := by
      rw [config_next, config_next, hconfig]
    obtain ⟨hlater, hend⟩ := ih hbehind hconfig' hne
    rw [steps_cons, steps_cons, hsame, hlater]
    exact ⟨rfl, hend⟩

/-! ### Failures -/

/-- A step that fails comes to an unclosed construct: a comment that it skips, or one that the rule
for it is to read. -/
theorem exists_unclosed_of_next (h : (s.next goal).1 = .error e) :
    ∃ gap k, s.cursor.Passes gap k ∧ Layout s.config gap k.rest ∧ k.position = e.start ∧
      Unclosed e.construct k.rest ∧
      (e.construct = .blockComment ∧ s.config.emitComments = false ∨
        layoutKind? s.config k.rest = none ∧
          Rule.select s.config goal k.rest = e.construct.rule) := by
  have hskip := s.cursor.skips_skip s.config
  generalize hskipped : s.cursor.skip s.config = skipped at hskip
  obtain ⟨r, k⟩ := skipped
  cases hskip with
  | unclosed hgap hlayout hhide hopen =>
    rw [next, hskipped] at h
    cases h
    exact ⟨_, _, hgap, hlayout, rfl, hopen, .inl ⟨rfl, hhide⟩⟩
  | done hgap hlayout hstop =>
    rw [next_of_passes hgap hlayout] at h
    by_cases hend : (s.moveTo k).cursor.rest = []
    · rw [next_of_rest_eq_nil hend] at h
      cases h
    · rw [next_of_layoutKind?_eq_none hstop hend] at h
      cases hread : (Rule.select (s.moveTo k).config goal (s.moveTo k).cursor.rest).read
          (s.moveTo k).config (s.moveTo k).cursor.rest with
      | ok r =>
        rw [readToken_of_ok hread] at h
        cases h
      | error construct =>
        rw [readToken_of_error hread] at h
        cases h
        obtain ⟨hselect, hopen⟩ := Rule.unclosed_of_read (Rule.starts_select hend) hread
        exact ⟨_, k, hgap, hlayout, rfl, hopen, .inr ⟨hstop, hselect⟩⟩

/-- A token up to the end of the text is all that a run gives. -/
theorem Reads.run_eq {gap raw : List Char} {form : Form} {k k' : Cursor}
    (h : s.Reads goal gap raw form k k') (hend : k'.rest = []) :
    s.run goal =
      ⟨[(s.moveTo k').token k.position ⟨k.offset, k'.offset⟩ form.tag form.lexeme],
        .ok (s.moveTo k').eof, s.moveTo k'⟩ := by
  have hfirst := h.next_eq
  have hlast : (s.moveTo k').next goal = (.ok (s.moveTo k').eof, s.moveTo k') :=
    next_of_rest_eq_nil hend goal
  have heof : (form.tag == .eof) = false :=
    beq_false_of_ne (Rule.gives_of_read h.piece.read_eq).ne_eof
  rw [run_of_token (congrArg Prod.fst hfirst) heof, hfirst,
    run_of_eof (congrArg Prod.fst hlast) rfl, hlast]

/-- Where a step fails, a scanner of the text with what closes the construct at its end makes a
token of the construct, or skips it, and then comes to the end. -/
theorem exists_run_closed (h : (s.next goal).1 = .error e) :
    ∃ gap k c body, s.cursor.Passes gap k ∧ k.rest = c :: body ∧ k.position = e.start ∧
      Unclosed e.construct (c :: body) ∧
      ∀ s' : Scanner, s.config = s'.config →
        Cursor.Extends (e.construct.closing c) s.cursor s'.cursor →
        (∃ last, (s'.run goal).ending = .ok last ∧ last.isEof = true) ∧
          e.ClosedAs s.config ⟨k.offset, s'.cursor.finish.offset⟩ (s'.run goal).tokens := by
  obtain ⟨gap, k, hgap, hlayout, hstart, hopen, hcase⟩ := exists_unclosed_of_next h
  obtain ⟨c, body, hrest⟩ := List.exists_cons_of_ne_nil hopen.ne_nil
  rw [hrest] at hopen hcase
  refine ⟨gap, k, c, body, hgap, hrest, hstart, hopen, fun s' hconfig hext => ?_⟩
  have hne : k.rest ≠ [] := hopen.ne_nil ∘ hrest.symm.trans
  obtain ⟨k', hgap', hext'⟩ := hext.exists_passes hgap hne
  have hrest' : k'.rest = c :: (body ++ e.construct.closing c) := by rw [hext'.rest_eq, hrest]; rfl
  have hlayout' : Layout s'.config gap k'.rest := by
    rw [← hconfig]
    refine hlayout.congr fun d hd => ?_
    rwa [hext'.agree.head?_eq hne]
  have hraw := Cursor.Passes.finish k'
  have hend : k'.finish.rest = [] := Cursor.rest_finish k'
  rw [ScanError.ClosedAs]
  by_cases hhidden : e.construct = .blockComment ∧ s.config.emitComments = false
  · obtain ⟨hcomment, hhide⟩ := hhidden
    have hpiece : LayoutPiece s'.config k'.rest k'.finish.rest := by
      rw [hend, hrest', ← hconfig]
      obtain ⟨form, -, hclosed⟩ := hopen.exists_closed s.config
      rw [hcomment] at hclosed ⊢
      cases hclosed with
      | comment h => exact .ofComment hhide h
    have hlast : Layout s'.config (k'.rest ++ []) k'.finish.rest := .cons hpiece .nil
    rw [List.append_nil] at hlast
    have hnext : s'.next goal = (.ok (s'.moveTo k'.finish).eof, s'.moveTo k'.finish) :=
      (next_of_passes hgap' hlayout').trans
        (next_of_layout_to_end (s := s'.moveTo k') hraw hlast hend)
    rw [run_of_eof (congrArg Prod.fst hnext) rfl, if_pos ⟨hcomment, hhide⟩]
    exact ⟨⟨_, rfl, rfl⟩, rfl⟩
  · obtain ⟨hstop, hselect⟩ := hcase.resolve_left hhidden
    obtain ⟨form, htag, hpiece⟩ := hopen.exists_tokenPiece_closed hstop hselect
    rw [← hrest', ← hend, hconfig] at hpiece
    have hreads : s'.Reads goal gap k'.rest form k' k'.finish :=
      ⟨hgap', hlayout', hraw, hpiece⟩
    rw [hreads.run_eq hend, if_neg hhidden]
    refine ⟨⟨_, rfl, rfl⟩, _, rfl, htag, ?_, ?_⟩
    · exact hext'.position_eq.trans hstart
    · rw [← hext'.offset_eq, ← hgap'.finish_eq]
      rfl

/-- **Every failure is mended by closing the construct.** Where a text fails, it ends in a construct
that opens at the position of the failure; the text with what closes the construct is scanned to its
end, and has the tokens of the text and then the construct, up to the end of the longer text. -/
theorem completed_of_failure {text : String} {config : Config} {goal : Goal} {e : ScanError}
    (h : ((ofString text config).run goal).ending = .error e) :
    ∃ before c body, text.toList = before ++ c :: body ∧
      Text.positionAt text.toList (Text.byteLength before) = some e.start ∧
      Unclosed e.construct (c :: body) ∧
      let whole := text ++ String.ofList (e.construct.closing c)
      let r := (ofString whole config).run goal
      (∃ last, r.ending = .ok last ∧ last.isEof = true) ∧
      ∃ closed, r.tokens = ((ofString text config).run goal).tokens ++ closed ∧
        e.ClosedAs config ⟨Text.byteLength before, Text.byteLength whole.toList⟩ closed := by
  obtain ⟨n, htokens, hending⟩ := exists_steps_before_ending goal (ofString text config)
  obtain ⟨behind, hbehind⟩ :=
    exists_passes_steps (List.replicate n goal) (ofString text config)
  obtain ⟨gap, k, c, body, hgap, hrest, hstart, hopen, hclosed⟩ :=
    exists_run_closed (hending.trans h)
  have hk : (Cursor.ofString text).Passes (behind ++ gap) k := hbehind.trans hgap
  have hplace := hk.positionAt_offset
  rw [hstart, hk.offset_eq_byteLength] at hplace
  refine ⟨behind ++ gap, c, body, hrest ▸ hk.toList_eq, hplace, hopen, ?_⟩
  intro whole r
  have hwhole : Cursor.Extends (e.construct.closing c) (ofString text config).cursor
      (ofString whole config).cursor := by
    refine ⟨?_, rfl, rfl⟩
    change whole.toList = text.toList ++ e.construct.closing c
    rw [String.toList_append, String.toList_ofList]
  have hleft : (steps (List.replicate n goal) (ofString text config)).2.cursor.rest ≠ [] := by
    rw [hgap.rest_eq, hrest]
    exact List.append_ne_nil_of_right_ne_nil _ (List.cons_ne_nil _ _)
  obtain ⟨hsame, hafter⟩ := steps_of_extends hwhole rfl hleft
  obtain ⟨hrun, hend⟩ :=
    run_of_steps_tokens (hsame.trans htokens) fun _ ht => isEof_eq_false_of_mem_run ht
  obtain ⟨hlast, htoken⟩ := hclosed _ (by rw [config_steps, config_steps]; rfl) hafter
  have hfinish : (steps (List.replicate n goal) (ofString whole config)).2.cursor.finish.offset =
      Text.byteLength whole.toList := by
    obtain ⟨piece, hpiece⟩ :=
      exists_passes_steps (List.replicate n goal) (ofString whole config)
    rw [hpiece.finish_eq]
    exact (Cursor.Passes.finish (Cursor.ofString whole)).offset_eq_byteLength
  rw [hfinish, hk.offset_eq_byteLength, config_steps] at htoken
  exact ⟨hend ▸ hlast, _, hrun, htoken⟩

/-- A backslash at the end of an unclosed string, which would escape a quote behind it. -/
theorem completed_escape_at_end :
    ((ofString "a'\\" {}).run .division).ending = .error ⟨.string, ⟨1, 1⟩⟩ ∧
    ∃ t, ((ofString "a'\\x'" {}).run .division).tokens =
        ((ofString "a'\\" {}).run .division).tokens ++ [t] ∧
      t.tag = .stringLiteral ∧ t.location.start = ⟨1, 1⟩ ∧ t.span = ⟨1, 5⟩ := by
  let word : Token := ⟨.identifier, .text "a", ⟨⟨1, 0⟩, ⟨1, 1⟩⟩, none, ⟨0, 1⟩⟩
  have hsteps : (steps (List.replicate ([word].length + 1) .division) (ofString "a'\\" {})).1 =
      [word].map .ok ++ [.error ⟨.string, ⟨1, 1⟩⟩] := by decide +kernel
  obtain ⟨-, hending⟩ := run_of_steps hsteps (by decide) fun _ h => by cases h
  refine ⟨hending, ?_⟩
  obtain ⟨before, c, body, htext, -, hopen, -, closed, hrun, hclosed⟩ :=
    completed_of_failure hending
  have hquote : isQuote c = true := by
    cases hopen with
    | string hquote => exact hquote
  obtain ⟨rfl, rfl⟩ : before = ['a'] ∧ c = '\'' := by
    have htext : 'a' :: '\'' :: '\\' :: [] = before ++ c :: body := htext
    rcases before with _ | ⟨b, _ | ⟨b', before⟩⟩
    · cases htext
      cases hquote
    · cases htext
      exact ⟨rfl, rfl⟩
    · have hlast : c ∈ ['\\'] := by
        rw [(List.cons.inj (List.cons.inj htext).2).2]
        simp
      rw [List.mem_singleton.mp hlast] at hquote
      cases hquote
  obtain ⟨t, rfl, htag, hstart, hspan⟩ := hclosed
  exact ⟨t, hrun, htag, hstart, hspan⟩

end Scanner

end EcmaLex
