import EcmaLex.Proofs.LayoutPieces

/-!
# The contract of the rules

All rules of the grammar keep one contract, wherever a cursor stands and whether or not the rule
applies there. A rule that succeeds moves the cursor over some characters and gives a span of just
their bytes. A rule that fails names the position where it started, and the cursor is then at the
end of the text; only the rules for constructs with a closing delimiter can fail. A rule that
applies moves the cursor in both cases.

Two outcomes are told apart: `k.LexesAs config kind raw form` where the rule reads `raw` at the
cursor `k`, and `k.LexFails config kind construct` where it does not find a construct closed.

## Main definitions

* `EcmaLex.Cursor.LexesAs`, `EcmaLex.Cursor.LexFails` : the outcomes of a rule at a cursor.
* `EcmaLex.Kind.CanFail` : the rules that can fail, with what they fail to find closed.

## Main results

* `EcmaLex.Cursor.lexesAs_or_lexFails` : every rule has one of the outcomes, at every cursor.
* `EcmaLex.Kind.canFail_of_read` : no other rule fails.
* `EcmaLex.Cursor.lex_keeps_contract` : the contract.
-/

namespace EcmaLex

/-! ### Outcomes -/

namespace Cursor

/-- At the cursor `k` a rule reads the characters `raw`, and no more, as `form`; the span that it
gives holds their bytes. -/
structure LexesAs (config : Config) (kind : Kind) (k : Cursor) (raw : List Char)
    (form : Option Form) : Prop where
  result_eq : (k.lex config kind).1 = .ok ⟨form, k.offset, k.offset + Text.byteLength raw⟩
  passes : k.Passes raw (k.lex config kind).2

/-- At the cursor `k` a rule does not find `construct` closed; all characters ahead are passed. -/
structure LexFails (config : Config) (kind : Kind) (k : Cursor) (construct : Delimited) :
    Prop where
  result_eq : (k.lex config kind).1 = .error ⟨construct, k.position⟩
  passes : k.Passes k.rest (k.lex config kind).2
  rest_eq : (k.lex config kind).2.rest = []

variable {config : Config} {kind : Kind} {k : Cursor} {raw rest : List Char} {form : Option Form}
  {construct : Delimited}

/-- A rule that finds as many characters as stand in front of `rest` reads just these. -/
theorem lexesAs_of_read (hrest : k.rest = raw ++ rest)
    (hread : kind.read config k.rest = .ok ⟨raw.length, form⟩) :
    k.LexesAs config kind raw form ∧ (k.lex config kind).2.rest = rest := by
  have hpass : k.Passes raw (k.advance raw.length) := .of_rest_eq hrest
  have hlex : k.lex config kind =
      (.ok ⟨form, k.offset, (k.advance raw.length).offset⟩, k.advance raw.length) := by
    rw [lex, hread]
    rfl
  refine ⟨⟨?_, ?_⟩, ?_⟩
  · rw [hlex, hpass.offset_eq]
  · rw [hlex]
    exact hpass
  · rw [hlex, rest_advance, hrest, List.drop_left]

theorem lexFails_of_read (hread : kind.read config k.rest = .error construct) :
    k.LexFails config kind construct := by
  have hlex : k.lex config kind = (.error ⟨construct, k.position⟩, k.finish) := by
    rw [lex, hread]
    rfl
  refine ⟨?_, ?_, ?_⟩
  · rw [hlex]
  · rw [hlex]
    exact .finish k
  · rw [hlex, rest_finish]

/-- **Every rule has one of the two outcomes**, wherever the cursor stands. -/
theorem lexesAs_or_lexFails (config : Config) (kind : Kind) (k : Cursor) :
    (∃ raw form, k.LexesAs config kind raw form) ∨
      ∃ construct, kind.read config k.rest = .error construct ∧
        k.LexFails config kind construct := by
  cases hread : kind.read config k.rest with
  | ok r =>
    have hlength : (k.rest.take r.length).length = r.length :=
      List.length_take_of_le (Kind.length_le_of_read hread)
    refine .inl ⟨k.rest.take r.length, r.value, ?_⟩
    refine (lexesAs_of_read (List.take_append_drop r.length k.rest).symm ?_).1
    rw [hread, hlength]
  | error construct => exact .inr ⟨construct, rfl, lexFails_of_read hread⟩

/-- A rule that applies passes a character, whatever the outcome. -/
theorem exists_passes_lex_of_starts (hstart : kind.starts config k.rest = true) :
    ∃ piece, piece ≠ [] ∧ k.Passes piece (k.lex config kind).2 := by
  have hshorter := length_rest_lex_lt hstart
  have hnonempty : ∀ {piece}, k.Passes piece (k.lex config kind).2 → piece ≠ [] := by
    rintro piece hpass rfl
    rw [hpass.rest_eq, List.nil_append] at hshorter
    exact Nat.lt_irrefl _ hshorter
  rcases lexesAs_or_lexFails config kind k with ⟨raw, _, hlex⟩ | ⟨_, -, hfail⟩
  · exact ⟨raw, hnonempty hlex.passes, hlex.passes⟩
  · exact ⟨k.rest, hnonempty hfail.passes, hfail.passes⟩

end Cursor

/-! ### Failures -/

/-- The rules that can fail in front of a text, with the construct that they do not find closed.
The rule for comments fails as the rule for block comments does, and only where one starts. -/
inductive Kind.CanFail (text : List Char) : Kind → Delimited → Prop
  | string : CanFail text (.ofRule .string) .string
  | regularExpression : CanFail text (.ofRule .regularExpression) .regularExpression
  | blockComment : CanFail text .blockComment .blockComment
  | comment (hstart : ['/', '*'] <+: text) : CanFail text (.ofRule .comment) .blockComment

theorem Grammar.eq_blockComment_of_error {text : List Char} {construct : Delimited}
    (h : blockComment text = .error construct) : construct = .blockComment := by
  unfold blockComment at h
  split at h
  · cases h
  · cases h
    rfl

/-- **No other rule fails**, whether or not it applies. -/
theorem Kind.canFail_of_read {config : Config} {kind : Kind} {text : List Char}
    {construct : Delimited} (h : kind.read config text = .error construct) :
    kind.CanFail text construct := by
  cases kind with
  | ofRule rule =>
    have hrule := Finding.eq_error_of_map h
    cases rule with
    | comment =>
      have hcomment := Finding.eq_error_of_map hrule
      rw [Grammar.comment] at hcomment
      split at hcomment
      · rename_i hblock
        obtain ⟨rest, rfl⟩ := Grammar.startsBlockComment_iff.mp hblock
        obtain rfl := Grammar.eq_blockComment_of_error hcomment
        exact .comment ⟨rest, rfl⟩
      · cases hcomment
    | string =>
      have hstring := Finding.eq_error_of_map hrule
      unfold Grammar.stringLiteral at hstring
      split at hstring
      · cases hstring
        exact .string
      · split at hstring
        · cases hstring
        · cases hstring
          exact .string
    | regularExpression =>
      have hregular := Finding.eq_error_of_map hrule
      unfold Grammar.regularExpression at hregular
      split at hregular
      · cases hregular
      · cases hregular
        exact .regularExpression
    | decimal => cases hrule
    | word => cases hrule
    | operator => cases hrule
    | single => cases hrule
  | blockComment =>
    obtain rfl := Grammar.eq_blockComment_of_error (Finding.eq_error_of_map h)
    exact .blockComment
  | lineComment => cases h
  | whitespace => cases h
  | lineTerminator => cases h

/-! ### Runs and ends of lines -/

theorem Text.takeWhile_eq_nil_of_head?_any {p : Char → Bool} {text : List Char}
    (h : text.head?.any p = false) : text.takeWhile p = [] := by
  cases text with
  | nil => rfl
  | cons c text => exact List.takeWhile_cons_of_neg (ne_true_of_eq_false h)

/-- The rules for runs of one class of characters read nothing where no such character is ahead. -/
theorem Kind.read_of_not_starts {config : Config} {kind : Kind} {text : List Char}
    (hkind : kind = .ofRule .decimal ∨ kind = .ofRule .operator ∨ kind = .whitespace)
    (hstart : kind.starts config text = false) :
    ∃ form, kind.read config text = .ok ⟨0, form⟩ := by
  rcases hkind with rfl | rfl | rfl
  · refine ⟨some (.decimal (Grammar.decimalValue [])), ?_⟩
    simp only [Kind.read, Rule.read, Grammar.decimal]
    rw [Text.takeWhile_eq_nil_of_head?_any hstart]
    rfl
  · refine ⟨some (.operator []), ?_⟩
    simp only [Kind.read, Rule.read, Grammar.operator]
    rw [Text.takeWhile_eq_nil_of_head?_any hstart]
    rfl
  · refine ⟨none, ?_⟩
    simp only [Kind.read, Grammar.whitespace]
    rw [Text.takeWhile_eq_nil_of_head?_any hstart]
    rfl

namespace Cursor

variable {config : Config} {k : Cursor}

/-- An end of line ends one line, also where it has two characters. -/
theorem position_lex_lineTerminator
    (hstart : Kind.lineTerminator.starts config k.rest = true) :
    (k.lex config .lineTerminator).2.position = ⟨k.position.line + 1, 0⟩ := by
  obtain ⟨c, text, hrest, hc⟩ := Text.exists_cons_of_head?_any hstart
  by_cases hcrlf : c = '\r' ∧ text.head? = some '\n'
  · obtain ⟨rfl, hlf⟩ := hcrlf
    obtain ⟨more, rfl⟩ := List.head?_eq_some_iff.mp hlf
    have hread : Kind.lineTerminator.read config k.rest = .ok ⟨2, none⟩ := by
      rw [hrest]
      rfl
    -- the carriage return only counts a column, and the line feed starts the line
    have hcr : (k.past '\r' ('\n' :: more)).position = ⟨k.position.line, k.position.column + 1⟩ :=
      rfl
    have hmove : k.advance 2 = (k.past '\r' ('\n' :: more)).past '\n' more := by
      rw [k.advance_succ hrest, advance_succ _ rfl, advance_zero]
    rw [lex, hread]
    change (k.advance 2).position = _
    rw [hmove, past, hcr]
    rfl
  · rw [not_and] at hcrlf
    have hread : Kind.lineTerminator.read config k.rest = .ok ⟨1, none⟩ := by
      rw [hrest, Kind.read, Grammar.lineTerminator_cons hcrlf]
      rfl
    have hends : endsLine c text.head? = true := by
      simpa [endsLine, hc, Decidable.imp_iff_not_or] using hcrlf
    have hmove : k.advance 1 = k.past c text := k.advance_succ hrest 0
    rw [lex, hread]
    change (k.advance 1).position = _
    rw [hmove, past, Position.after, if_pos hends]

/-! ### The contract -/

/-- **Every rule keeps the contract**, at every cursor and with every configuration. A rule that
applies passes a character. Whether or not it applies, what it reads has the span from where the
cursor was to where it is, and a failure is where the cursor was and leaves nothing ahead; only the
rules for constructs with a closing delimiter fail. The rules for digits, for operator characters
and for white space leave the cursor where it is if they do not apply. An end of line takes the
cursor to the start of the next line. -/
theorem lex_keeps_contract (config : Config) (kind : Kind) (k : Cursor) :
    let result := (k.lex config kind).1
    let k' := (k.lex config kind).2
    (kind.starts config k.rest = true → ∃ piece, piece ≠ [] ∧ k.Passes piece k') ∧
    (∀ lexed, result = .ok lexed → lexed.span = ⟨k.offset, k'.offset⟩) ∧
    (∀ e, result = .error e →
      e.start = k.position ∧ k'.rest = [] ∧ kind.CanFail k.rest e.construct) ∧
    (kind = .ofRule .decimal ∨ kind = .ofRule .operator ∨ kind = .whitespace →
      kind.starts config k.rest = false →
        ∃ form, k.lex config kind = (.ok ⟨form, k.offset, k.offset⟩, k)) ∧
    (kind = .lineTerminator → kind.starts config k.rest = true →
      k'.position = ⟨k.position.line + 1, 0⟩) := by
  intro result k'
  refine ⟨exists_passes_lex_of_starts, fun lexed hok => ?_, fun e herror => ?_, ?_, ?_⟩
  · rcases lexesAs_or_lexFails config kind k with ⟨raw, form, hlex⟩ | ⟨construct, -, hfail⟩
    · obtain rfl := Except.ok.inj (hok.symm.trans hlex.result_eq)
      rw [hlex.passes.offset_eq]
    · cases hok.symm.trans hfail.result_eq
  · rcases lexesAs_or_lexFails config kind k with ⟨raw, form, hlex⟩ | ⟨construct, hread, hfail⟩
    · cases herror.symm.trans hlex.result_eq
    · obtain rfl := Except.error.inj (herror.symm.trans hfail.result_eq)
      exact ⟨rfl, hfail.rest_eq, Kind.canFail_of_read hread⟩
  · intro hkind hstart
    obtain ⟨form, hread⟩ := Kind.read_of_not_starts hkind hstart
    refine ⟨form, ?_⟩
    rw [lex, hread]
    rfl
  · rintro rfl hstart
    exact position_lex_lineTerminator hstart

end Cursor

end EcmaLex
