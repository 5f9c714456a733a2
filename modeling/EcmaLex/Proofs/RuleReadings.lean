import EcmaLex.Proofs.UnclosedConstruct

/-!
# What the rules read

No rule reads past the end of a text, whether or not the rule applies, and every rule gives tokens
of its own kinds.

## Main definitions

* `EcmaLex.Rule.Gives` : the kinds of tokens that a rule gives.
* `EcmaLex.Tag.rule?` : the rule that gives a kind of tokens.

## Main results

* `EcmaLex.Rule.length_le_of_read`, `EcmaLex.Kind.length_le_of_read` : a rule reads no more than
  there is.
* `EcmaLex.Rule.gives_of_read` : a rule gives tokens of its kinds only.
-/

namespace EcmaLex

namespace Grammar

variable {text : List Char}

theorem length_lineComment_le : (lineComment text).length ≤ text.length := by
  have hbody := (List.takeWhile_prefix (fun c => !isLineTerminator c) (l := text.drop 2)).length_le
  simp only [lineComment, List.length_take, List.length_drop] at hbody ⊢
  omega

theorem length_blockComment_le {r : Reading Comment} (h : blockComment text = .ok r) :
    r.length ≤ text.length := by
  unfold blockComment at h
  split at h
  · rename_i body hbody
    cases h
    obtain ⟨⟨rest, hrest⟩, -⟩ := blockText?_eq_some_iff.mp hbody
    have hlen := congrArg List.length hrest
    simp only [List.length_drop, List.length_append, blockClose, List.length_cons] at hlen
    simp only
    omega
  · cases h

theorem length_comment_le {r : Reading Comment} (h : comment text = .ok r) :
    r.length ≤ text.length := by
  unfold comment at h
  split at h
  · exact length_blockComment_le h
  · cases h
    exact length_lineComment_le

theorem length_stringLiteral_le {r : Reading StringLiteral} (h : stringLiteral text = .ok r) :
    r.length ≤ text.length := by
  unfold stringLiteral at h
  split at h
  · cases h
  · rename_i quote rest
    split at h
    · rename_i units hunits
      cases h
      obtain ⟨-, after, rfl⟩ := fits_of_stringUnits? hunits
      simp only [StringLiteral.body, List.length_append, List.length_cons]
      omega
    · cases h

theorem length_regularExpression_le {r : Reading (List Char)}
    (h : regularExpression text = .ok r) : r.length ≤ text.length := by
  unfold regularExpression at h
  split at h
  · rename_i n hn
    cases h
    obtain ⟨hlt, -⟩ := List.idxOf?_eq_some_iff.mp hn
    rw [List.length_drop] at hlt
    simp only
    omega
  · cases h

theorem length_word_le (config : Config) : (word config text).length ≤ text.length := by
  have hrun := (List.takeWhile_prefix config.isWordPart (l := text.drop 1)).length_le
  simp only [word, List.length_append, List.length_take, List.length_drop] at hrun ⊢
  omega

theorem length_lineTerminator_le : (lineTerminator text).length ≤ text.length := by
  unfold lineTerminator
  split <;> simp

end Grammar

variable {config : Config} {text : List Char}

theorem Rule.length_le_of_read {rule : Rule} {r : Reading Form}
    (h : rule.read config text = .ok r) : r.length ≤ text.length := by
  cases rule with
  | comment =>
    obtain ⟨s, hs, rfl⟩ := Finding.exists_of_map_eq_ok h
    exact Grammar.length_comment_le hs
  | decimal =>
    cases h
    exact (List.takeWhile_prefix isDigit).length_le
  | word =>
    cases h
    exact Grammar.length_word_le config
  | string =>
    obtain ⟨s, hs, rfl⟩ := Finding.exists_of_map_eq_ok h
    exact Grammar.length_stringLiteral_le hs
  | regularExpression =>
    obtain ⟨s, hs, rfl⟩ := Finding.exists_of_map_eq_ok h
    exact Grammar.length_regularExpression_le hs
  | operator =>
    cases h
    exact (List.takeWhile_prefix config.isOperatorChar).length_le
  | single =>
    cases h
    exact List.length_take_le' 1 text

theorem Kind.length_le_of_read {kind : Kind} {r : Reading (Option Form)}
    (h : kind.read config text = .ok r) : r.length ≤ text.length := by
  cases kind with
  | ofRule rule =>
    obtain ⟨s, hs, rfl⟩ := Finding.exists_of_map_eq_ok h
    exact Rule.length_le_of_read hs
  | lineComment =>
    cases h
    exact Grammar.length_lineComment_le
  | blockComment =>
    obtain ⟨s, hs, rfl⟩ := Finding.exists_of_map_eq_ok h
    exact Grammar.length_blockComment_le hs
  | whitespace =>
    cases h
    exact (List.takeWhile_prefix isWhitespace).length_le
  | lineTerminator =>
    cases h
    exact Grammar.length_lineTerminator_le

/-! ### Kinds of tokens -/

/-- The kinds of tokens that a rule gives. -/
def Rule.Gives : Rule → Tag → Prop
  | comment, tag => tag = .comment
  | decimal, tag => tag = .decimalLiteral
  | word, tag => tag = .identifier ∨ tag = .keyword ∨ tag = .booleanLiteral
  | string, tag => tag = .stringLiteral
  | regularExpression, tag => tag = .regularExpressionLiteral
  | operator, tag => tag = .operator
  | single, tag => ∃ c, tag = .char c

theorem Grammar.gives_wordTag (config : Config) (word : String) :
    Rule.word.Gives (wordTag config word) := by
  unfold wordTag
  split
  · exact .inr (.inr rfl)
  · split
    · exact .inr (.inl rfl)
    · exact .inl rfl

theorem Rule.gives_of_read {rule : Rule} {r : Reading Form} (h : rule.read config text = .ok r) :
    rule.Gives r.value.tag := by
  cases rule with
  | comment =>
    obtain ⟨s, -, rfl⟩ := Finding.exists_of_map_eq_ok h
    rfl
  | decimal =>
    cases h
    rfl
  | word =>
    cases h
    exact Grammar.gives_wordTag config _
  | string =>
    obtain ⟨s, -, rfl⟩ := Finding.exists_of_map_eq_ok h
    rfl
  | regularExpression =>
    obtain ⟨s, -, rfl⟩ := Finding.exists_of_map_eq_ok h
    rfl
  | operator =>
    cases h
    rfl
  | single =>
    cases h
    exact ⟨_, rfl⟩

/-- The rule that gives a kind of tokens; the end of the text comes from none. -/
def Tag.rule? : Tag → Option Rule
  | comment => some .comment
  | decimalLiteral => some .decimal
  | identifier | keyword | booleanLiteral => some .word
  | stringLiteral => some .string
  | regularExpressionLiteral => some .regularExpression
  | operator => some .operator
  | char _ => some .single
  | eof => none

namespace Rule.Gives

variable {rule : Rule} {tag : Tag}

/-- No kind of tokens is given by two rules. -/
theorem rule?_eq (h : rule.Gives tag) : tag.rule? = some rule := by
  cases rule with
  | word => rcases h with rfl | rfl | rfl <;> rfl
  | single =>
    obtain ⟨c, rfl⟩ := h
    rfl
  | comment => exact h ▸ rfl
  | decimal => exact h ▸ rfl
  | string => exact h ▸ rfl
  | regularExpression => exact h ▸ rfl
  | operator => exact h ▸ rfl

/-- No rule gives the end of the text. -/
theorem ne_eof (h : rule.Gives tag) : tag ≠ .eof := by
  rintro rfl
  cases h.rule?_eq

/-- Only the rule for comments gives comments. -/
theorem eq_comment_iff (h : rule.Gives tag) : tag = .comment ↔ rule = .comment := by
  refine ⟨?_, ?_⟩
  · rintro rfl
    exact (Option.some.inj h.rule?_eq).symm
  · rintro rfl
    exact h

/-- Only the rule for regular expressions gives regular expressions. -/
theorem eq_regularExpressionLiteral_iff (h : rule.Gives tag) :
    tag = .regularExpressionLiteral ↔ rule = .regularExpression := by
  refine ⟨?_, ?_⟩
  · rintro rfl
    exact (Option.some.inj h.rule?_eq).symm
  · rintro rfl
    exact h

end Rule.Gives

end EcmaLex
