import EcmaLex.Proofs.TokenPieces

/-!
# Classes of characters and longest runs

The kind of a token says which characters it is made of and where it stops. Numbers, words and
operators are longest runs of one class of characters, so that the character behind them is of
another class. The order of the rules settles what characters of several classes do: a digit never
starts a word, and an operator starts with no character that a number, a word or a string could
start with. What skipping leaves ahead settles the rest: no token starts where a comment does,
unless it is the comment, and hence a slash is never an operator where it could start a regular
expression.

All of this holds for arbitrary classes of word characters and arbitrary operators and punctuators,
also where they share characters.

## Main definitions

* `EcmaLex.Text.IsLongestRun` : a run of one class that something else follows.
* `EcmaLex.Config.StartsNoLiteral` : the characters that start operators and single characters.
* `EcmaLex.Token.Classified` : what the kind of a token says about its characters.

## Main results

* `EcmaLex.TokenPiece.classified` : what is read as a token is classified.
* `EcmaLex.Scanner.classified_of_steps` : every token of every run is classified.
-/

namespace EcmaLex

/-- A run of characters of one class in front of a text that does not go on with it. -/
structure Text.IsLongestRun (p : Char → Bool) (run rest : List Char) : Prop where
  all : ∀ c ∈ run, p c = true
  stop : ∀ c ∈ rest.head?, p c = false

/-- A character that starts no number, no word and no string, and no regular expression where a
slash starts one. -/
structure Config.StartsNoLiteral (config : Config) (goal : Goal) (c : Char) : Prop where
  isDigit_eq : isDigit c = false
  isWordStart_eq : config.isWordStart c = false
  isQuote_eq : isQuote c = false
  ne_slash : goal = .regularExpression → c ≠ '/'

/-- What the kind of a token says about the text `raw` that it takes and the text `after` behind
it, when it is read with the given goal. -/
structure Token.Classified (config : Config) (goal : Goal) (t : Token) (raw after : List Char) :
    Prop where
  decimalLiteral : t.tag = .decimalLiteral → raw ≠ [] ∧ Text.IsLongestRun isDigit raw after
  /-- A word is a character that starts words and is no digit, and a longest run of characters that
  continue words. -/
  word : t.tag = .identifier ∨ t.tag = .keyword ∨ t.tag = .booleanLiteral →
    ∃ c run, raw = c :: run ∧ config.isWordStart c = true ∧ isDigit c = false ∧
      Text.IsLongestRun config.isWordPart run after
  /-- An operator is a longest run of characters that are operators alone and no punctuators, the
  first of which starts no literal. -/
  operator : t.tag = .operator →
    ∃ c run, raw = c :: run ∧ config.StartsNoLiteral goal c ∧
      (∀ d ∈ raw, config.isOperator d = true ∧ config.isPunctuator d = false) ∧
      Text.IsLongestRun config.isOperatorChar raw after
  /-- A character of its own is no layout, starts no literal, and is no operator character. -/
  char : ∀ c, t.tag = .char c →
    raw = [c] ∧ isWhitespace c = false ∧ isLineTerminator c = false ∧
      config.StartsNoLiteral goal c ∧ config.isOperatorChar c = false
  /-- Nothing but a comment starts where a comment could. -/
  comment : t.tag ≠ .comment → ¬ ['/', '/'] <+: raw ++ after ∧ ¬ ['/', '*'] <+: raw ++ after

variable {config : Config} {goal : Goal} {rule : Rule} {raw rest : List Char} {form : Form}
  {t : Token} {c : Char}

/-! ### The rule for the first character -/

theorem Rule.atHead_eq_word (h : atHead config goal c = .word) :
    isDigit c = false ∧ config.isWordStart c = true := by
  grind [atHead]

theorem Rule.startsNoLiteral_of_atHead (h : atHead config goal c = .operator ∨
    atHead config goal c = .single) : config.StartsNoLiteral goal c := by
  constructor <;> grind [atHead]

theorem Rule.atHead_eq_single (h : atHead config goal c = .single) :
    config.isOperatorChar c = false := by
  grind [atHead]

/-! ### Pieces by rule -/

namespace RulePiece

theorem rule?_tag (h : RulePiece config rule raw form rest) : form.tag.rule? = some rule :=
  (Rule.gives_of_read h.read_eq).rule?_eq

theorem isLongestRun_of_decimal (h : RulePiece config .decimal raw form rest) :
    Text.IsLongestRun isDigit raw rest := by
  cases h with
  | decimal _ hdigits hrest => exact ⟨hdigits, hrest⟩

theorem isLongestRun_of_word (h : RulePiece config .word (c :: raw) form rest) :
    Text.IsLongestRun config.isWordPart raw rest := by
  cases h with
  | word _ hrun hrest => exact ⟨hrun, hrest⟩

theorem isLongestRun_of_operator (h : RulePiece config .operator raw form rest) :
    Text.IsLongestRun config.isOperatorChar raw rest := by
  cases h with
  | operator _ hrun hrest => exact ⟨hrun, hrest⟩

theorem form_eq_of_single (h : RulePiece config .single (c :: raw) form rest) :
    raw = [] ∧ form = .single c := by
  cases h with
  | single => exact ⟨rfl, rfl⟩

end RulePiece

/-! ### Tokens -/

/-- Where no comment starts, neither of the delimiters that open one is ahead. -/
theorem Grammar.not_prefix_of_startsComment {text : List Char} (h : startsComment text = false) :
    ¬ ['/', '/'] <+: text ∧ ¬ ['/', '*'] <+: text := by
  refine ⟨?_, ?_⟩
  · rintro ⟨rest, rfl⟩
    cases h
  · rintro ⟨rest, rfl⟩
    cases h

/-- **What is read as a token is classified.** -/
theorem TokenPiece.classified (h : TokenPiece config goal raw form rest)
    (htag : t.tag = form.tag) : t.Classified config goal raw rest := by
  cases h with
  | @comment _ _ c =>
    have hcomment : t.tag = .comment := htag
    constructor <;> simp [hcomment]
  | @ofHead c raw _ _ hterm hblank hopen h =>
    -- the kind of the token tells the rule, and so what the first character selects
    have hrule : ∀ {tag rule}, t.tag = tag → tag.rule? = some rule →
        Rule.atHead config goal c = rule ∧ RulePiece config rule (c :: raw) form rest := by
      rintro tag rule rfl hrule
      rw [htag] at hrule
      obtain rfl := Option.some.inj (h.rule?_tag.symm.trans hrule)
      exact ⟨rfl, h⟩
    constructor
    case decimalLiteral =>
      intro hdecimal
      obtain ⟨-, hpiece⟩ := hrule hdecimal rfl
      exact ⟨List.cons_ne_nil c raw, hpiece.isLongestRun_of_decimal⟩
    case word =>
      intro hword
      obtain ⟨hhead, hpiece⟩ : Rule.atHead config goal c = .word ∧
          RulePiece config .word (c :: raw) form rest := by
        rcases hword with htag | htag | htag
        · exact hrule htag rfl
        · exact hrule htag rfl
        · exact hrule htag rfl
      obtain ⟨hdigit, hstart⟩ := Rule.atHead_eq_word hhead
      exact ⟨c, raw, rfl, hstart, hdigit, hpiece.isLongestRun_of_word⟩
    case operator =>
      intro hoperator
      obtain ⟨hhead, hpiece⟩ := hrule hoperator rfl
      have hrun := hpiece.isLongestRun_of_operator
      refine ⟨c, raw, rfl, Rule.startsNoLiteral_of_atHead (.inl hhead), fun d hd => ?_, hrun⟩
      simpa [Config.isOperatorChar] using hrun.all d hd
    case char =>
      intro d hchar
      obtain ⟨hhead, hpiece⟩ := hrule hchar rfl
      obtain ⟨rfl, rfl⟩ := hpiece.form_eq_of_single
      obtain rfl : d = c := Tag.char.inj (hchar.symm.trans htag)
      exact ⟨rfl, hblank, hterm, Rule.startsNoLiteral_of_atHead (.inr hhead),
        Rule.atHead_eq_single hhead⟩
    case comment => exact fun _ => Grammar.not_prefix_of_startsComment hopen

namespace Scanner

/-- **Every token of every run is classified.** The token that the step at any place of a run gives,
with the goal at that place, takes a piece of the text; its kind says which characters the piece is
made of and which character does not follow it. -/
theorem classified_of_steps {text : String} {config : Config} {goals : List Goal} {i : Nat}
    (hgoal : goals[i]? = some goal)
    (ht : (steps goals (ofString text config)).1[i]? = some (.ok t)) (heof : t.isEof = false) :
    ∃ before raw after, text.toList = before ++ raw ++ after ∧
      t.span = ⟨Text.byteLength before, Text.byteLength (before ++ raw)⟩ ∧
      t.Classified config goal raw after := by
  rw [getElem?_steps hgoal] at ht
  obtain ⟨before, raw, after, form, htext, hspan, hpiece, htag, -⟩ :=
    exists_tokenPiece_of_next (Option.some.inj ht) heof
  exact ⟨before, raw, after, htext, hspan, hpiece.classified htag⟩

/-- A hyphen that is an operator and also continues words belongs to the word in front of it, and the
operator behind starts with the plus. -/
theorem classified_operator_behind_word :
    ∃ after, (⟨.operator, .text "+/", ⟨⟨2, 2⟩, ⟨2, 4⟩⟩, none, ⟨5, 7⟩⟩ : Token).Classified
      { operators := ["-", "+", "/"], wordPart := .predicate (· == '-') } .division
      ['+', '/'] after := by
  let text := "//\na-+/ "
  let config : Config :=
    { operators := ["-", "+", "/"], wordPart := .predicate (· == '-') }
  let t : Token := ⟨.operator, .text "+/", ⟨⟨2, 2⟩, ⟨2, 4⟩⟩, none, ⟨5, 7⟩⟩
  have ht : (steps [.regularExpression, .division] (ofString text config)).1[1]? =
      some (.ok t) := by decide +kernel
  obtain ⟨before, raw, after, htext, hspan, hclassified⟩ := classified_of_steps rfl ht rfl
  have hslice : Text.slice? text.toList t.span.start t.span.stop = some raw := by
    rw [hspan, htext]
    exact Text.slice?_append before raw after
  have hraw : Text.slice? text.toList t.span.start t.span.stop = some ['+', '/'] := by decide +kernel
  obtain rfl : ['+', '/'] = raw := Option.some.inj (hraw.symm.trans hslice)
  exact ⟨after, hclassified⟩

end Scanner

end EcmaLex
