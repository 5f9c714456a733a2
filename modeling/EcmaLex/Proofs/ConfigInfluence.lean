import EcmaLex.Proofs.ScannerStep
import Mathlib.Data.List.Forall2

/-!
# What a configuration can change

The scanner asks a configuration four questions: whether comments are tokens, and which characters
start a word, continue one, and take part in operators. Configurations that agree on these cut every
text in the same way, with the same values at the same places and the same failures, whatever their
keywords, their labels, their longer operators and their other punctuators are. The keywords are
asked for once a word has been read, and decide nothing but its kind; the label is copied into every
token.

The relation between the two scanners is kept by every step: the cursors are the same, and the
results are counterparts.

## Main definitions

* `EcmaLex.Config.Agree` : configurations that answer the four questions alike.
* `EcmaLex.Token.IsWordFor` : a word with the kind that a configuration gives it.
* `EcmaLex.Token.Counterpart`, `EcmaLex.Result.Counterpart` : the same token or failure under two
  configurations.

## Main results

* `EcmaLex.Config.Agree.skip_eq`, `EcmaLex.Config.Agree.select_eq` : layout and rules are the same.
* `EcmaLex.Scanner.next_withConfig` : one step under two configurations.
* `EcmaLex.Scanner.counterparts_of_agree` : steps in a row.
-/

namespace EcmaLex

/-! ### Counterparts -/

/-- Two configurations differ at most in their keywords, in their labels, and in operators and
punctuators that make no difference to the characters of operators. -/
structure Config.Agree (config config' : Config) : Prop where
  emitComments_eq : config.emitComments = config'.emitComments
  isWordStart_eq : ∀ c, config.isWordStart c = config'.isWordStart c
  isWordPart_eq : ∀ c, config.isWordPart c = config'.isWordPart c
  isOperatorChar_eq : ∀ c, config.isOperatorChar c = config'.isOperatorChar c

/-- A token is a word, and its kind is the one that a configuration gives to the word: the truth
values come first, even where they are among the keywords. -/
def Token.IsWordFor (config : Config) (t : Token) : Prop :=
  ∃ word, t.lexeme = .text word ∧
    t.tag = if word = "true" ∨ word = "false" then .booleanLiteral
      else if word ∈ config.keywords then .keyword
      else .identifier

/-- The same token under two configurations, each with the label of its configuration. -/
structure Token.Counterpart (config config' : Config) (t t' : Token) : Prop where
  lexeme_eq : t.lexeme = t'.lexeme
  location_eq : t.location = t'.location
  span_eq : t.span = t'.span
  source_eq : t.source = config.source ∧ t'.source = config'.source
  /-- Each is a word, with the kind that its configuration gives to it, or else the kinds are the
  same and no kind of words. -/
  tag_cases : t.IsWordFor config ∧ t'.IsWordFor config' ∨
    t.tag = t'.tag ∧ t.tag.rule? ≠ some .word

/-- The same result under two configurations. -/
inductive Result.Counterpart (config config' : Config) : Result → Result → Prop
  | token {t t' : Token} (h : t.Counterpart config config' t') :
      Counterpart config config' (.ok t) (.ok t')
  | failure (e : ScanError) : Counterpart config config' (.error e) (.error e)

/-- The scanner under another configuration. -/
def Scanner.withConfig (s : Scanner) (config : Config) : Scanner := { s with config := config }

variable {config config' : Config} {goal : Goal} {text : List Char} {rule : Rule}

/-- Where the keywords and the labels are the same too, counterparts are equal. -/
theorem Token.Counterpart.eq {t t' : Token} (h : t.Counterpart config config' t')
    (hkeywords : config.keywords = config'.keywords) (hsource : config.source = config'.source) :
    t = t' := by
  obtain ⟨tag, lexeme, location, source, span⟩ := t
  obtain ⟨tag', lexeme', location', source', span'⟩ := t'
  obtain ⟨rfl, rfl, rfl, ⟨rfl, rfl⟩, htag⟩ := h
  rw [Token.mk.injEq]
  refine ⟨?_, rfl, rfl, hsource, rfl⟩
  obtain ⟨⟨word, hword, htag⟩, word', hword', htag'⟩ | ⟨htag, -⟩ := htag
  · obtain rfl := Lexeme.text.inj (hword.symm.trans hword')
    exact htag.trans (hkeywords ▸ htag'.symm)
  · exact htag

theorem Result.Counterpart.eq {r r' : Result} (h : Counterpart config config' r r')
    (hkeywords : config.keywords = config'.keywords) (hsource : config.source = config'.source) :
    r = r' := by
  cases h with
  | token h => rw [h.eq hkeywords hsource]
  | failure => rfl

/-- Of the operators only those of one character matter, and of the punctuators only those that are
such operators. -/
theorem Config.agree_of_characters (hemit : config.emitComments = config'.emitComments)
    (hstart : ∀ c, config.isWordStart c = config'.isWordStart c)
    (hpart : ∀ c, config.isWordPart c = config'.isWordPart c)
    (hoperators : ∀ c, String.ofList [c] ∈ config.operators ↔ String.ofList [c] ∈ config'.operators)
    (hpunctuators : ∀ c, String.ofList [c] ∈ config'.operators →
      (c ∈ config.punctuators ↔ c ∈ config'.punctuators)) : config.Agree config' := by
  refine ⟨hemit, hstart, hpart, fun c => ?_⟩
  rw [Bool.eq_iff_iff]
  simp only [isOperatorChar, isOperator, isPunctuator, Bool.and_eq_true, List.contains_iff_mem,
    Bool.not_eq_true', Bool.eq_false_iff, ne_eq, hoperators]
  exact and_congr_right fun hc => not_congr (hpunctuators c hc)

namespace Config.Agree

/-! ### Layout -/

theorem layoutKind?_eq (h : config.Agree config') (text : List Char) :
    layoutKind? config text = layoutKind? config' text := by
  unfold layoutKind?
  rw [h.emitComments_eq]
  rfl

/-- The rules for layout are the same for all configurations. -/
theorem read_eq_of_layoutKind? {kind : Kind} (hkind : layoutKind? config text = some kind)
    (config' : Config) : kind.read config text = kind.read config' text := by
  obtain ⟨rfl, -⟩ | ⟨rfl, -⟩ | ⟨rfl, -, -⟩ := layoutKind?_eq_some_iff.mp hkind
  · rfl
  · rfl
  · rfl

theorem skip_eq (h : config.Agree config') (k : Cursor) : k.skip config = k.skip config' := by
  cases hkind : layoutKind? config k.rest with
  | none =>
    have hkind' : layoutKind? config' k.rest = none := h.layoutKind?_eq _ ▸ hkind
    rw [Cursor.skip_of_layoutKind?_eq_none hkind, Cursor.skip_of_layoutKind?_eq_none hkind']
  | some kind =>
    have hkind' : layoutKind? config' k.rest = some kind := h.layoutKind?_eq _ ▸ hkind
    have hsame := read_eq_of_layoutKind? hkind config'
    cases hread : kind.read config k.rest with
    | error construct =>
      rw [Cursor.skip_of_read_eq_error hkind hread,
        Cursor.skip_of_read_eq_error hkind' (hsame.symm.trans hread)]
    | ok r =>
      rw [Cursor.skip_of_read_eq_ok hkind hread,
        Cursor.skip_of_read_eq_ok hkind' (hsame.symm.trans hread), skip_eq h (k.advance r.length)]
termination_by k.rest.length
decreasing_by exact Cursor.length_rest_advance_lt hkind hread

/-! ### Rules -/

theorem starts_eq (h : config.Agree config') (rule : Rule) (text : List Char) :
    rule.starts config text = rule.starts config' text := by
  cases rule with
  | word => exact congrArg (Option.any · text.head?) (funext h.isWordStart_eq)
  | operator => exact congrArg (Option.any · text.head?) (funext h.isOperatorChar_eq)
  | comment => rfl
  | decimal => rfl
  | string => rfl
  | regularExpression => rfl
  | single => rfl

theorem select_eq (h : config.Agree config') (goal : Goal) (text : List Char) :
    Rule.select config goal text = Rule.select config' goal text := by
  unfold Rule.select
  rw [h.emitComments_eq]
  simp only [h.starts_eq]

/-- Rules other than the one for words read the same. -/
theorem read_eq (h : config.Agree config') (hrule : rule ≠ .word) (text : List Char) :
    rule.read config text = rule.read config' text := by
  cases rule with
  | word => exact absurd rfl hrule
  | operator => rw [Rule.read, Rule.read, Grammar.operator, Grammar.operator,
      funext h.isOperatorChar_eq]
  | comment => rfl
  | decimal => rfl
  | string => rfl
  | regularExpression => rfl
  | single => rfl

/-- The rule for words reads the same characters. -/
theorem word_eq (h : config.Agree config') (text : List Char) :
    Grammar.word config text = Grammar.word config' text := by
  rw [Grammar.word, Grammar.word, funext h.isWordPart_eq]

end Config.Agree

/-! ### Steps -/

namespace Scanner

variable {s : Scanner}

/-- The kind of a word is the one that the configuration of the scanner gives to it. -/
theorem isWordFor_token (s : Scanner) (start : Position) (span : Span) (raw : List Char) :
    (s.token start span (Grammar.wordTag s.config (String.ofList raw))
      (.text (String.ofList raw))).IsWordFor s.config := by
  refine ⟨String.ofList raw, rfl, ?_⟩
  simp [token, Grammar.wordTag, Config.isKeyword]

theorem readToken_withConfig (h : s.config.Agree config') (rule : Rule) :
    Result.Counterpart s.config config' (s.readToken rule).1
        ((s.withConfig config').readToken rule).1 ∧
      ((s.withConfig config').readToken rule).2 = (s.readToken rule).2.withConfig config' := by
  by_cases hrule : rule = .word
  · subst hrule
    let raw := (Grammar.word config' s.cursor.rest).value
    have hread : Rule.word.read s.config s.cursor.rest =
        .ok ((Grammar.word config' s.cursor.rest).map fun raw =>
          .word raw (Grammar.wordTag s.config (String.ofList raw))) := by
      rw [← h.word_eq]
      rfl
    rw [readToken_of_ok hread, readToken_of_ok (s := s.withConfig config') rfl]
    refine ⟨.token ⟨rfl, rfl, rfl, ⟨rfl, rfl⟩, .inl ⟨?_, ?_⟩⟩, rfl⟩
    · exact isWordFor_token _ _ _ raw
    · exact isWordFor_token ((s.withConfig config').moveTo _) _ _ raw
  · have hsame : rule.read (s.withConfig config').config (s.withConfig config').cursor.rest =
        rule.read s.config s.cursor.rest := (h.read_eq hrule _).symm
    cases hread : rule.read s.config s.cursor.rest with
    | error construct =>
      rw [readToken_of_error hread, readToken_of_error (hsame.trans hread)]
      exact ⟨.failure _, rfl⟩
    | ok r =>
      have htag : r.value.tag.rule? = some rule := (Rule.gives_of_read hread).rule?_eq
      have hother : r.value.tag.rule? ≠ some .word := by
        rw [htag]
        exact fun heq => hrule (Option.some.inj heq)
      rw [readToken_of_ok hread, readToken_of_ok (hsame.trans hread)]
      exact ⟨.token ⟨rfl, rfl, rfl, ⟨rfl, rfl⟩, .inr ⟨rfl, hother⟩⟩, rfl⟩

/-- **A step under two configurations that agree** gives counterparts and leaves the cursor at the
same place. -/
theorem next_withConfig (h : s.config.Agree config') (goal : Goal) :
    Result.Counterpart s.config config' (s.next goal).1 ((s.withConfig config').next goal).1 ∧
      ((s.withConfig config').next goal).2 = (s.next goal).2.withConfig config' := by
  have hskip : (s.withConfig config').cursor.skip (s.withConfig config').config =
      s.cursor.skip s.config := (h.skip_eq s.cursor).symm
  rw [next, next, hskip]
  generalize s.cursor.skip s.config = skipped
  obtain ⟨e | _, k⟩ := skipped
  · exact ⟨.failure e, rfl⟩
  · by_cases hfin : k.isFinished = true
    · simp only [hfin, if_true]
      exact ⟨.token ⟨rfl, rfl, rfl, ⟨rfl, rfl⟩, .inr ⟨rfl, fun h => by cases h⟩⟩, rfl⟩
    · have hselect : Rule.select (s.withConfig config').config goal k.rest =
          Rule.select s.config goal k.rest := (h.select_eq goal k.rest).symm
      simp only [hfin, config_moveTo, hselect]
      exact readToken_withConfig (s := s.moveTo k) h _

/-- Steps under two configurations that agree give counterparts and leave the cursor at the same
place. -/
theorem steps_withConfig (h : s.config.Agree config') (goals : List Goal) :
    List.Forall₂ (Result.Counterpart s.config config') (steps goals s).1
        (steps goals (s.withConfig config')).1 ∧
      (steps goals (s.withConfig config')).2 = (steps goals s).2.withConfig config' := by
  induction goals generalizing s with
  | nil => exact ⟨.nil, rfl⟩
  | cons goal goals ih =>
    obtain ⟨hresult, hafter⟩ := next_withConfig h goal
    have hconfig := config_next goal s
    obtain ⟨hlater, hend⟩ := ih (hconfig ▸ h)
    rw [hconfig] at hlater
    rw [steps_cons, steps_cons, hafter]
    exact ⟨.cons hresult hlater, hend⟩

/-- **Only four answers of a configuration matter.** Under two configurations that agree on them,
steps with the same goals give counterparts, one by one, and the scanner has the same position after
each. Keywords and labels show in the tokens alone; operators of several characters and punctuators
that are no operators show nowhere. -/
theorem counterparts_of_agree (h : config.Agree config') (text : String) (goals : List Goal) :
    List.Forall₂ (Result.Counterpart config config') (steps goals (ofString text config)).1
        (steps goals (ofString text config')).1 ∧
    (∀ n, (steps (goals.take n) (ofString text config)).2.position =
        (steps (goals.take n) (ofString text config')).2.position) ∧
    ∀ (operators : List String) (punctuators : List Char),
      (∀ c, String.ofList [c] ∈ operators ↔ String.ofList [c] ∈ config.operators) →
      (∀ c, String.ofList [c] ∈ config.operators →
        (c ∈ punctuators ↔ c ∈ config.punctuators)) →
      (steps goals (ofString text
          { config with operators := operators, punctuators := punctuators })).1 =
        (steps goals (ofString text config)).1 := by
  refine ⟨(steps_withConfig (s := ofString text config) h goals).1, fun n => ?_, ?_⟩
  · exact (congrArg position
      (steps_withConfig (s := ofString text config) h (goals.take n)).2).symm
  · intro operators punctuators hoperators hpunctuators
    let other : Config := { config with operators := operators, punctuators := punctuators }
    have hagree : other.Agree config := Config.agree_of_characters rfl (fun _ => rfl)
      (fun _ => rfl) hoperators hpunctuators
    have hsame := (steps_withConfig (s := ofString text other) hagree goals).1
    exact List.forall₂_eq_eq_eq ▸ hsame.imp fun _ _ hr => hr.eq rfl rfl

/-- A truth value that is among the keywords of one configuration only, in front of an operator of
two characters, of which the one is no operator and a punctuator of the other configuration. -/
theorem counterparts_with_arrow :
    let config : Config := { keywords := ["true", "x"], operators := ["=", "=>"] }
    let config' : Config := { operators := ["="], punctuators := ['>'], source := some "f" }
    let goals : List Goal := [.division, .regularExpression, .division, .division]
    List.Forall₂ (Result.Counterpart config config') (steps goals (ofString "true=>x" config)).1
        (steps goals (ofString "true=>x" config')).1 ∧
      (steps goals (ofString "true=>x" { config with operators := ["="], punctuators := [] })).1 =
        (steps goals (ofString "true=>x" config)).1 := by
  intro config config' goals
  have hlonger : ∀ c, String.ofList [c] ≠ "=>" := fun c hc => by
    have hchars := congrArg String.toList hc
    simp at hchars
  have hoperators : ∀ c, String.ofList [c] ∈ ["="] ↔ String.ofList [c] ∈ config.operators :=
    fun c => by simp only [config, List.mem_cons, hlonger, false_or]
  have hequals : ∀ c, String.ofList [c] ∈ ["="] → c = '=' := fun c hc => by
    have hchars := congrArg String.toList (List.mem_singleton.mp hc)
    simpa using hchars
  have hagree : config.Agree config' := by
    refine Config.agree_of_characters rfl (fun _ => rfl) (fun _ => rfl)
      (fun c => (hoperators c).symm) fun c hc => ?_
    obtain rfl := hequals c hc
    decide
  obtain ⟨hresults, -, hsame⟩ := counterparts_of_agree hagree "true=>x" goals
  refine ⟨hresults, hsame ["="] [] hoperators fun c hc => ?_⟩
  obtain rfl := hequals c ((hoperators c).mpr hc)
  decide

end Scanner

end EcmaLex
