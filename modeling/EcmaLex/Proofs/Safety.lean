import EcmaLex.Cursor.Walk
import EcmaLex.Proofs.CheckedCursor
import EcmaLex.Proofs.PullSchedules

/-!
# Safety of walks and sessions

A walk moves a cursor by any steps, rules that do not apply among them, and a session makes any
calls of a scanner. In a text of less than `2 ^ 63` bytes neither comes to a state in which a
checked operation fails: no count exceeds 64 bits, every text that is taken is cut out between two
characters, and every digit whose value is computed is one. Where nothing is restored, the offset
never decreases.

The invariant is that every cursor, the kept ones included, has moved from the start of the text.

## Main definitions

* `EcmaLex.Walk.after` : the walk behind some steps.
* `EcmaLex.Walk.answer?`, `EcmaLex.Scanner.next?` : the checked steps.
* `EcmaLex.Span.Within` : a span in a text, between two characters at each end.

## Main results

* `EcmaLex.Walk.Within.answer?_eq_some`, `EcmaLex.Scanner.next?_eq_some` : no step fails.
* `EcmaLex.Scanner.span_within_of_next` : the spans of tokens.
* `EcmaLex.checked_calls_succeed` : the safety of all walks and sessions.
-/

namespace EcmaLex

/-! ### Spans -/

/-- A span in a text: its ends are in order and between two characters. -/
structure Span.Within (text : List Char) (span : Span) : Prop where
  start_le_stop : span.start ≤ span.stop
  stop_le : span.stop ≤ Text.byteLength text
  exists_slice : ∃ raw, Text.slice? text span.start span.stop = some raw

theorem Span.Within.length?_eq {text : List Char} {span : Span} (h : span.Within text) :
    span.length? = some (span.stop - span.start) := if_pos h.start_le_stop

theorem SourceFile.isSome_sourceAt {file : SourceFile} {span : Span}
    (h : span.Within file.contents.toList) : (file.sourceAt span).isSome := by
  obtain ⟨raw, hraw⟩ := h.exists_slice
  rw [sourceAt, hraw]
  rfl

namespace Cursor

variable {source : String} {behind piece : List Char} {k k' : Cursor}

/-- The bytes that a cursor passes make a span in the text. -/
theorem Passes.span_within (h : (ofString source).Passes behind k) (h' : k.Passes piece k') :
    (Span.mk k.offset k'.offset).Within source.toList where
  start_le_stop := h'.offset_eq ▸ Nat.le_add_right _ _
  stop_le := (h.trans h').bounded.offset_le
  exists_slice := ⟨piece, h.slice?_eq_some h'⟩

/-- A cursor moves forward over what is found, or to the end. -/
theorem exists_passes_read {α : Type} (k : Cursor) (found : Finding α) :
    ∃ piece, k.Passes piece (k.read found).2 := by
  cases found with
  | ok r => exact ⟨_, .advance k r.length⟩
  | error => exact ⟨_, .finish k⟩

end Cursor

/-- A regular expression is read as the characters that are passed. -/
theorem Grammar.eq_take_of_regularExpression {text : List Char} {r : Reading (List Char)}
    (h : regularExpression text = .ok r) : r.value = text.take r.length := by
  unfold regularExpression at h
  split at h
  · cases h
    rfl
  · cases h

theorem Kind.eq_take_of_read {config : Config} {kind : Kind} {text raw : List Char}
    {r : Reading (Option Form)} (h : kind.read config text = .ok r)
    (hraw : r.value = some (.regularExpression raw)) : raw = text.take r.length := by
  cases kind with
  | ofRule rule =>
    obtain ⟨found, hfound, rfl⟩ := Finding.exists_of_map_eq_ok h
    have hform : found.value = .regularExpression raw := Option.some.inj hraw
    obtain rfl : rule = .regularExpression :=
      (Rule.gives_of_read hfound).eq_regularExpressionLiteral_iff.mp (congrArg Form.tag hform)
    obtain ⟨r, hread, rfl⟩ := Finding.exists_of_map_eq_ok hfound
    cases hform
    exact Grammar.eq_take_of_regularExpression hread
  | lineComment =>
    cases h
    cases hraw
  | blockComment =>
    obtain ⟨found, -, rfl⟩ := Finding.exists_of_map_eq_ok h
    cases hraw
  | whitespace =>
    cases h
    cases hraw
  | lineTerminator =>
    cases h
    cases hraw

/-- What a rule finds takes a span in the text, and a regular expression is the text cut out by its
span. -/
theorem Cursor.Passes.lexed_within {source : String} {behind : List Char} {k : Cursor}
    (h : (ofString source).Passes behind k) {config : Config} {kind : Kind}
    {lexed : Lexed (Option Form)} (hlex : (k.lex config kind).1 = .ok lexed) :
    lexed.span.Within source.toList ∧ ∀ raw, lexed.value = some (.regularExpression raw) →
      Text.slice? source.toList lexed.span.start lexed.span.stop = some raw := by
  rw [lex] at hlex
  cases hread : kind.read config k.rest with
  | error construct =>
    rw [hread] at hlex
    cases hlex
  | ok r =>
    rw [hread] at hlex
    cases hlex
    refine ⟨h.span_within (.advance k r.length), fun raw hraw => ?_⟩
    rw [Kind.eq_take_of_read hread hraw]
    exact h.slice?_eq_some (.advance k r.length)

/-! ### Walks -/

namespace Walk

/-- The walk at the start of a text. -/
def start (text : String) (config : Config) : Walk := { text, config }

/-- The walk behind a list of steps. -/
def after : List Step → Walk → Walk
  | [], w => w
  | step :: steps, w => after steps (w.answer step).2

/-- What a step gives, and the walk after it, by the checked operations. The steps left out do not
look at the text. -/
def answer? (w : Walk) (step : Step) : Option (Answer × Walk) :=
  let text := w.text.toList
  match step with
  | .take => do
    let (c, k) ← w.cursor.take? text
    return (.char c, w.moveTo k)
  | .takeN n => do
    let (s, k) ← w.cursor.takeN? text n
    return (.text (String.ofList s), w.moveTo k)
  | .takeWhile p => do
    let (s, k) ← w.cursor.takeWhile? text p
    return (.text (String.ofList s), w.moveTo k)
  | .peek => do
    let rest ← w.cursor.rest? text
    return (.char rest.head?, w)
  | .peekNth n => do
    let rest ← w.cursor.rest? text
    return (.char rest[n]?, w)
  | .upcoming s => do
    let rest ← w.cursor.rest? text
    return (.flag (s.toList.isPrefixOf rest), w)
  | .upcomingIf p => do
    let rest ← w.cursor.rest? text
    return (.flag (rest.head?.any p), w)
  | .rest => do
    let rest ← w.cursor.rest? text
    return (.text (String.ofList rest), w)
  | .finished => return (.flag (Text.byteLength text ≤ w.cursor.offset), w)
  | .skip => do
    let (r, k) ← w.cursor.skip? text w.config (text.length + 1)
    return (.skipped r, w.moveTo k)
  | .kinds => do
    let rest ← w.cursor.rest? text
    return (.kinds (Kind.all.filter fun kind => kind.starts w.config rest), w)
  | .lex kind => do
    let (r, k) ← w.cursor.lex? text w.config kind
    return (.lexed kind r, w.moveTo k)
  | step => return w.answer step

/-- The cursor of a walk and all states that it keeps have moved from the start of the text. -/
structure Within (text : String) (w : Walk) : Prop where
  text_eq : w.text = text
  cursor : ∃ behind, (Cursor.ofString text).Passes behind w.cursor
  saved : ∀ k ∈ w.saved, ∃ behind, (Cursor.ofString text).Passes behind k

variable {text : String} {w : Walk}

/-- Every step but the return to a kept state moves the cursor forward. -/
theorem exists_passes_answer {step : Step} (h : step ≠ .restore) (w : Walk) :
    ∃ piece, w.cursor.Passes piece (w.answer step).2.cursor := by
  cases step with
  | take => exact ⟨_, .advance w.cursor 1⟩
  | takeN n => exact ⟨_, .advance w.cursor n⟩
  | takeWhile p => exact ⟨_, .advance w.cursor (w.cursor.rest.takeWhile p).length⟩
  | skip => exact w.cursor.exists_passes_skip w.config
  | lex kind => exact w.cursor.exists_passes_read (kind.read w.config w.cursor.rest)
  | restore => exact absurd rfl h
  | _ => exact ⟨[], .refl w.cursor⟩

theorem Within.answer (h : Within text w) (step : Step) : Within text (w.answer step).2 := by
  have hforward := fun hstep : step ≠ .restore => exists_passes_answer hstep w
  cases step with
  | save => exact ⟨h.text_eq, h.cursor, List.forall_mem_cons.mpr ⟨h.cursor, h.saved⟩⟩
  | restore =>
    obtain ⟨_, _, _, _, _ | ⟨k, saved⟩⟩ := w
    · exact h
    · obtain ⟨hk, hrest⟩ := List.forall_mem_cons.mp h.saved
      exact ⟨h.text_eq, hk, hrest⟩
  | _ =>
    -- the text and the kept states stay, and the cursor moves forward
    obtain ⟨behind, hbehind⟩ := h.cursor
    obtain ⟨piece, hpiece⟩ := hforward nofun
    exact ⟨h.text_eq, ⟨_, hbehind.trans hpiece⟩, h.saved⟩

theorem Within.after (h : Within text w) (steps : List Step) : Within text (w.after steps) := by
  induction steps generalizing w with
  | nil => exact h
  | cons step steps ih => exact ih (h.answer step)

theorem within_after (text : String) (config : Config) (steps : List Step) :
    Within text ((start text config).after steps) := by
  have hstart : Within text (start text config) := ⟨rfl, ⟨[], .refl _⟩, List.forall_mem_nil _⟩
  exact hstart.after steps

/-- **No step of a walk fails.** -/
theorem Within.answer?_eq_some (h : Within text w) (hsize : Text.byteLength text.toList < 2 ^ 63)
    (step : Step) : w.answer? step = some (w.answer step) := by
  obtain ⟨rfl, ⟨behind, hk⟩, -⟩ := h
  cases step with
  | take => rw [answer?, hk.take?_eq_some hsize]; rfl
  | takeN n => rw [answer?, hk.takeN?_eq_some hsize]; rfl
  | takeWhile p => rw [answer?, hk.takeWhile?_eq_some hsize]; rfl
  | skip =>
    have hrounds : w.cursor.rest.length < w.text.toList.length + 1 := by
      rw [hk.toList_eq, List.length_append]
      omega
    rw [answer?, hk.skip?_eq_some hsize w.config hrounds]
    rfl
  | lex kind => rw [answer?, hk.lex?_eq_some hsize]; rfl
  | finished =>
    have hfinished : decide (Text.byteLength w.text.toList ≤ w.cursor.offset) =
        w.cursor.isFinished := by
      rw [Bool.eq_iff_iff, decide_eq_true_iff, hk.byteLength_le_offset_iff, Cursor.isFinished_iff]
    rw [answer?, hfinished]
    rfl
  | peek | peekNth | upcoming | upcomingIf | rest | kinds =>
    rw [answer?, hk.rest?_eq_some]
    rfl
  | _ => rfl

end Walk

/-! ### Scanners -/

namespace Scanner

variable {source : String} {behind : List Char} {s : Scanner} {goal : Goal} {t : Token}

/-- One step by the checked operations. -/
def next? (text : List Char) (goal : Goal) (s : Scanner) : Option (Result × Scanner) := do
  match ← s.cursor.skip? text s.config (text.length + 1) with
  | (.error e, k) => return (.error e, s.moveTo k)
  | (.ok (), k) =>
    let s := s.moveTo k
    if Text.byteLength text ≤ k.offset then return (.ok s.eof, s)
    else
      let rest ← k.rest? text
      let found ← (Rule.select s.config goal rest).read? s.config rest
      let (r, k) ← k.read? text found
      let after := s.moveTo k
      return (r.map fun lexed => after.token s.position lexed.span lexed.value.tag
        lexed.value.lexeme, after)

/-- **No step of a scanner fails.** -/
theorem next?_eq_some (h : (Cursor.ofString source).Passes behind s.cursor)
    (hsize : Text.byteLength source.toList < 2 ^ 63) (goal : Goal) :
    s.next? source.toList goal = some (s.next goal) := by
  have hrounds : s.cursor.rest.length < source.toList.length + 1 := by
    rw [h.toList_eq, List.length_append]
    omega
  obtain ⟨gap, hgap⟩ := s.cursor.exists_passes_skip s.config
  rw [next?, next, h.skip?_eq_some hsize s.config hrounds]
  generalize s.cursor.skip s.config = skipped at hgap
  obtain ⟨e | _, k⟩ := skipped
  · rfl
  · have hk := h.trans hgap
    simp only [Option.bind_eq_bind, Option.bind_some]
    by_cases hend : k.rest = []
    · rw [if_pos (hk.byteLength_le_offset_iff.mpr hend), if_pos (k.isFinished_iff.mpr hend)]
      rfl
    · rw [if_neg (mt hk.byteLength_le_offset_iff.mp hend), if_neg (mt k.isFinished_iff.mp hend)]
      simp only [hk.rest?_eq_some, Option.bind_some, Rule.read?_eq_some,
        hk.read?_eq_some hsize]
      rfl

/-- **The span of a token is in the text.** -/
theorem span_within_of_next (h : (Cursor.ofString source).Passes behind s.cursor)
    (ht : (s.next goal).1 = .ok t) : t.span.Within source.toList := by
  have hstep := s.step_next goal
  generalize (s.next goal).1 = r, (s.next goal).2 = s' at hstep ht
  cases hstep with
  | failure => cases ht
  | eof hgap =>
    cases ht
    exact (h.trans hgap).span_within (.refl _)
  | token hgap _ _ _ _ hraw =>
    cases ht
    exact (h.trans hgap).span_within hraw

/-- A token that a step gives, now or further on. -/
def Gives (s : Scanner) (t : Token) : Prop :=
  ∃ goal s', s.Reaches s' ∧ (s'.next goal).1 = .ok t

theorem gives_of_next (h : (s.next goal).1 = .ok t) : s.Gives t := ⟨goal, s, .refl s, h⟩

theorem Ahead.gives {left : List Result} (h : Ahead s left) (ht : .ok t ∈ left) : s.Gives t := by
  induction h with
  | nothing => cases ht
  | @step s left _ _ ih =>
    obtain hfirst | hlater := List.mem_cons.mp ht
    · exact gives_of_next hfirst.symm
    · obtain ⟨goal, s', hs', hnext⟩ := ih hlater
      exact ⟨goal, s', (reaches_next _ s).trans hs', hnext⟩

theorem gives_of_mem_run (h : t ∈ (s.run .regularExpression).tokens) : s.Gives t :=
  (ahead_run s).gives (List.mem_append_left _ (List.mem_map_of_mem h))

/-- The items among the results of a run are given by steps. -/
theorem gives_of_mem_items {n : Nat}
    (h : .ok t ∈ Result.items ((s.run .regularExpression).results.take n)) : s.Gives t :=
  (ahead_run s).gives (List.mem_of_mem_take (List.mem_of_mem_filter h))

theorem gives_of_nth {n : Nat} (h : (s.nth n).1 = some (.ok t)) : s.Gives t := by
  rw [((ahead_run s).nth n).1] at h
  exact gives_of_mem_items (List.mem_of_getElem? h)

theorem gives_of_mem_pullUpTo {n : Nat} (h : .ok t ∈ (s.pullUpTo n).1) : s.Gives t := by
  rw [((ahead_run s).pullUpTo n).1] at h
  exact gives_of_mem_items h

theorem gives_of_mem_drain (h : .ok t ∈ s.drain.1) : s.Gives t := by
  rw [(ahead_run s).drain.1, ← List.take_length (l := (s.run .regularExpression).results)] at h
  exact gives_of_mem_items h

end Scanner

/-! ### Sessions -/

namespace Session

/-- The tokens that an answer holds. -/
def Answer.heldTokens : Answer → List Token
  | result r => r.toOption.toList
  | tokens ts => ts.toOption.getD []
  | item r => (r.bind Except.toOption).toList
  | items rs => rs.filterMap Except.toOption
  | _ => []

variable {session : Session} {request : Request} {t : Token}

/-- Every token of an answer is given by a step of the scanner. -/
theorem gives_of_mem_heldTokens (h : t ∈ (session.answer request).1.heldTokens) :
    session.scanner.Gives t := by
  have heq : ∀ {r : Result}, r.toOption = some t → r = .ok t := fun {r} hr => by
    cases r with
    | error => cases hr
    | ok => exact congrArg Except.ok (Option.some.inj hr)
  cases request with
  | next goal => exact Scanner.gives_of_next (heq (Option.mem_toList.mp h))
  | all =>
    have hall : t ∈ (session.scanner.all.1.toOption).getD [] := h
    rw [Scanner.all] at hall
    cases hending : (session.scanner.run .regularExpression).ending with
    | error e =>
      rw [hending] at hall
      cases hall
    | ok last =>
      rw [hending] at hall
      exact Scanner.gives_of_mem_run hall
  | pull =>
    obtain ⟨r, hitem, hr⟩ := Option.bind_eq_some_iff.mp (Option.mem_toList.mp h)
    exact Scanner.gives_of_nth (n := 0) (hitem.trans (congrArg some (heq hr)))
  | nth n =>
    obtain ⟨r, hitem, hr⟩ := Option.bind_eq_some_iff.mp (Option.mem_toList.mp h)
    exact Scanner.gives_of_nth (hitem.trans (congrArg some (heq hr)))
  | drain =>
    obtain ⟨r, hmem, hr⟩ := List.mem_filterMap.mp h
    exact Scanner.gives_of_mem_drain (heq hr ▸ hmem)
  | pullUpTo n =>
    obtain ⟨r, hmem, hr⟩ := List.mem_filterMap.mp h
    exact Scanner.gives_of_mem_pullUpTo (heq hr ▸ hmem)
  | restore =>
    obtain ⟨_, _, _ | ⟨s, saved⟩⟩ := session
    · cases h
    · cases h
  | _ => cases h

end Session

/-! ### All calls -/

/-- **No walk and no session fails.** In a text of `2 ^ 63 - 1` bytes at most, wherever steps of a
walk lead, the cursor is between two characters, with counts no larger than the bytes in front of
it; each step gives the same by the checked operations, and moves forward unless it restores a kept
state. What is passed can be cut out of the text in any parts, and so can a regular expression by
its span. A scanner is as safe wherever calls lead it, and every token that any call gives has a
span in the text, with a length and a piece of source. -/
theorem checked_calls_succeed (file : SourceFile) (config : Config)
    (hsize : Text.byteLength file.contents.toList ≤ 2 ^ 63 - 1) :
    let text := file.contents.toList
    (∀ steps : List Walk.Step,
      let w := (Walk.start file.contents config).after steps
      (∃ behind, w.cursor.Bounded text behind) ∧
      (∀ step, w.answer? step = some (w.answer step) ∧
        (step ≠ .restore → w.cursor.offset ≤ (w.answer step).2.cursor.offset)) ∧
      (∀ m n, m ≤ n → Text.slice? text (w.cursor.advance m).offset (w.cursor.advance n).offset =
        some ((w.cursor.rest.take n).drop m)) ∧
      ∀ kind lexed, (w.cursor.lex w.config kind).1 = .ok lexed → lexed.span.Within text ∧
        ∀ raw, lexed.value = some (.regularExpression raw) →
          Text.slice? text lexed.span.start lexed.span.stop = some raw) ∧
    ∀ requests : List Session.Request,
      let session := (Session.start file config).after requests
      let s := session.scanner
      (∃ behind, s.cursor.Bounded text behind) ∧
      (∀ goal, s.next? text goal = some (s.next goal)) ∧
      (∀ request, request ≠ .restore →
        s.cursor.offset ≤ (session.answer request).2.scanner.cursor.offset) ∧
      ∀ request, ∀ t ∈ (session.answer request).1.heldTokens, t.span.Within text ∧
        t.span.length? = some (t.span.stop - t.span.start) ∧ (file.sourceAt t.span).isSome := by
  intro text
  have hlt : Text.byteLength file.contents.toList < 2 ^ 63 := by omega
  refine ⟨fun steps => ?_, fun requests => ?_⟩
  · have hwithin := Walk.within_after file.contents config steps
    obtain ⟨behind, hk⟩ := hwithin.cursor
    refine ⟨⟨behind, hk.bounded⟩, fun step => ⟨hwithin.answer?_eq_some hlt step, fun hstep => ?_⟩,
      fun m n hle => hk.slice?_advance hle, fun kind lexed hlex => hk.lexed_within hlex⟩
    obtain ⟨piece, hpiece⟩ := Walk.exists_passes_answer hstep
      ((Walk.start file.contents config).after steps)
    exact hpiece.offset_eq ▸ Nat.le_add_right _ _
  · obtain ⟨behind, hk⟩ := (Session.reaches_scanner_after file config requests).exists_passes
    refine ⟨⟨behind, Cursor.Passes.bounded hk⟩, Scanner.next?_eq_some hk hlt,
      fun request hrequest => ?_, fun request t ht => ?_⟩
    · obtain ⟨piece, hpiece⟩ := (Session.reaches_answer hrequest _).exists_passes
      exact hpiece.offset_eq ▸ Nat.le_add_right _ _
    · obtain ⟨goal, s', hs', hnext⟩ := Session.gives_of_mem_heldTokens ht
      obtain ⟨piece, hpiece⟩ := hs'.exists_passes
      have hwithin := Scanner.span_within_of_next (Cursor.Passes.trans hk hpiece) hnext
      exact ⟨hwithin, hwithin.length?_eq, SourceFile.isSome_sourceAt hwithin⟩

/-- Two characters are taken where one is left, and a string is read at the end of the text. -/
theorem checked_calls_past_end :
    let w := (Walk.start "ñ" {}).after [.takeN 2]
    Text.byteLength "ñ".toList ≤ 2 ^ 63 - 1 ∧ w.cursor.offset = 2 ∧
      (w.answer? (.lex (.ofRule .string))).map Prod.fst =
        some (.lexed (.ofRule .string) (.error ⟨.string, ⟨1, 1⟩⟩)) := by
  intro w
  have hsize : Text.byteLength "ñ".toList ≤ 2 ^ 63 - 1 := by decide
  obtain ⟨-, hsteps, -⟩ := (checked_calls_succeed ⟨"f", "ñ"⟩ {} hsize).1 [.takeN 2]
  refine ⟨hsize, rfl, ?_⟩
  rw [(hsteps (.lex (.ofRule .string))).1]
  rfl

end EcmaLex
