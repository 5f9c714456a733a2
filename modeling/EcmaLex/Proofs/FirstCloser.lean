import EcmaLex.Proofs.RuleContract
import Mathlib.Data.List.Infix

/-!
# Constructs that end at the first closer

A block comment and a regular expression literal run from an opening delimiter to the first closing
delimiter behind it, whatever stands between the two. What is first is told by comparing all
occurrences of the closing delimiter in the text: the body of the construct is shorter than what
stands before any other. Since this text begins behind the opening delimiter, the asterisk that
opens a block comment is never part of what closes it, while the asterisk of the closing delimiter
may follow others.

A line comment has no closing delimiter. It takes the longest part of the text that holds no line
terminator, and cannot fail.

## Main definitions

* `EcmaLex.Text.IsBeforeFirst` : the part of a text before the first occurrence of a delimiter.
* `EcmaLex.Cursor.EndsAtFirst` : a rule that reads up to the first closing delimiter.

## Main results

* `EcmaLex.Text.isBeforeFirst_iff` : the first occurrence is the one that no other overlaps from the
  front.
* `EcmaLex.Text.exists_isBeforeFirst` : where there is an occurrence, there is a first one.
* `EcmaLex.Cursor.comments_and_regularExpressions_end` : where constructs end.
-/

namespace EcmaLex

/-! ### First occurrences of a delimiter -/

namespace Text

/-- The part `body` of a text stands before the first occurrence of `closer`. -/
structure IsBeforeFirst (closer text body : List Char) : Prop where
  occurs : body ++ closer <+: text
  first : ∀ earlier, earlier ++ closer <+: text → body.length ≤ earlier.length

variable {closer text body body' : List Char}

theorem IsBeforeFirst.unique (h : IsBeforeFirst closer text body)
    (h' : IsBeforeFirst closer text body') : body = body' := by
  have hlength : body.length = body'.length :=
    Nat.le_antisymm (h.first body' h'.occurs) (h'.first body h.occurs)
  have hpre : body <+: body' := List.prefix_of_prefix_length_le
    ((List.prefix_append body closer).trans h.occurs)
    ((List.prefix_append body' closer).trans h'.occurs) (Nat.le_of_eq hlength)
  exact hpre.eq_of_length hlength

/-- An occurrence is the first one if and only if none ends before it does. -/
theorem isBeforeFirst_iff (hne : closer ≠ []) :
    IsBeforeFirst closer text body ↔
      body ++ closer <+: text ∧ ¬ closer <:+: body ++ closer.dropLast := by
  have hpos : 0 < closer.length := List.length_pos_iff.mpr hne
  have hshort (hoccurs : body ++ closer <+: text) : body ++ closer.dropLast <+: text :=
    ((List.prefix_append_right_inj body).mpr (List.dropLast_prefix closer)).trans hoccurs
  constructor
  · rintro ⟨hoccurs, hfirst⟩
    refine ⟨hoccurs, ?_⟩
    rintro ⟨earlier, after, hin⟩
    have hearlier : earlier ++ closer <+: body ++ closer.dropLast := ⟨after, hin⟩
    have hle := hfirst earlier (hearlier.trans (hshort hoccurs))
    have hlength := congrArg List.length hin
    simp only [List.length_append, List.length_dropLast] at hlength
    omega
  · rintro ⟨hoccurs, hno⟩
    refine ⟨hoccurs, fun earlier hearlier => Nat.le_of_not_lt fun hlt => hno ?_⟩
    -- an earlier occurrence lies in front of the last character of this one
    have hpre : earlier ++ closer <+: body ++ closer.dropLast := by
      refine List.prefix_of_prefix_length_le hearlier (hshort hoccurs) ?_
      simp only [List.length_append, List.length_dropLast]
      omega
    exact (List.suffix_append earlier closer).isInfix.trans hpre.isInfix

/-- **Where a delimiter occurs, it has a first occurrence.** -/
theorem exists_isBeforeFirst (h : closer <:+: text) : ∃ body, IsBeforeFirst closer text body := by
  induction text with
  | nil =>
    obtain rfl := List.infix_nil.mp h
    exact ⟨[], List.prefix_rfl, fun _ _ => Nat.zero_le _⟩
  | cons c text ih =>
    by_cases hhere : closer <+: c :: text
    · exact ⟨[], hhere, fun _ _ => Nat.zero_le _⟩
    · obtain ⟨body, hoccurs, hfirst⟩ := ih ((List.infix_cons_iff.mp h).resolve_left hhere)
      refine ⟨c :: body, List.cons_prefix_cons.mpr ⟨rfl, hoccurs⟩, fun earlier hearlier => ?_⟩
      cases earlier with
      | nil => exact absurd hearlier hhere
      | cons d earlier =>
        exact Nat.succ_le_succ (hfirst earlier (List.cons_prefix_cons.mp hearlier).2)

end Text

/-! ### Delimited constructs -/

namespace Grammar

variable {text body : List Char}

theorem isBeforeFirst_blockClose_iff :
    Text.IsBeforeFirst blockClose text body ↔ blockText? text = some body := by
  have hne : blockClose ≠ [] := List.cons_ne_nil _ _
  rw [Text.isBeforeFirst_iff hne, blockText?_eq_some_iff]
  refine and_congr_left fun _ => ⟨?_, ?_⟩
  · rintro ⟨rest, hrest⟩
    exact ⟨rest, hrest.symm⟩
  · rintro ⟨rest, hrest⟩
    exact ⟨rest, hrest.symm⟩

theorem isBeforeFirst_slash_iff :
    Text.IsBeforeFirst ['/'] text body ↔ body ++ ['/'] <+: text ∧ '/' ∉ body := by
  rw [Text.isBeforeFirst_iff (List.cons_ne_nil _ _), List.dropLast_singleton, List.append_nil,
    List.singleton_infix_iff]

end Grammar

namespace Cursor

/-- In front of a text that `opener` precedes a rule reads up to the first `closer` and with it,
and gives `form` of what is between; it succeeds just where there is a `closer`, and it fails for
`construct` otherwise. -/
structure EndsAtFirst (config : Config) (kind : Kind) (k : Cursor) (construct : Delimited)
    (opener closer text : List Char) (form : List Char → Form) : Prop where
  ok_iff : (∃ lexed, (k.lex config kind).1 = .ok lexed) ↔ closer <:+: text
  closed : closer <:+: text → ∃ body, Text.IsBeforeFirst closer text body ∧
    k.LexesAs config kind (opener ++ body ++ closer) (some (form body))
  unclosed : ¬ closer <:+: text → k.LexFails config kind construct

variable {config : Config} {kind : Kind} {k : Cursor} {construct : Delimited}
  {opener closer text : List Char} {form : List Char → Form}

/-- A rule ends at the first closer if it finds the text before the first closer, and fails where
there is none. -/
theorem endsAtFirst_of_read (hrest : k.rest = opener ++ text)
    (hclosed : ∀ body, Text.IsBeforeFirst closer text body →
      kind.read config k.rest = .ok ⟨(opener ++ body ++ closer).length, some (form body)⟩)
    (hunclosed : ¬ closer <:+: text → kind.read config k.rest = .error construct) :
    k.EndsAtFirst config kind construct opener closer text form := by
  have hlexes : closer <:+: text → ∃ body, Text.IsBeforeFirst closer text body ∧
      k.LexesAs config kind (opener ++ body ++ closer) (some (form body)) := by
    intro hin
    obtain ⟨body, hbody⟩ := Text.exists_isBeforeFirst hin
    obtain ⟨rest, htext⟩ := hbody.occurs
    have hahead : k.rest = opener ++ body ++ closer ++ rest := by
      rw [hrest, ← htext, List.append_assoc, List.append_assoc, List.append_assoc]
    exact ⟨body, hbody, (lexesAs_of_read hahead (hclosed body hbody)).1⟩
  refine ⟨⟨?_, ?_⟩, hlexes, fun hno => lexFails_of_read (hunclosed hno)⟩
  · rintro ⟨lexed, hok⟩
    by_cases hin : closer <:+: text
    · exact hin
    · cases hok.symm.trans (lexFails_of_read (hunclosed hin)).result_eq
  · intro hin
    obtain ⟨body, -, hlex⟩ := hlexes hin
    exact ⟨_, hlex.result_eq⟩

theorem endsAtFirst_blockComment (hrest : k.rest = '/' :: '*' :: text) :
    k.EndsAtFirst config .blockComment .blockComment ['/', '*'] ['*', '/'] text
      fun body => .comment ⟨true, body⟩ := by
  refine endsAtFirst_of_read hrest (fun body hbody => ?_) fun hno => ?_
  · have hfound := Grammar.isBeforeFirst_blockClose_iff.mp hbody
    have hlength : (['/', '*'] ++ body ++ ['*', '/']).length = 2 + body.length + 2 := by
      simp only [List.length_append, List.length_cons, List.length_nil]
    rw [hrest, hlength, Kind.read, Grammar.blockComment, List.drop_succ_cons, List.drop_succ_cons,
      List.drop_zero, hfound]
    rfl
  · have hnone := Grammar.blockText?_eq_none_iff.mpr hno
    rw [hrest, Kind.read, Grammar.blockComment, List.drop_succ_cons, List.drop_succ_cons,
      List.drop_zero, hnone]
    rfl

theorem endsAtFirst_regularExpression (hrest : k.rest = '/' :: text) :
    k.EndsAtFirst config (.ofRule .regularExpression) .regularExpression ['/'] ['/'] text
      fun body => .regularExpression ('/' :: (body ++ ['/'])) := by
  refine endsAtFirst_of_read hrest (fun body hbody => ?_) fun hno => ?_
  · obtain ⟨⟨rest, rfl⟩, hslash⟩ := Grammar.isBeforeFirst_slash_iff.mp hbody
    have hread := Grammar.regularExpression_eq hslash rest
    rw [List.cons_append] at hread
    rw [hrest, Kind.read, Rule.read, hread]
    rfl
  · rw [List.singleton_infix_iff] at hno
    have hnone : text.idxOf? '/' = none := List.idxOf?_eq_none_iff.mpr hno
    rw [hrest, Kind.read, Rule.read, Grammar.regularExpression, List.drop_succ_cons,
      List.drop_zero, hnone]
    rfl

/-- A line comment takes the longest part of the text without a line terminator. -/
theorem lexesAs_lineComment (hrest : k.rest = '/' :: '/' :: text) :
    ∃ body, body <+: text ∧ (∀ c ∈ body, isLineTerminator c = false) ∧
      (∀ other, other <+: text → (∀ c ∈ other, isLineTerminator c = false) → other <+: body) ∧
      k.LexesAs config .lineComment ('/' :: '/' :: body) (some (.comment ⟨false, body⟩)) := by
  obtain ⟨body, rest, rfl, hrun, hbody, hstop⟩ :=
    Text.exists_longest_run (fun c => !isLineTerminator c) text
  refine ⟨body, List.prefix_append body rest, fun c hc => by simpa using hbody c hc,
    fun other hother hfree => ?_, ?_⟩
  · rcases List.prefix_or_prefix_of_prefix hother (List.prefix_append body rest) with hle | hge
    · exact hle
    · -- a longer part would go on with the terminator that ends the line
      obtain ⟨more, rfl⟩ := hge
      cases more with
      | nil => simp
      | cons c more =>
        have hmore := (List.prefix_append_right_inj body).mp hother
        obtain ⟨after, rfl⟩ := hmore
        have hterm : isLineTerminator c = true := by simpa using hstop c rfl
        have hno : isLineTerminator c = false := hfree c (by simp)
        rw [hterm] at hno
        cases hno
  · have hahead : k.rest = '/' :: '/' :: body ++ rest := hrest
    refine (lexesAs_of_read hahead ?_).1
    rw [hrest, Kind.read, Grammar.lineComment, List.drop_succ_cons, List.drop_succ_cons,
      List.drop_zero, hrun, List.length_cons, List.length_cons, Nat.add_comm]
    rfl

/-- **Comments and regular expressions end where the first closer is.** A block comment and a
regular expression are read up to the first delimiter that closes them, and the rule fails where
there is none; a slash right behind the asterisk that opens a block comment closes nothing. A line
comment is read up to the first line terminator or to the end of the text. -/
theorem comments_and_regularExpressions_end (config : Config) (k : Cursor) :
    (∀ text, k.rest = '/' :: '*' :: text →
      k.EndsAtFirst config .blockComment .blockComment ['/', '*'] ['*', '/'] text
        (fun body => .comment ⟨true, body⟩) ∧
      ∀ more, text = '/' :: more →
        ((∃ lexed, (k.lex config .blockComment).1 = .ok lexed) ↔ ['*', '/'] <:+: more)) ∧
    (∀ text, k.rest = '/' :: text →
      k.EndsAtFirst config (.ofRule .regularExpression) .regularExpression ['/'] ['/'] text
        fun body => .regularExpression ('/' :: (body ++ ['/']))) ∧
    ∀ text, k.rest = '/' :: '/' :: text →
      ∃ body, body <+: text ∧ (∀ c ∈ body, isLineTerminator c = false) ∧
        (∀ other, other <+: text → (∀ c ∈ other, isLineTerminator c = false) → other <+: body) ∧
        k.LexesAs config .lineComment ('/' :: '/' :: body) (some (.comment ⟨false, body⟩)) := by
  refine ⟨fun text hrest => ⟨endsAtFirst_blockComment hrest, ?_⟩,
    fun text hrest => endsAtFirst_regularExpression hrest,
    fun text hrest => lexesAs_lineComment hrest⟩
  rintro more rfl
  rw [(endsAtFirst_blockComment hrest).ok_iff, List.infix_cons_iff]
  simp

/-- The slash behind the opening asterisk closes nothing, and the asterisks in front of the closing
slash belong to the comment. -/
theorem block_comment_between_asterisks :
    let k := (ofString "é/*/ **/*/").advance 1
    k.rest = '/' :: '*' :: "/ **/*/".toList ∧
      k.LexesAs {} .blockComment "/*/ **/".toList (some (.comment ⟨true, "/ *".toList⟩)) := by
  intro k
  have hrest : k.rest = '/' :: '*' :: "/ **/*/".toList := by decide
  have hends := ((comments_and_regularExpressions_end {} k).1 _ hrest).1
  obtain ⟨body, hbody, hlex⟩ := hends.closed ⟨"/ *".toList, "*/".toList, by decide⟩
  have hfirst : Text.IsBeforeFirst ['*', '/'] "/ **/*/".toList "/ *".toList :=
    Grammar.isBeforeFirst_blockClose_iff.mpr (by decide)
  obtain rfl := hbody.unique hfirst
  exact ⟨hrest, hlex⟩

end Cursor

end EcmaLex
