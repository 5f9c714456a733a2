import EcmaLex.Grammar.Kind

/-!
# Layout

Layout is what stands between tokens: white space, ends of lines and, unless they are tokens,
comments. It is skipped piece by piece until something else is ahead or a block comment is not
closed.

## Main definitions

* `EcmaLex.Cursor.lex` : a cursor moved over what one rule finds.
* `EcmaLex.layoutKind?` : the piece of layout ahead.
* `EcmaLex.Cursor.skip` : a cursor moved over all layout ahead.

## Main results

* `EcmaLex.Cursor.length_rest_lex_lt` : a rule that applies shortens the text ahead.
* `EcmaLex.Cursor.length_rest_skip_le` : skipping never lengthens the text ahead.
-/

namespace EcmaLex

/-- Moves a cursor over what a rule finds ahead, or to the end of the text. -/
def Cursor.lex (config : Config) (kind : Kind) (k : Cursor) :
    Except ScanError (Lexed (Option Form)) × Cursor :=
  k.read (kind.read config k.rest)

/-- The rule for the piece of layout ahead, if there is one. -/
def layoutKind? (config : Config) (text : List Char) : Option Kind :=
  if Kind.lineTerminator.starts config text then some .lineTerminator
  else if Kind.whitespace.starts config text then some .whitespace
  else if !config.emitComments && (Kind.ofRule .comment).starts config text then
    some (.ofRule .comment)
  else none

variable {config : Config}

theorem starts_of_layoutKind? {text : List Char} {kind : Kind}
    (h : layoutKind? config text = some kind) : kind.starts config text = true := by
  unfold layoutKind? at h
  split at h
  · cases h; assumption
  · split at h
    · cases h; assumption
    · split at h
      · cases h; simp_all
      · cases h

namespace Cursor

/-- A finding that reads a character where one is ahead shortens the text ahead. -/
theorem length_rest_read_lt {α : Type} {k : Cursor} {found : Finding α} (hne : k.rest ≠ [])
    (hpos : ∀ r, found = .ok r → 0 < r.length) :
    (k.read found).2.rest.length < k.rest.length := by
  have hlen : 0 < k.rest.length := List.length_pos_iff.mpr hne
  cases found with
  | error => simpa [read] using hlen
  | ok r =>
    have := hpos r rfl
    simp only [read, rest_advance, List.length_drop]
    omega

theorem length_rest_lex_lt {k : Cursor} {kind : Kind} (h : kind.starts config k.rest = true) :
    (k.lex config kind).2.rest.length < k.rest.length :=
  length_rest_read_lt (Kind.ne_nil_of_starts h) fun _ hr => Kind.length_pos_of_starts h hr

/-- Moves a cursor over all layout ahead, or to the end of the text if a block comment is not
closed. -/
def skip (config : Config) (k : Cursor) : Except ScanError Unit × Cursor :=
  match _h : layoutKind? config k.rest with
  | none => (.ok (), k)
  | some kind =>
    match (k.lex config kind).1 with
    | .ok _ => skip config (k.lex config kind).2
    | .error e => (.error e, (k.lex config kind).2)
termination_by k.rest.length
decreasing_by exact length_rest_lex_lt (starts_of_layoutKind? _h)

variable (config) in
theorem length_rest_skip_le (k : Cursor) : (k.skip config).2.rest.length ≤ k.rest.length := by
  fun_induction skip config k with
  | case1 => exact Nat.le_refl _
  | case2 k kind h _ _ ih =>
    exact Nat.le_trans ih (Nat.le_of_lt (length_rest_lex_lt (starts_of_layoutKind? h)))
  | case3 k kind h => exact Nat.le_of_lt (length_rest_lex_lt (starts_of_layoutKind? h))

end Cursor

end EcmaLex
