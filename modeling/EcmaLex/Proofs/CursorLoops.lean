import EcmaLex.Proofs.LayoutPieces

/-!
# Loops over a text

A scanner that looks one or two characters ahead finds runs, closing delimiters and layout by loops:
a round looks at what is ahead, and either moves the cursor and leaves the rest to the next round,
or ends the loop. Each of these loops stops with what the rules find, within one round more than
there are characters ahead, since a round that does not end it passes a character.

## Main definitions

* `EcmaLex.Loop.within` : the result of a loop that stops within a number of rounds.
* `EcmaLex.Cursor.runRound`, `EcmaLex.Cursor.blockRound`, `EcmaLex.Cursor.quoteRound`,
  `EcmaLex.Cursor.slashRound`, `EcmaLex.Cursor.skipRound` : one round of each loop.
* `EcmaLex.Cursor.LoopsStop` : the loops stop with what the rules find.

## Main results

* `EcmaLex.Loop.within_of_continue` : a loop whose rounds shorten a measure stops.
* `EcmaLex.Cursor.loopsStop` : all loops stop, wherever they start.
-/

namespace EcmaLex

/-! ### Loops -/

/-- The result of a loop that starts with `a`, if it stops within `n` rounds. A round gives the
state for the next round, or the result. -/
def Loop.within {α β : Type} (round : α → α ⊕ β) : Nat → α → Option β
  | 0, _ => none
  | n + 1, a =>
    match round a with
    | .inl a' => within round n a'
    | .inr b => some b

namespace Loop

variable {α β : Type} {round : α → α ⊕ β} {a a' : α} {b : β} {m n : Nat}

/-- A round that ends the loop. -/
theorem within_of_stop (h : round a = .inr b) (n : Nat) : within round (n + 1) a = some b := by
  rw [within, h]

/-- A loop that stops has no use for further rounds. -/
theorem within_mono (h : within round m a = some b) (hle : m ≤ n) : within round n a = some b := by
  induction m generalizing a n with
  | zero => cases h
  | succ m ih =>
    obtain ⟨n, rfl⟩ := Nat.exists_eq_add_of_le' (Nat.le_trans (Nat.succ_pos m) hle)
    rw [within] at h ⊢
    cases hround : round a with
    | inl a' =>
      rw [hround] at h
      exact ih h (Nat.le_of_succ_le_succ hle)
    | inr b' =>
      rw [hround] at h
      exact h

/-- A round that goes on, with fewer rounds to come. -/
theorem within_of_continue (h : round a = .inl a') (hlater : within round (m + 1) a' = some b)
    (hlt : m < n) : within round (n + 1) a = some b := by
  rw [within, h]
  exact within_mono hlater hlt

end Loop

namespace Cursor

variable {k : Cursor} {c : Char} {rest : List Char} {m : Nat}

/-! ### Rounds -/

/-- A round of the loop over characters that satisfy `p`. -/
def runRound (p : Char → Bool) (k : Cursor) : Cursor ⊕ Cursor :=
  if k.upcomingIf p then .inl k.take.2 else .inr k

/-- A round of the search for the delimiter that closes a block comment. The loop stops in front of
the delimiter, or at the end of the text, and tells which. -/
def blockRound (k : Cursor) : Cursor ⊕ (Bool × Cursor) :=
  if k.upcoming Grammar.blockClose then .inr (true, k)
  else
    match k.take with
    | (none, k) => .inr (false, k)
    | (some _, k) => .inl k

/-- A round of the search for the quote that closes a string: a backslash takes the character behind
it along. The loop stops behind the quote, or at the end of the text, and tells which. -/
def quoteRound (quote : Char) (k : Cursor) : Cursor ⊕ (Bool × Cursor) :=
  match k.take with
  | (none, k) => .inr (false, k)
  | (some c, k) =>
    if c = quote then .inr (true, k)
    else if c = '\\' then
      match k.take with
      | (none, k) => .inr (false, k)
      | (some _, k) => .inl k
    else .inl k

/-- A round of the search for the slash that closes a regular expression. The loop stops behind the
slash, or at the end of the text, and tells which. -/
def slashRound (k : Cursor) : Cursor ⊕ (Bool × Cursor) :=
  match k.take with
  | (none, k) => .inr (false, k)
  | (some c, k) => if c = '/' then .inr (true, k) else .inl k

/-- A round of the loop over pieces of layout. -/
def skipRound (config : Config) (k : Cursor) : Cursor ⊕ (Except ScanError Unit × Cursor) :=
  match layoutKind? config k.rest with
  | none => .inr (.ok (), k)
  | some kind =>
    match k.lex config kind with
    | (.ok _, k) => .inl k
    | (.error e, k) => .inr (.error e, k)

/-- Where a search ends that passes `n` characters up to what it looks for and with it, if that is
ahead; the search tells whether it is. -/
def searched (k : Cursor) : Option Nat → Bool × Cursor
  | some n => (true, k.advance n)
  | none => (false, k.finish)

/-- The loops that start at a cursor stop, within one round more than there are characters ahead,
with what the rules find. -/
structure LoopsStop (config : Config) (k : Cursor) : Prop where
  run : ∀ p, Loop.within (runRound p) (k.rest.length + 1) k = some (k.takeWhile p).2
  block : Loop.within blockRound (k.rest.length + 1) k =
    some (k.searched ((Grammar.blockText? k.rest).map List.length))
  /-- The units of a string, and the quote behind them. -/
  string : ∀ quote, Loop.within (quoteRound quote) (k.rest.length + 1) k =
    some (k.searched ((Grammar.stringUnits? quote k.rest).map fun units =>
      (units.flatMap Grammar.StringUnit.source).length + 1))
  /-- The characters of a regular expression, and the slash behind them. -/
  regularExpression : Loop.within slashRound (k.rest.length + 1) k =
    some (k.searched ((k.rest.idxOf? '/').map (· + 1)))
  skip : Loop.within (skipRound config) (k.rest.length + 1) k = some (k.skip config)

/-! ### What the loops find -/

theorem rest_advance_one (h : k.rest = c :: rest) : (k.advance 1).rest = rest := by
  rw [rest_advance, h, List.drop_one, List.tail_cons]

theorem take_of_rest_eq_cons (h : k.rest = c :: rest) : k.take = (some c, k.advance 1) := by
  rw [take, peek, h, List.head?_cons]

theorem take_of_rest_eq_nil (h : k.rest = []) : k.take = (none, k) := by
  rw [take, peek, h, List.head?_nil, k.advance_of_rest_eq_nil h]

theorem searched_none_of_rest_eq_nil (h : k.rest = []) : k.searched none = (false, k) :=
  congrArg (false, ·) (k.advance_of_rest_eq_nil h _)

/-- A search that goes on behind some characters passes these as well. -/
theorem searched_advance (hle : m ≤ k.rest.length) (n : Option Nat) :
    (k.advance m).searched n = k.searched (n.map (m + ·)) := by
  cases n with
  | some n => exact congrArg (true, ·) (k.advance_add m n).symm
  | none =>
    have hlen : (k.advance m).rest.length = k.rest.length - m := by
      rw [rest_advance, List.length_drop]
    refine congrArg (false, ·) ?_
    rw [finish, hlen, ← advance_add, Nat.add_sub_cancel' hle]
    rfl

theorem within_runRound (p : Char → Bool) (k : Cursor) :
    Loop.within (runRound p) (k.rest.length + 1) k = some (k.takeWhile p).2 := by
  induction hrest : k.rest generalizing k with
  | nil =>
    have hround : runRound p k = .inr k := by simp [runRound, upcomingIf, peek, hrest]
    rw [Loop.within_of_stop hround, takeWhile, hrest]
    rfl
  | cons c rest ih =>
    cases hc : p c with
    | false =>
      have hround : runRound p k = .inr k := by simp [runRound, upcomingIf, peek, hrest, hc]
      rw [Loop.within_of_stop hround, takeWhile, hrest, List.takeWhile_cons_of_neg (by simp [hc])]
      rfl
    | true =>
      have hround : runRound p k = .inl (k.advance 1) := by
        simp [runRound, upcomingIf, peek, hrest, hc, take]
      have hpast := rest_advance_one hrest
      refine Loop.within_of_continue hround (ih _ hpast) (Nat.lt_succ_self _) |>.trans ?_
      rw [takeWhile, takeWhile, hpast, hrest, List.takeWhile_cons_of_pos hc, List.length_cons,
        Nat.add_comm, advance_add]

/-- A round that passes some characters leaves the search to the next rounds. -/
theorem within_of_advance {round : Cursor → Cursor ⊕ (Bool × Cursor)} {found : Option Nat}
    {i j : Nat} (hle : m ≤ k.rest.length) (hround : round k = .inl (k.advance m))
    (hlater : Loop.within round (i + 1) (k.advance m) = some ((k.advance m).searched found))
    (hlt : i < j) : Loop.within round (j + 1) k = some (k.searched (found.map (m + ·))) := by
  rw [searched_advance hle] at hlater
  exact Loop.within_of_continue hround hlater hlt

theorem within_blockRound (k : Cursor) :
    Loop.within blockRound (k.rest.length + 1) k =
      some (k.searched ((Grammar.blockText? k.rest).map List.length)) := by
  induction hrest : k.rest generalizing k with
  | nil =>
    have hround : blockRound k = .inr (false, k) := by
      rw [blockRound, take_of_rest_eq_nil hrest]
      simp [upcoming, hrest, Grammar.blockClose]
    rw [Loop.within_of_stop hround]
    exact congrArg some (searched_none_of_rest_eq_nil hrest).symm
  | cons c rest ih =>
    by_cases hclose : Grammar.blockClose <+: c :: rest
    · have hround : blockRound k = .inr (true, k) := by
        rw [blockRound, upcoming, hrest, if_pos (List.isPrefixOf_iff_prefix.mpr hclose)]
      rw [Loop.within_of_stop hround, Grammar.blockText?,
        if_pos (Grammar.startsBlockClose_iff.mpr hclose)]
      rfl
    · have hround : blockRound k = .inl (k.advance 1) := by
        rw [blockRound, upcoming, hrest, take_of_rest_eq_cons hrest,
          if_neg fun h => hclose (List.isPrefixOf_iff_prefix.mp h)]
      have hlt : rest.length < (c :: rest).length := Nat.lt_succ_self _
      rw [within_of_advance (by simp [hrest]) hround (ih _ (rest_advance_one hrest)) hlt,
        Grammar.blockText?, if_neg fun h => hclose (Grammar.startsBlockClose_iff.mp h),
        Option.map_map, Option.map_map]
      exact congrArg (fun f => some (k.searched ((Grammar.blockText? rest).map f)))
        (funext fun body => Nat.add_comm 1 body.length)

theorem within_slashRound (k : Cursor) :
    Loop.within slashRound (k.rest.length + 1) k =
      some (k.searched ((k.rest.idxOf? '/').map (· + 1))) := by
  induction hrest : k.rest generalizing k with
  | nil =>
    have hround : slashRound k = .inr (false, k) := by rw [slashRound, take_of_rest_eq_nil hrest]
    rw [Loop.within_of_stop hround]
    exact congrArg some (searched_none_of_rest_eq_nil hrest).symm
  | cons c rest ih =>
    by_cases hc : c = '/'
    · have hround : slashRound k = .inr (true, k.advance 1) := by
        rw [slashRound, take_of_rest_eq_cons hrest]
        exact if_pos hc
      rw [Loop.within_of_stop hround, List.idxOf?_cons, if_pos (beq_iff_eq.mpr hc)]
      rfl
    · have hround : slashRound k = .inl (k.advance 1) := by
        rw [slashRound, take_of_rest_eq_cons hrest]
        exact if_neg hc
      have hlt : rest.length < (c :: rest).length := Nat.lt_succ_self _
      rw [within_of_advance (by simp [hrest]) hround (ih _ (rest_advance_one hrest)) hlt,
        List.idxOf?_cons, if_neg fun h => hc (beq_iff_eq.mp h), Option.map_map, Option.map_map]
      exact congrArg (fun f => some (k.searched ((rest.idxOf? '/').map f)))
        (funext fun n => Nat.add_comm 1 (n + 1))

theorem quoteRound_of_rest_eq_cons (quote : Char) (h : k.rest = c :: rest) :
    quoteRound quote k =
      if c = quote then .inr (true, k.advance 1)
      else if c = '\\' then
        match rest with
        | [] => .inr (false, k.advance 1)
        | _ :: _ => .inl (k.advance 2)
      else .inl (k.advance 1) := by
  rw [quoteRound, take_of_rest_eq_cons h]
  cases rest with
  | nil => simp only [take_of_rest_eq_nil (rest_advance_one h)]
  | cons d rest =>
    simp only [take_of_rest_eq_cons (rest_advance_one h)]
    rw [← advance_add]

theorem within_quoteRound_of_rest_eq_nil (quote : Char) (h : k.rest = []) :
    Loop.within (quoteRound quote) 1 k = some (k.searched none) := by
  have hround : quoteRound quote k = .inr (false, k) := by rw [quoteRound, take_of_rest_eq_nil h]
  rw [Loop.within_of_stop hround, searched_none_of_rest_eq_nil h]

theorem within_quoteRound (quote : Char) (k : Cursor) :
    Loop.within (quoteRound quote) (k.rest.length + 1) k =
      some (k.searched ((Grammar.stringUnits? quote k.rest).map fun units =>
        (units.flatMap Grammar.StringUnit.source).length + 1)) := by
  generalize hrest : k.rest = text
  fun_induction Grammar.stringUnits? quote text generalizing k with
  | case1 => exact within_quoteRound_of_rest_eq_nil quote hrest
  | case2 =>
    have hround : quoteRound quote k = .inr (true, k.advance 1) := by
      rw [quoteRound_of_rest_eq_cons quote hrest, if_pos rfl]
    exact Loop.within_of_stop hround _
  | case3 c hc =>
    have hround := quoteRound_of_rest_eq_cons quote hrest
    rw [if_neg hc] at hround
    by_cases hslash : c = '\\'
    · rw [if_pos hslash] at hround
      have hfinish : k.finish = k.advance 1 := by
        rw [finish, hrest]
        rfl
      rw [Loop.within_of_stop hround, Option.map_none, searched, hfinish]
    · rw [if_neg hslash] at hround
      have hend := within_quoteRound_of_rest_eq_nil quote (rest_advance_one hrest)
      exact within_of_advance (by simp [hrest]) hround hend (Nat.lt_succ_self 0)
  | case4 d rest =>
    have hround : quoteRound quote k = .inr (true, k.advance 1) := by
      rw [quoteRound_of_rest_eq_cons quote hrest, if_pos rfl]
    exact Loop.within_of_stop hround _
  | case5 d rest hquote ih =>
    have hround : quoteRound quote k = .inl (k.advance 2) := by
      rw [quoteRound_of_rest_eq_cons quote hrest, if_neg hquote, if_pos rfl]
    have hpast : (k.advance 2).rest = rest := by
      rw [rest_advance, hrest]
      rfl
    have hlt : rest.length < ('\\' :: d :: rest).length := Nat.lt_add_of_pos_right Nat.two_pos
    rw [within_of_advance (by simp [hrest]) hround (ih _ hpast) hlt, Option.map_map, Option.map_map]
    refine congrArg (fun f => some (k.searched ((Grammar.stringUnits? quote rest).map f)))
      (funext fun units => ?_)
    simp only [Function.comp_apply, List.flatMap_cons, Grammar.StringUnit.source,
      List.length_append, List.length_cons, List.length_nil]
    omega
  | case6 c d rest hquote hslash ih =>
    have hround : quoteRound quote k = .inl (k.advance 1) := by
      rw [quoteRound_of_rest_eq_cons quote hrest, if_neg hquote, if_neg hslash]
    have hlt : (d :: rest).length < (c :: d :: rest).length := Nat.lt_succ_self _
    rw [within_of_advance (by simp [hrest]) hround (ih _ (rest_advance_one hrest)) hlt,
      Option.map_map, Option.map_map]
    refine congrArg (fun f => some (k.searched ((Grammar.stringUnits? quote (d :: rest)).map f)))
      (funext fun units => ?_)
    simp only [Function.comp_apply, List.flatMap_cons, Grammar.StringUnit.source,
      List.length_append, List.length_cons, List.length_nil]
    omega

theorem within_skipRound (config : Config) (k : Cursor) :
    Loop.within (skipRound config) (k.rest.length + 1) k = some (k.skip config) := by
  fun_induction skip config k with
  | case1 k hnone =>
    have hround : skipRound config k = .inr (.ok (), k) := by rw [skipRound, hnone]
    exact Loop.within_of_stop hround _
  | case2 k kind hkind lexed hlex ih =>
    have hround : skipRound config k = .inl (k.lex config kind).2 := by
      rw [skipRound, hkind]
      dsimp only
      rw [← Prod.eta (k.lex config kind), hlex]
    exact Loop.within_of_continue hround ih (length_rest_lex_lt (starts_of_layoutKind? hkind))
  | case3 k kind hkind e hlex =>
    have hround : skipRound config k = .inr (.error e, (k.lex config kind).2) := by
      rw [skipRound, hkind]
      dsimp only
      rw [← Prod.eta (k.lex config kind), hlex]
    exact Loop.within_of_stop hround _

/-- **All loops stop**, wherever they start and whatever the configuration is. -/
theorem loopsStop (config : Config) (k : Cursor) : k.LoopsStop config where
  run p := within_runRound p k
  block := within_blockRound k
  string quote := within_quoteRound quote k
  regularExpression := within_slashRound k
  skip := within_skipRound config k

end Cursor

end EcmaLex
