import EcmaLex.Proofs.TokenPieces

/-!
# Tokens of the front of a text

A scanner looks one character further than what it takes. So a token that ends strictly before a
place in the text, with its position, does not depend on what stands behind this place: the texts
that agree up to there have the same tokens that end before it, and the front of the text by itself
has them as well. Behind them the tokens may differ, and a failure may come earlier or later.

Two cursors agree on a text when they stand at one place and both have this text ahead. While a
character of the text is left, they pass the same pieces and go on to agree.

## Main definitions

* `EcmaLex.Cursor.Agree` : two cursors at one place with the same text ahead.
* `EcmaLex.Run.tokensBefore` : the tokens of a run that end before a byte offset.

## Main results

* `EcmaLex.Scanner.Reads.exists_of_agree` : scanners that agree read the same token.
* `EcmaLex.Scanner.tokensBefore_run_of_agree` : scanners that agree give the same tokens.
* `EcmaLex.Scanner.tokensBefore_of_front` : the tokens of the front of a text.
-/

namespace EcmaLex

/-! ### Cursors that agree -/

/-- Two cursors stand at one place, and both have the text `front` ahead, with anything behind. -/
structure Cursor.Agree (front : List Char) (k k' : Cursor) : Prop where
  front_left : front <+: k.rest
  front_right : front <+: k'.rest
  offset_eq : k.offset = k'.offset
  position_eq : k.position = k'.position

namespace Cursor.Agree

variable {k k' j : Cursor} {front piece : List Char}

theorem symm (h : Agree front k k') : Agree front k' k :=
  ⟨h.front_right, h.front_left, h.offset_eq.symm, h.position_eq.symm⟩

/-- The next character is the same. -/
theorem head?_eq (h : Agree front k k') (hne : front ≠ []) : k.rest.head? = k'.rest.head? := by
  obtain ⟨c, front, rfl⟩ := List.exists_cons_of_ne_nil hne
  obtain ⟨back, hback⟩ := h.front_left
  obtain ⟨back', hback'⟩ := h.front_right
  rw [← hback, ← hback']
  rfl

/-- Cursors that agree pass the same pieces, as long as a character is left to look at. -/
theorem exists_passes (h : Agree (piece ++ front) k k') (hne : front ≠ [])
    (hpass : k.Passes piece j) : ∃ j', k'.Passes piece j' ∧ Agree front j j' := by
  induction piece generalizing k k' with
  | nil =>
    obtain rfl : k = j := hpass.advance_eq
    exact ⟨k', .refl k', h⟩
  | cons c piece ih =>
    obtain ⟨back, hback⟩ := h.front_left
    obtain ⟨back', hback'⟩ := h.front_right
    have hrest : k.rest = c :: (piece ++ front ++ back) := hback.symm
    have hrest' : k'.rest = c :: (piece ++ front ++ back') := hback'.symm
    -- whether a carriage return ends a line is told by the character behind it
    have hhead : (piece ++ front ++ back).head? = (piece ++ front ++ back').head? := by
      obtain ⟨d, more, hmore⟩ :=
        List.exists_cons_of_ne_nil (List.append_ne_nil_of_right_ne_nil piece hne)
      rw [hmore]
      rfl
    have hnext : Agree (piece ++ front) (k.past c (piece ++ front ++ back))
        (k'.past c (piece ++ front ++ back')) := by
      refine ⟨⟨back, rfl⟩, ⟨back', rfl⟩, congrArg (· + c.utf8Size) h.offset_eq, ?_⟩
      simp only [past, hhead, h.position_eq]
    obtain ⟨j', hpass', hagree⟩ := ih hnext ((Passes.cons_iff hrest).mp hpass)
    exact ⟨j', (Passes.cons_iff hrest').mpr hpass', hagree⟩

end Cursor.Agree

/-- What a cursor passes to end strictly before the end of a text ahead is part of this text. -/
theorem Cursor.Passes.exists_front_eq {k j : Cursor} {front piece : List Char}
    (hpass : k.Passes piece j) (hfront : front <+: k.rest)
    (hlt : j.offset < k.offset + Text.byteLength front) :
    ∃ left, left ≠ [] ∧ front = piece ++ left ∧
      k.offset + Text.byteLength front = j.offset + Text.byteLength left := by
  rw [hpass.offset_eq] at hlt ⊢
  have hpiece : piece <+: k.rest := ⟨j.rest, hpass.rest_eq.symm⟩
  rcases List.prefix_or_prefix_of_prefix hfront hpiece with ⟨more, rfl⟩ | ⟨left, rfl⟩
  · rw [Text.byteLength_append] at hlt
    omega
  · refine ⟨left, ?_, rfl, ?_⟩
    · rintro rfl
      simp at hlt
    · rw [Text.byteLength_append, Nat.add_assoc]

/-- The tokens of a run that end before a byte offset. -/
def Run.tokensBefore (limit : Nat) (r : Run) : List Token :=
  r.tokens.filter (·.span.stop < limit)

namespace Scanner

variable {s s' : Scanner} {goal : Goal} {gap raw front : List Char} {form : Form} {k k' : Cursor}
  {limit : Nat} {t : Token}

/-! ### Steps of scanners that agree -/

/-- Scanners that agree on a text read the same token if it ends strictly before the end of the
text, and go on to agree on what is left of it. -/
theorem Reads.exists_of_agree (h : s.Reads goal gap raw form k k')
    (hagree : Cursor.Agree front s.cursor s'.cursor) (hconfig : s.config = s'.config)
    (hlt : k'.offset < s.cursor.offset + Text.byteLength front) :
    ∃ left j j', s'.Reads goal gap raw form j j' ∧ k.position = j.position ∧
      k.offset = j.offset ∧ Cursor.Agree left k' j' ∧
      s.cursor.offset + Text.byteLength front = k'.offset + Text.byteLength left := by
  obtain ⟨left, hleft, rfl, hlimit⟩ :=
    (h.gap_passes.trans h.raw_passes).exists_front_eq hagree.front_left hlt
  rw [List.append_assoc] at hagree
  have hrawleft : raw ++ left ≠ [] := List.append_ne_nil_of_right_ne_nil _ hleft
  obtain ⟨j, hgap, hfront⟩ := hagree.exists_passes hrawleft h.gap_passes
  obtain ⟨j', hraw, hbehind⟩ := hfront.exists_passes hleft h.raw_passes
  refine ⟨left, j, j', ⟨hgap, ?_, hraw, ?_⟩, hfront.position_eq, hfront.offset_eq, hbehind, hlimit⟩
  · rw [← hconfig]
    exact h.layout.congr fun c hc => hfront.head?_eq hrawleft ▸ hc
  · rw [← hconfig]
    exact h.piece.congr fun c hc => .inl (hbehind.head?_eq hleft ▸ hc)

/-- A step that gives a token that ends strictly before the end of a text is made by every scanner
that agrees on this text, over the same piece of it. -/
theorem next_of_agree (hagree : Cursor.Agree front s.cursor s'.cursor)
    (hconfig : s.config = s'.config) (h : (s.next goal).1 = .ok t) (ht : t.isEof = false)
    (hlt : t.span.stop < s.cursor.offset + Text.byteLength front) :
    ∃ piece left, (s'.next goal).1 = .ok t ∧
      s.cursor.Passes piece (s.next goal).2.cursor ∧
      s'.cursor.Passes piece (s'.next goal).2.cursor ∧
      Cursor.Agree left (s.next goal).2.cursor (s'.next goal).2.cursor ∧
      s.cursor.offset + Text.byteLength front =
        (s.next goal).2.cursor.offset + Text.byteLength left := by
  obtain ⟨gap, raw, form, k, k', hreads⟩ := exists_reads_of_next h ht
  rw [hreads.next_eq] at h ⊢
  cases h
  obtain ⟨left, j, j', hreads', hposition, hoffset, hbehind, hlimit⟩ :=
    hreads.exists_of_agree hagree hconfig hlt
  rw [hreads'.next_eq]
  refine ⟨gap ++ raw, left, ?_, hreads.gap_passes.trans hreads.raw_passes,
    hreads'.gap_passes.trans hreads'.raw_passes, hbehind, hlimit⟩
  simp only [token, position, cursor_moveTo, config_moveTo, hposition, hoffset,
    hbehind.offset_eq, hbehind.position_eq, hconfig]

/-! ### Runs of scanners that agree -/

/-- Where the next token does not end before a place, no token of the run does. -/
theorem tokensBefore_run_eq_nil
    (h : ∀ t, (s.next goal).1 = .ok t → t.isEof = false → limit ≤ t.span.stop) :
    (s.run goal).tokensBefore limit = [] := by
  refine List.filter_eq_nil_iff.mpr fun t ht => ?_
  rw [decide_eq_true_iff, Nat.not_lt]
  rw [run] at ht
  split at ht
  · cases ht
  · rename_i t' ht'
    split at ht
    · cases ht
    · rename_i heof
      have hle := h t' ht' (Bool.eq_false_iff.mpr heof)
      obtain rfl | ht := List.mem_cons.mp ht
      · exact hle
      · rw [span_stop_eq_of_next ht'] at hle
        exact Nat.le_trans hle (offset_le_of_mem_run ht)

theorem tokensBefore_run_of_token (h : (s.next goal).1 = .ok t) (ht : t.isEof = false)
    (hlt : t.span.stop < limit) :
    (s.run goal).tokensBefore limit = t :: ((s.next goal).2.run goal).tokensBefore limit := by
  rw [run_of_token h ht]
  exact List.filter_cons_of_pos (decide_eq_true hlt)

/-- The tokens that end before a place come first in a run. -/
theorem tokensBefore_run_prefix_tokens (goal : Goal) (s : Scanner) (limit : Nat) :
    (s.run goal).tokensBefore limit <+: (s.run goal).tokens := by
  by_cases hnext : ∃ t, (s.next goal).1 = .ok t ∧ t.isEof = false ∧ t.span.stop < limit
  · obtain ⟨t, ht, heof, hlt⟩ := hnext
    rw [tokensBefore_run_of_token ht heof hlt, run_of_token ht heof]
    exact (List.prefix_cons_inj t).mpr (tokensBefore_run_prefix_tokens goal (s.next goal).2 limit)
  · rw [tokensBefore_run_eq_nil fun t ht heof =>
      Nat.le_of_not_lt fun hlt => hnext ⟨t, ht, heof, hlt⟩]
    exact List.nil_prefix
termination_by s.cursor.rest.length
decreasing_by exact length_rest_next_lt ht heof

/-- **Scanners that agree on a text give the same tokens** that end strictly before the end of this
text. -/
theorem tokensBefore_run_of_agree {s s' : Scanner} {front : List Char}
    (hagree : Cursor.Agree front s.cursor s'.cursor) (hconfig : s.config = s'.config)
    (hlimit : s.cursor.offset + Text.byteLength front = limit) :
    (s.run goal).tokensBefore limit = (s'.run goal).tokensBefore limit := by
  by_cases hnext : ∃ t, (s.next goal).1 = .ok t ∧ t.isEof = false ∧ t.span.stop < limit
  · obtain ⟨t, ht, heof, hlt⟩ := hnext
    obtain ⟨-, left, ht', -, -, hafter, hleft⟩ :=
      next_of_agree hagree hconfig ht heof (Nat.lt_of_lt_of_eq hlt hlimit.symm)
    have hconfig' : (s.next goal).2.config = (s'.next goal).2.config := by
      rw [config_next, config_next, hconfig]
    rw [tokensBefore_run_of_token ht heof hlt, tokensBefore_run_of_token ht' heof hlt,
      tokensBefore_run_of_agree hafter hconfig' (hleft.symm.trans hlimit)]
  · -- a token of the second scanner that ends before there would be one of the first
    have hnone : ∀ t, (s.next goal).1 = .ok t → t.isEof = false → limit ≤ t.span.stop :=
      fun t ht heof => Nat.le_of_not_lt fun hlt => hnext ⟨t, ht, heof, hlt⟩
    have hnone' : ∀ t, (s'.next goal).1 = .ok t → t.isEof = false → limit ≤ t.span.stop := by
      refine fun t ht heof => Nat.le_of_not_lt fun hlt => ?_
      rw [hagree.offset_eq] at hlimit
      obtain ⟨-, -, ht', -⟩ := next_of_agree hagree.symm hconfig.symm ht heof
        (Nat.lt_of_lt_of_eq hlt hlimit.symm)
      exact hnext ⟨t, ht', heof, hlt⟩
    rw [tokensBefore_run_eq_nil hnone, tokensBefore_run_eq_nil hnone']
termination_by s.cursor.rest.length
decreasing_by exact length_rest_next_lt ht heof

/-- **The front of a text has the same tokens.** The tokens of a text that end strictly before the
end of its front come first when the front is scanned by itself, and they are the same whatever
stands behind the front. -/
theorem tokensBefore_of_front (front back : String) (config : Config) (goal : Goal) :
    let limit := Text.byteLength front.toList
    ((ofString (front ++ back) config).run goal).tokensBefore limit <+:
        ((ofString front config).run goal).tokens ∧
      ∀ other : String, ((ofString (front ++ other) config).run goal).tokensBefore limit =
        ((ofString (front ++ back) config).run goal).tokensBefore limit := by
  have hsame : ∀ text text' : String, front.toList <+: text.toList →
      front.toList <+: text'.toList →
      ((ofString text config).run goal).tokensBefore (Text.byteLength front.toList) =
        ((ofString text' config).run goal).tokensBefore (Text.byteLength front.toList) :=
    fun text text' h h' =>
      tokensBefore_run_of_agree ⟨h, h', rfl, rfl⟩ rfl (Nat.zero_add _)
  have hfront : ∀ other : String, front.toList <+: (front ++ other).toList := fun other => by
    rw [String.toList_append]
    exact List.prefix_append _ _
  refine ⟨?_, fun other => hsame _ _ (hfront other) (hfront back)⟩
  rw [hsame _ front (hfront back) (List.prefix_refl _)]
  exact tokensBefore_run_prefix_tokens goal (ofString front config) _

end Scanner

end EcmaLex
