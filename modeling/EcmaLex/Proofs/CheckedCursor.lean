import EcmaLex.Proofs.CursorLoops
import EcmaLex.Proofs.LineColumn
import Mathlib.Data.List.TakeWhile

/-!
# Checked movement of a cursor

A cursor keeps three counts in 64 bits and cuts texts out of the whole text at byte offsets. A
checked operation does both with care: it fails where a sum does not fit or where an offset is not
between two characters of the text. In a text of less than `2 ^ 63` bytes no checked operation ever
fails, and each gives what the operation gives that does not check.

This rests on one bound: the lines ended and the columns counted are together no more than the
characters that the cursor has passed, and these are no more than its byte offset.

## Main definitions

* `EcmaLex.add?` : sums in 64 bits.
* `EcmaLex.Cursor.Bounded` : a cursor between two characters of a text, with its counts in bounds.
* `EcmaLex.Cursor.take?`, `EcmaLex.Cursor.takeN?`, `EcmaLex.Cursor.takeWhile?`,
  `EcmaLex.Cursor.lex?`, `EcmaLex.Cursor.skip?` : the checked operations.

## Main results

* `EcmaLex.Cursor.Passes.bounded` : a cursor that has moved from the start of a text is bounded.
* `EcmaLex.Cursor.Passes.lex?_eq_some`, `EcmaLex.Cursor.Passes.skip?_eq_some` : no rule fails, and
  skipping does not.
-/

namespace EcmaLex

/-! ### Checked operations -/

/-- The sum of two counts, if 64 bits hold it. -/
def add? (m n : Nat) : Option Nat := if m + n < 2 ^ 64 then some (m + n) else none

/-- The position behind the character `c`, if 64 bits hold its line and its column. -/
def Position.after? (p : Position) (c : Char) (next : Option Char) : Option Position :=
  if endsLine c next then (add? p.line 1).map fun line => ⟨line, 0⟩
  else (add? p.column 1).map fun column => ⟨p.line, column⟩

/-- The value of a digit by its byte, if the byte is that of a digit. -/
def Grammar.digitValue? (byte : UInt8) : Option Float :=
  if '0'.toNat ≤ byte.toNat ∧ byte.toNat ≤ '9'.toNat then
    some (Float.ofNat (byte.toNat - '0'.toNat))
  else none

/-- The value of a run of digits by its bytes. -/
def Grammar.decimalValue? (digits : List Char) : Option Float :=
  (digits.flatMap String.utf8EncodeChar).foldlM
    (fun value byte => (digitValue? byte).map fun digit => 10.0 * value + digit) 0.0

/-- What a rule for tokens finds, with the digits of numbers checked. -/
def Rule.read? (config : Config) (rule : Rule) (text : List Char) : Option (Finding Form) :=
  match rule with
  | decimal =>
    let digits := text.takeWhile isDigit
    (Grammar.decimalValue? digits).map fun value => .ok ⟨digits.length, .decimal value⟩
  | rule => some (rule.read config text)

/-- What a rule finds, with the digits of numbers checked. -/
def Kind.read? (config : Config) (kind : Kind) (text : List Char) :
    Option (Finding (Option Form)) :=
  match kind with
  | ofRule rule => (rule.read? config text).map fun found => found.map (·.map some)
  | kind => some (kind.read config text)

namespace Cursor

/-- The text ahead, cut out of the whole text at the byte offset. -/
def rest? (text : List Char) (k : Cursor) : Option (List Char) :=
  Text.slice? text k.offset (Text.byteLength text)

/-- The next character, and the cursor behind it. -/
def take? (text : List Char) (k : Cursor) : Option (Option Char × Cursor) := do
  match ← k.rest? text with
  | [] => return (none, k)
  | c :: _ =>
    let offset ← add? k.offset c.utf8Size
    let rest ← rest? text { k with offset := offset }
    let position ← k.position.after? c rest.head?
    return (some c, ⟨rest, offset, position⟩)

/-- The cursor behind the next `n` characters, taken one by one. -/
def advance? (text : List Char) (k : Cursor) : Nat → Option Cursor
  | 0 => some k
  | n + 1 => do
    match ← k.take? text with
    | (none, k) => return k
    | (some _, k) => advance? text k n

/-- The next `n` characters, cut out of the whole text, and the cursor behind them. -/
def takeN? (text : List Char) (k : Cursor) (n : Nat) : Option (List Char × Cursor) := do
  let k' ← k.advance? text n
  let taken ← Text.slice? text k.offset k'.offset
  return (taken, k')

/-- The longest run of characters ahead that satisfy `p`, cut out of the whole text, and the cursor
behind it. -/
def takeWhile? (text : List Char) (k : Cursor) (p : Char → Bool) :
    Option (List Char × Cursor) := do
  let rest ← k.rest? text
  k.takeN? text (rest.takeWhile p).length

/-- Moves a cursor over what a rule finds ahead of it, or to the end of the text. -/
def read? {α : Type} (text : List Char) (k : Cursor) (found : Finding α) :
    Option (Except ScanError (Lexed α) × Cursor) :=
  match found with
  | .ok r => do
    let (_, k') ← k.takeN? text r.length
    return (.ok ⟨r.value, k'.spanFrom k.offset⟩, k')
  | .error construct => do
    let rest ← k.rest? text
    let k' ← k.advance? text (rest.length + 1)
    return (.error ⟨construct, k.position⟩, k')

/-- Moves a cursor over what one rule finds. -/
def lex? (text : List Char) (config : Config) (kind : Kind) (k : Cursor) :
    Option (Except ScanError (Lexed (Option Form)) × Cursor) := do
  let rest ← k.rest? text
  let found ← kind.read? config rest
  k.read? text found

/-- Moves a cursor over all layout ahead, which ends within `n` rounds. -/
def skip? (text : List Char) (config : Config) :
    Nat → Cursor → Option (Except ScanError Unit × Cursor)
  | 0, _ => none
  | n + 1, k => do
    let rest ← k.rest? text
    match layoutKind? config rest with
    | none => return (.ok (), k)
    | some kind =>
      match ← k.lex? text config kind with
      | (.ok _, k) => skip? text config n k
      | (.error e, k) => return (.error e, k)

end Cursor

/-! ### Digits -/

namespace Grammar

theorem toNat_mem_of_isDigit {c : Char} (h : isDigit c = true) :
    '0'.toNat ≤ c.toNat ∧ c.toNat ≤ '9'.toNat := by
  simpa [isDigit, Char.isDigit, UInt32.le_iff_toNat_le] using h

/-- A digit takes one byte, its code point. -/
theorem exists_utf8EncodeChar_of_isDigit {c : Char} (h : isDigit c = true) :
    ∃ byte, String.utf8EncodeChar c = [byte] ∧ byte.toNat = c.toNat := by
  obtain ⟨-, hle⟩ := toNat_mem_of_isDigit h
  have hascii : c.toNat ≤ 127 := Nat.le_trans hle (by decide)
  have hsize : c.utf8Size = 1 := Char.utf8Size_eq_one_iff.mpr (UInt32.le_iff_toNat_le.mpr hascii)
  refine ⟨c.val.toUInt8, String.utf8EncodeChar_eq_singleton hsize, ?_⟩
  rw [UInt32.toNat_toUInt8]
  exact Nat.mod_eq_of_lt (Nat.lt_of_le_of_lt hascii (by decide))

theorem foldlM_digitValue? {digits : List Char} (h : ∀ c ∈ digits, isDigit c = true) (x : Float) :
    (digits.flatMap String.utf8EncodeChar).foldlM
      (fun value byte => (digitValue? byte).map fun digit => 10.0 * value + digit) x =
      some (digits.foldl (fun value c => 10.0 * value + digitValue c) x) := by
  induction digits generalizing x with
  | nil => rfl
  | cons c digits ih =>
    obtain ⟨hc, hdigits⟩ := List.forall_mem_cons.mp h
    obtain ⟨byte, hencode, hbyte⟩ := exists_utf8EncodeChar_of_isDigit hc
    have hvalue : digitValue? byte = some (digitValue c) := by
      rw [digitValue?, digitValue, hbyte, if_pos (toNat_mem_of_isDigit hc)]
    rw [List.flatMap_cons, hencode, List.singleton_append, List.foldlM_cons, hvalue]
    exact ih hdigits _

/-- All bytes of a run of digits are those of digits. -/
theorem decimalValue?_eq_some {digits : List Char} (h : ∀ c ∈ digits, isDigit c = true) :
    decimalValue? digits = some (decimalValue digits) :=
  foldlM_digitValue? h 0.0

end Grammar

theorem Rule.read?_eq_some (config : Config) (rule : Rule) (text : List Char) :
    rule.read? config text = some (rule.read config text) := by
  cases rule with
  | decimal =>
    rw [read?, Grammar.decimalValue?_eq_some fun c hc => List.mem_takeWhile_imp hc]
    rfl
  | _ => rfl

theorem Kind.read?_eq_some (config : Config) (kind : Kind) (text : List Char) :
    kind.read? config text = some (kind.read config text) := by
  cases kind with
  | ofRule rule => exact congrArg (Option.map _) (rule.read?_eq_some config text)
  | _ => rfl

/-! ### Bounds -/

theorem Position.after?_eq_some {p : Position} (hline : p.line + 1 < 2 ^ 64)
    (hcolumn : p.column + 1 < 2 ^ 64) (c : Char) (next : Option Char) :
    p.after? c next = some (p.after c next) := by
  rw [after?, after, add?, if_pos hline, add?, if_pos hcolumn]
  split <;> rfl

namespace Cursor

/-- A cursor between two characters of a text, `behind` in front of it: its offset is in the text,
lines and columns together are no more than the characters behind it, and these are no more than
the bytes. -/
structure Bounded (text behind : List Char) (k : Cursor) : Prop where
  splitBytes?_eq : Text.splitBytes? text k.offset = some (behind, k.rest)
  offset_le : k.offset ≤ Text.byteLength text
  line_pos : 0 < k.position.line
  counts_le : k.position.line - 1 + k.position.column ≤ behind.length
  length_le : behind.length ≤ k.offset

namespace Passes

variable {source : String} {behind : List Char} {k : Cursor}

/-- **A cursor that has moved from the start of a text is bounded.** -/
theorem bounded (h : (ofString source).Passes behind k) : k.Bounded source.toList behind := by
  have hoffset := h.offset_eq_byteLength
  have htext := h.toList_eq
  refine ⟨?_, ?_, ?_, ?_, ?_⟩
  · rw [hoffset, htext]
    exact Text.splitBytes?_append behind k.rest
  · rw [hoffset, htext, Text.byteLength_append]
    exact Nat.le_add_right _ _
  · rw [h.position_eq_place]
    exact Nat.lt_add_right _ Nat.one_pos
  · rw [h.position_eq_place]
    exact Text.counts_place_le source.toList behind.length
  · rw [hoffset]
    exact Text.length_le_byteLength behind

/-! ### No operation fails -/

/-- The slice from the cursor to the end is the text ahead. -/
theorem rest?_eq_some (h : (ofString source).Passes behind k) :
    k.rest? source.toList = some k.rest := by
  have hslice := h.slice?_eq_some (finish k)
  have hend : k.finish.offset = Text.byteLength source.toList := by
    rw [(finish k).offset_eq, h.offset_eq_byteLength, h.toList_eq, Text.byteLength_append]
  rwa [hend] at hslice

/-- What a cursor passes can be cut out of the text, and so can every part of it. -/
theorem slice?_advance (h : (ofString source).Passes behind k) {m n : Nat} (hle : m ≤ n) :
    Text.slice? source.toList (k.advance m).offset (k.advance n).offset =
      some ((k.rest.take n).drop m) := by
  obtain ⟨i, rfl⟩ := Nat.exists_eq_add_of_le hle
  rw [advance_add, (h.trans (advance k m)).slice?_eq_some (advance (k.advance m) i), rest_advance,
    List.take_drop]

variable (hsize : Text.byteLength source.toList < 2 ^ 63)

include hsize

theorem take?_eq_some (h : (ofString source).Passes behind k) :
    k.take? source.toList = some k.take := by
  cases hrest : k.rest with
  | nil =>
    rw [take?, h.rest?_eq_some, hrest, take_of_rest_eq_nil hrest]
    rfl
  | cons c rest =>
    have hpast : k.advance 1 = k.past c rest := k.advance_succ hrest 0
    have hnext := h.trans ((cons_iff hrest).mpr (refl (k.past c rest)))
    have hcounts := Nat.le_trans h.bounded.counts_le
      (Nat.le_trans h.bounded.length_le h.bounded.offset_le)
    have hsum : k.offset + c.utf8Size < 2 ^ 64 := by
      have hle : k.offset + c.utf8Size ≤ Text.byteLength source.toList := hnext.bounded.offset_le
      omega
    have hposition : k.position.after? c rest.head? = some (k.position.after c rest.head?) :=
      Position.after?_eq_some (by omega) (by omega) c _
    -- a slice looks at the offset alone, whatever the cursor had ahead before
    have hahead : ∀ stale, rest? source.toList ⟨stale, k.offset + c.utf8Size, k.position⟩ =
        some rest := fun _ => hnext.rest?_eq_some
    rw [take?, h.rest?_eq_some, hrest, take_of_rest_eq_cons hrest, hpast]
    simp only [Option.bind_eq_bind, Option.bind_some, add?, if_pos hsum, hahead, hposition]
    rfl

theorem advance?_eq_some (h : (ofString source).Passes behind k) (n : Nat) :
    k.advance? source.toList n = some (k.advance n) := by
  induction n generalizing k behind with
  | zero => rfl
  | succ n ih =>
    rw [advance?, h.take?_eq_some hsize]
    cases hrest : k.rest with
    | nil =>
      rw [take_of_rest_eq_nil hrest, k.advance_of_rest_eq_nil hrest]
      rfl
    | cons c rest =>
      rw [take_of_rest_eq_cons hrest, Nat.add_comm, k.advance_add]
      exact ih (h.trans (advance k 1))

theorem takeN?_eq_some (h : (ofString source).Passes behind k) (n : Nat) :
    k.takeN? source.toList n = some (k.takeN n) := by
  rw [takeN?, h.advance?_eq_some hsize]
  simp only [Option.bind_eq_bind, Option.bind_some, h.slice?_eq_some (advance k n)]
  rfl

theorem takeWhile?_eq_some (h : (ofString source).Passes behind k) (p : Char → Bool) :
    k.takeWhile? source.toList p = some (k.takeWhile p) := by
  have hrun : k.rest.take (k.rest.takeWhile p).length = k.rest.takeWhile p :=
    (List.prefix_iff_eq_take.mp (List.takeWhile_prefix p)).symm
  rw [takeWhile?, h.rest?_eq_some]
  simp only [Option.bind_eq_bind, Option.bind_some, h.takeN?_eq_some hsize]
  rw [takeN, hrun]
  rfl

theorem read?_eq_some {α : Type} (h : (ofString source).Passes behind k) (found : Finding α) :
    k.read? source.toList found = some (k.read found) := by
  cases found with
  | ok r =>
    rw [read?, h.takeN?_eq_some hsize]
    rfl
  | error construct =>
    have hend : k.advance (k.rest.length + 1) = k.finish := by
      rw [advance_add]
      exact advance_of_rest_eq_nil _ k.rest_finish 1
    rw [read?, h.rest?_eq_some]
    simp only [Option.bind_eq_bind, Option.bind_some, h.advance?_eq_some hsize, hend]
    rfl

/-- **No rule fails**, whether or not it applies. -/
theorem lex?_eq_some (h : (ofString source).Passes behind k) (config : Config) (kind : Kind) :
    k.lex? source.toList config kind = some (k.lex config kind) := by
  rw [lex?, h.rest?_eq_some]
  simp only [Option.bind_eq_bind, Option.bind_some, kind.read?_eq_some, h.read?_eq_some hsize]
  rfl

/-- **Skipping does not fail**, and it ends within one round more than there are characters
ahead. -/
theorem skip?_eq_some (h : (ofString source).Passes behind k) (config : Config) {n : Nat}
    (hn : k.rest.length < n) : k.skip? source.toList config n = some (k.skip config) := by
  -- each round leaves fewer characters ahead than rounds to come
  induction n generalizing k behind with
  | zero => exact absurd hn (Nat.not_lt_zero _)
  | succ n ih =>
    rw [skip?, h.rest?_eq_some]
    simp only [Option.bind_eq_bind, Option.bind_some]
    cases hkind : layoutKind? config k.rest with
    | none =>
      rw [skip_of_layoutKind?_eq_none hkind]
      rfl
    | some kind =>
      simp only [h.lex?_eq_some hsize, Option.bind_some, Cursor.lex]
      cases hread : kind.read config k.rest with
      | ok r =>
        have hlt := length_rest_advance_lt hkind hread
        rw [skip_of_read_eq_ok hkind hread]
        exact ih (h.trans (advance k r.length)) (Nat.lt_of_lt_of_le hlt (Nat.le_of_lt_succ hn))
      | error construct =>
        rw [skip_of_read_eq_error hkind hread]
        rfl

end Passes

end Cursor

end EcmaLex
