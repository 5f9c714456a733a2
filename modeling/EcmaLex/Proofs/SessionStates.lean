import EcmaLex.Proofs.ScannerStep
import EcmaLex.Scanner.Session

/-!
# States of a session

Every call of a scanner is made of steps, so it takes the scanner further on in its text and leaves
the configuration as it is. A session makes any calls, keeps states and returns to them; whatever
it asks, its scanner and all states that it keeps are the scanner that it started with, some
characters further on.

## Main definitions

* `EcmaLex.Scanner.Reaches` : a scanner and the same scanner further on.
* `EcmaLex.Session.start`, `EcmaLex.Session.after` : a session, and what requests make of it.

## Main results

* `EcmaLex.Session.run_append` : the state of a session determines the answers that follow.
* `EcmaLex.Session.reaches_scanner_after` : the scanner of a session is further on in the text.
-/

namespace EcmaLex

/-! ### Calls of a scanner -/

/-- The scanner `s'` is the scanner `s` some characters further on. -/
structure Scanner.Reaches (s s' : Scanner) : Prop where
  exists_passes : ∃ piece, s.cursor.Passes piece s'.cursor
  config_eq : s'.config = s.config

namespace Scanner

variable {s s' s'' : Scanner}

theorem Reaches.refl (s : Scanner) : s.Reaches s := ⟨⟨[], .refl _⟩, rfl⟩

theorem Reaches.trans (h : s.Reaches s') (h' : s'.Reaches s'') : s.Reaches s'' := by
  obtain ⟨piece, hpiece⟩ := h.exists_passes
  obtain ⟨piece', hpiece'⟩ := h'.exists_passes
  exact ⟨⟨piece ++ piece', hpiece.trans hpiece'⟩, h'.config_eq.trans h.config_eq⟩

theorem reaches_next (goal : Goal) (s : Scanner) : s.Reaches (s.next goal).2 :=
  ⟨s.exists_passes_next goal, config_next goal s⟩

theorem reaches_run (goal : Goal) (s : Scanner) : s.Reaches (s.run goal).after := by
  fun_induction run goal s with
  | case1 s => exact reaches_next goal s
  | case2 s => exact reaches_next goal s
  | case3 s _ _ _ _ ih => exact (reaches_next goal s).trans ih

theorem reaches_pull (s : Scanner) : s.Reaches s.pull.2 := by
  rw [pull_snd]
  exact reaches_next _ s

theorem reaches_of_pull {item : Option Result} (h : s.pull = (item, s')) : s.Reaches s' := by
  have hpull := reaches_pull s
  rwa [h] at hpull

theorem reaches_drain (s : Scanner) : s.Reaches s.drain.2 := by
  fun_induction drain s with
  | case1 s => exact reaches_pull s
  | case2 s _ _ _ ih => exact (reaches_pull s).trans ih

theorem reaches_pullUpTo (n : Nat) (s : Scanner) : s.Reaches (s.pullUpTo n).2 := by
  induction n generalizing s with
  | zero => exact .refl s
  | succ n ih =>
    rw [pullUpTo]
    split
    · rename_i hpull
      exact reaches_of_pull hpull
    · rename_i hpull
      exact (reaches_of_pull hpull).trans (ih _)

theorem reaches_nth (n : Nat) (s : Scanner) : s.Reaches (s.nth n).2 := by
  induction n generalizing s with
  | zero => exact reaches_pull s
  | succ n ih =>
    rw [nth]
    split
    · rename_i hpull
      exact reaches_of_pull hpull
    · rename_i hpull
      exact (reaches_of_pull hpull).trans (ih _)

end Scanner

/-! ### Requests of a session -/

namespace Session

/-- The session with a scanner at the start of a file. -/
def start (file : SourceFile) (config : Config) : Session where
  file := file
  scanner := .ofString file.contents config

/-- The session behind a list of requests. -/
def after : List Request → Session → Session
  | [], session => session
  | request :: requests, session => after requests (session.answer request).2

variable {s : Scanner} {session : Session}

/-- The answers to further requests are given by the session behind the first ones. -/
theorem run_append (requests more : List Request) (session : Session) :
    run (requests ++ more) session = run requests session ++ run more (session.after requests) := by
  induction requests generalizing session with
  | nil => rfl
  | cons request requests ih =>
    exact congrArg (_ :: ·) (ih (session.answer request).2)

/-- The scanner of a session and all states that it keeps are the scanner `s` further on. -/
structure Within (s : Scanner) (session : Session) : Prop where
  scanner : s.Reaches session.scanner
  saved : ∀ s' ∈ session.saved, s.Reaches s'

/-- Every request but the return to a kept state takes the scanner further on. -/
theorem reaches_answer {request : Request} (h : request ≠ .restore) (session : Session) :
    session.scanner.Reaches (session.answer request).2.scanner := by
  cases request with
  | next goal => exact Scanner.reaches_next goal _
  | all => exact Scanner.reaches_run _ _
  | pull => exact Scanner.reaches_pull _
  | drain => exact Scanner.reaches_drain _
  | pullUpTo n => exact Scanner.reaches_pullUpTo n _
  | nth n => exact Scanner.reaches_nth n _
  | count => exact Scanner.reaches_drain _
  | raw => exact Scanner.reaches_next _ _
  | restore => exact absurd rfl h
  | position | source | save => exact .refl _

theorem Within.answer (h : Within s session) (request : Request) :
    Within s (session.answer request).2 := by
  cases request with
  | save => exact ⟨h.scanner, List.forall_mem_cons.mpr ⟨h.scanner, h.saved⟩⟩
  | restore =>
    obtain ⟨file, scanner, _ | ⟨s', saved⟩⟩ := session
    · exact h
    · obtain ⟨hs', hrest⟩ := List.forall_mem_cons.mp h.saved
      exact ⟨hs', hrest⟩
  | _ =>
    refine ⟨h.scanner.trans (reaches_answer ?_ session), h.saved⟩
    nofun

theorem Within.after (h : Within s session) (requests : List Request) :
    Within s (session.after requests) := by
  induction requests generalizing session with
  | nil => exact h
  | cons request requests ih => exact ih (h.answer request)

/-- **The scanner of a session is further on in the text**, whatever was asked. -/
theorem reaches_scanner_after (file : SourceFile) (config : Config) (requests : List Request) :
    (Scanner.ofString file.contents config).Reaches
      ((start file config).after requests).scanner := by
  have hstart : Within (Scanner.ofString file.contents config) (start file config) :=
    ⟨.refl _, List.forall_mem_nil _⟩
  exact (hstart.after requests).scanner

end Session

end EcmaLex
