import TrustedRouter.Proofs.Telemetry.Accounting

/-!
# `TrustedRouter.Proofs.Telemetry.Shutdown`: the beacon is turned off for good

A response can turn the beacon off, by a header or by its status. `Shut` is what the system is
then: disabled, with nothing in its buffers and no flush under way. A flush holds the flush lock
from its check of `disabled` to its response, so the response that disables the reporter leaves
no other flush that has passed the check. Every step keeps `Shut`, and so does every run.
-/

set_option autoImplicit false

namespace TrustedRouter.Proofs.Telemetry

open TrustedRouter.Telemetry
open Rust
open Rust.Str
open Http (HeaderMap isVisible isVisible_iff lt_of_isVisible)

/-! ## Responses that turn the beacon off -/

/-- Spaces and tabs only. -/
def IsBlank (text : String) : Prop := ∀ c ∈ text.toList, c = ' ' ∨ c = '\t'

/-- The header `x-tr-telemetry: off`, in any letter case and with blanks around the word. -/
def OffHeader (headers : HeaderMap) : Prop :=
  ∃ before word after : String, IsBlank before ∧ IsBlank after ∧
    eqIgnoreAsciiCase word "off" = true ∧
    headers.get "x-tr-telemetry" = some (bytes (before ++ word ++ after))

/-- A response that turns the beacon off. -/
def TurnsOff (answer : Answer) : Prop :=
  OffHeader answer.headers ∨ answer.status ∈ [400, 401, 403, 404, 410]

/-- A letter in either case. -/
theorem eq_of_toLower {c lower upper : Char} (h : c.toLower = lower)
    (hupper : upper.val + ('a'.val - 'A'.val) = lower.val) : c = lower ∨ c = upper := by
  unfold Char.toLower at h
  split at h
  · have hval : c.val + ('a'.val - 'A'.val) = lower.val := congrArg Char.val h
    exact .inr (Char.ext ((UInt32.add_left_inj _).mp (hval.trans hupper.symm)))
  · exact .inl h

/-- The letters of the word in any letter case. -/
theorem word_of_eqIgnoreAsciiCase {word : String} (h : eqIgnoreAsciiCase word "off" = true) :
    ∃ first second third, word.toList = [first, second, third] ∧ (first = 'o' ∨ first = 'O') ∧
      (second = 'f' ∨ second = 'F') ∧ (third = 'f' ∨ third = 'F') := by
  have hlower : toAsciiLowercase "off" = String.ofList ['o', 'f', 'f'] := by decide
  have hchars : word.toList.map Char.toLower = ['o', 'f', 'f'] :=
    String.ofList_inj.mp ((eqIgnoreAsciiCase_iff.mp h).trans hlower)
  obtain ⟨first, rest, hword, hfirst, hrest⟩ := List.map_eq_cons_iff.mp hchars
  obtain ⟨second, rest', rfl, hsecond, hrest'⟩ := List.map_eq_cons_iff.mp hrest
  obtain ⟨third, rest'', rfl, hthird, hnil⟩ := List.map_eq_cons_iff.mp hrest'
  rw [List.map_eq_nil_iff.mp hnil] at hword
  exact ⟨first, second, third, hword, eq_of_toLower hfirst (by decide),
    eq_of_toLower hsecond (by decide), eq_of_toLower hthird (by decide)⟩

/-- Blanks of a header are whitespace, so `trim` takes them off. -/
theorem IsBlank.isWhitespace {text : String} (h : IsBlank text) :
    ∀ c ∈ text.toList, isWhitespace c = true := by
  intro c hc
  rcases h c hc with rfl | rfl <;> decide

/-- A whitespace character that a header text can have is a blank. -/
theorem blank_of_isWhitespace {b : UInt8} (hvisible : isVisible b = true)
    (hspace : isWhitespace (asciiChar b) = true) : asciiChar b = ' ' ∨ asciiChar b = '\t' := by
  have hlt := lt_of_isVisible hvisible
  rw [isVisible_iff] at hvisible
  simp only [isWhitespace, toNat_asciiChar hlt, Bool.or_eq_true, Bool.and_eq_true,
    decide_eq_true_eq, beq_iff_eq] at hspace
  have hcases : b = 32 ∨ b = 9 := by
    have hnat : b.toNat = 32 ∨ b.toNat = 9 := by omega
    exact hnat.imp (fun h => UInt8.toNat_inj.mp h) (fun h => UInt8.toNat_inj.mp h)
  rcases hcases with rfl | rfl
  · exact .inl (by decide)
  · exact .inr (by decide)

/-- The header check accepts exactly these headers: the word in any letter case, with blanks
around it. -/
theorem isOff_iff {headers : HeaderMap} : isOff headers = true ↔ OffHeader headers := by
  constructor
  · intro h
    obtain ⟨text, htext, hword⟩ := (Option.any_eq_true _ _).mp h
    obtain ⟨value, hvalue, hread⟩ := Option.bind_eq_some_iff.mp htext
    obtain ⟨hbytes, hvisible⟩ := Http.toStr_eq_some.mp hread
    obtain ⟨before, after, hsplit, hbefore, hafter⟩ := exists_trimMatches_split isWhitespace text
    -- Every character of the text is that of a byte of the value.
    have hblank : ∀ c ∈ text.toList, isWhitespace c = true → c = ' ' ∨ c = '\t' := by
      intro c hc hspace
      rw [← hbytes] at hvisible
      have hencoded := bytes_ofList_asciiChar (Http.isAscii_of_isVisible hvisible)
      have hchars : text = String.ofList (value.map asciiChar) :=
        bytes_injective (hbytes.symm.trans hencoded.symm)
      rw [hchars, String.toList_ofList] at hc
      obtain ⟨b, hb, rfl⟩ := List.mem_map.mp hc
      exact blank_of_isWhitespace (List.all_eq_true.mp hvisible b hb) hspace
    refine ⟨before, trim text, after, ?_, ?_, hword, ?_⟩
    · intro c hc
      refine hblank c ?_ (hbefore c hc)
      rw [hsplit, String.toList_append, String.toList_append]
      exact List.mem_append_left _ (List.mem_append_left _ hc)
    · intro c hc
      refine hblank c ?_ (hafter c hc)
      rw [hsplit, String.toList_append, String.toList_append]
      exact List.mem_append_right _ hc
    · rw [trim, ← hsplit, hvalue, hbytes]
  · rintro ⟨before, word, after, hbefore, hafter, hword, hvalue⟩
    obtain ⟨first, second, third, hchars, hfirst, hsecond, hthird⟩ :=
      word_of_eqIgnoreAsciiCase hword
    have htrim : trim (before ++ word ++ after) = word := by
      refine trimMatches_append ?_ ?_ ?_ hbefore.isWhitespace hafter.isWhitespace
      · rintro rfl
        cases hchars
      · intro c hc
        rw [hchars] at hc
        cases hc
        rcases hfirst with rfl | rfl <;> decide
      · intro c hc
        rw [hchars] at hc
        obtain rfl : third = c := Option.some.inj hc
        rcases hthird with rfl | rfl <;> decide
    have hvisible : ((bytes (before ++ word ++ after)).all isVisible) = true := by
      rw [bytes_eq_flatMap, List.all_flatMap, List.all_eq_true]
      intro c hc
      rw [String.toList_append, String.toList_append, List.mem_append, List.mem_append,
        hchars] at hc
      rcases hc with (hc | hc) | hc
      · rcases hbefore c hc with rfl | rfl <;> decide
      · simp only [List.mem_cons, List.not_mem_nil, or_false] at hc
        rcases hc with rfl | rfl | rfl
        · rcases hfirst with rfl | rfl <;> decide
        · rcases hsecond with rfl | rfl <;> decide
        · rcases hthird with rfl | rfl <;> decide
      · rcases hafter c hc with rfl | rfl <;> decide
    have hread := Http.toStr_eq_some.mpr ⟨rfl, hvisible⟩
    rw [isOff, hvalue, Option.bind_some, hread, Option.any_some, htrim]
    exact hword

/-- The verdict disables exactly on the header or on one of the five statuses. The header counts
with every status, 202 included. -/
theorem verdict_disables_iff {answer : Answer} : answer.verdict = .disables ↔ TurnsOff answer := by
  rw [TurnsOff, ← isOff_iff, Answer.verdict, ← List.contains_iff_mem]
  split
  · rename_i hoff
    exact ⟨fun _ => .inl hoff, fun _ => rfl⟩
  rename_i hoff
  split
  · rename_i haccepts
    rw [haccepts]
    refine ⟨fun h => ?_, fun h => h.elim (absurd · hoff) (absurd · (by decide))⟩
    cases h
  split
  · rename_i hlisted
    exact ⟨fun _ => .inr hlisted, fun _ => rfl⟩
  · rename_i hlisted
    refine ⟨fun h => ?_, fun h => h.elim (absurd · hoff) (absurd · hlisted)⟩
    split at h <;> cases h

/-! ## The system that is turned off -/

/-- The reporter is disabled and empty, and no flush is under way. -/
structure Shut (system : System) : Prop where
  disabled : system.state.disabled = true
  events : system.state.events = []
  currentCounters : system.state.currentCounters = []
  closedWindows : system.state.closedWindows = []
  phase : system.phase = .idle

/-- A shut system stays so while the buffers are not touched: it is disabled and empty. -/
theorem Shut.of_same {system : System} (h : Shut system) {state : State}
    (hsame : SameBuffers system.state state) : Shut { system with state } where
  disabled := hsame.disabled.trans h.disabled
  events := hsame.events.trans h.events
  currentCounters := hsame.currentCounters.trans h.currentCounters
  closedWindows := hsame.closedWindows.trans h.closedWindows
  phase := h.phase

/-- A response that turns the beacon off shuts the system, whatever was in flight and in the
buffers. -/
theorem shut_respond {reporter : Reporter} {system : System} {answer : Answer}
    {selected : Selected} (hphase : system.phase = .posted selected) (hoff : TurnsOff answer) :
    Shut (system.step reporter (.respond answer)) := by
  simp only [System.step, hphase, handleResponse, verdict_disables_iff.mpr hoff]
  exact ⟨rfl, rfl, rfl, rfl, rfl⟩

/-- No step opens it again: calls are refused, a flush does not enter, and no response is
awaited. -/
theorem Shut.step {reporter : Reporter} {system : System} (h : Shut system) (step : Step) :
    Shut (system.step reporter step) := by
  cases step with
  | onRequest record =>
      have hrefused : (system.state.disabled || system.state.closed) = true := by
        rw [h.disabled, Bool.true_or]
      simp only [System.step, onRequest, if_pos hrefused]
      exact h
  | enter now =>
      have hrefused : (system.state.disabled || decide (now < system.state.gate)) = true := by
        rw [h.disabled, Bool.true_or]
      simp only [System.step, h.phase, enterFlush, if_pos hrefused]
      exact ⟨h.disabled, h.events, h.currentCounters, h.closedWindows, rfl⟩
  | select fresh =>
      simp only [System.step, h.phase]
      exact h
  | respond answer =>
      simp only [System.step, h.phase]
      exact h
  | sendFailed now =>
      simp only [System.step, h.phase]
      exact h
  | abandon => exact ⟨h.disabled, h.events, h.currentCounters, h.closedWindows, rfl⟩
  | close => exact ⟨h.disabled, h.events, h.currentCounters, h.closedWindows, h.phase⟩
  | workerTurn now => exact h.of_same (sameBuffers_workerTurn now system.state)
  | workerFlushed now => exact h.of_same (sameBuffers_workerFlushed now system.state)
  | noClient now => exact h.of_same (sameBuffers_setBackoff now none system.state)
  | pruneNow now =>
      -- There are no windows to prune.
      obtain ⟨gone, kept, hsplit, -, hpruned⟩ := pruneWindows_eq reporter now system.state
      rw [h.closedWindows] at hsplit
      obtain ⟨rfl, rfl⟩ := List.append_eq_nil_iff.mp hsplit.symm
      simp only [System.step, hpruned]
      exact ⟨h.disabled, h.events, h.currentCounters, rfl, h.phase⟩

/-- No run opens it again. -/
theorem Shut.run {reporter : Reporter} {system : System} (h : Shut system) (steps : List Step) :
    Shut (system.run reporter steps) := by
  induction steps generalizing system with
  | nil => exact h
  | cons step rest ih => exact ih (h.step step)

/-- A step selects nothing then: a disabled reporter does not enter a flush. -/
theorem Shut.selection_eq_none {reporter : Reporter} {system : System} (h : Shut system)
    (step : Step) : selection reporter system step = none := by
  unfold selection
  rw [h.phase]
  cases step <;> rfl

/-! ## The system before -/

/-- What is answered is the batch in flight. -/
theorem exists_answer {system : System} {step : Step} {verdict : Verdict} {selected : Selected}
    (h : answered system step = some (verdict, selected)) :
    ∃ answer, step = .respond answer ∧ system.phase = .posted selected ∧
      answer.verdict = verdict := by
  unfold answered at h
  split at h
  · rename_i answer _ hphase
    cases h
    exact ⟨answer, rfl, hphase, rfl⟩
  · cases h

/-- A step that disables the reporter is a response that turns the beacon off. -/
theorem disabled_step {reporter : Reporter} {system : System} {step : Step}
    (hok : WellFormed reporter system.state) (henabled : system.state.disabled = false)
    (h : (system.step reporter step).state.disabled = true) :
    ∃ answer selected, step = .respond answer ∧ system.phase = .posted selected ∧
      TurnsOff answer := by
  -- Only a response that turns the beacon off touches the flag.
  have hchanged : (system.step reporter step).state.disabled ≠ system.state.disabled := by
    rw [h, henabled]
    exact Bool.noConfusion
  cases moves_step reporter system step with
  | same _ _ hsame => exact absurd hsame.disabled hchanged
  | records _ hopen hnext =>
      rw [hnext] at hchanged
      exact absurd (onRequest_recorded _ hok hopen).disabled hchanged
  | selects _ _ hnext =>
      rename_i fresh now _ _
      rw [hnext] at hchanged
      have hsettles := settles_settleWindows reporter now hok.dropped
      exact absurd ((selectBatch_state reporter fresh now system.state).disabled.trans
        hsettles.sameEvents.disabled) hchanged
  | prunes _ hnext =>
      rw [hnext] at hchanged
      exact absurd (settles_pruneWindows reporter _ hok.dropped).sameEvents.disabled hchanged
  | accepts _ hnext =>
      rw [hnext] at hchanged
      exact absurd (acceptBatch_state ..).disabled hchanged
  | rejects _ hnext =>
      rw [hnext] at hchanged
      exact absurd rfl hchanged
  | disables hanswer _ =>
      obtain ⟨answer, hstep, hphase, hverdict⟩ := exists_answer hanswer
      exact ⟨answer, _, hstep, hphase, verdict_disables_iff.mp hverdict⟩

/-- In a run without a response that turns the beacon off, it stays on. The hypothesis is about
responses that are heard: one that comes when no batch is in flight does not count. -/
theorem disabled_run {reporter : Reporter} {system : System}
    (hok : WellFormed reporter system.state) (henabled : system.state.disabled = false)
    {steps : List Step}
    (h : ∀ before answer after selected, steps = before ++ .respond answer :: after →
      (system.run reporter before).phase = .posted selected → ¬ TurnsOff answer) :
    (system.run reporter steps).state.disabled = false := by
  induction steps generalizing system with
  | nil => exact henabled
  | cons step rest ih =>
      refine ih (hok.moves (moves_step reporter system step)) ?_ ?_
      · -- Only the step itself could have disabled the reporter.
        by_contra hdisabled
        rw [Bool.not_eq_false] at hdisabled
        obtain ⟨answer, selected, rfl, hphase, hoff⟩ := disabled_step hok henabled hdisabled
        exact h [] answer rest selected rfl hphase hoff
      · rintro before answer after selected rfl hphase
        exact h (step :: before) answer after selected rfl hphase

/-- Once a response has turned the beacon off, it is off in every later state, with nothing in
its buffers, and no batch is selected or posted again. Until then it is on. -/
theorem shutdown_final (reporter : Reporter) (rate : Option Rat) (interval : Nat)
    (instanceId : String) :
    (∀ before answer selected after,
      ((System.new rate interval instanceId).run reporter before).phase = .posted selected →
      TurnsOff answer →
      let later := (System.new rate interval instanceId).run reporter
        (before ++ .respond answer :: after)
      Shut later ∧ ∀ step, selection reporter later step = none) ∧
    ∀ steps, (∀ before answer after selected, steps = before ++ .respond answer :: after →
      ((System.new rate interval instanceId).run reporter before).phase = .posted selected →
        ¬ TurnsOff answer) →
      ((System.new rate interval instanceId).run reporter steps).state.disabled = false := by
  constructor
  · intro before answer selected after hphase hoff
    have hshut : Shut ((System.new rate interval instanceId).run reporter
        (before ++ .respond answer :: after)) := by
      rw [run_append, run_cons]
      exact (shut_respond hphase hoff).run after
    exact ⟨hshut, hshut.selection_eq_none⟩
  · intro steps h
    exact disabled_run (wellFormed_new reporter rate interval instanceId) rfl h

/-- The answer of a server that wants no telemetry. -/
def turnedOff (now : Nat) : Answer where
  status := 202
  headers := [("x-tr-telemetry", bytes " OFF\t")]
  body := []
  now := now

/-- The sample response has the header. -/
theorem turnsOff_turnedOff (now : Nat) : TurnsOff (turnedOff now) := by
  refine .inl ⟨" ", "OFF", "\t", ?_, ?_, by decide, rfl⟩
  · intro c hc
    exact .inl (List.mem_singleton.mp hc)
  · intro c hc
    exact .inr (List.mem_singleton.mp hc)

/-- A call, a flush that is answered with the header, and another call and flush: nothing is
buffered and no batch is under way. -/
theorem shutdown_final_sample :
    ∃ steps selected,
      ((System.new none 0 "i-1").run flushReporter steps).phase = .posted selected ∧
      Shut ((System.new none 0 "i-1").run flushReporter
        (steps ++ .respond (turnedOff (Duration.fromSecs 61)) ::
          [.onRequest (sampleCall (Duration.fromSecs 120)), .enter (Duration.fromSecs 150)])) := by
  obtain ⟨selected, hposted⟩ := called_posts
  rw [called, ← run_append] at hposted
  refine ⟨_, selected, hposted, ?_⟩
  exact ((shutdown_final flushReporter none 0 "i-1").1 _ _ selected _ hposted
    (turnsOff_turnedOff _)).1

end TrustedRouter.Proofs.Telemetry
