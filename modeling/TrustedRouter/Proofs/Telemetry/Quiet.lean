import TrustedRouter.Proofs.Telemetry.Pace

/-!
# `TrustedRouter.Proofs.Telemetry.Quiet`: the server can only quieten the beacon

What comes back from the server is untrusted: any status, any headers, any JSON. It reaches
five settings of the reporter, and this file bounds what it can do to them.

`Bounded` is the range each setting keeps. `Quieter` orders two moments of one reporter: the
later one samples no more, flushes no sooner and pauses at least as long. `Calm` is both,
measured from any earlier moment, and each of the three policies of a 202 keeps it, as the
backoff does. A `Reply` is what a flush can end with, and `beacon_quietens` is the result
over every sequence of replies. It needs no assumption about the clock. Only the bound on
the pause against the last reply's own time does, and it has it as a condition.

`system_quietens` carries range and order over to every run of the reporter with its
recorded calls, its worker and its prunings in between. No other step touches the settings.
-/

set_option autoImplicit false

namespace TrustedRouter.Proofs.Telemetry

open TrustedRouter.Telemetry
open Rust
open Rust.Duration

/-- The range of the settings. -/
structure Bounded (s : Settings) : Prop where
  rate_nonneg : 0 ≤ s.successSampleRate
  rate_le_one : s.successSampleRate ≤ 1
  interval_le : s.flushInterval ≤ fromSecs 600
  le_backoff : fromSecs 60 ≤ s.backoff
  backoff_le : s.backoff ≤ fromSecs 600

/-- The later settings send no more than the earlier ones. -/
structure Quieter (before after : Settings) : Prop where
  rate : after.successSampleRate ≤ before.successSampleRate
  interval : before.flushInterval ≤ after.flushInterval
  paused : before.pausedUntil ≤ after.pausedUntil

/-- Settings that do not change are no louder. -/
theorem Quieter.refl (s : Settings) : Quieter s s :=
  ⟨le_refl _, Nat.le_refl _, Nat.le_refl _⟩

/-- In range, and no louder than at the start. -/
structure Calm (start : Settings) (state : State) : Prop where
  bounded : Bounded (settings state)
  quieter : Quieter start (settings state)

/-! ## Where the reporter starts -/

/-- The settings of a new reporter are in range, whatever the caller configured: both are
normalised. -/
theorem bounded_new (rate : Option Rat) (interval : Nat) (instanceId : String) :
    Bounded (settings (.new rate interval instanceId)) where
  rate_nonneg := by
    show 0 ≤ normaliseSampleRate rate
    unfold normaliseSampleRate
    split
    · exact le_max_left _ _
    · norm_num
  rate_le_one := by
    show normaliseSampleRate rate ≤ 1
    unfold normaliseSampleRate
    split
    · exact max_le zero_le_one (min_le_right _ _)
    · norm_num
  interval_le := by
    show normaliseFlushInterval interval ≤ fromSecs 600
    unfold normaliseFlushInterval
    split
    · exact (fromSecsF64_mono (min_le_right _ _)).trans_eq (fromSecsF64_natCast 600)
    · decide
  le_backoff := Nat.le_refl _
  backoff_le := by
    show fromSecs backoffMinSeconds ≤ fromSecs 600
    decide

/-! ## The policies of a 202 -/

section Policies
variable (library : Library) {start : Settings} {state : State}

/-- A policy can only lower the sample rate, and never below zero. -/
theorem Calm.lowerSampleRate (h : Calm start state) (rate : Option Rat) :
    Calm start (lowerSampleRate rate state) := by
  unfold Telemetry.lowerSampleRate
  split
  · split
    · rename_i hrate
      simp only [Bool.and_eq_true, decide_eq_true_eq] at hrate
      have hlower : _ ≤ state.successSampleRate := le_of_lt hrate.2
      exact
        { bounded := { h.bounded with
            rate_nonneg := hrate.1
            rate_le_one := le_trans hlower h.bounded.rate_le_one }
          quieter := { h.quieter with rate := le_trans hlower h.quieter.rate } }
    · exact h
  · exact h

/-- The interval is set to the rounding of a number between the old interval and the
ceiling, and rounding keeps both bounds. -/
theorem Calm.lengthenFlushInterval (h : Calm start state) (seconds : Option Rat) :
    Calm start (lengthenFlushInterval seconds state) := by
  unfold Telemetry.lengthenFlushInterval
  split
  · rename_i seconds
    split
    · rename_i hlonger
      -- The old interval is below the ceiling too: cutting the new one there does not shorten it.
      have hceiling : asSecsF64 state.flushInterval ≤ backoffMaxSeconds := by
        have hnanos : (state.flushInterval : Rat) ≤ (fromSecs 600 : Nat) :=
          Nat.cast_le.mpr h.bounded.interval_le
        rw [asSecsF64, div_le_iff₀ (by norm_num)]
        refine hnanos.trans_eq ?_
        norm_num [fromSecs, backoffMaxSeconds]
      have hold : state.flushInterval ≤ fromSecsF64 (min seconds backoffMaxSeconds) := by
        calc state.flushInterval = fromSecsF64 (asSecsF64 state.flushInterval) :=
              (fromSecsF64_asSecsF64 _).symm
          _ ≤ fromSecsF64 (min seconds backoffMaxSeconds) :=
              fromSecsF64_mono (le_min (le_of_lt hlonger) hceiling)
      have hnew : fromSecsF64 (min seconds backoffMaxSeconds) ≤ fromSecs 600 :=
        (fromSecsF64_mono (min_le_right _ _)).trans_eq (fromSecsF64_natCast 600)
      exact
        { bounded := { h.bounded with interval_le := hnew }
          quieter := { h.quieter with interval := Nat.le_trans h.quieter.interval hold } }
    · exact h
  · exact h

/-- A pause is bounded and never ends earlier than before. -/
theorem Calm.pauseFor (h : Calm start state) (seconds : Option Rat) (now : Nat) :
    Calm start (pauseFor seconds now state) := by
  unfold Telemetry.pauseFor
  split
  · split
    · exact
        { bounded := { h.bounded with }
          quieter :=
            { h.quieter with paused := Nat.le_trans h.quieter.paused (Nat.le_max_left _ _) } }
    · exact h
  · exact h

/-- The three parts of a policy, one after the other. -/
theorem Calm.applyPolicy (h : Calm start state) (policy : Serde.Value) (now : Nat) :
    Calm start (applyPolicy library policy now state) := by
  unfold Telemetry.applyPolicy
  exact ((h.lowerSampleRate _).lengthenFlushInterval _).pauseFor _ now

/-- A pause ends within a day of the response that sets it. -/
theorem pauseFor_paused (seconds : Option Rat) (now : Nat) (state : State) :
    (pauseFor seconds now state).pausedUntil ≤
      max state.pausedUntil (now + fromSecs 86400) := by
  unfold pauseFor
  split
  · split
    · rename_i seconds hpause
      simp only [Bool.and_eq_true, decide_eq_true_eq] at hpause
      have hday : fromSecsF64 seconds ≤ fromSecs 86400 :=
        (fromSecsF64_mono hpause.2).trans_eq (fromSecsF64_natCast 86400)
      show max state.pausedUntil (now + fromSecsF64 seconds) ≤ _
      omega
    · exact Nat.le_max_left _ _
  · exact Nat.le_max_left _ _

/-- Only the last part of a policy touches the pause, so that its bound is that of the policy. -/
theorem applyPolicy_paused (policy : Serde.Value) (now : Nat) (state : State) :
    (applyPolicy library policy now state).pausedUntil ≤
      max state.pausedUntil (now + fromSecs 86400) := by
  unfold applyPolicy
  dsimp only
  obtain ⟨lowered, hrate⟩ :=
    lowerSampleRate_eq ((policy.get "success_sample_rate").bind (floatValue library)) state
  rw [hrate]
  obtain ⟨interval, hinterval⟩ :=
    lengthenFlushInterval_eq ((policy.get "flush_seconds").bind (floatValue library))
      { state with successSampleRate := lowered }
  rw [hinterval]
  exact pauseFor_paused _ now _

end Policies

/-! ## One reply -/

/-- What a flush ends with. -/
inductive Reply where
  /-- `handle_response`, for the batch that was sent. -/
  | response (answer : Answer) (selected : Selected)
  /-- The request could not be sent. -/
  | failure (now : Nat)

namespace Reply

/-- The clock reading the reply is handled with. -/
def now : Reply → Nat
  | response answer _ => answer.now
  | failure now => now

/-- What the reporter does with the reply. -/
def apply (library : Library) : Reply → State → State
  | response answer selected => handleResponse library answer selected
  | failure now => setBackoff now none

/-- The reply is a failure that the reporter answers by backing off. -/
def backsOff : Reply → Bool
  | response answer _ => answer.verdict == .backsOff
  | failure _ => true

/-- The delay the server asked for, if it is valid. -/
def retryAfter (library : Library) : Reply → Option Nat
  | response answer _ => Telemetry.retryAfter library answer.headers
  | failure _ => none

/-- A sequence of replies, oldest first. -/
def applyAll (library : Library) (replies : List Reply) (state : State) : State :=
  replies.foldl (fun state reply => reply.apply library state) state

/-- Where a sequence of replies takes a new reporter. -/
def history (library : Library) (rate : Option Rat) (interval : Nat) (instanceId : String)
    (replies : List Reply) : State :=
  applyAll library replies (.new rate interval instanceId)

/-- A history goes on where it was. -/
theorem history_append (library : Library) (rate : Option Rat) (interval : Nat)
    (instanceId : String) (earlier later : List Reply) :
    history library rate interval instanceId (earlier ++ later) =
      applyAll library later (history library rate interval instanceId earlier) := by
  rw [history, history, applyAll, applyAll, applyAll, List.foldl_append]

end Reply

section Replies
variable (library : Library) {start : Settings} {state : State}

/-- Backing off keeps the backoff between its two bounds, doubled or not. -/
theorem Calm.setBackoff (h : Calm start state) (now : Nat) (retryAfter : Option Nat) :
    Calm start (setBackoff now retryAfter state) where
  bounded :=
    { h.bounded with
      le_backoff := Nat.le_min.mpr ⟨Nat.le_max_right _ _, by decide⟩
      backoff_le := Nat.min_le_right _ _ }
  quieter := { h.quieter with }

/-- A valid `Retry-After` is at most the ceiling, so the ceiling does not cut it. -/
theorem retryAfter_le {headers : Http.HeaderMap} {delay : Nat}
    (h : Telemetry.retryAfter library headers = some delay) : delay ≤ fromSecs 600 := by
  simp only [Telemetry.retryAfter, Option.bind_eq_some_iff, Option.map_eq_some_iff,
    Option.filter_eq_some_iff, Bool.and_eq_true, decide_eq_true_eq] at h
  obtain ⟨value, -, seconds, ⟨-, -, hseconds⟩, rfl⟩ := h
  exact (fromSecsF64_mono hseconds).trans_eq (fromSecsF64_natCast 600)

/-- How long the beacon is quiet after a failure: at least the current backoff, at most the
ceiling, and not less than what was asked for. -/
theorem setBackoff_until (now : Nat) {asked : Option Nat} (h : Bounded (settings state))
    (hasked : ∀ delay, asked = some delay → delay ≤ fromSecs 600) :
    now + fromSecs 60 ≤ (setBackoff now asked state).backoffUntil ∧
      (setBackoff now asked state).backoffUntil ≤ now + fromSecs 600 ∧
      ∀ delay, asked = some delay → now + delay ≤ (setBackoff now asked state).backoffUntil := by
  have hlow : fromSecs 60 ≤ state.backoff := h.le_backoff
  have hhigh : state.backoff ≤ fromSecs 600 := h.backoff_le
  have hceiling : fromSecs backoffMaxSeconds = fromSecs 600 := rfl
  cases asked with
  | none =>
      simp only [setBackoff, hceiling, reduceCtorEq, false_implies, implies_true, and_true]
      omega
  | some delay =>
      have hdelay := hasked delay rfl
      simp only [setBackoff, hceiling, Option.some.injEq, forall_eq']
      omega

/-- A 202 resets the backoff and then applies its policy. -/
theorem Calm.acceptBatch (h : Calm start state) (body : Bytes) (now : Nat)
    (selected : Selected) : Calm start (acceptBatch library body now selected state) := by
  have hminimum : fromSecs backoffMinSeconds ≤ fromSecs 600 := by decide
  unfold Telemetry.acceptBatch
  dsimp only
  split
  · refine Calm.applyPolicy library ?_ _ now
    exact
      { bounded := { h.bounded with le_backoff := Nat.le_refl _, backoff_le := hminimum }
        quieter := { h.quieter with } }
  · exact
      { bounded := { h.bounded with le_backoff := Nat.le_refl _, backoff_le := hminimum }
        quieter := { h.quieter with } }

/-- A 202 moves the pause by its policy only. -/
theorem acceptBatch_paused (body : Bytes) (now : Nat) (selected : Selected) (state : State) :
    (acceptBatch library body now selected state).pausedUntil ≤
      max state.pausedUntil (now + fromSecs 86400) := by
  unfold acceptBatch
  dsimp only
  split
  · exact applyPolicy_paused library _ now _
  · exact Nat.le_max_left _ _

/-- One reply keeps the range and makes the beacon no louder. A 202 resets the backoff, which is
not part of being quieter. -/
theorem Calm.reply (h : Calm start state) (reply : Reply) :
    Calm start (reply.apply library state) := by
  cases reply with
  | failure now => exact h.setBackoff now none
  | response answer selected =>
      simp only [Reply.apply, handleResponse]
      cases answer.verdict with
      | disables => exact ⟨h.bounded, h.quieter⟩
      | accepts => exact h.acceptBatch library answer.body answer.now selected
      | rejects => exact ⟨h.bounded, h.quieter⟩
      | backsOff => exact h.setBackoff answer.now _

/-- A reply moves the end of the pause to at most a day after its own time. -/
theorem reply_paused (reply : Reply) (state : State) :
    (reply.apply library state).pausedUntil ≤
      max state.pausedUntil (reply.now + fromSecs 86400) := by
  cases reply with
  | failure now => exact Nat.le_max_left _ _
  | response answer selected =>
      simp only [Reply.apply, handleResponse]
      cases answer.verdict with
      | accepts => exact acceptBatch_paused library answer.body answer.now selected state
      | disables => exact Nat.le_max_left _ _
      | rejects => exact Nat.le_max_left _ _
      | backsOff => exact Nat.le_max_left _ _

/-- A reply that backs off does so for one to ten minutes, and for as long as asked. -/
theorem reply_backoff {reply : Reply} (hreply : reply.backsOff = true)
    (h : Bounded (settings state)) :
    reply.now + fromSecs 60 ≤ (reply.apply library state).backoffUntil ∧
      (reply.apply library state).backoffUntil ≤ reply.now + fromSecs 600 ∧
      ∀ delay, reply.retryAfter library = some delay →
        reply.now + delay ≤ (reply.apply library state).backoffUntil := by
  cases reply with
  | failure now => exact setBackoff_until now h nofun
  | response answer selected =>
      have hverdict : answer.verdict = .backsOff := by simpa [Reply.backsOff] using hreply
      simp only [Reply.apply, handleResponse, hverdict]
      exact setBackoff_until answer.now h fun delay => retryAfter_le library

/-! ## Every sequence of replies -/

/-- A sequence of replies, by induction. -/
theorem Calm.applyAll (h : Calm start state) (replies : List Reply) :
    Calm start (Reply.applyAll library replies state) := by
  induction replies generalizing state with
  | nil => exact h
  | cons reply rest ih => exact ih (h.reply library reply)

/-- The pause ends within a day of any time that no reply so far is later than. -/
theorem applyAll_paused {replies : List Reply} {now : Nat}
    (hclock : ∀ reply ∈ replies, reply.now ≤ now)
    (h : state.pausedUntil ≤ now + fromSecs 86400) :
    (Reply.applyAll library replies state).pausedUntil ≤ now + fromSecs 86400 := by
  induction replies generalizing state with
  | nil => exact h
  | cons reply rest ih =>
      obtain ⟨hreply, hrest⟩ := List.forall_mem_cons.mp hclock
      have hpaused := reply_paused library reply state
      have hnext : (reply.apply library state).pausedUntil ≤ now + fromSecs 86400 := by omega
      exact ih hrest hnext

/-- The server can only quieten the beacon: at every point of every sequence of replies the
settings are in range, everything later is quieter, and the next reply moves the pause and the
backoff only within their bounds. -/
theorem beacon_quietens (library : Library) (rate : Option Rat) (interval : Nat)
    (instanceId : String) (earlier later : List Reply) :
    Bounded (settings (Reply.history library rate interval instanceId earlier)) ∧
    Quieter (settings (Reply.history library rate interval instanceId earlier))
      (settings (Reply.history library rate interval instanceId (earlier ++ later))) ∧
    ∀ (reply : Reply) (before after : State),
      before = Reply.history library rate interval instanceId earlier →
      after = Reply.history library rate interval instanceId (earlier ++ [reply]) →
      (after.pausedUntil ≠ before.pausedUntil →
        after.pausedUntil ≤ reply.now + fromSecs 86400) ∧
      ((∀ r ∈ earlier, r.now ≤ reply.now) →
        after.pausedUntil ≤ reply.now + fromSecs 86400) ∧
      (reply.backsOff = true →
        reply.now + fromSecs 60 ≤ after.backoffUntil ∧
        after.backoffUntil ≤ reply.now + fromSecs 600 ∧
        ∀ delay, reply.retryAfter library = some delay →
          reply.now + delay ≤ after.backoffUntil) := by
  have hnew : Calm _ (.new rate interval instanceId) :=
    ⟨bounded_new rate interval instanceId, .refl _⟩
  have hbounded : Bounded (settings (Reply.history library rate interval instanceId earlier)) :=
    (hnew.applyAll library earlier).bounded
  refine ⟨hbounded, ?_, ?_⟩
  · rw [Reply.history_append]
    exact (Calm.applyAll library ⟨hbounded, .refl _⟩ later).quieter
  · intro reply before after hbefore hafter
    have hlast : after = reply.apply library before := by
      rw [hafter, hbefore, Reply.history_append]
      rfl
    subst hlast
    rw [← hbefore] at hbounded
    have hpaused := reply_paused library reply before
    have hold : before.pausedUntil ≤ (reply.apply library before).pausedUntil :=
      (Calm.reply library ⟨hbounded, .refl _⟩ reply).quieter.paused
    refine ⟨?_, ?_, fun hreply => reply_backoff library hreply hbounded⟩
    · intro hmoved
      omega
    · intro hclock
      have hearlier : before.pausedUntil ≤ reply.now + fromSecs 86400 := by
        rw [hbefore]
        exact applyAll_paused library hclock (Nat.zero_le _)
      omega

end Replies

/-! ## Every run of the reporter -/

/-- A recorded call may start the worker, and leaves the settings alone. -/
theorem settings_onRequest (reporter : Reporter) (record : Record) (state : State) :
    settings (onRequest reporter record state) = settings state := by
  unfold onRequest
  split
  · rfl
  · dsimp only
    rw [settings_of_pace (pace_markUrgent _), settings_startWorker]
    exact settings_of_pace (pace_recorded reporter record state)

/-- A step of the reporter leaves the settings alone, or it is a reply. So what holds of replies
holds of runs, in which they stand between calls and prunings. -/
theorem settings_step (reporter : Reporter) (system : System) (step : Step) :
    settings (system.step reporter step).state = settings system.state ∨
      ∃ reply : Reply,
        (system.step reporter step).state = reply.apply reporter.library system.state := by
  cases step with
  | onRequest record => exact .inl (settings_onRequest reporter record system.state)
  | enter now =>
      left
      unfold System.step
      dsimp only
      split <;> rfl
  | select fresh =>
      left
      cases hphase : system.phase with
      | entered now =>
          rw [step_select_state hphase]
          exact settings_of_pace (pace_selectBatch reporter fresh now system.state)
      | idle => simp only [System.step, hphase]
      | posted selected => simp only [System.step, hphase]
  | respond answer =>
      cases hphase : system.phase with
      | posted selected =>
          exact .inr ⟨.response answer selected, by simp only [System.step, hphase, Reply.apply]⟩
      | idle => exact .inl (by simp only [System.step, hphase])
      | entered now => exact .inl (by simp only [System.step, hphase])
  | sendFailed now =>
      cases hphase : system.phase with
      | posted selected =>
          exact .inr ⟨.failure now, by simp only [System.step, hphase, Reply.apply]⟩
      | idle => exact .inl (by simp only [System.step, hphase])
      | entered now => exact .inl (by simp only [System.step, hphase])
  | abandon => exact .inl rfl
  | close => exact .inl rfl
  | workerTurn now => exact .inl (settings_of_pace (pace_workerTurn now system.state))
  | workerFlushed now => exact .inl rfl
  -- A flush without a client backs off as one that could not send.
  | noClient now => exact .inr ⟨.failure now, rfl⟩
  | pruneNow now => exact .inl (settings_of_pace (pace_pruneWindows reporter now system.state))

/-- A run of the reporter, by induction on its steps. -/
theorem Calm.run {start : Settings} (reporter : Reporter) {system : System}
    (h : Calm start system.state) (steps : List Step) :
    Calm start (system.run reporter steps).state := by
  induction steps generalizing system with
  | nil => exact h
  | cons step rest ih =>
      refine ih ?_
      obtain hsame | ⟨reply, hreply⟩ := settings_step reporter system step
      · exact ⟨hsame ▸ h.bounded, hsame ▸ h.quieter⟩
      · rw [hreply]
        exact h.reply reporter.library reply

/-- However requests, flushes, the worker and the prunings interleave, the settings stay in
range and only become quieter. -/
theorem system_quietens (reporter : Reporter) (rate : Option Rat) (interval : Nat)
    (instanceId : String) (earlier later : List Step) :
    Bounded (settings (System.run reporter (.new rate interval instanceId) earlier).state) ∧
    Quieter (settings (System.run reporter (.new rate interval instanceId) earlier).state)
      (settings
        (System.run reporter (.new rate interval instanceId) (earlier ++ later)).state) := by
  have hnew : Calm _ (System.new rate interval instanceId).state :=
    ⟨bounded_new rate interval instanceId, .refl _⟩
  have hbounded := (hnew.run reporter earlier).bounded
  refine ⟨hbounded, ?_⟩
  rw [System.run, System.run, List.foldl_append]
  exact (Calm.run reporter ⟨hbounded, .refl _⟩ later).quieter

end TrustedRouter.Proofs.Telemetry
