import TrustedRouter.Transport.Engine
import TrustedRouter.Proofs.Transport.Routing

/-!
# `TrustedRouter.Proofs.Transport.Engine`: the discipline of the retry loop

`MayRetry` and `MovesHost` are the two questions the policy answers about an attempt, in
terms of what the attempt saw. `judge_disposes` connects them to the disposition the engine
acts on, in all its arms. The arm where the failure body cannot be read is one of them.

`step_sleeps` reads a turn that goes on backwards, and `Within` is what it keeps of the bounds
of the loop. From the two `runLoop_spec` follows by induction on the fuel: the run returns, its
length is bounded, and each attempt follows from the one before it. `executeOn_disciplined` is
that for a whole call.
-/

set_option autoImplicit false

namespace TrustedRouter.Proofs.Transport

open TrustedRouter.Transport
open Rust.Str (bytes)
open Whatwg (Url)

/-! ## The two questions -/

/-- A transport error or a timeout. -/
def IsTransportError (error : Error) : Prop :=
  ∃ message, error = .transport message ∨ error = .timeout message

/-- An attempt with this result may be followed by another: a transport error, a verdict
`true`, or no verdict and a status that is retryable. -/
def MayRetry : Except Error Response → Prop
  | .error error => IsTransportError error
  | .ok response =>
      shouldRetryVerdict response.headers = some true ∨
        (shouldRetryVerdict response.headers = none ∧
          (response.status = 429 ∨ 500 ≤ response.status))

/-- An attempt with this result sends the next one to another host: a transport error, or a
gateway status without a verdict `false`. -/
def MovesHost : Except Error Response → Prop
  | .error error => IsTransportError error
  | .ok response =>
      response.status ∈ [502, 503, 504] ∧ shouldRetryVerdict response.headers ≠ some false

/-- The errors after which the loop may go on: those of the transport and its timeouts, and no
error of the API or the configuration. -/
theorem retryableTransport_iff {error : Error} :
    retryableTransport error = true ↔ IsTransportError error := by
  constructor
  · intro h
    cases error with
    | transport message => exact ⟨message, .inl rfl⟩
    | timeout message => exact ⟨message, .inr rfl⟩
    | _ => cases h
  · rintro ⟨message, rfl | rfl⟩ <;> rfl

/-- The first question the loop asks of a response. A verdict in the headers decides it, and the
status only counts without one. -/
theorem retryableStatus_iff {response : Response} :
    retryableStatus response.status response.headers = true ↔ MayRetry (.ok response) := by
  unfold retryableStatus MayRetry
  cases hverdict : shouldRetryVerdict response.headers with
  | none => simp [hverdict]
  | some verdict => simp [hverdict]

/-- The second question. A verdict `true` does not move a call by itself: it takes one of the
three gateway statuses, and no verdict `false`. -/
theorem failoverableStatus_iff {response : Response} :
    failoverableStatus response.status response.headers = true ↔
      MovesHost (.ok response) := by
  unfold failoverableStatus MovesHost
  by_cases hverdict : shouldRetryVerdict response.headers = some false
  · simp [hverdict]
  · simp only [hverdict, if_false, Bool.and_eq_true, decide_eq_true_eq, List.mem_cons,
      List.not_mem_nil, or_false, ne_eq, not_false_eq_true, and_true]
    omega

/-! ## One turn -/

/-- A disposition answers both questions. -/
theorem judge_disposes {env : Environment} {result : Except Error Response}
    {recorder recorder' : Recorder} {disposition : FailureDisposition}
    (h : judge env result recorder = (.disposes disposition, recorder'))
    (hretry : disposition.retry = true) :
    MayRetry result ∧ (disposition.failover = true ↔ MovesHost result) := by
  cases result with
  | error error =>
      simp only [judge, Prod.mk.injEq, Judgement.disposes.injEq] at h
      obtain ⟨rfl, -⟩ := h
      have herror := retryableTransport_iff.mp hretry
      exact ⟨herror, fun _ => herror, fun _ => rfl⟩
  | ok response =>
      -- Both arms that dispose take their answers from the status and the headers.
      have hfrom : ∀ payload, disposition = .fromHttp env.untilHttpDate response.status
          response.headers payload → MayRetry (.ok response) ∧
            (disposition.failover = true ↔ MovesHost (.ok response)) := by
        rintro payload rfl
        exact ⟨retryableStatus_iff.mp hretry, failoverableStatus_iff⟩
      simp only [judge] at h
      split at h
      · cases h
      · split at h
        · cases h
          exact hfrom _ rfl
        · split at h
          · cases h
            exact hfrom _ rfl
          · cases h

/-- The next candidate: one further after a result that moves hosts, if there is one. -/
def FollowsOn (count : Nat) (result : Except Error Response) (before after : Nat) : Prop :=
  (MovesHost result ∧ before + 1 < count → after = before + 1) ∧
    (¬ (MovesHost result ∧ before + 1 < count) → after = before)

/-- The cursor after a failure is the one that `FollowsOn` names, on a list of the same length. -/
theorem followsOn_advance (cursor : CandidateCursor) {result : Except Error Response}
    {failover : Bool} (h : failover = true ↔ MovesHost result) :
    FollowsOn cursor.len result cursor.index
        (if failover then cursor.advance else (cursor, false)).1.index ∧
      (if failover then cursor.advance else (cursor, false)).1.len = cursor.len := by
  unfold FollowsOn
  rw [← h]
  by_cases hfailover : failover = true
  · by_cases hroom : cursor.index + 1 < cursor.len <;>
      simp [hfailover, CandidateCursor.advance, hroom]
  · simp [hfailover]

/-- The trace entry of a turn: the candidate that the cursor was on, and the URL that was given
for it. -/
theorem step_attempt (env : Environment) (call : Call) (state : LoopState) (url : Url) :
    (step env call state url).1.candidate = state.cursor.index ∧
      (step env call state url).1.url = url := by
  unfold step
  dsimp only
  split <;> exact ⟨rfl, rfl⟩

/-- A turn that goes on: the ceiling is not reached, the request is replay-safe, the result
may be retried, and the cursor follows it. -/
theorem step_sleeps {env : Environment} {call : Call} {state next : LoopState} {url : Url}
    {attempt : Attempt} {delay : Nat}
    (h : step env call state url = (attempt, .sleeps delay next)) :
    state.attempt < call.client.maxRetries ∧
      requestReplaySafe call.method call.options = true ∧
      MayRetry attempt.result ∧
      next.attempt = state.attempt + 1 ∧
      next.cursor.len = state.cursor.len ∧
      FollowsOn state.cursor.len attempt.result state.cursor.index next.cursor.index := by
  simp only [step] at h
  split at h
  · cases h
  · rename_i disposition recorder hjudge
    simp only [Prod.mk.injEq] at h
    obtain ⟨rfl, hpolicy⟩ := h
    simp only [applyPolicy] at hpolicy
    split at hpolicy
    · cases hpolicy
    · rename_i hgo
      simp only [Bool.or_eq_true, Bool.not_eq_true', decide_eq_true_eq, not_or,
        Bool.not_eq_false, Nat.not_le] at hgo
      -- The three ways to stop are a spent budget, a final failure and an unsafe replay.
      obtain ⟨⟨hbelow, hretry⟩, hsafe⟩ := hgo
      obtain ⟨hmay, hmoves⟩ := judge_disposes hjudge hretry
      obtain ⟨hindex, hlen⟩ := followsOn_advance state.cursor hmoves
      cases hpolicy
      exact ⟨hbelow, hsafe, hmay, rfl, hlen, hindex⟩

/-! ## The bounds of the loop -/

/-- The state is within the bounds of the loop: the cursor is on a candidate, the ceiling is not
passed, and there is fuel for every attempt that is left. -/
structure Within (call : Call) (candidates : List Url) (fuel : Nat) (state : LoopState) :
    Prop where
  len : state.cursor.len = candidates.length
  index : state.cursor.index < candidates.length
  attempt : state.attempt ≤ call.client.maxRetries
  fuel : call.client.maxRetries < fuel + state.attempt

/-- A loop starts within them, if there is a candidate: no attempt was made, and the fuel is one
more than the ceiling. -/
theorem within_start (call : Call) {candidates : List Url} (h : candidates ≠ [])
    (recorder : Recorder) :
    Within call candidates (call.client.maxRetries + 1)
      { attempt := 0, cursor := .new candidates.length, recorder } :=
  ⟨rfl, List.length_pos_iff.mpr h, Nat.zero_le _, Nat.lt_succ_self _⟩

/-- Fuel does not run out first: within the bounds there is always some left. -/
theorem not_within_zero {call : Call} {candidates : List Url} {state : LoopState} :
    ¬ Within call candidates 0 state := by
  intro h
  have hattempt := h.attempt
  have hfuel := h.fuel
  omega

/-- A turn that goes on stays within them. -/
theorem Within.step {env : Environment} {call : Call} {candidates : List Url} {fuel : Nat}
    {state next : LoopState} {url : Url} {attempt : Attempt} {delay : Nat}
    (h : Within call candidates (fuel + 1) state)
    (hstep : step env call state url = (attempt, .sleeps delay next)) :
    Within call candidates fuel next := by
  obtain ⟨hbelow, -, -, hattempt, hlen, hfollows⟩ := step_sleeps hstep
  have hfuel := h.fuel
  rw [h.len] at hlen hfollows
  refine ⟨hlen, ?_, by omega, by omega⟩
  -- The cursor moves only where there is a next candidate.
  by_cases hmoves : MovesHost attempt.result ∧ state.cursor.index + 1 < candidates.length
  · rw [hfollows.1 hmoves]
    exact hmoves.2
  · rw [hfollows.2 hmoves]
    exact h.index

/-! ## The whole run -/

/-- Attempt `a` is directly followed by attempt `b`. -/
def Follows (count : Nat) (a b : Attempt) : Prop :=
  MayRetry a.result ∧ FollowsOn count a.result a.candidate b.candidate

/-- A turn that returns ends the loop, with the one attempt in its trace. -/
theorem runLoop_of_returns {env : Environment} {call : Call} {candidates : List Url}
    {state : LoopState} {url : Url} {attempt : Attempt} {result : Except Error Response}
    {recorder : Recorder} (fuel : Nat) (hurl : candidates[state.cursor.index]? = some url)
    (hstep : step env call state url = (attempt, .returns result recorder)) :
    runLoop env call candidates (fuel + 1) state =
      { attempts := [attempt], result := some (result, recorder) } := by
  simp only [runLoop, hurl, hstep]

/-- A turn that goes on is followed by the rest of the loop. -/
theorem runLoop_of_sleeps {env : Environment} {call : Call} {candidates : List Url}
    {state next : LoopState} {url : Url} {attempt : Attempt} {delay : Nat} (fuel : Nat)
    (hurl : candidates[state.cursor.index]? = some url)
    (hstep : step env call state url = (attempt, .sleeps delay next)) :
    runLoop env call candidates (fuel + 1) state =
      { attempts := attempt :: (runLoop env call candidates fuel next).attempts
        result := (runLoop env call candidates fuel next).result } := by
  simp only [runLoop, hurl, hstep]

/-- What a run from `state` guarantees. -/
structure RunFrom (call : Call) (candidates : List Url) (state : LoopState) (run : Run) :
    Prop where
  result : run.result.isSome = true
  length : run.attempts.length + state.attempt ≤ call.client.maxRetries + 1
  first : ∃ first rest, run.attempts = first :: rest ∧
    first.candidate = state.cursor.index ∧
      (rest ≠ [] → requestReplaySafe call.method call.options = true)
  listed : ∀ attempt ∈ run.attempts, candidates[attempt.candidate]? = some attempt.url
  chain : run.attempts.IsChain (Follows candidates.length)

/-- The loop from any state within its bounds. -/
theorem runLoop_spec (env : Environment) (call : Call) (candidates : List Url) (fuel : Nat)
    (state : LoopState) (hwithin : Within call candidates fuel state) :
    RunFrom call candidates state (runLoop env call candidates fuel state) := by
  induction fuel generalizing state with
  | zero => exact absurd hwithin not_within_zero
  | succ fuel ih =>
      have hindex := hwithin.index
      have hattempt := hwithin.attempt
      have hurl : candidates[state.cursor.index]? = some candidates[state.cursor.index] :=
        List.getElem?_eq_getElem hindex
      obtain ⟨hcandidate, htarget⟩ :=
        step_attempt env call state candidates[state.cursor.index]
      rcases hstep : step env call state candidates[state.cursor.index] with ⟨attempt, next⟩
      rw [hstep] at hcandidate htarget
      dsimp only at hcandidate htarget
      have hlisted : candidates[attempt.candidate]? = some attempt.url := by
        rw [hcandidate, htarget, hurl]
      cases next with
      | returns result recorder =>
          rw [runLoop_of_returns fuel hurl hstep]
          refine ⟨rfl, ?_, ⟨attempt, [], rfl, hcandidate, fun h => absurd rfl h⟩, ?_, ?_⟩
          · rw [List.length_singleton]
            omega
          · intro other hother
            rw [List.mem_singleton.mp hother]
            exact hlisted
          · exact .singleton attempt
      | sleeps delay next =>
          -- The rest of the run starts where this turn left off.
          obtain ⟨-, hsafe, hmay, hnext, -, hfollows⟩ := step_sleeps hstep
          rw [hwithin.len] at hfollows
          have hrest := ih next (hwithin.step hstep)
          obtain ⟨first, rest, hfirst, hfirstCandidate, -⟩ := hrest.first
          have hlength := hrest.length
          have hchain := hrest.chain
          rw [runLoop_of_sleeps fuel hurl hstep]
          refine ⟨hrest.result, ?_, ⟨attempt, _, rfl, hcandidate, fun _ => hsafe⟩, ?_, ?_⟩
          · rw [List.length_cons]
            omega
          · intro other hother
            rcases List.mem_cons.mp hother with rfl | hother
            · exact hlisted
            · exact hrest.listed other hother
          · rw [hfirst] at hchain ⊢
            refine List.isChain_cons_cons.mpr ⟨⟨hmay, ?_⟩, hchain⟩
            rw [hcandidate, hfirstCandidate]
            exact hfollows

/-- The discipline of one call. -/
structure Disciplined (call : Call) (candidates : List Url) (attempts : List Attempt) :
    Prop where
  atLeastOne : attempts ≠ []
  atMost : attempts.length ≤ call.client.maxRetries + 1
  /-- A request that is not replay-safe is sent once. -/
  once : requestReplaySafe call.method call.options = false → attempts.length = 1
  startsAtFirst : ∀ attempt, attempts[0]? = some attempt → attempt.candidate = 0
  /-- Every attempt targets a candidate of the list, the one at its index. -/
  listed : ∀ attempt ∈ attempts, candidates[attempt.candidate]? = some attempt.url
  /-- The candidate moves one further exactly after a result that moves hosts, while there
  is a further one. -/
  moves : ∀ i a b, attempts[i]? = some a → attempts[i + 1]? = some b →
    FollowsOn candidates.length a.result a.candidate b.candidate
  /-- Only a result that may be retried is followed by another attempt. -/
  retries : ∀ i a b, attempts[i]? = some a → attempts[i + 1]? = some b → MayRetry a.result
  /-- A verdict `false` ends the call. -/
  verdictEnds : ∀ i a response, attempts[i]? = some a → a.result = .ok response →
    shouldRetryVerdict response.headers = some false → i + 1 = attempts.length

/-- A result with a verdict `false` may not be retried, whatever its status is. -/
theorem not_mayRetry_of_verdict {response : Response}
    (h : shouldRetryVerdict response.headers = some false) : ¬ MayRetry (.ok response) := by
  simp [MayRetry, h]

/-- Consecutive entries of a chain, by position. -/
theorem follows_of_isChain {count : Nat} {attempts : List Attempt}
    (h : attempts.IsChain (Follows count)) {i : Nat} {a b : Attempt}
    (ha : attempts[i]? = some a) (hb : attempts[i + 1]? = some b) : Follows count a b := by
  obtain ⟨hi, rfl⟩ := List.getElem?_eq_some_iff.mp ha
  obtain ⟨hi', rfl⟩ := List.getElem?_eq_some_iff.mp hb
  exact List.isChain_iff_getElem.mp h i hi'

/-- The loop of a call starts at the first candidate, with fuel to its ceiling, so that its trace
is one of `RunFrom`. -/
theorem executeOn_runFrom (env : Environment) (call : Call) (recorder : Recorder)
    {candidates : List Url} (hcandidates : candidates ≠ []) :
    RunFrom call candidates { attempt := 0, cursor := .new candidates.length, recorder }
      (executeOn env call recorder candidates) :=
  runLoop_spec env call candidates (call.client.maxRetries + 1) _
    (within_start call hcandidates recorder)

/-- Every call on a candidate list that is not empty returns, and its attempts keep the
discipline: their number, the candidates they target and what each may be followed by. -/
theorem executeOn_disciplined (env : Environment) (call : Call) (recorder : Recorder)
    (candidates : List Url) (hcandidates : candidates ≠ []) :
    (executeOn env call recorder candidates).result.isSome = true ∧
      Disciplined call candidates (executeOn env call recorder candidates).attempts := by
  have hrun := executeOn_runFrom env call recorder hcandidates
  obtain ⟨first, rest, hattempts, hfirst, hsafe⟩ := hrun.first
  refine ⟨hrun.result, ?_⟩
  refine
    { atLeastOne := by rw [hattempts]; exact List.cons_ne_nil _ _
      atMost := hrun.length
      once := ?_
      startsAtFirst := ?_
      listed := hrun.listed
      moves := fun i a b ha hb => (follows_of_isChain hrun.chain ha hb).2
      retries := fun i a b ha hb => (follows_of_isChain hrun.chain ha hb).1
      verdictEnds := ?_ }
  · intro hunsafe
    have hrest : rest = [] := by
      by_contra hne
      rw [hsafe hne] at hunsafe
      cases hunsafe
    rw [hattempts, hrest, List.length_singleton]
  · intro attempt hattempt
    rw [hattempts] at hattempt
    cases hattempt
    exact hfirst
  · intro i a response ha hresult hverdict
    obtain ⟨hi, -⟩ := List.getElem?_eq_some_iff.mp ha
    by_contra hnext
    -- A further attempt would have to follow a result that may not be retried.
    have hlt : i + 1 < (executeOn env call recorder candidates).attempts.length := by omega
    have hmay := (follows_of_isChain hrun.chain ha (List.getElem?_eq_getElem hlt)).1
    rw [hresult] at hmay
    exact not_mayRetry_of_verdict hverdict hmay

/-- An environment where the first attempt is reset and the second succeeds. -/
def resetOnce : Environment where
  backend := plainBackend
  reqwest :=
    { basicAuth := fun _ _ => none
      toVec := fun _ => bytes "\x7b\x7d"
      badUrl := fun _ => { message := "builder error", isTimeout := false } }
  read := fun _ => .error "EOF while parsing a value"
  userAgent := "trusted-router-rust"
  untilHttpDate := fun _ => none
  headerValue := fun _ => none
  send := fun attempt _ =>
    if attempt = 0 then .error (.transport { message := "connection reset", isTimeout := false })
    else .ok { status := 200, headers := [], body := .ok [] }
  jitter := fun _ => 0

/-- A keyed POST whose own headers spell the key's name in another case. -/
def keyedPost : Call where
  client := defaultClient
  method := .post
  body := some (.object [])
  options :=
    { idempotencyKey := some "tr-req-1"
      headers := [("Idempotency-Key", "forged")] }

/-- A second candidate. -/
def aliasUrl : Url := { defaultControlBase.url with host := some "api.allyrouter.com" }

/-- An environment where the first attempt is reset, the second is told to slow down and the third
succeeds. -/
def resetThenLimited : Environment :=
  { resetOnce with
    send := fun attempt _ =>
      match attempt with
      | 0 => .error (.transport { message := "connection reset", isTimeout := false })
      | 1 => .ok { status := 429, headers := [], body := .ok [] }
      | _ => .ok { status := 200, headers := [], body := .ok [] } }

/-- The keyed POST moves to the second candidate after the reset, and is retried there, in place,
after the rate limit. -/
theorem executeOn_disciplined_sample :
    Disciplined keyedPost [defaultControlBase.url, aliasUrl]
      (executeOn resetThenLimited keyedPost none [defaultControlBase.url, aliasUrl]).attempts ∧
    (executeOn resetThenLimited keyedPost none
      [defaultControlBase.url, aliasUrl]).attempts.map Attempt.url =
        [defaultControlBase.url, aliasUrl, aliasUrl] := by
  refine ⟨?_, rfl⟩
  exact (executeOn_disciplined resetThenLimited keyedPost none [defaultControlBase.url, aliasUrl]
    (List.cons_ne_nil _ _)).2

end TrustedRouter.Proofs.Transport
