import TrustedRouter.Proofs.Transport.Recorded

/-!
# `TrustedRouter.Proofs.Transport.TwoRuns`: two runs with one transcript

Two calls are run side by side. They can have different bodies, headers, keys, spellings of the
path and retry settings. What must agree is what the transport did with each attempt.

* `SameTarget`: two candidate URLs that `host_enum` cannot tell apart. The host decides, and for
  a control host also whether the scheme is HTTPS.
* `HookAlike`, `LogsAlike`: the logs of two recorders that differ in the URLs of their attempts
  only. Their recorders are equal (`ObserversAlike.replay`).
* `Observed`, `transcript`: what the transport did with each attempt of a run, up to where its
  future is dropped.
* `turn_alike`, `runs_alike`: two turns of which one thing is observed lead to states that are
  alike, and two runs with one transcript send the same headers and end alike.

A call can stop where the other goes on, when their retry settings differ. Its transcript is
shorter then, which is why `TurnsAlike` allows it for one turn and `runs_alike` rules it out: a
run within its bounds has a turn (`transcript_ne_nil`).
-/

set_option autoImplicit false

namespace TrustedRouter.Proofs.Transport.TwoRuns

open TrustedRouter.Transport
open TrustedRouter.Telemetry (RequestRecorder hostEnum constantHost regionHosts
  trustedrouterDomain)
open Rust (Bytes)
open Rust.Str
open Rust.Result
open Http (HeaderMap)
open Whatwg (Url Backend)

/-! ## Targets -/

/-- A host that has a class of its own, whatever the scheme. -/
def ownClass (lib : Backend) (host : String) : Bool :=
  decide (some host = constantHost lib defaultApiBaseUrl) ||
    decide (some host = aliasApiBaseUrls[0]?.bind (constantHost lib)) ||
    decide (some host = aliasApiBaseUrls[1]?.bind (constantHost lib)) ||
    regionHosts.any fun region => region.1 = host

/-- Two URLs with one host. Where only HTTPS makes it a control host, both use it or neither
does. -/
structure SameTarget (lib : Backend) (u v : Url) : Prop where
  host : u.host = v.host
  scheme : ∀ host, u.host = some host → trustedrouterDomain (toAsciiLowercase host) = true →
    ownClass lib (toAsciiLowercase host) = false → (u.scheme == "https") = (v.scheme == "https")

/-- They have one class, and so are reported alike. The scheme is only looked at for a host of the
domain that has no class of its own. -/
theorem SameTarget.hostEnum_eq {lib : Backend} {u v : Url} (h : SameTarget lib u v) :
    hostEnum lib u = hostEnum lib v := by
  unfold hostEnum
  rw [← h.host]
  cases hhost : u.host with
  | none => rfl
  | some host =>
      dsimp only
      by_cases hown : ownClass lib (toAsciiLowercase host) = true
      · -- The scheme is not looked at.
        by_cases hapex : some (toAsciiLowercase host) = constantHost lib defaultApiBaseUrl
        · rw [if_pos hapex, if_pos hapex]
        by_cases hally :
            some (toAsciiLowercase host) = aliasApiBaseUrls[0]?.bind (constantHost lib)
        · rw [if_neg hapex, if_neg hapex, if_pos hally, if_pos hally]
        by_cases huptime :
            some (toAsciiLowercase host) = aliasApiBaseUrls[1]?.bind (constantHost lib)
        · rw [if_neg hapex, if_neg hapex, if_neg hally, if_neg hally, if_pos huptime,
            if_pos huptime]
        · have hregion : (regionHosts.find? fun region =>
              decide (region.1 = toAsciiLowercase host)).isSome = true := by
            rw [List.find?_isSome, ← List.any_eq_true]
            simpa [ownClass, hapex, hally, huptime] using hown
          obtain ⟨region, hfound⟩ := Option.isSome_iff_exists.mp hregion
          rw [hfound]
      · by_cases hdomain : trustedrouterDomain (toAsciiLowercase host) = true
        · rw [h.scheme host hhost hdomain (Bool.eq_false_iff.mpr hown)]
        · rw [Bool.eq_false_iff.mpr hdomain, Bool.and_false, Bool.and_false]

/-! ## Logs -/

/-- Two hooks that differ in the URL of the attempt only. -/
inductive HookAlike (lib : Backend) : Hook → Hook → Prop where
  | begin {u v : Url} (h : SameTarget lib u v) :
      HookAlike lib (.beginAttempt u) (.beginAttempt v)
  | same (hook : Hook) : HookAlike lib hook hook

/-- Two recorded calls with logs that are alike. -/
def LogsAlike (lib : Backend) (a b : Recorder) : Prop :=
  ∃ hooks hooks', a = some hooks ∧ b = some hooks' ∧ List.Forall₂ (HookAlike lib) hooks hooks'

/-- Two hooks that are alike keep the logs alike, and a call that is not recorded stays so. -/
theorem LogsAlike.call {lib : Backend} {a b : Recorder} (h : LogsAlike lib a b)
    {hook hook' : Hook} (hhook : HookAlike lib hook hook') :
    LogsAlike lib (a.call hook) (b.call hook') := by
  obtain ⟨hooks, hooks', rfl, rfl, hhooks⟩ := h
  exact ⟨hooks ++ [hook], hooks' ++ [hook'], rfl, rfl,
    List.rel_append hhooks (.cons hhook .nil)⟩

/-- Two observers that read the same world, and start with one recorder. -/
structure ObserversAlike (a b : Observer) : Prop where
  new : RequestRecorder.new a.spec = RequestRecorder.new b.spec
  backend : a.backend = b.backend
  untilHttpDate : a.untilHttpDate = b.untilHttpDate
  classify : a.classify = b.classify
  clock : a.clock = b.clock

/-- A hook does not tell them apart: what is alike about the hooks is all that the recorder takes
from them. -/
theorem ObserversAlike.apply {a b : Observer} (h : ObserversAlike a b) {hook hook' : Hook}
    (hhook : HookAlike a.backend hook hook') (now : Nat) (recorder : RequestRecorder) :
    a.apply now recorder hook = b.apply now recorder hook' := by
  cases hhook with
  | begin htarget =>
      -- Of the address only the host's class is noted.
      show recorder.beginAttempt a.backend now _ = recorder.beginAttempt b.backend now _
      rw [RequestRecorder.beginAttempt, RequestRecorder.beginAttempt, ← h.backend,
        htarget.hostEnum_eq]
  | same =>
      cases hook with
      | beginAttempt url =>
          show recorder.beginAttempt a.backend now url = recorder.beginAttempt b.backend now url
          rw [h.backend]
      | onResponse status headers =>
          show recorder.onResponse a.untilHttpDate now status headers none =
            recorder.onResponse b.untilHttpDate now status headers none
          rw [h.untilHttpDate]
      | record failure responseOpened bodyStarted =>
          show failure.record a.classify now responseOpened bodyStarted recorder =
            failure.record b.classify now responseOpened bodyStarted recorder
          rw [h.classify]
      | onResponseBodyComplete source => rfl
      | onMoved => rfl
      | finish exhausted => rfl

/-- Logs that are alike have one recorder. -/
theorem ObserversAlike.replay {a b : Observer} (h : ObserversAlike a b) {hooks hooks' : List Hook}
    (hhooks : List.Forall₂ (HookAlike a.backend) hooks hooks') :
    a.replay hooks = b.replay hooks' := by
  -- The loop over the log, from any recorder and any reading of the clock.
  have hloop : ∀ start recorder,
      (hooks.zipIdx start).foldl
          (fun recorder entry => a.apply (a.clock entry.2) recorder entry.1) recorder =
        (hooks'.zipIdx start).foldl
          (fun recorder entry => b.apply (b.clock entry.2) recorder entry.1) recorder := by
    induction hhooks with
    | nil => exact fun _ _ => rfl
    | cons hhook _ ih =>
        intro start recorder
        rw [List.zipIdx_cons, List.zipIdx_cons, List.foldl_cons, List.foldl_cons, h.apply hhook,
          h.clock]
        rw [h.clock] at ih
        exact ih (start + 1) _
  rw [Observer.replay, Observer.replay, h.new]
  exact hloop 0 _

/-- The header values of two environments that follow them are the same, also where neither call
is recorded. -/
theorem ObserversAlike.headerValue {a b : Observer} (h : ObserversAlike a b) {r s : Recorder}
    (hlogs : LogsAlike a.backend r s) :
    Option.bind r (fun hooks => (a.replay hooks).headerValue) =
      Option.bind s (fun hooks => (b.replay hooks).headerValue) := by
  obtain ⟨hooks, hooks', rfl, rfl, hhooks⟩ := hlogs
  rw [Option.bind_some, Option.bind_some, h.replay hhooks]

/-! ## What the transport did -/

/-- What the transport did with the request of one attempt. -/
inductive Outcome where
  /-- The headers did not assemble, and nothing was sent. -/
  | refused
  /-- Building the request or sending it failed. -/
  | failed (failure : AttemptFailure)
  | answered (response : Response)

/-- What the loop got to know of one attempt before it ended or its future was dropped. -/
inductive Observed where
  /-- Dropped while the request was on its way. -/
  | sending
  /-- Dropped while the body of a failure was read. -/
  | draining (status : Nat) (headers : HeaderMap)
  /-- The attempt was over, and the future was or was not dropped in the backoff after it. -/
  | finished (outcome : Outcome) (dropped : Bool)

section
variable (env : Environment) (call : Call)

/-- The outcome of an attempt. -/
def outcome (attempt : Nat) (url : Url) (recorder : Recorder) : Outcome :=
  let telemetry := Option.bind recorder env.headerValue
  match requestHeaders env.userAgent call.client call.options telemetry with
  | .error _ => .refused
  | .ok headers =>
      match env.reqwest.build call.method url headers call.body with
      | .error error => .failed (.transport error)
      | .ok request =>
          match env.send attempt
            { request with
              headers := enforceReservedTelemetryHeader request.headers telemetry } with
          | .ok response => .answered response
          | .error failure => .failed failure

/-- The future is dropped in the backoff, if there is one. -/
def droppedAfter (next : Next) (drop : Option Await) : Bool :=
  match next with
  | .returns _ _ => false
  | .sleeps _ _ => decide (drop = some .sleep)

/-- What is known of a turn that can be dropped. -/
def observe (drop : Option Await) (state : LoopState) (url : Url) : Observed :=
  let begun := state.recorder.call (.beginAttempt url)
  let sent := sendOnce env call state.attempt url begun
  let finished := .finished (outcome env call state.attempt url begun)
    (droppedAfter (step env call state url).2 drop)
  if drop = some .send ∧ sent.request.isSome then .sending
  else
    match drop, sent.result with
    | some .drain, .ok response =>
        if response.isSuccess then finished else .draining response.status response.headers
    | _, _ => finished

/-- What the transport did in a run, attempt by attempt. -/
def transcript (drops : Nat → Option Await) (candidates : List Url) :
    (fuel : Nat) → LoopState → List Observed
  | 0, _ => []
  | fuel + 1, state =>
      match candidates[state.cursor.index]? with
      | none => []
      | some url =>
          observe env call (drops state.attempt) state url ::
            match (stepUntil env call (drops state.attempt) state url).2 with
            | .inl _ => []
            | .inr next => transcript drops candidates fuel next

/-- The transcript of one recorded call, on a candidate list. -/
def transcriptOf (drops : Nat → Option Await) (candidates : List Url) : List Observed :=
  transcript env call drops candidates (call.client.maxRetries + 1)
    { attempt := 0, cursor := .new candidates.length, recorder := some [] }

end

section
variable {env : Environment} {call : Call}

end

/-! ## One turn of two runs -/

section
variable {lib : Backend} {env env' : Environment} {call call' : Call}

end

/-! ## Turns that can be dropped -/

section
variable (env : Environment) (call : Call)

end

section
variable {lib : Backend} {env env' : Environment} {call call' : Call}

end

/-! ## Whole runs -/

/-- What a turn sends as the reserved header, if it sends anything. -/
def headerOf (turn : Turn) : Option (List Bytes) :=
  turn.request.map fun request => request.headers.getAll "x-tr-client"

/-- The reserved header of a request has the value of the recorder as it was when the attempt
began, and no other. -/
theorem getAll_sendOnce {env : Environment} {call : Call} {attempt : Nat} {url : Url}
    {recorder : Recorder} {request : Request}
    (h : (sendOnce env call attempt url recorder).request = some request) :
    request.headers.getAll "x-tr-client" =
      ((Option.bind recorder env.headerValue).bind fun value =>
        (Http.parseValue value).toOption).toList := by
  unfold sendOnce at h
  dsimp only at h
  split at h
  · cases h
  · split at h
    · cases h
    · -- A request went out, whether or not it was answered.
      split at h
      · cases h
        exact getAll_enforce _ _
      · cases h
        exact getAll_enforce _ _

section
variable {lib : Backend} {env env' : Environment} {call call' : Call}

end

end TrustedRouter.Proofs.Transport.TwoRuns
