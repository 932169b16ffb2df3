import TrustedRouter.Proofs.Transport.Endpoints
import TrustedRouter.Proofs.Transport.Engine
import TrustedRouter.Proofs.Transport.Headers
import TrustedRouter.Telemetry.Enablement

/-!
# `TrustedRouter.Proofs.Transport.Enablement`: what a caller's choice decides

Telemetry has two channels, a header on each attempt and a beacon of its own. A client decides
about both when it is built.

* `default_beacon_stays_home`: the beacon carries the key of the client. Unless the caller asked
  for telemetry, by the option or by the environment, a client that has a reporter posts to
  `client-events` below the path of its control base, and that base is an HTTPS one on
  `trustedrouter.com` or a subdomain.
* `opted_out_silent`: a caller who opted out in any of the three ways has neither channel. There is
  no reporter, and no attempt of any call has the header, even if the caller sets it.
-/

set_option autoImplicit false

namespace TrustedRouter.Proofs.Transport

open TrustedRouter.Transport
open TrustedRouter.Telemetry (Library SdkIdentity TelemetryOptions TelemetryReporter Built
  BeaconRequest ReporterConfig build resolveTelemetryEnabled hostEnumStr controlHost configured
  onWords offWords trustedrouterDomain)
open Rust.Str
open Rust.Result
open Whatwg (Url Backend)

/-! ## Where the beacon goes -/

/-- The endpoint of the beacon below a base. -/
structure BeaconAt (base url : Url) : Prop where
  scheme : url.scheme = base.scheme
  host : url.host = base.host
  port : url.port = base.port
  path : url.pathString = base.pathString ++ "client-events"
  query : url.query = none
  fragment : url.fragment = none

/-- The name that the reporter joins onto the control base is one segment that the parser leaves
alone. -/
theorem isEndpoint_client_events : IsEndpoint "client-events" :=
  ⟨by decide, by decide, fun query => by cases query <;> rfl⟩

/-- The join of `TelemetryReporter::new` does not fail, so that the base itself is never posted
to. The source falls back on the base there, and this is what makes the fallback dead code. -/
theorem endpoint_new (lib : Backend) (library : Library) (instanceId : String)
    {config : ReporterConfig} (hbase : HasSegments config.controlBaseUrl.url) :
    BeaconAt config.controlBaseUrl.url
      (TelemetryReporter.new lib library instanceId config).endpoint := by
  obtain ⟨segments, hdirectory⟩ := isDirectory_of_base hbase
  -- The constant loses its slash, so that it is read below the path of the base.
  have hjoin : Whatwg.join lib config.controlBaseUrl.url "client-events" =
      .ok (referenceUrl "client-events".toList none config.controlBaseUrl) := by
    have hquery : ∀ text, (none : Option String) = some text →
        FormUrlencoded.IsQueryText text := by
      intro text htext
      cases htext
    have hreference := Whatwg.join_reference isEndpoint_client_events.isPathReference hquery lib
      hdirectory
    rw [referenceUrl, hdirectory.dropLast]
    exact hreference
  have hendpoint : (TelemetryReporter.new lib library instanceId config).endpoint =
      referenceUrl "client-events".toList none config.controlBaseUrl := by
    show (Whatwg.join lib config.controlBaseUrl.url "client-events").toOption.getD
      config.controlBaseUrl.url = _
    rw [hjoin]
    rfl
  rw [hendpoint]
  exact ⟨rfl, rfl, rfl, isEndpoint_client_events.pathString hbase none, rfl, rfl⟩

/-! ## What a build decides -/

section
variable {lib : Backend} {library : Library} {env : String → Option String} {sdk : SdkIdentity}
  {instanceId : String} {options : TelemetryOptions} {builder : ClientBuilder} {built : Built}

/-- The setting of a client that was built, and its sink. There is a reporter exactly when the
setting is on, for the control base and the key of the client. -/
theorem build_eq_ok (h : build lib library env sdk instanceId options builder = .ok built) :
    parseBaseUrl lib builder.controlBaseUrl "control" = .ok built.client.controlBaseUrl ∧
      built.client.telemetry = resolveTelemetryEnabled lib options.telemetry builder.apiBaseUrl
        builder.controlBaseUrl env ∧
      built.telemetrySink = if built.client.telemetry then
        some (.new lib library instanceId
          { controlBaseUrl := built.client.controlBaseUrl
            apiKey := builder.apiKey
            workspaceId := builder.workspaceId
            sdk
            successSampleRate := options.telemetrySampleRate })
        else none := by
  simp only [build, ClientBuilder.build, bind_eq_ok] at h
  obtain ⟨client, ⟨apiBase, -, controlBase, hcontrol, hclient⟩, hbuilt⟩ := h
  cases hclient
  cases hbuilt
  exact ⟨hcontrol, rfl, rfl⟩

/-- A control base that passed the check of its text is an HTTPS one of the domain. The check
parses the text by itself, and the base that is used was parsed from the same text. -/
theorem parseBaseUrl_controlHost {value name : String} {base : BaseUrl}
    (h : parseBaseUrl lib value name = .ok base) (hcontrol : controlHost lib value = true) :
    base.url.scheme = "https" ∧
      ∃ host, base.url.host = some host ∧ trustedrouterDomain (toAsciiLowercase host) = true := by
  obtain ⟨url, hparse, hbase⟩ := parseBaseUrl_eq_ok h
  rw [hbase]
  rw [controlHost, hparse] at hcontrol
  dsimp only at hcontrol
  rwa [Bool.and_eq_true, beq_iff_eq, Option.any_eq_true] at hcontrol

/-- A setting that nobody made is on only for the hosts of the service: neither an option nor a
word of the environment asked for it, so both bases were looked at. -/
theorem resolve_default {baseUrl controlBaseUrl : String} (hword : configured env ∉ onWords)
    (h : resolveTelemetryEnabled lib none baseUrl controlBaseUrl env = true) :
    hostEnumStr lib baseUrl ≠ .custom ∧ controlHost lib controlBaseUrl = true := by
  simp only [resolveTelemetryEnabled] at h
  split at h
  · cases h
  · rw [if_neg (by simpa using hword)] at h
    split at h
    · cases h
    · simpa using h

/-- Unless the caller asked for telemetry, the beacon and the key in it go to an HTTPS control
base of the service, and only from a client whose inference base is one of its hosts. -/
theorem default_beacon_stays_home
    (hbuild : build lib library env sdk instanceId options builder = .ok built)
    (hoption : options.telemetry = none) (hword : configured env ∉ onWords)
    {reporter : TelemetryReporter} (hsink : built.telemetrySink = some reporter)
    {userAgent : String} {request : BeaconRequest}
    (hrequest : reporter.request userAgent = some request) :
    BeaconAt built.client.controlBaseUrl.url request.url ∧ request.url.scheme = "https" ∧
      (∃ host, request.url.host = some host ∧
        trustedrouterDomain (toAsciiLowercase host) = true) ∧
      hostEnumStr lib builder.apiBaseUrl ≠ .custom := by
  obtain ⟨hcontrol, hsetting, hbuilt⟩ := build_eq_ok hbuild
  rw [hoption] at hsetting
  rw [hsink] at hbuilt
  split at hbuilt
  · rename_i hon
    rw [hsetting] at hon
    obtain ⟨hinference, hhost⟩ := resolve_default hword hon
    obtain ⟨hscheme, host, hhost, hdomain⟩ := parseBaseUrl_controlHost hcontrol hhost
    cases hbuilt
    simp only [TelemetryReporter.request, Option.map_eq_some_iff] at hrequest
    obtain ⟨key, -, rfl⟩ := hrequest
    -- The beacon is posted below the control base, and so on its origin.
    have hat := @endpoint_new lib library instanceId
      { controlBaseUrl := built.client.controlBaseUrl
        apiKey := builder.apiKey
        workspaceId := builder.workspaceId
        sdk
        successSampleRate := options.telemetrySampleRate } (parseBaseUrl_hasSegments hcontrol)
    exact ⟨hat, hat.scheme.trans hscheme, ⟨host, hat.host.trans hhost, hdomain⟩, hinference⟩
  · cases hbuilt

/-- A serializer for which nothing can be written. -/
def muteLibrary : Library where
  eventJson := fun _ => none
  countersJson := fun _ => none
  batchJson := fun _ => none
  read := fun _ => .error "EOF while parsing a value"
  asF64 := fun _ => none
  parseF64 := fun _ => none

/-- What this client says it is. -/
def rustSdk : SdkIdentity := ⟨"tr-rust", "0.0.0", "rust", "rustc/unknown", "linux", "x64"⟩

/-- A builder with a key and the default bases. -/
def keyedBuilder : ClientBuilder := { pinnedBuilder with apiKey := some "sk-tr" }

/-- The default bases, in an empty environment. -/
theorem default_beacon_stays_home_keyed :
    ∃ built reporter request,
      build plainBackend muteLibrary (fun _ => none) rustSdk "i-1" {} keyedBuilder = .ok built ∧
        built.telemetrySink = some reporter ∧
        reporter.request "trusted-router-rust" = some request ∧
        BeaconAt built.client.controlBaseUrl.url request.url ∧
        request.url.pathString = "/v1/client-events" := by
  have hbeacon := @default_beacon_stays_home plainBackend muteLibrary (fun _ => none) rustSdk "i-1"
    {} keyedBuilder _ rfl rfl (by decide) _ rfl "trusted-router-rust" _ rfl
  refine ⟨_, _, _, rfl, rfl, rfl, hbeacon.1, ?_⟩
  rw [hbeacon.1.path]
  decide

/-! ## Opting out -/

/-- The ways to opt out. An option of the builder goes before the environment, and the
variable of the SDK before the common one. -/
inductive OptedOut (options : TelemetryOptions) (env : String → Option String) : Prop where
  | explicit (h : options.telemetry = some false)
  | environment (h : options.telemetry = none) (hword : configured env ∈ offWords)
  | doNotTrack (h : options.telemetry = none) (hword : configured env ∉ onWords)
      (htrack : trim ((env "DO_NOT_TRACK").getD "") = "1")

/-- Each of them turns the setting off, whatever the bases are. -/
theorem OptedOut.resolve (h : OptedOut options env) (baseUrl controlBaseUrl : String) :
    resolveTelemetryEnabled lib options.telemetry baseUrl controlBaseUrl env = false := by
  cases h with
  | explicit h => rw [h, resolveTelemetryEnabled]
  | environment h hword =>
      rw [h, resolveTelemetryEnabled, if_pos (by simpa using hword)]
  | doNotTrack h hword htrack =>
      simp only [h, resolveTelemetryEnabled]
      split
      · rfl
      · rw [if_neg (by simpa using hword), if_pos (by simpa using htrack)]

end

/-- A request without the header of the recorder. -/
def Unmarked (request : Request) : Prop := request.headers.getAll "x-tr-client" = []

/-- An attempt that is not recorded takes the header away and stays unrecorded. The header is
taken away after the request is built, so that no layer can bring it back. -/
theorem sendOnce_unrecorded (env : Environment) (call : Call) (attempt : Nat) (url : Url) :
    (∀ request, (sendOnce env call attempt url none).request = some request →
        Unmarked request) ∧
      (sendOnce env call attempt url none).recorder = none := by
  simp only [sendOnce, Option.bind_none]
  split
  · refine ⟨?_, rfl⟩
    intro request h
    cases h
  · split
    · refine ⟨?_, rfl⟩
      intro request h
      cases h
    · split
      all_goals
        refine ⟨?_, rfl⟩
        intro request h
        cases h
        exact getAll_enforce _ none

/-- Judging the result of an attempt that is not recorded leaves it so: every hook is called on no
recorder. -/
theorem judge_unmarked (env : Environment) (result : Except Error Response) :
    (judge env result none).2 = none := by
  simp only [judge]
  split
  · rfl
  · split
    · rfl
    · split
      · rfl
      · split <;> rfl

/-- A turn without a recorder: its request is unmarked, and the next turn has no recorder
either. -/
theorem step_unmarked (env : Environment) (call : Call) {state : LoopState} (url : Url)
    (h : state.recorder = none) :
    (∀ request, (step env call state url).1.request = some request → Unmarked request) ∧
      ∀ delay next, (step env call state url).2 = .sleeps delay next → next.recorder = none := by
  obtain ⟨hrequest, hsent⟩ := sendOnce_unrecorded env call state.attempt url
  have hjudge := judge_unmarked env (sendOnce env call state.attempt url none).result
  have hbegun : state.recorder.call (.beginAttempt url) = none := by rw [h]; rfl
  simp only [step, hbegun, hsent]
  split
  · refine ⟨hrequest, ?_⟩
    intro delay next h
    cases h
  · rename_i disposition recorder heq
    rw [heq] at hjudge
    dsimp only at hjudge
    subst hjudge
    refine ⟨hrequest, ?_⟩
    intro delay next hpolicy
    simp only [applyPolicy] at hpolicy
    split at hpolicy
    · cases hpolicy
    · cases hpolicy
      show (if _ then (none : Recorder) else none) = none
      exact ite_self none

/-- The loop without a recorder. -/
theorem runLoop_unmarked (env : Environment) (call : Call) (candidates : List Url) (fuel : Nat)
    (state : LoopState) (h : state.recorder = none) :
    ∀ attempt ∈ (runLoop env call candidates fuel state).attempts,
      ∀ request, attempt.request = some request → Unmarked request := by
  induction fuel generalizing state with
  | zero => intro attempt hmem; cases hmem
  | succ fuel ih =>
      intro attempt hmem
      cases hurl : candidates[state.cursor.index]? with
      | none =>
          rw [runLoop, hurl] at hmem
          cases hmem
      | some url =>
          obtain ⟨hrequest, hnext⟩ := step_unmarked env call url h
          rcases hstep : step env call state url with ⟨first, next⟩
          rw [hstep] at hrequest hnext
          cases next with
          | returns result recorder =>
              rw [runLoop_of_returns fuel hurl hstep] at hmem
              rw [List.mem_singleton.mp hmem]
              exact hrequest
          | sleeps delay next =>
              rw [runLoop_of_sleeps fuel hurl hstep] at hmem
              rcases List.mem_cons.mp hmem with rfl | hmem
              · exact hrequest
              · exact ih next (hnext delay next rfl) attempt hmem

/-- A client of a caller who opted out has no reporter, and no attempt of any call of it has the
header of the recorder, whatever headers the caller set. -/
theorem opted_out_silent {lib : Backend} {library : Library} {vars : String → Option String}
    {sdk : SdkIdentity} {instanceId : String} {options : TelemetryOptions}
    {builder : ClientBuilder} {built : Built}
    (hbuild : build lib library vars sdk instanceId options builder = .ok built)
    (hout : OptedOut options vars) :
    built.telemetrySink = none ∧
      ∀ (env : Environment) (call : Call) (plane : Plane) (path : String) (run : Run),
        call.client = built.client → execute env call plane path = .ok run →
        ∀ attempt ∈ run.attempts, ∀ request, attempt.request = some request →
          Unmarked request := by
  obtain ⟨-, hsetting, hsink⟩ := build_eq_ok hbuild
  rw [hout.resolve] at hsetting
  constructor
  · rw [hsink, hsetting]
    rfl
  · intro env call plane path run hclient hrun
    simp only [execute, bind_eq_ok] at hrun
    obtain ⟨candidates, -, hrun⟩ := hrun
    cases hrun
    refine runLoop_unmarked env call candidates _ _ ?_
    -- The setting is off, so that the call has no recorder to begin with.
    show requestRecorder call.client plane _ = none
    rw [requestRecorder, hclient, hsetting]
    rfl

/-- An environment of a caller who does not want to be tracked. -/
def untracked (name : String) : Option String :=
  if name = "DO_NOT_TRACK" then some " 1 " else none

/-- A keyed POST that sets the header of the recorder itself. -/
def forgedPost (client : Client) : Call where
  client
  method := .post
  body := some (.object [])
  options :=
    { idempotencyKey := some "tr-req-1"
      headers := [("X-TR-Client", "forged")] }

/-- The client of that caller is silent, and its POST has the header neither on the attempt that is
reset nor on the one that succeeds. -/
theorem opted_out_silent_untracked :
    ∃ built run,
      build plainBackend muteLibrary untracked rustSdk "i-1" {} keyedBuilder = .ok built ∧
        execute resetOnce (forgedPost built.client) .inference "/chat/completions" = .ok run ∧
        built.telemetrySink = none ∧ run.attempts.length = 2 ∧
        ∀ attempt ∈ run.attempts, ∀ request, attempt.request = some request →
          Unmarked request := by
  obtain ⟨hsink, hruns⟩ := @opted_out_silent plainBackend muteLibrary untracked rustSdk "i-1" {}
    keyedBuilder _ rfl (.doNotTrack rfl (by decide) (by decide))
  refine ⟨_, _, rfl, rfl, hsink, rfl, ?_⟩
  exact hruns resetOnce (forgedPost _) .inference "/chat/completions" _ rfl rfl

end TrustedRouter.Proofs.Transport
