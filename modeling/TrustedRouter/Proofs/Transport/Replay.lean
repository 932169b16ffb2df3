import TrustedRouter.Proofs.Transport.Engine
import TrustedRouter.Proofs.Transport.Headers

/-!
# `TrustedRouter.Proofs.Transport.Replay`: a replayed request is the same request

`Assembled` says how a request of a call came about: the headers of the call under some
recorder value, `reqwest`'s additions for one URL, and the reserved header enforced once
more. `runLoop_assembled` shows that every request in a trace is one. Two such requests of
one call agree in all but `x-tr-client` as long as their URLs carry the same credentials,
which the candidates of one call do (`planeUrls_credentials`).

A call that sends twice is replay-safe by the discipline of the loop. With a method that is
not idempotent by itself that leaves only the idempotency key.
-/

set_option autoImplicit false

namespace TrustedRouter.Proofs.Transport

open TrustedRouter.Transport
open Rust (Bytes)
open Rust.Str
open Rust.Result
open Http (HeaderMap Method AgreeExcept)
open Whatwg (Url Backend)

/-! ## Assembled requests -/

/-- A request of `call` to `url`. -/
structure Assembled (env : Environment) (call : Call) (url : Url) (request : Request) :
    Prop where
  built : ∃ telemetry headers built,
    requestHeaders env.userAgent call.client call.options telemetry = .ok headers ∧
      env.reqwest.build call.method url headers call.body = .ok built ∧
      request =
        { built with headers := enforceReservedTelemetryHeader built.headers telemetry }

/-- A request that `send_once` sends was assembled for its URL, from the headers of the call and
with the value that the recorder had. -/
theorem sendOnce_assembled {env : Environment} {call : Call} {attempt : Nat} {url : Url}
    {recorder : Recorder} {request : Request}
    (h : (sendOnce env call attempt url recorder).request = some request) :
    Assembled env call url request := by
  unfold sendOnce at h
  dsimp only at h
  split at h
  · cases h
  · rename_i headers hheaders
    split at h
    · cases h
    · rename_i built hbuilt
      split at h <;>
      · cases h
        exact ⟨_, headers, built, hheaders, hbuilt, rfl⟩

/-- The request of a turn was assembled for the URL in its trace entry. -/
theorem step_assembled (env : Environment) (call : Call) (state : LoopState) (url : Url)
    (request : Request) (h : (step env call state url).1.request = some request) :
    Assembled env call (step env call state url).1.url request := by
  rw [(step_attempt env call state url).2]
  unfold step at h
  dsimp only at h
  split at h <;> exact sendOnce_assembled h

/-- Every request in the trace of a run was assembled for the URL of its attempt. -/
theorem runLoop_assembled {env : Environment} {call : Call} {candidates : List Url}
    {fuel : Nat} {state : LoopState} {attempt : Attempt} {request : Request}
    (hattempt : attempt ∈ (runLoop env call candidates fuel state).attempts)
    (hrequest : attempt.request = some request) :
    Assembled env call attempt.url request := by
  induction fuel generalizing state with
  | zero => cases hattempt
  | succ fuel ih =>
      cases hurl : candidates[state.cursor.index]? with
      | none =>
          simp only [runLoop, hurl] at hattempt
          cases hattempt
      | some url =>
          rcases hstep : step env call state url with ⟨first, next⟩
          -- The first attempt is the step's own, and the others are those of the run after it.
          have hfirst : first.request = some request →
              Assembled env call first.url request := by
            intro h
            have hstepped := step_assembled env call state url request
            rw [hstep] at hstepped
            exact hstepped h
          cases next with
          | returns result recorder =>
              rw [runLoop_of_returns fuel hurl hstep, List.mem_singleton] at hattempt
              rw [hattempt] at hrequest ⊢
              exact hfirst hrequest
          | sleeps delay next =>
              rw [runLoop_of_sleeps fuel hurl hstep] at hattempt
              rcases List.mem_cons.mp hattempt with rfl | hattempt
              · exact hfirst hrequest
              · exact ih hattempt

/-! ## `reqwest`'s additions -/

/-- What `build` puts around the given headers: the credentials of the URL below them, and a
content type for a body that has none. -/
theorem build_ok {reqwest : Reqwest} {method : Method} {url : Url} {headers : HeaderMap}
    {body : Option Serde.Value} {request : Request}
    (h : reqwest.build method url headers body = .ok request) :
    request.method = method ∧ request.body = body.map reqwest.toVec ∧
      ∃ credentials : HeaderMap,
        credentials =
          (match reqwest.basicAuth url.username url.password with
          | some value => HeaderMap.insert [] "authorization" value
          | none => []) ∧
        request.headers =
          if body.isSome && !(credentials.extend headers).containsKey "content-type" then
            (credentials.extend headers).insert "content-type" (bytes "application/json")
          else credentials.extend headers := by
  unfold Reqwest.build at h
  split at h
  · cases h
  · cases h
    exact ⟨rfl, rfl, _, rfl, rfl⟩

/-- Maps that agree outside a name agree on whether they hold any other. -/
theorem containsKey_of_agree {name : String} {a b : HeaderMap} (h : AgreeExcept name a b)
    {key : String} (hne : key ≠ name) : a.containsKey key = b.containsKey key := by
  unfold HeaderMap.containsKey HeaderMap.get
  rw [h key hne]

/-- Two requests of one call agree in their method, their body and every header but the
reserved one, if their URLs carry the same credentials. -/
theorem Assembled.agree {env : Environment} {call : Call} {url url' : Url}
    {request request' : Request} (h : Assembled env call url request)
    (h' : Assembled env call url' request') (husername : url.username = url'.username)
    (hpassword : url.password = url'.password) :
    request.method = request'.method ∧ request.body = request'.body ∧
      AgreeExcept "x-tr-client" request.headers request'.headers := by
  obtain ⟨telemetry, headers, built, hheaders, hbuilt, rfl⟩ := h.built
  obtain ⟨telemetry', headers', built', hheaders', hbuilt', rfl⟩ := h'.built
  obtain ⟨hmethod, hbody, credentials, hcredentials, hmap⟩ := build_ok hbuilt
  obtain ⟨hmethod', hbody', credentials', hcredentials', hmap'⟩ := build_ok hbuilt'
  rw [← husername, ← hpassword, ← hcredentials] at hcredentials'
  subst hcredentials'
  have hextended := AgreeExcept.extend credentials' (requestHeaders_agree hheaders hheaders')
  -- Both requests have a content type of their own or neither has.
  have hcontent := containsKey_of_agree hextended
    (by decide : "content-type" ≠ "x-tr-client")
  have hagree : AgreeExcept "x-tr-client" built.headers built'.headers := by
    rw [hmap, hmap', ← hcontent]
    split
    · exact hextended.insert _ _
    · exact hextended
  refine ⟨hmethod.trans hmethod'.symm, hbody.trans hbody'.symm, ?_⟩
  exact (enforce_agree _ _).trans (hagree.trans (enforce_agree _ _).symm)

/-- A request of a call with a key carries that key, once. -/
theorem Assembled.idempotencyKey {env : Environment} {call : Call} {url : Url}
    {request : Request} {key : String} (h : Assembled env call url request)
    (hkey : call.options.idempotencyKey = some key) (hne : key ≠ "") :
    request.headers.getAll "idempotency-key" = [bytes key] := by
  obtain ⟨telemetry, headers, built, hheaders, hbuilt, rfl⟩ := h.built
  obtain ⟨-, -, credentials, -, hmap⟩ := build_ok hbuilt
  have hsent := requestHeaders_idempotencyKey hheaders hkey hne
  have hextended : (credentials.extend headers).getAll "idempotency-key" = [bytes key] := by
    rw [HeaderMap.getAll_extend, hsent, if_neg (List.cons_ne_nil _ _)]
  show (enforceReservedTelemetryHeader built.headers telemetry).getAll _ = _
  rw [enforce_agree built.headers telemetry "idempotency-key" (by decide), hmap]
  split
  · rw [HeaderMap.getAll_insert_of_ne _ _ (by decide), hextended]
  · exact hextended

/-! ## Whole calls -/

/-- The bases of one plane have one scheme and one set of credentials. -/
theorem sameAccess_planeBases {client : Client} {plane : Plane} {base base' : BaseUrl}
    (h : base ∈ planeBases client plane) (h' : base' ∈ planeBases client plane) :
    base.SameAccess base' := by
  cases plane with
  | control =>
      rw [List.mem_singleton.mp h, List.mem_singleton.mp h']
      exact ⟨rfl, rfl, rfl⟩
  | inference =>
      have ha := client.sameAccess base h
      have hb := client.sameAccess base' h'
      exact ⟨ha.scheme.trans hb.scheme.symm, ha.username.trans hb.username.symm,
        ha.password.trans hb.password.symm⟩

/-- Every candidate is the join of the path onto one of the bases of its plane. -/
theorem exists_base_of_mem {lib : Backend} {client : Client} {plane : Plane} {path : String}
    {urls : List Url} (h : planeUrls lib client plane path = .ok urls) {url : Url}
    (hurl : url ∈ urls) :
    ∃ base ∈ planeBases client plane,
      Whatwg.join lib base.url (pathReference path) = .ok url :=
  exists_mem_of_forall₂ (planeUrls_eq_ok.mp h).2.flip hurl

/-- The candidates of one call carry the same credentials: those of the base, or those that a path
with a host of its own spells out for all of them. -/
theorem planeUrls_credentials {lib : Backend} {client : Client} {plane : Plane}
    {path : String} {urls : List Url} (h : planeUrls lib client plane path = .ok urls)
    {url url' : Url} (hurl : url ∈ urls) (hurl' : url' ∈ urls) :
    url.username = url'.username ∧ url.password = url'.password := by
  obtain ⟨base, hbase, hjoin⟩ := exists_base_of_mem h hurl
  obtain ⟨base', hbase', hjoin'⟩ := exists_base_of_mem h hurl'
  have haccess := sameAccess_planeBases hbase hbase'
  exact Whatwg.join_credentials haccess.scheme haccess.username haccess.password hjoin hjoin'

/-- A replay-safe call with a method that is not idempotent by itself has a key, and the key is
not empty. -/
theorem exists_key_of_requestReplaySafe {method : Method} {options : CallOptions}
    (hmethod : method ∉ [Method.get, .head, .options, .trace])
    (h : requestReplaySafe method options = true) :
    ∃ key, options.idempotencyKey = some key ∧ key ≠ "" := by
  rw [requestReplaySafe, Bool.or_eq_true, List.contains_iff_mem, Option.any_eq_true] at h
  obtain ⟨key, hkey, hne⟩ := h.resolve_left hmethod
  rw [Bool.not_eq_true', isEmpty_eq_false_iff] at hne
  exact ⟨key, hkey, hne⟩

/-- A call that makes more than one attempt, with a method other than GET, HEAD, OPTIONS or
TRACE, sends one request again and again. Every request carries exactly one idempotency
key, and it is the same one and not empty. All agree in their method, their body and every
header but `x-tr-client`. -/
theorem execute_replays_same_request {env : Environment} {call : Call} {plane : Plane}
    {path : String} {run : Run} (hrun : execute env call plane path = .ok run)
    (hmethod : call.method ∉ [Method.get, .head, .options, .trace])
    (hmany : 1 < run.attempts.length) :
    ∃ key : Bytes, key ≠ [] ∧
      (∀ attempt ∈ run.attempts, ∀ request, attempt.request = some request →
        request.headers.getAll "idempotency-key" = [key]) ∧
      ∀ a ∈ run.attempts, ∀ b ∈ run.attempts, ∀ request request',
        a.request = some request → b.request = some request' →
          request.method = request'.method ∧ request.body = request'.body ∧
            AgreeExcept "x-tr-client" request.headers request'.headers := by
  obtain ⟨candidates, hcandidates, hexecute⟩ := bind_eq_ok.mp hrun
  cases hexecute
  have hne : candidates ≠ [] := by
    rintro rfl
    exact absurd hmany (Nat.not_lt_zero _)
  have hloop := executeOn_runFrom env call
    (requestRecorder call.client plane ((candidates.head?.map Url.pathString).getD path)) hne
  obtain ⟨first, rest, hattempts, -, hreplayed⟩ := hloop.first
  -- There is a second attempt, and only a request that is safe to replay gets one.
  have hrest : rest ≠ [] := by
    rintro rfl
    rw [hattempts] at hmany
    exact absurd hmany (Nat.lt_irrefl 1)
  have hsafe := hreplayed hrest
  obtain ⟨key, hkey, hkeyNe⟩ := exists_key_of_requestReplaySafe hmethod hsafe
  refine ⟨bytes key, ?_, ?_, ?_⟩
  · intro hempty
    exact hkeyNe (bytes_injective hempty)
  · intro attempt hattempt request hrequest
    exact (runLoop_assembled hattempt hrequest).idempotencyKey hkey hkeyNe
  · intro a ha b hb request request' hrequest hrequest'
    have hurl := List.mem_of_getElem? (hloop.listed a ha)
    have hurl' := List.mem_of_getElem? (hloop.listed b hb)
    -- All candidates of a plane carry the same credentials in their URLs.
    obtain ⟨husername, hpassword⟩ := planeUrls_credentials hcandidates hurl hurl'
    exact (runLoop_assembled ha hrequest).agree (runLoop_assembled hb hrequest') husername
      hpassword

/-- The keyed POST is sent twice, and both requests carry its key and nothing else under
that name. -/
theorem execute_replays_same_request_sample :
    ∃ run, execute resetOnce keyedPost .control "/keys" = .ok run ∧ 1 < run.attempts.length ∧
      ∃ key : Bytes, key ≠ [] ∧
        ∀ attempt ∈ run.attempts, ∀ request, attempt.request = some request →
          request.headers.getAll "idempotency-key" = [key] := by
  have hrun : ∃ run, execute resetOnce keyedPost .control "/keys" = .ok run ∧
      run.attempts.length = 2 := ⟨_, rfl, rfl⟩
  obtain ⟨run, hok, hlength⟩ := hrun
  obtain ⟨key, hkey, hcarries, -⟩ :=
    execute_replays_same_request hok (by decide) (by omega)
  exact ⟨run, hok, by omega, key, hkey, hcarries⟩

end TrustedRouter.Proofs.Transport
