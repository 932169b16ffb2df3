import TrustedRouter.Proofs.Receipts.Readers

/-!
# `TrustedRouter.Proofs.Receipts.Claims`: the checks on the signed claims

One result for each stretch of `verify_receipt_with` that reads the payload: what the stretch
returned is what the payload carries, and the caller's condition on it holds. `CarriesHash`,
`CarriesModel` and `CarriesUpstream` are the first half for the three records of a receipt.
The second half is stated in the terms of the caller: a time within the skew and the age
bound, a nonce that is the expected one, digests of the caller's own bytes.

`Passes` has one field a stage, and `verifyReceiptWith_eq_ok` says that claims are returned
exactly when all stages pass. What is proved of the whole function is proved from its fields.
-/

set_option autoImplicit false

namespace TrustedRouter.Proofs.Receipts

open Rust (Bytes I64.min I64.saturatingAdd I64.saturatingAdd_le I64.checkedSub)
open Rust.Str
open Rust.Result
open Serde (Value)
open TrustedRouter.Receipts

variable {lib : Library}

/-! ## What the payload carries -/

/-- A digest record holds the members of the hash claims. -/
structure CarriesHash (record : Serde.Map) (claims : ReceiptHashClaims) : Prop where
  alg : record.get "alg" = some (.string claims.alg)
  hash : record.get "hash" = some (.string claims.hash)
  of : record.get "of" = some (.string claims.of)
  events : ∀ n, claims.events = some n → (record.get "events").bind Value.asU64 = some n

/-- A model record holds the members of the model claims. -/
structure CarriesModel (record : Serde.Map) (claims : ReceiptModelClaims) : Prop where
  requested : record.get "requested" = some (.string claims.requested)
  selected : record.get "selected" = some (.string claims.selected)
  provider : record.get "provider" = some (.string claims.provider)
  endpoint : record.get "endpoint" = some (.string claims.endpoint)

/-- An upstream record holds the members of the upstream claims. -/
structure CarriesUpstream (record : Serde.Map) (claims : ReceiptUpstreamClaims) : Prop where
  tier : record.get "tier" = some (.string claims.tier)
  policy : record.get "policy" = claims.policy.map Value.string
  verifiedAt : ∀ t, claims.verifiedAt = some t →
    (record.get "verified_at").bind Value.asI64 = some t
  verificationExpiresAt : ∀ t, claims.verificationExpiresAt = some t →
    (record.get "verification_expires_at").bind Value.asI64 = some t
  certSha256 : record.get "cert_sha256" = claims.certSha256.map Value.string

/-! ## Version, issuer and time -/

/-- The only version is 1, read as an integer: a text or a fraction is no version. -/
theorem checkVersion_eq_ok {claims : Serde.Map} {rv : Int}
    (h : checkVersion lib claims = .ok rv) :
    rv = 1 ∧ (claims.get "rv").bind Value.asI64 = some rv := by
  simp only [checkVersion, bind_eq_ok, exists_unit, ensure_eq_ok, beq_iff_eq] at h
  obtain ⟨hrv, hresult⟩ := h
  rw [hrv] at hresult
  cases hresult
  exact ⟨rfl, hrv⟩

/-- The issuer of the receipt has the canonical form of the caller's pin. -/
theorem checkIssuer_eq_ok {claims : Serde.Map} {origin iss : String}
    (h : checkIssuer lib claims origin = .ok iss) :
    claims.get "iss" = some (.string iss) ∧
      canonicalHttpsOrigin lib iss "iss claim" = .ok origin := by
  simp only [checkIssuer, bind_eq_ok, exists_unit, ensure_eq_ok, requiredString_eq_ok,
    safeEqual_bytes_iff] at h
  obtain ⟨iss, ⟨hiss, -⟩, origin, horigin, rfl, hresult⟩ := h
  cases hresult
  exact ⟨hiss, horigin⟩

/-- The time the verifier works with is an `i64`: the caller's is one by its type, and the clock's
is not negative. -/
theorem min_le_currentTime {options : ReceiptVerificationOptions} {now : Int}
    (h : currentTime lib options = .ok now) : I64.min ≤ now := by
  unfold currentTime at h
  split at h
  · rename_i value _
    cases h
    exact value.le_toInt
  · simp only [bind_eq_ok, exists_unit, mapErr_eq_ok] at h
    obtain ⟨seconds, -, -, hnow⟩ := h
    cases hnow
    show (-2 ^ 63 : Int) ≤ (seconds.toNat : Int)
    omega

/-- The issue time is no more than a minute ahead, and the age, where the machine can
subtract, is within the bound. -/
structure Timely (lib : Library) (options : ReceiptVerificationOptions) (iat : Int) (now : Int) :
    Prop where
  clock : currentTime lib options = .ok now
  skew : iat ≤ now + 60
  age : ∀ maxAge, options.maxAgeSeconds = some maxAge →
    ∀ age, I64.checkedSub now iat = some age → age ≤ maxAge

/-- An age that can be computed and is not negative is returned as it is. -/
theorem receiptAge_eq_some {now iat age : Int} (h : I64.checkedSub now iat = some age)
    (hnonneg : 0 ≤ age) : receiptAge now iat = some age.toNat := by
  rw [receiptAge, h, Option.bind_some, if_pos hnonneg]

/-- The time check, read back. Where the subtraction overflows there is no age and nothing is
checked, which is why `Timely` speaks of `checkedSub`. -/
theorem checkTime_timely {options : ReceiptVerificationOptions} {iat : Int}
    (h : checkTime lib options iat = .ok ()) : ∃ now, Timely lib options iat now := by
  simp only [checkTime, bind_eq_ok, exists_unit, ensure_eq_ok, decide_eq_true_eq] at h
  obtain ⟨now, hnow, hskew, hage⟩ := h
  have hmin := min_le_currentTime hnow
  have hsum : I64.saturatingAdd now 60 ≤ now + 60 := by
    apply I64.saturatingAdd_le
    omega
  refine ⟨now, hnow, Int.le_trans hskew hsum, ?_⟩
  intro maxAge hmax age hsub
  rw [hmax] at hage
  simp only [ensure_eq_ok, Bool.not_eq_true', Option.any_eq_false, decide_eq_false_iff_not,
    Nat.not_lt] at hage
  by_cases hnonneg : 0 ≤ age
  · have hle := hage age.toNat (receiptAge_eq_some hsub hnonneg)
    omega
  · -- A receipt from the future has no age, and the bound is a natural number.
    omega

/-! ## Route, model, pin and nonce -/

/-- The two routes that give receipts. -/
theorem checkRoute_eq_ok {claims : Serde.Map} {route : String}
    (h : checkRoute lib claims = .ok route) :
    claims.get "route" = some (.string route) ∧
      (route = "chat.completions" ∨ route = "responses") := by
  simp only [checkRoute, bind_eq_ok, exists_unit, ensure_eq_ok, requiredString_eq_ok,
    Bool.or_eq_true, beq_iff_eq] at h
  obtain ⟨route, ⟨hget, -⟩, hroute, hresult⟩ := h
  cases hresult
  exact ⟨hget, hroute⟩

/-- The model claims are the four members of the model record, each of them a text. -/
theorem modelClaims_eq_ok {claims : Serde.Map} {model : ReceiptModelClaims}
    (h : modelClaims claims = .ok model) :
    ∃ record, claims.get "model" = some (.object record) ∧ CarriesModel record model := by
  simp only [modelClaims, bind_eq_ok, requiredString_eq_ok, requiredObject_eq_ok] at h
  obtain ⟨record, hrecord, requested, ⟨hrequested, -⟩, selected, ⟨hselected, -⟩,
    provider, ⟨hprovider, -⟩, endpoint, ⟨hendpoint, -⟩, hresult⟩ := h
  cases hresult
  exact ⟨record, hrecord, ⟨hrequested, hselected, hprovider, hendpoint⟩⟩

/-- The attestation pin decodes to 32 bytes, and a compact receipt has one. -/
theorem checkAttSha256_eq_ok {claims : Serde.Map} {flattened : Bool} {pin : Option String}
    (h : checkAttSha256 lib claims flattened = .ok pin) :
    claims.get "att_sha256" = pin.map Value.string ∧
      (∀ encoded, pin = some encoded →
        ∃ digest, lib.decode encoded = some digest ∧ digest.length = 32) ∧
      (flattened = false → pin.isSome = true) := by
  simp only [checkAttSha256, bind_eq_ok, exists_unit, ensure_eq_ok, optionalString_eq_ok] at h
  obtain ⟨pin, ⟨hget, -⟩, hdigest, hpresent, hresult⟩ := h
  cases hresult
  refine ⟨hget, ?_, ?_⟩
  · rintro encoded rfl
    simp only [checkPin, bind_eq_ok, mapErr_eq_ok, decodeB64_eq_ok, ensure_eq_ok, beq_iff_eq]
      at hdigest
    obtain ⟨digest, ⟨-, hdecode⟩, hlength⟩ := hdigest
    exact ⟨digest, hdecode, hlength⟩
  · rintro rfl
    exact hpresent

/-- The texts a nonce may be. -/
structure NonceText (text : String) : Prop where
  min_len : 1 ≤ len text
  max_len : len text ≤ 88
  alphabet : ∀ byte ∈ bytes text, isBase64Url byte = true

/-- A nonce may be absent. If it is there, it is a base64url text of 1 to 88 bytes. -/
theorem optionalNonce_eq_ok {claims : Serde.Map} {nonce : Option String}
    (h : optionalNonce claims = .ok nonce) :
    claims.get "nonce" = nonce.map Value.string ∧ ∀ s, nonce = some s → NonceText s := by
  simp only [optionalNonce, optionalText_eq_ok, Bool.and_eq_true, decide_eq_true_eq,
    List.all_eq_true] at h
  refine ⟨h.1, ?_⟩
  intro s hs
  obtain ⟨⟨hmin, hmax⟩, hall⟩ := h.2 s hs
  exact ⟨hmin, hmax, hall⟩

/-- The nonce is well formed, and it is the expected one when the caller expects one. -/
theorem checkNonce_eq_ok {claims : Serde.Map} {expectedNonce nonce : Option String}
    (h : checkNonce lib claims expectedNonce = .ok nonce) :
    claims.get "nonce" = nonce.map Value.string ∧ (∀ s, nonce = some s → NonceText s) ∧
      ∀ expected, expectedNonce = some expected → nonce = some expected := by
  simp only [checkNonce, bind_eq_ok] at h
  obtain ⟨nonce, hnonce, hmatch⟩ := h
  obtain ⟨hget, htext⟩ := optionalNonce_eq_ok hnonce
  cases expectedNonce with
  | none =>
      cases hmatch
      exact ⟨hget, htext, nofun⟩
  | some expected =>
      simp only [bind_eq_ok, exists_unit, ensure_eq_ok, Option.any_eq_true,
        safeEqual_bytes_iff] at hmatch
      obtain ⟨⟨actual, hactual, rfl⟩, hresult⟩ := hmatch
      cases hresult
      refine ⟨hget, htext, ?_⟩
      rintro _ ⟨⟩
      exact hactual

/-! ## Upstream -/

/-- A TEE upstream has a policy and was verified at the time of issue. A plain TLS upstream
claims no window. -/
inductive UpstreamHolds (iat : Int) (claims : ReceiptUpstreamClaims) : Prop where
  | teeVerified {verifiedAt expiresAt : Int} {policy : String}
      (tier : claims.tier = "tee-verified")
      (verifiedAt_eq : claims.verifiedAt = some verifiedAt)
      (expiresAt_eq : claims.verificationExpiresAt = some expiresAt)
      (policy_eq : claims.policy = some policy)
      (started : verifiedAt ≤ iat)
      (not_expired : iat < expiresAt)
  | tlsWebpki
      (tier : claims.tier = "tls-webpki")
      (no_start : claims.verifiedAt = none)
      (no_expiry : claims.verificationExpiresAt = none)

/-- The two outcomes of the window check: a TEE window around the issue time, or plain TLS
and no window. -/
theorem upstreamWindow_eq_ok {upstream : Serde.Map} {iat : Int}
    {window : Option Int × Option Int} (h : upstreamWindow lib upstream iat = .ok window) :
    (upstream.get "tier" = some (.string "tee-verified") ∧
      ∃ verifiedAt expiresAt, window = (some verifiedAt, some expiresAt) ∧
        (upstream.get "verified_at").bind Value.asI64 = some verifiedAt ∧
        (upstream.get "verification_expires_at").bind Value.asI64 = some expiresAt ∧
        verifiedAt ≤ iat ∧ iat < expiresAt) ∨
      (upstream.get "tier" = some (.string "tls-webpki") ∧ window = (none, none)) := by
  simp only [upstreamWindow] at h
  split at h
  · rename_i htier
    simp only [bind_eq_ok, exists_unit, ensure_eq_ok, integer_eq_ok, Bool.and_eq_true,
      decide_eq_true_eq] at h
    obtain ⟨verifiedAt, hverified, expiresAt, hexpires, ⟨hstart, hstop⟩, hresult⟩ := h
    cases hresult
    exact .inl ⟨get_bind_asStr.mp htier, verifiedAt, expiresAt, rfl, hverified, hexpires,
      hstart, hstop⟩
  · -- The tier `tls-webpki` has no window, and any other tier is refused.
    split at h
    · rename_i htier
      cases h
      exact .inr ⟨get_bind_asStr.mp htier, rfl⟩
    · cases h

/-- The upstream claims are those of the receipt, and they hold at the time of issue. -/
theorem upstreamClaims_eq_ok {claims : Serde.Map} {iat : Int}
    {upstream : ReceiptUpstreamClaims} (h : upstreamClaims lib claims iat = .ok upstream) :
    (∃ record, claims.get "upstream" = some (.object record) ∧
      CarriesUpstream record upstream) ∧ UpstreamHolds iat upstream := by
  simp only [upstreamClaims, bind_eq_ok, exists_unit, ensure_eq_ok, requiredObject_eq_ok,
    optionalString_eq_ok] at h
  obtain ⟨record, hrecord, window, hwindow, policy, ⟨hpolicy, -⟩, hneeded, cert, ⟨hcert, -⟩,
    hresult⟩ := h
  rcases upstreamWindow_eq_ok hwindow with
    ⟨htier, verifiedAt, expiresAt, rfl, hverified, hexpires, hstart, hstop⟩ | ⟨htier, rfl⟩
  · simp only [htier, Option.bind_some, Value.asStr, Option.getD_some] at hneeded hresult
    -- A verified tier has to name its policy.
    cases policy with
    | none => cases hneeded
    | some policy =>
        cases hresult
        refine ⟨⟨record, hrecord, htier, hpolicy, ?_, ?_, hcert⟩,
          .teeVerified rfl rfl rfl rfl hstart hstop⟩
        · rintro t ⟨⟩; exact hverified
        · rintro t ⟨⟩; exact hexpires
  · simp only [htier, Option.bind_some, Value.asStr, Option.getD_some] at hresult
    cases hresult
    refine ⟨⟨record, hrecord, htier, hpolicy, ?_, ?_, hcert⟩, .tlsWebpki rfl rfl rfl⟩
    · rintro t ⟨⟩
    · rintro t ⟨⟩

/-! ## Digests -/

/-- An event count that is returned is the `events` member. -/
theorem eventsClaim_eq_some {record : Serde.Map} {name domain : String} {response : Bool}
    {n : Nat} (h : eventsClaim record name response domain = .ok (some n)) :
    (record.get "events").bind Value.asU64 = some n := by
  unfold eventsClaim at h
  split at h
  · split at h
    · cases h
    · split at h <;> cases h
  · rename_i value hget
    rw [hget]
    split at h
    · split at h <;> cases h
    · split at h
      · simp only [bind_eq_ok, okOr_eq_ok] at h
        obtain ⟨events, hevents, hresult⟩ := h
        cases hresult
        exact hevents
      · cases h

/-- The digest of a record has 32 bytes, and its domain is one the record may have. -/
structure DigestHolds (lib : Library) (response : Bool) (claims : ReceiptHashClaims) :
    Prop where
  alg : claims.alg = "sha256"
  digest : ∃ digest, lib.decode claims.hash = some digest ∧ digest.length = 32
  domain : claims.of = "body" ∨ response = true ∧ isSseDomain claims.of = true

/-- A digest record that is accepted carries its claims and is well formed: the algorithm, the
length of the digest and the domain are checked, and then the events of the domain. -/
theorem digestClaim_eq_ok {record : Serde.Map} {name : String} {response : Bool}
    {claims : ReceiptHashClaims} (h : digestClaim lib record name response = .ok claims) :
    CarriesHash record claims ∧ DigestHolds lib response claims := by
  simp only [digestClaim, bind_eq_ok, exists_unit, ensure_eq_ok, okOr_eq_ok, hashBytes_eq_ok,
    beq_iff_eq, get_bind_asStr, Bool.or_eq_true, Bool.and_eq_true] at h
  obtain ⟨halg, encoded, hhash, digest, ⟨-, hdecode⟩, hlength, hdomain, events, hevents,
    hresult⟩ := h
  cases hresult
  refine ⟨⟨halg, hhash, ?_, ?_⟩, ⟨rfl, ⟨digest, hdecode, hlength⟩, hdomain⟩⟩
  · -- The default of an absent domain is no domain.
    cases hof : (record.get "of").bind Value.asStr with
    | none =>
        rw [hof] at hdomain
        simp [isSseDomain] at hdomain
    | some domain => exact get_bind_asStr.mp hof
  · rintro n rfl
    exact eventsClaim_eq_some hevents

/-- The request digest is the receipt's, and the digest of the caller's request body. -/
theorem checkRequest_eq_ok {claims : Serde.Map} {options : ReceiptVerificationOptions}
    {req : ReceiptHashClaims} (h : checkRequest lib claims options = .ok req) :
    (∃ record, claims.get "req" = some (.object record) ∧ CarriesHash record req) ∧
      DigestHolds lib false req ∧
      (∀ body, options.requestBody = some body →
        lib.decode req.hash = some (lib.sha256 body).toBytes) := by
  simp only [checkRequest, bind_eq_ok, requiredObject_eq_ok] at h
  obtain ⟨record, hrecord, req', hdigest, hbody⟩ := h
  obtain ⟨hcarries, hholds⟩ := digestClaim_eq_ok hdigest
  cases hrequest : options.requestBody with
  | none =>
      rw [hrequest] at hbody
      cases hbody
      exact ⟨⟨record, hrecord, hcarries⟩, hholds, fun _ h => nomatch h⟩
  | some body =>
      rw [hrequest] at hbody
      simp only [bind_eq_ok, exists_unit, ensure_eq_ok, hashBytes_eq_ok, safeEqual_iff] at hbody
      obtain ⟨expected, ⟨-, hexpected⟩, rfl, hresult⟩ := hbody
      cases hresult
      refine ⟨⟨record, hrecord, hcarries⟩, hholds, ?_⟩
      rintro _ ⟨⟩
      exact hexpected

/-- The caller's response is what the receipt digested: the body, or the stream in the
receipt's domain with the number of events it claims. -/
structure ResponseBound (lib : Library) (options : ReceiptVerificationOptions)
    (flattenedValue : Option Value) (resp : ReceiptHashClaims) : Prop where
  not_both : options.responseBody = none ∨ options.responseStream = none
  body : ∀ body, options.responseBody = some body →
    resp.of = "body" ∧ lib.decode resp.hash = some (lib.sha256 body).toBytes
  stream : ∀ stream, options.responseStream = some stream →
    isSseDomain resp.of = true ∧
      ∃ digest events, streamDigest lib stream resp.of flattenedValue = .ok (digest, events) ∧
        lib.decode resp.hash = some digest.toBytes ∧
        ∀ n, resp.events = some n → n = events

/-- A body is compared with a digest over a body, and in no other domain. -/
theorem checkBody_eq_ok {resp : ReceiptHashClaims} {expected body : Bytes}
    (h : checkBody lib resp expected body = .ok ()) :
    resp.of = "body" ∧ expected = (lib.sha256 body).toBytes := by
  simp only [checkBody, bind_eq_ok, exists_unit, ensure_eq_ok, beq_iff_eq, safeEqual_iff] at h
  exact ⟨h.1, h.2.symm⟩

/-- A stream is digested in the domain of the receipt, and its events are counted. -/
theorem checkStream_eq_ok {resp : ReceiptHashClaims} {expected stream : Bytes}
    {flattenedValue : Option Value}
    (h : checkStream lib resp expected stream flattenedValue = .ok ()) :
    isSseDomain resp.of = true ∧
      ∃ digest events, streamDigest lib stream resp.of flattenedValue = .ok (digest, events) ∧
        expected = digest.toBytes ∧ ∀ n, resp.events = some n → n = events := by
  simp only [checkStream, bind_eq_ok, exists_unit, ensure_eq_ok, safeEqual_iff,
    Bool.not_eq_true', Option.any_eq_false, bne_eq_false_iff_eq] at h
  obtain ⟨hdomain, ⟨digest, events⟩, hdigest, hactual, hevents⟩ := h
  exact ⟨hdomain, digest, events, hdigest, hactual.symm, hevents⟩

/-- One form of the response at most is given, and it is the one that is compared. -/
theorem checkTraffic_eq_ok {options : ReceiptVerificationOptions} {resp : ReceiptHashClaims}
    {expected : Bytes} {flattenedValue : Option Value}
    (hnot : options.responseBody = none ∨ options.responseStream = none)
    (hexpected : lib.decode resp.hash = some expected)
    (h : checkTraffic lib options resp expected flattenedValue = .ok ()) :
    ResponseBound lib options flattenedValue resp := by
  unfold checkTraffic at h
  cases hbody : options.responseBody with
  | some body =>
      -- A body was given. Then there is no stream to compare.
      rw [hbody] at h hnot
      obtain ⟨hof, rfl⟩ := checkBody_eq_ok h
      have hstream : options.responseStream = none := hnot.resolve_left nofun
      refine ⟨.inr hstream, ?_, ?_⟩
      · intro body' hbody'
        rw [hbody] at hbody'
        cases hbody'
        exact ⟨hof, hexpected⟩
      · intro stream h
        rw [hstream] at h
        cases h
  | none =>
      have hnone : ∀ body, options.responseBody = some body →
          resp.of = "body" ∧ lib.decode resp.hash = some (lib.sha256 body).toBytes := by
        intro body h
        rw [hbody] at h
        cases h
      cases hstream : options.responseStream with
      | none =>
          refine ⟨.inl hbody, hnone, ?_⟩
          intro stream h
          rw [hstream] at h
          cases h
      | some stream =>
          -- A stream was given, and the digest that it is compared with is the one of its domain.
          rw [hbody, hstream] at h
          obtain ⟨hdomain, digest, events, hdigest, rfl, hevents⟩ := checkStream_eq_ok h
          refine ⟨.inl hbody, hnone, ?_⟩
          intro stream' hstream'
          rw [hstream] at hstream'
          cases hstream'
          exact ⟨hdomain, digest, events, hdigest, hexpected, hevents⟩

/-- The response digest is the receipt's, and it binds the caller's response. -/
theorem checkResponse_eq_ok {claims : Serde.Map} {options : ReceiptVerificationOptions}
    {flattenedValue : Option Value} {resp : ReceiptHashClaims}
    (h : checkResponse lib claims options flattenedValue = .ok resp) :
    (∃ record, claims.get "resp" = some (.object record) ∧ CarriesHash record resp) ∧
      DigestHolds lib true resp ∧ ResponseBound lib options flattenedValue resp := by
  simp only [checkResponse, bind_eq_ok, exists_unit, ensure_eq_ok, requiredObject_eq_ok,
    hashBytes_eq_ok, Bool.not_eq_true', Bool.and_eq_false_iff, Option.isSome_eq_false_iff,
    Option.isNone_iff_eq_none] at h
  obtain ⟨record, hrecord, resp', hdigest, hnot, expected, ⟨-, hexpected⟩, htraffic,
    hresult⟩ := h
  cases hresult
  obtain ⟨hcarries, hholds⟩ := digestClaim_eq_ok hdigest
  exact ⟨⟨record, hrecord, hcarries⟩, hholds, checkTraffic_eq_ok hnot hexpected htraffic⟩

/-! ## All stages -/

/-- Every stage of `verify_receipt_with` passes, and hands on what the later ones read. The claims
are what the stages returned. -/
structure Passes (lib : Library) (receipt : Bytes) (expectedIssuer : String)
    (options : ReceiptVerificationOptions) (verifyGcp : VerifyGcp) (expected : String)
    (envelope : JwsEnvelope) (header : ParsedHeader) (payload : Bytes) (members : Serde.Map)
    (claims : ReceiptClaims) : Prop where
  bindings : requireTrafficBindings options = .ok ()
  issuer : canonicalHttpsOrigin lib expectedIssuer "expected_issuer" = .ok expected
  opens : parseEnvelope lib receipt = .ok envelope
  identifies : parseHeader lib envelope = .ok header
  signs : verifySignature lib envelope header.publicKey = .ok payload
  json : loadJson lib payload "receipt claims" = .ok (.object members)
  rv : checkVersion lib members = .ok claims.rv
  iss : checkIssuer lib members expected = .ok claims.iss
  iat : integer (members.get "iat") "iat claim" .time = .ok claims.iat
  time : checkTime lib options claims.iat = .ok ()
  jti : requiredString members "jti" "claims" = .ok claims.jti
  gen : optionalString members "gen" "claims" = .ok claims.gen
  route : checkRoute lib members = .ok claims.route
  model : modelClaims members = .ok claims.model
  pin : checkAttSha256 lib members envelope.flattened = .ok claims.attSha256
  nonce : checkNonce lib members options.expectedNonce = .ok claims.nonce
  upstream : upstreamClaims lib members claims.iat = .ok claims.upstream
  req : checkRequest lib members options = .ok claims.req
  resp : checkResponse lib members options envelope.flattenedValue = .ok claims.resp
  status : attestationStatus lib envelope header options.attestation claims.attSha256
    options.requireAttestation
    (fun attestation => verifyGcp attestation (keyCommitment lib header.publicKey)) =
      .ok claims.attestationStatus

/-- Claims are returned exactly when every stage passes. The stages are named in `Passes`, in the
order of the source, so that a proof about one check uses one field. -/
theorem verifyReceiptWith_eq_ok {receipt : Bytes} {expectedIssuer : String}
    {options : ReceiptVerificationOptions} {verifyGcp : VerifyGcp} {claims : ReceiptClaims} :
    verifyReceiptWith lib receipt expectedIssuer options verifyGcp = .ok claims ↔
      ∃ expected envelope header payload members, Passes lib receipt expectedIssuer options
        verifyGcp expected envelope header payload members claims := by
  simp only [verifyReceiptWith, bind_eq_ok, exists_unit, okOr_eq_ok, Value.asObject_eq_some]
  constructor
  · rintro ⟨hbindings, origin, horigin, envelope, henvelope, header, hheader, payload, hsignature,
      value, hjson, members, rfl, rv, hrv, iss, hiss, iat, hiat, htime, jti, hjti, gen, hgen,
      route, hroute, model, hmodel, pin, hpin, nonce, hnonce, upstream, hupstream, req, hreq,
      resp, hresp, status, hstatus, hresult⟩
    cases hresult
    exact ⟨origin, envelope, header, payload, members, hbindings, horigin, henvelope, hheader,
      hsignature, hjson, hrv, hiss, hiat, htime, hjti, hgen, hroute, hmodel, hpin, hnonce,
      hupstream, hreq, hresp, hstatus⟩
  · rintro ⟨expected, envelope, header, payload, members, h⟩
    exact ⟨h.bindings, _, h.issuer, _, h.opens, _, h.identifies, _, h.signs, _, h.json, _, rfl,
      _, h.rv, _, h.iss, _, h.iat, h.time, _, h.jti, _, h.gen, _, h.route, _, h.model, _, h.pin,
      _, h.nonce, _, h.upstream, _, h.req, _, h.resp, _, h.status, rfl⟩

end TrustedRouter.Proofs.Receipts
