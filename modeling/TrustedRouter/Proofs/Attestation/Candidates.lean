import TrustedRouter.Proofs.Attestation

/-!
# `TrustedRouter.Proofs.Attestation.Candidates`: the certificates a document can name

A document check has no connection to compare with, so it returns a list of hashes to compare
with later. A live check of the same token reads its commitment elsewhere in the source: the
first labelled claim, or else a nonce that is the hash of the supplied certificate, where the
nonces can come from the legacy claim.

`mem_certSha256Candidates` says what is on the list: every hash-shaped text that a labelled
claim is or that `eat_nonce` lists, in lower case, but for the nonce itself. The live check
commits to one of these. It reads the legacy claim only when there is no `eat_nonce`, and then
the document check does not accept the token.
-/

set_option autoImplicit false

namespace TrustedRouter.Proofs.Attestation

open TrustedRouter.Attestation
open Rust (Bytes)
open Rust.Str
open Serde (Value)

/-! ## The list -/

/-- An entry of the walk that puts a hash on the list. -/
structure Offers (nonce : String) (value : Value) (candidate : String) : Prop where
  differs : candidate ≠ nonce
  text : ∃ text, value = .string text ∧ isSha256Hex text = true ∧
    toAsciiLowercase text = candidate

/-- One step of the walk adds what the entry offers, and drops nothing. A text that is on the list
already is not added a second time, but it is on the list. -/
theorem mem_pushCandidate {nonce candidate : String} {candidates : List String} {value : Value} :
    candidate ∈ pushCandidate nonce candidates value ↔
      candidate ∈ candidates ∨ Offers nonce value candidate := by
  unfold pushCandidate
  split
  · rename_i hnone
    rw [or_iff_left]
    rintro ⟨-, text, rfl, hhex, -⟩
    simp [Value.asStr, hhex] at hnone
  · rename_i text htext
    obtain ⟨hstr, hhex⟩ := Option.filter_eq_some_iff.mp htext
    have hoffers : Offers nonce value candidate ↔
        candidate ≠ nonce ∧ toAsciiLowercase text = candidate := by
      constructor
      · rintro ⟨hdiffers, other, rfl, -, hlower⟩
        cases hstr
        exact ⟨hdiffers, hlower⟩
      · rintro ⟨hdiffers, hlower⟩
        exact ⟨hdiffers, text, Value.asStr_eq_some.mp hstr, hhex, hlower⟩
    rw [hoffers]
    dsimp only
    split
    · rename_i hnew
      rw [Bool.and_eq_true, bne_iff_ne] at hnew
      rw [List.mem_append, List.mem_singleton]
      refine or_congr_right ⟨?_, ?_⟩
      · rintro rfl
        exact ⟨hnew.1, rfl⟩
      · rintro ⟨-, hlower⟩
        exact hlower.symm
    · -- The text is the nonce, or it is on the list already.
      rename_i hold
      rw [eq_comm, or_iff_left_of_imp]
      rintro ⟨hdiffers, rfl⟩
      simpa [hdiffers] using hold

/-- A step of the walk keeps the list without repetitions, since it looks before it adds. -/
theorem nodup_pushCandidate {nonce : String} {candidates : List String}
    (h : candidates.Nodup) (value : Value) : (pushCandidate nonce candidates value).Nodup := by
  unfold pushCandidate
  split
  · exact h
  · dsimp only
    split
    · rename_i hnew
      simp only [Bool.and_eq_true, Bool.not_eq_true', List.contains_eq_mem,
        decide_eq_false_iff_not] at hnew
      refine List.nodup_append.mpr ⟨h, List.pairwise_singleton _ _, ?_⟩
      intro old hold added hadded hsame
      rw [hsame, List.mem_singleton.mp hadded] at hold
      exact hnew.2 hold
    · exact h

/-- The walk over the entries, onto a list that is there already. -/
theorem mem_foldl_pushCandidate {nonce candidate : String} {values : List Value}
    {candidates : List String} :
    candidate ∈ values.foldl (pushCandidate nonce) candidates ↔
      candidate ∈ candidates ∨ ∃ value ∈ values, Offers nonce value candidate := by
  induction values generalizing candidates with
  | nil => simp
  | cons value values ih =>
      rw [List.foldl_cons, ih, mem_pushCandidate, or_assoc]
      simp only [List.mem_cons, exists_eq_or_imp]

/-- The walk keeps the list without repetitions, by induction on the entries. -/
theorem nodup_foldl_pushCandidate {nonce : String} {candidates : List String}
    (h : candidates.Nodup) (values : List Value) :
    (values.foldl (pushCandidate nonce) candidates).Nodup := by
  induction values generalizing candidates with
  | nil => exact h
  | cons value values ih => exact ih (nodup_pushCandidate h value)

/-! ## Where the texts come from -/

/-- A text that a token names a certificate by: a labelled claim or an entry of `eat_nonce`. -/
def Names (claims : Value) (text : String) : Prop :=
  (∃ label ∈ ["tls_cert_sha256", "workload_tls_cert_sha256"],
      claims.get label = some (.string text)) ∨
    ∃ eatNonce, claims.get "eat_nonce" = some eatNonce ∧ Lists eatNonce text

/-- The texts that the walk goes over are those by which the token names a certificate: the two
labelled claims, and `eat_nonce` as a text or as an array of them. -/
theorem string_mem_candidateValues {claims : Value} {text : String} :
    Value.string text ∈ candidateValues claims ↔ Names claims text := by
  have hlabels : Value.string text ∈ (claims.get "tls_cert_sha256").toList ++
      (claims.get "workload_tls_cert_sha256").toList ↔
        ∃ label ∈ ["tls_cert_sha256", "workload_tls_cert_sha256"],
          claims.get label = some (.string text) := by
    simp [Option.mem_toList]
  rw [candidateValues, List.mem_append, hlabels, Names]
  refine or_congr_right ?_
  -- An array lists its elements, and any other claim at most itself.
  cases claims.get "eat_nonce" with
  | none => simp
  | some eatNonce => cases eatNonce <;> simp [Lists, eq_comm]

/-- What is on the list: every hash-shaped text that the token names, in lower case, but for the
nonce. -/
theorem mem_certSha256Candidates {claims : Value} {nonce candidate : String} :
    candidate ∈ certSha256Candidates claims nonce ↔
      candidate ≠ toAsciiLowercase nonce ∧
        ∃ text, Names claims text ∧ isSha256Hex text = true ∧
          toAsciiLowercase text = candidate := by
  rw [certSha256Candidates, mem_foldl_pushCandidate, or_iff_right List.not_mem_nil]
  constructor
  · rintro ⟨value, hvalue, hdiffers, text, rfl, hhex, hlower⟩
    exact ⟨hdiffers, text, string_mem_candidateValues.mp hvalue, hhex, hlower⟩
  · rintro ⟨hdiffers, text, hnames, hhex, hlower⟩
    exact ⟨_, string_mem_candidateValues.mpr hnames, hdiffers, text, rfl, hhex, hlower⟩

/-! ## Hash-shaped texts -/

/-- 64 characters, each a lowercase hex digit. -/
structure IsLowerHex64 (text : String) : Prop where
  length : text.toList.length = 64
  digits : ∀ c ∈ text.toList, isAsciiHexdigit c = true
  lower : toAsciiLowercase text = text

/-- A text has the shape of a hash when it has 64 characters and all are hex digits. The source
compares its length in bytes, which is the same for hex digits. -/
theorem isSha256Hex_iff {text : String} :
    isSha256Hex text = true ↔
      text.toList.length = 64 ∧ ∀ c ∈ text.toList, isAsciiHexdigit c = true := by
  rw [isSha256Hex, Bool.and_eq_true, beq_iff_eq, List.all_eq_true]
  refine and_congr_left fun hdigits => ?_
  rw [len_of_ascii fun c hc => ?_]
  have := isAsciiHexdigit_iff.mp (hdigits c hc)
  omega

/-- The shape of a hash does not depend on case. -/
theorem isSha256Hex_toAsciiLowercase (text : String) :
    isSha256Hex (toAsciiLowercase text) = isSha256Hex text := by
  rw [Bool.eq_iff_iff, isSha256Hex_iff, isSha256Hex_iff]
  simp [toAsciiLowercase, isAsciiHexdigit_toLower]

/-- The lowercase form of a hash-shaped text is 64 lowercase hex digits. -/
theorem isLowerHex64_toAsciiLowercase {text : String} (h : isSha256Hex text = true) :
    IsLowerHex64 (toAsciiLowercase text) := by
  obtain ⟨hlength, hdigits⟩ :=
    isSha256Hex_iff.mp ((isSha256Hex_toAsciiLowercase text).trans h)
  exact ⟨hlength, hdigits, toAsciiLowercase_idem text⟩

/-! ## Both checks of one token -/

/-- The hash that a live check reports has the shape of one. -/
theorem isSha256Hex_certSha256 {sha256 : Bytes → Bytes} {claims : Value}
    {options : AttestationVerificationOptions} {r : GatewayAttestation}
    (h : verifyClaims sha256 claims options .liveChannel = .ok r) :
    isSha256Hex r.certSha256 = true := by
  simp only [verifyClaims, checkChannel, Rust.Result.bind_eq_ok, Rust.Result.exists_unit,
    Rust.Result.ensure_eq_ok] at h
  obtain ⟨token, -, cert, ⟨-, committed, -, hhex, -, -, hcert⟩, _, hbound, hresult⟩ := h
  cases hcert
  cases hbound
  cases hresult
  exact hhex

/-- A token that both checks accept names the certificate of the live one. The document check
needs an `eat_nonce`, and with one the live check does not look at the legacy claim. -/
theorem names_of_verifyClaims {sha256 : Bytes → Bytes} {claims : Value}
    {document live : AttestationVerificationOptions} {nonce : String}
    {r r' : GatewayAttestation} (hnonce : document.nonceHex = some nonce)
    (hdocument : verifyClaims sha256 claims document .document = .ok r)
    (hlive : verifyClaims sha256 claims live .liveChannel = .ok r') :
    ∃ text, Names claims text ∧ toAsciiLowercase text = r'.certSha256 := by
  rcases (liveChecked_of_verifyClaims hlive).committed with hlabelled | ⟨text, hlists, hlower⟩
  · obtain ⟨label, hlabel, text, hclaim, hlower⟩ := commitsByLabel_of_labelledCert hlabelled
    exact ⟨text, .inl ⟨label, hlabel, hclaim⟩, hlower⟩
  · -- The document check found its nonce in `eat_nonce`, so the live check reads that too.
    obtain ⟨eatNonce, heat, -⟩ :=
      (documentChecked_of_verifyClaims hdocument).nonce nonce hnonce
    rw [nonceClaim, heat, Option.some_or, Option.getD_some] at hlists
    exact ⟨text, .inr ⟨eatNonce, heat, hlists⟩, hlower⟩

/-- A document check lists every certificate that a live check of the same token could bind,
unless its hash is the nonce. The list has no repetitions, and each entry is a lowercase hash
other than the nonce that stands in a labelled claim or in `eat_nonce`, up to case. -/
theorem certSha256Candidates_complete (sha256 : Bytes → Bytes) (claims : Value)
    (nonce : String) :
    (∀ document live certificate r r', document.nonceHex = some nonce →
      verifyClaims sha256 claims document .document = .ok r →
      live.tlsCertificateDer = some certificate →
      verifyClaims sha256 claims live .liveChannel = .ok r' →
        hex (sha256 certificate) ∈ certSha256Candidates claims nonce ∨
          toAsciiLowercase (hex (sha256 certificate)) = toAsciiLowercase nonce) ∧
    (certSha256Candidates claims nonce).Nodup ∧
    ∀ candidate ∈ certSha256Candidates claims nonce,
      IsLowerHex64 candidate ∧ toAsciiLowercase candidate ≠ toAsciiLowercase nonce ∧
        ∃ text, Names claims text ∧ toAsciiLowercase text = candidate := by
  refine ⟨?_, nodup_foldl_pushCandidate List.nodup_nil _, ?_⟩
  · intro document live certificate r r' hnonce hdocument hcertificate hlive
    have hcert := (liveChecked_of_verifyClaims hlive).certificate certificate hcertificate
    obtain ⟨text, hnames, hlower⟩ := names_of_verifyClaims hnonce hdocument hlive
    -- The shape is checked on the lowercase form, and is the same for the text itself.
    have hhex : isSha256Hex text = true := by
      rw [← isSha256Hex_toAsciiLowercase, hlower]
      exact isSha256Hex_certSha256 hlive
    rw [toAsciiLowercase_hex, ← hcert]
    -- The nonce is the one hash that the list leaves out.
    by_cases hsame : r'.certSha256 = toAsciiLowercase nonce
    · exact .inr hsame
    · exact .inl (mem_certSha256Candidates.mpr ⟨hsame, text, hnames, hhex, hlower⟩)
  · intro candidate hcandidate
    obtain ⟨hdiffers, text, hnames, hhex, rfl⟩ := mem_certSha256Candidates.mp hcandidate
    refine ⟨isLowerHex64_toAsciiLowercase hhex, ?_, text, hnames, rfl⟩
    rwa [toAsciiLowercase_idem]

/-- The token of `sampleChannel` passes both checks, and its certificate is on the list. -/
theorem certSha256Candidates_complete_sample :
    let claims := sampleClaims "disabled-since-boot"
      ["00112233445566778899aabbccddeeff", hex (List.replicate 32 7), hex sha256Empty]
    hex sha256Empty ∈ certSha256Candidates claims "00112233445566778899AABBCCDDEEFF" ∨
      toAsciiLowercase (hex sha256Empty) =
        toAsciiLowercase "00112233445566778899AABBCCDDEEFF" :=
  (certSha256Candidates_complete (fun _ => sha256Empty) _ _).1
    { policy := samplePolicy, nonceHex := some "00112233445566778899AABBCCDDEEFF" }
    sampleChannel [] _ _ rfl rfl rfl rfl

end TrustedRouter.Proofs.Attestation
