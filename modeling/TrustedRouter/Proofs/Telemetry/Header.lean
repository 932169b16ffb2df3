import TrustedRouter.Proofs.Telemetry.Recorder

/-!
# `TrustedRouter.Proofs.Telemetry.Header`: the `x-tr-client` header of an attempt

`header_value` has two ways to return nothing: on purpose, past attempt 99 and on a custom
host, and silently, when a record is missing, a value is outside its grammar or the text is
too long. This file shows that the silent way is never taken.

A recorder that is `Attempting` has one record for each attempt before, with a clamped duration.
So attempt `n` finds the record of attempt `n - 1`, and `header_of_attempting` reads the header off
it: its fields are words of closed vocabularies and short decimal numbers (`IsWord`), and their
joined length stays below the ceiling.
-/

set_option autoImplicit false

namespace TrustedRouter.Proofs.Telemetry.Header

open TrustedRouter.Telemetry
open TrustedRouter.Proofs.Telemetry.Recorder
open Rust.Str
open Http (HeaderMap)
open Whatwg (Url Backend)

/-! ## Words -/

/-- `[a-z0-9_]{1,24}`. -/
def IsWord (value : String) : Prop :=
  1 ≤ value.toList.length ∧ value.toList.length ≤ 24 ∧
    ∀ c ∈ value.toList, ('a' ≤ c ∧ c ≤ 'z') ∨ ('0' ≤ c ∧ c ≤ '9') ∨ c = '_'

instance (value : String) : Decidable (IsWord value) :=
  @instDecidableAnd _ _ _ (@instDecidableAnd _ _ _ (List.decidableBAll _ _))

/-- A word is ASCII, so that its length in bytes is that in characters. -/
theorem IsWord.ascii {value : String} (h : IsWord value) : ∀ c ∈ value.toList, c.toNat < 128 := by
  intro c hc
  obtain ⟨-, hhigh⟩ | ⟨-, hhigh⟩ | rfl := h.2.2 c hc
  · have hle : c.toNat ≤ 122 := hhigh
    omega
  · have hle : c.toNat ≤ 57 := hhigh
    omega
  · decide

/-- A word has 24 bytes at most, which bounds the whole header. -/
theorem IsWord.len_le {value : String} (h : IsWord value) : len value ≤ 24 := by
  rw [len_of_ascii h.ascii]
  exact h.2.1

/-- A word passes the check of `finalize_header`, which looks at its length and its characters. -/
theorem IsWord.valid {value : String} (h : IsWord value) : validValue value = true := by
  have hne : value ≠ "" := by
    rintro rfl
    exact absurd h.1 (by decide)
  simp only [validValue, Bool.and_eq_true, Bool.not_eq_true', isEmpty_eq_false_iff,
    decide_eq_true_eq, List.all_eq_true, Bool.or_eq_true, beq_iff_eq]
  refine ⟨⟨hne, h.len_le⟩, ?_⟩
  intro c hc
  obtain hletter | hdigit | hscore := h.2.2 c hc
  · exact .inl (.inl hletter)
  · exact .inl (.inr hdigit)
  · exact .inr hscore

/-- A number below `10 ^ k` is a word of at most `k` digits. -/
theorem isWord_toString {n k : Nat} (hn : n < 10 ^ k) (hpos : 0 < k) (hk : k ≤ 24) :
    IsWord (toString n) ∧ len (toString n) ≤ k := by
  have hchars : (toString n).toList = Nat.toDigits 10 n := by
    show (Nat.repr n).toList = _
    rw [Nat.repr, String.toList_ofList]
  have hlength : (Nat.toDigits 10 n).length ≤ k :=
    (Nat.length_toDigits_le_iff (by decide) hpos).mpr hn
  have hword : IsWord (toString n) := by
    refine ⟨?_, ?_, ?_⟩
    · rw [hchars]
      exact Nat.length_toDigits_pos
    · rw [hchars]
      omega
    · intro c hc
      rw [hchars] at hc
      have hdigit := Nat.isDigit_of_mem_toDigits (by decide) (by decide) hc
      simp only [Char.isDigit, Bool.and_eq_true, decide_eq_true_eq] at hdigit
      exact .inr (.inl ⟨hdigit.1, hdigit.2⟩)
  refine ⟨hword, ?_⟩
  rw [len_of_ascii hword.ascii, hchars]
  exact hlength

/-- The names of the hosts are words, looked through one by one: the type has finitely many. -/
theorem isWord_host (host : Host) : IsWord host.asStr := by
  cases host <;> decide

/-- So are those of the error classes. -/
theorem isWord_errorClass (errorClass : ErrorClass) : IsWord errorClass.asStr := by
  cases errorClass <;> decide

/-- So are those of the outcomes. -/
theorem isWord_outcome (outcome : AttemptOutcome) : IsWord outcome.asStr := by
  cases outcome <;> decide

/-- Different outcomes have different words. -/
theorem asStr_ne {outcome : AttemptOutcome} (hok : outcome ≠ .ok)
    (haborted : outcome ≠ .aborted) : outcome.asStr ≠ "ok" ∧ outcome.asStr ≠ "aborted" := by
  revert hok haborted
  cases outcome <;> decide

/-- The two words on the previous attempt. -/
theorem previousWords_spec (previous : AttemptRecord) :
    IsWord (RequestRecorder.previousWords previous).1 ∧
      IsWord (RequestRecorder.previousWords previous).2 ∧
      (RequestRecorder.previousWords previous).1 ≠ "ok" ∧
      (RequestRecorder.previousWords previous).1 ≠ "aborted" := by
  have hnone : IsWord "none" := by decide
  unfold RequestRecorder.previousWords
  split
  · exact ⟨hnone, hnone, by decide, by decide⟩
  · exact ⟨hnone, hnone, by decide, by decide⟩
  · rename_i hok haborted
    refine ⟨isWord_outcome _, ?_, asStr_ne hok haborted⟩
    cases previous.errorClass with
    | none => exact hnone
    | some errorClass => exact isWord_errorClass errorClass

/-! ## The text of a header -/

/-- `key=value` pairs, joined by semicolons. -/
def joined (fields : List (String × String)) : String :=
  String.intercalate ";" (fields.map fun field => field.1 ++ "=" ++ field.2)

/-- The bytes of the joined text, one separator too many. -/
theorem len_joined_le (fields : List (String × String)) :
    len (joined fields) ≤ (fields.map fun field => len field.1 + len field.2 + 2).sum := by
  have happend : ∀ a b : String, len (a ++ b) = len a + len b :=
    fun _ _ => String.utf8ByteSize_append
  unfold joined
  induction fields with
  | nil => exact Nat.zero_le _
  | cons field rest ih =>
      -- One byte for the `=`, and one for the `;` that a field after it would bring.
      have hpair : len (field.1 ++ "=" ++ field.2) = len field.1 + 1 + len field.2 := by
        rw [happend, happend]
        rfl
      cases rest with
      | nil =>
          simp only [List.map_cons, List.map_nil, String.intercalate_singleton, hpair,
            List.sum_cons, List.sum_nil]
          omega
      | cons next rest =>
          simp only [List.map_cons, String.intercalate_cons_cons, happend,
            List.sum_cons] at ih ⊢
          have hseparator : len ";" = 1 := rfl
          have hequals : len "=" = 1 := rfl
          omega

/-- The keys of the header of attempt `index`, in order. -/
def keysOf (index : Nat) : List String :=
  if index = 0 then ["v", "a", "s"]
  else ["v", "a", "po", "pc", "ph", "pm", "sm", "s", "fo"]

/-- What the fields of the header of attempt `index` are like. -/
structure FieldsOk (index : Nat) (fields : List (String × String)) : Prop where
  keys : fields.map Prod.fst = keysOf index
  words : ∀ field ∈ fields, IsWord field.2
  attempt : ("a", toString index) ∈ fields
  outcome : ∀ value, ("po", value) ∈ fields → value ≠ "ok" ∧ value ≠ "aborted"
  durations : ∀ key value, key = "pm" ∨ key = "sm" → (key, value) ∈ fields →
    ∃ ms ≤ 3600000, value = toString ms

/-- The text is a header of attempt `index`. -/
structure IsHeader (index : Nat) (text : String) : Prop where
  fields : ∃ fields, text = joined fields ∧ FieldsOk index fields
  len_le : len text ≤ 160

/-- Fields of this kind are never dropped. The bound on the bytes is the one that
`finalize_header` has, and fields that are longer would be dropped as a whole. -/
theorem finalizeHeader_eq {index : Nat} {fields : List (String × String)}
    (h : FieldsOk index fields)
    (hlen : (fields.map fun field => len field.1 + len field.2 + 2).sum ≤ 160) :
    finalizeHeader fields = some (joined fields) ∧ IsHeader index (joined fields) := by
  have hfits : len (joined fields) ≤ 160 := Nat.le_trans (len_joined_le fields) hlen
  have hvalid : (fields.all fun field => validValue field.2) = true :=
    List.all_eq_true.mpr fun field hfield => (h.words field hfield).valid
  refine ⟨?_, ⟨fields, rfl, h⟩, hfits⟩
  rw [finalizeHeader, hvalid]
  exact if_neg (Nat.not_lt.mpr hfits)

/-! ## The header -/

section
variable {standing : Standing} {seen : List Seen} {host : Host} {recorder : RequestRecorder}

/-- The fields of the first attempt, which has nothing before it to tell: the version, the number
and whether it streams. -/
theorem first_fieldsOk (streaming : Bool) :
    FieldsOk 0 [("v", "1"), ("a", toString 0), ("s", if streaming then "1" else "0")] := by
  refine ⟨rfl, ?_, by simp, by simp, ?_⟩
  · cases streaming <;> decide
  · rintro key value (rfl | rfl) hfield
    · simp at hfield
    · simp at hfield

/-- The fields of a later attempt, from the record before it. -/
theorem later_fieldsOk (recorder : RequestRecorder) {index : Nat} (hpos : 0 < index)
    (hindex : index ≤ 99) {previous : AttemptRecord}
    (hclamped : previous.elapsedMs ≤ maxDurationMs) (started : Nat) :
    FieldsOk index
      ([("v", "1"), ("a", toString index)] ++ recorder.previousFields previous started ++
        [("s", if recorder.streaming then "1" else "0")] ++
        [("fo", if recorder.failoverUsed then "1" else "0")]) := by
  have hbit : ∀ b : Bool, IsWord (if b then "1" else "0") := by decide
  have hms : ∀ ms ≤ 3600000, IsWord (toString ms) := by
    intro ms hle
    exact (isWord_toString (show ms < 10 ^ 7 by omega) (by decide) (by decide)).1
  have hspan : durationMs (recorder.firstStarted.getD started) started ≤ 3600000 :=
    durationMs_le _ _
  obtain ⟨houtcome, hclass, hne⟩ := previousWords_spec previous
  -- The keys, the words, the outcome of the attempt before and the two durations.
  refine ⟨?_, ?_, by simp, ?_, ?_⟩
  · have hkeys : keysOf index = ["v", "a", "po", "pc", "ph", "pm", "sm", "s", "fo"] :=
      if_neg (by omega)
    rw [hkeys]
    rfl
  · simp only [RequestRecorder.previousFields, List.cons_append, List.nil_append,
      List.forall_mem_cons, List.not_mem_nil, false_implies, implies_true, and_true]
    exact ⟨by decide,
      (isWord_toString (show index < 10 ^ 2 by omega) (by decide) (by decide)).1, houtcome,
      hclass, isWord_host _, hms _ hclamped, hms _ hspan, hbit _, hbit _⟩
  · intro value hvalue
    obtain rfl : value = (RequestRecorder.previousWords previous).1 := by
      simpa [RequestRecorder.previousFields] using hvalue
    exact hne
  · rintro key value hkey hfield
    obtain ⟨rfl, rfl⟩ | ⟨rfl, rfl⟩ : (key = "pm" ∧ value = toString previous.elapsedMs) ∨
        (key = "sm" ∧
          value = toString (durationMs (recorder.firstStarted.getD started) started)) := by
      obtain rfl | rfl := hkey
      · simpa [RequestRecorder.previousFields] using hfield
      · simpa [RequestRecorder.previousFields] using hfield
    · exact ⟨_, hclamped, rfl⟩
    · exact ⟨_, hspan, rfl⟩

/-- The header of the attempt in flight, before its outcome. It is withheld past attempt 99 and on
a custom host, and for no other reason. A header that is sent is well-formed and carries the
number of the attempt. -/
theorem header_of_attempting (h : Attempting standing seen host none recorder) :
    (recorder.headerValue = none ↔ 99 < seen.length ∨ host = .custom) ∧
      ∀ text, recorder.headerValue = some text → IsHeader seen.length text := by
  have hhost := h.currentHost
  have hindexed := h.currentIndex
  have hlength : recorder.attempts.length = seen.length := by
    obtain ⟨before, own, hattempts, hbefore, hown⟩ := h.attempts
    obtain rfl : own = none := Option.map_eq_none_iff.mp hown
    rw [hattempts, Option.toList_none, List.append_nil]
    exact hbefore.length
  generalize seen.length = n at hindexed hlength ⊢
  by_cases hwithheld : 99 < n ∨ host = .custom
  · have hnone : recorder.headerValue = none := by
      simp only [RequestRecorder.headerValue, RequestRecorder.headerFields, hindexed, hhost,
        Option.bind_some, Bool.or_eq_true, decide_eq_true_eq, if_pos hwithheld,
        Option.bind_none]
    rw [hnone]
    refine ⟨⟨fun _ => hwithheld, fun _ => rfl⟩, ?_⟩
    intro text htext
    cases htext
  -- Otherwise there are fields, and they are kept.
  suffices hsent : ∃ text, recorder.headerValue = some text ∧ IsHeader n text by
    obtain ⟨text, htext, hheader⟩ := hsent
    rw [htext]
    refine ⟨⟨?_, fun hor => absurd hor hwithheld⟩, ?_⟩
    · intro hnone
      cases hnone
    · intro other hother
      cases hother
      exact hheader
  have hindex : n ≤ 99 := by
    have hnot : ¬ 99 < n := fun hlt => hwithheld (.inl hlt)
    omega
  have hkept : ∀ fields, recorder.headerFields = some fields → FieldsOk n fields →
      (fields.map fun field => len field.1 + len field.2 + 2).sum ≤ 160 →
      ∃ text, recorder.headerValue = some text ∧ IsHeader n text := by
    intro fields hfields hok hlen
    obtain ⟨hfinal, hheader⟩ := finalizeHeader_eq hok hlen
    refine ⟨joined fields, ?_, hheader⟩
    rw [RequestRecorder.headerValue, hfields, Option.bind_some, hfinal]
  by_cases hpos : 0 < n
  · -- The attempt before this one has a record.
    obtain ⟨previous, hprevious⟩ : ∃ previous, recorder.attempts.getLast? = some previous :=
      ⟨_, List.getLast?_eq_some_getLast (List.ne_nil_of_length_pos (by omega))⟩
    obtain ⟨started, hstarted⟩ := Option.isSome_iff_exists.mp h.started
    have hclamped := h.clamped previous (List.mem_of_getLast? hprevious)
    refine hkept _ ?_ (later_fieldsOk recorder hpos hindex hclamped started) ?_
    · simp only [RequestRecorder.headerFields, hindexed, hhost, Option.bind_some,
        Bool.or_eq_true, decide_eq_true_eq, if_neg hwithheld, if_pos hpos, hprevious, hstarted,
        Option.map_some]
    · obtain ⟨houtcome, hclass, -⟩ := previousWords_spec previous
      have hlens : len (toString n) ≤ 2 ∧ len (toString previous.elapsedMs) ≤ 7 ∧
          len (toString (durationMs (recorder.firstStarted.getD started) started)) ≤ 7 := by
        have hspan : durationMs (recorder.firstStarted.getD started) started ≤ 3600000 :=
          durationMs_le _ _
        have hbound : previous.elapsedMs ≤ 3600000 := hclamped
        exact ⟨(isWord_toString (by omega) (by decide) (by decide)).2,
          (isWord_toString (by omega) (by decide) (by decide)).2,
          (isWord_toString (by omega) (by decide) (by decide)).2⟩
      have hbit : ∀ b : Bool, len (if b then "1" else "0") = 1 := by decide
      have hkeys : len "v" = 1 ∧ len "a" = 1 ∧ len "po" = 2 ∧ len "pc" = 2 ∧ len "ph" = 2 ∧
          len "pm" = 2 ∧ len "sm" = 2 ∧ len "s" = 1 ∧ len "fo" = 2 ∧ len "1" = 1 := by decide
      have hwords := And.intro houtcome.len_le
        (And.intro hclass.len_le (isWord_host previous.host).len_le)
      simp only [RequestRecorder.previousFields, List.cons_append, List.nil_append,
        List.map_cons, List.map_nil, List.sum_cons, List.sum_nil, hbit, hkeys]
      omega
  · obtain rfl : n = 0 := by omega
    refine hkept _ ?_ (first_fieldsOk recorder.streaming) ?_
    · simp only [RequestRecorder.headerFields, hindexed, hhost, Option.bind_some,
        Bool.or_eq_true, decide_eq_true_eq, if_neg hwithheld, if_neg hpos, List.cons_append,
        List.nil_append]
    · cases recorder.streaming <;> decide

end

end TrustedRouter.Proofs.Telemetry.Header
