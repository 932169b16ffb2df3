import TrustedRouter.Telemetry.Recorder

/-!
# `TrustedRouter.Proofs.Telemetry.Recorder`: what a recorder knows of the attempts

A caller of the hooks knows two facts of each attempt, its host and whether the cursor moved
after it. This is `Seen`. `Between` says that a recorder between two attempts holds one record for
each, at its place, with these facts and with a clamped duration. `Attempting` says so of a
recorder in an attempt, which may have a record of its own already. There is one lemma a hook, so
that a history of hooks is followed without a look into the recorder, and what the hooks leave
alone is the parameter `Standing`. `Ready` and `InFlight` are the two for a call that is still to
be reported.

The end is `Attempting.finish`: the one report of a finished call agrees with what its caller has
seen, in its event and in its counters. The header that an attempt is sent with is read off the
same invariant, here and in `Proofs.Telemetry.Header`.
-/

set_option autoImplicit false

namespace TrustedRouter.Proofs.Telemetry.Recorder

open TrustedRouter.Telemetry
open Http (HeaderMap)
open Whatwg (Url Backend)

/-! ## What the caller of the hooks has seen -/

/-- One attempt, as the caller of the hooks knows it. -/
structure Seen where
  host : Host
  moved : Bool

/-- The part of a record that its caller knows. -/
def known (record : AttemptRecord) : Nat × Seen := (record.index, ⟨record.host, record.moved⟩)

/-- The records agree with what was seen: one an attempt, at its place. -/
def Mirrors (seen : List Seen) (attempts : List AttemptRecord) : Prop :=
  attempts.map known = seen.mapIdx fun i attempt => (i, attempt)

/-- There are as many records as attempts were seen, and the next attempt has that number as its
index. -/
theorem Mirrors.length {seen : List Seen} {attempts : List AttemptRecord}
    (h : Mirrors seen attempts) : attempts.length = seen.length := by
  have hlength := congrArg List.length h
  rwa [List.length_map, List.length_mapIdx] at hlength

/-- The next attempt and its record, which has the index of its place. -/
theorem mirrors_concat {seen : List Seen} {attempts : List AttemptRecord} {next : Seen}
    {record : AttemptRecord} (h : Mirrors seen attempts)
    (hrecord : known record = (seen.length, next)) :
    Mirrors (seen ++ [next]) (attempts ++ [record]) := by
  unfold Mirrors at h ⊢
  rw [List.map_append, h, List.mapIdx_concat, List.map_singleton, hrecord]

/-- A record and the attempt it stands for: the index is the position, and the host and the moved
bit are those that were seen. -/
theorem Mirrors.record {seen : List Seen} {attempts : List AttemptRecord}
    (h : Mirrors seen attempts) {i : Nat} {record : AttemptRecord}
    (hrecord : attempts[i]? = some record) :
    record.index = i ∧ seen[i]? = some ⟨record.host, record.moved⟩ := by
  have hknown := congrArg (fun list => list[i]?) h
  simp only [List.getElem?_map, hrecord, List.getElem?_mapIdx, Option.map_some] at hknown
  obtain ⟨attempt, hseen, hboth⟩ := Option.map_eq_some_iff.mp hknown.symm
  cases hboth
  exact ⟨rfl, hseen⟩

/-- What the hooks of an attempt leave alone: whether the call is recorded, whether it is
finished, and what was reported of it. -/
structure Standing where
  recordable : Bool
  finished : Bool
  reported : List Report

/-- The standing of a recorder. -/
def standingOf (recorder : RequestRecorder) : Standing :=
  ⟨recorder.recordable, recorder.finished, recorder.reported⟩

/-- The call is recorded and has not been reported yet. -/
def pending : Standing := ⟨true, false, []⟩

/-- The durations of the records are clamped. -/
def Clamped (attempts : List AttemptRecord) : Prop :=
  ∀ record ∈ attempts, record.elapsedMs ≤ maxDurationMs

/-- Durations are clamped to what the schema can carry. -/
theorem durationMs_le (start stop : Nat) : durationMs start stop ≤ maxDurationMs :=
  Nat.min_le_right _ _

/-- Clamped records, with one more. -/
theorem clamped_concat {attempts : List AttemptRecord} {record : AttemptRecord}
    (h : Clamped attempts) (hrecord : record.elapsedMs ≤ maxDurationMs) :
    Clamped (attempts ++ [record]) := by
  intro other hother
  rcases List.mem_append.mp hother with hold | hnew
  · exact h other hold
  · rw [List.mem_singleton.mp hnew]
    exact hrecord

/-- A recorder between two attempts: one record for each attempt that was seen, and the failover
bit of those that moved. -/
structure Between (standing : Standing) (seen : List Seen) (recorder : RequestRecorder) :
    Prop where
  standing : standingOf recorder = standing
  attempts : Mirrors seen recorder.attempts
  clamped : Clamped recorder.attempts
  failover : recorder.failoverUsed = seen.any Seen.moved

/-- A recorder in an attempt on a host. `noted` is whether the attempt is recorded as moved, if
it is recorded. The records before it are those of the attempts that were seen, and its own comes
after them. -/
structure Attempting (standing : Standing) (seen : List Seen) (host : Host)
    (noted : Option Bool) (recorder : RequestRecorder) : Prop where
  standing : standingOf recorder = standing
  attempts : ∃ (before : List AttemptRecord) (own : Option AttemptRecord),
    recorder.attempts = before ++ own.toList ∧ Mirrors seen before ∧
    own.map known = noted.map fun moved => (seen.length, ⟨host, moved⟩)
  clamped : Clamped recorder.attempts
  failover : recorder.failoverUsed = (seen.any Seen.moved || noted.getD false)
  started : recorder.attemptStarted.isSome = true
  firstStarted : recorder.firstStarted.isSome = true
  currentHost : recorder.currentHost = some host
  currentIndex : recorder.currentIndex = some seen.length

/-- A recorder between two attempts of a call that is pending. -/
abbrev Ready : List Seen → RequestRecorder → Prop := Between pending

/-- A recorder in an attempt of a call that is pending. -/
abbrev InFlight : List Seen → Host → Option Bool → RequestRecorder → Prop := Attempting pending

section
variable {standing : Standing} {seen : List Seen} {host : Host} {noted : Option Bool}
  {recorder : RequestRecorder}

/-- A new recorder has seen nothing, and stands where it was put: recordable by its method, not
finished, and with nothing reported. -/
theorem between_new (spec : RecorderSpec) :
    Between (standingOf (.new spec)) [] (.new spec) :=
  ⟨rfl, rfl, fun _ h => (List.not_mem_nil h).elim, rfl⟩

/-- A call with one of the two methods is recorded. -/
theorem ready_new {spec : RecorderSpec} (h : spec.method = .get ∨ spec.method = .post) :
    Ready [] (.new spec) := by
  have hstanding : standingOf (.new spec) = pending := by
    rcases h with h | h <;> simp [standingOf, pending, RequestRecorder.new, h]
  have hnew := between_new spec
  rwa [hstanding] at hnew

/-- What `finish` finds of a call that is pending: it is recorded, not finished yet, and was not
reported. -/
theorem Attempting.pending (h : InFlight seen host noted recorder) :
    recorder.recordable = true ∧ recorder.finished = false ∧ recorder.reported = [] := by
  have hstanding := h.standing
  rw [standingOf, Recorder.pending, Standing.mk.injEq] at hstanding
  exact hstanding

/-! ## One lemma a hook -/

/-- Beginning an attempt fixes its host, before anything is known of its outcome. -/
theorem Between.beginAttempt (h : Between standing seen recorder) (lib : Backend) (now : Nat)
    (url : Url) :
    Attempting standing seen (hostEnum lib url) none (recorder.beginAttempt lib now url) where
  standing := h.standing
  attempts := ⟨recorder.attempts, none, (List.append_nil _).symm, h.attempts, rfl⟩
  clamped := h.clamped
  failover := by rw [Option.getD_none, Bool.or_false]; exact h.failover
  started := rfl
  firstStarted := by
    show (recorder.firstStarted.or (some now)).isSome = true
    rw [Option.isSome_or, Option.isSome_some, Bool.or_true]
  currentHost := rfl
  currentIndex := congrArg some h.attempts.length

/-- An attempt that is recorded is one that was seen. -/
theorem Attempting.between {moved : Bool}
    (h : Attempting standing seen host (some moved) recorder) :
    Between standing (seen ++ [⟨host, moved⟩]) recorder := by
  obtain ⟨before, own, hattempts, hbefore, hown⟩ := h.attempts
  obtain ⟨record, rfl, hrecord⟩ := Option.map_eq_some_iff.mp hown
  refine ⟨h.standing, ?_, h.clamped, ?_⟩
  · rw [hattempts]
    exact mirrors_concat hbefore hrecord
  · rw [h.failover, List.any_append, List.any_cons, List.any_nil, Bool.or_false]
    rfl

/-- The attempt in flight has the next index. -/
theorem Attempting.inFlight_eq (h : Attempting standing seen host noted recorder) :
    ∃ started, recorder.inFlight = some (started, host, seen.length) := by
  obtain ⟨started, hstarted⟩ := Option.isSome_iff_exists.mp h.started
  refine ⟨started, ?_⟩
  rw [RequestRecorder.inFlight, hstarted, h.currentHost, h.currentIndex]
  rfl

/-- The record of the attempt in flight, if there is one, is at the position after the attempts
before it. -/
theorem Attempting.own (h : Attempting standing seen host noted recorder) :
    (recorder.attempts[seen.length]?).map known =
      noted.map fun moved => (seen.length, ⟨host, moved⟩) := by
  obtain ⟨before, own, hattempts, hbefore, hown⟩ := h.attempts
  rw [← hown, hattempts, ← hbefore.length, List.getElem?_append_right (Nat.le_refl _),
    Nat.sub_self]
  cases own <;> rfl

/-- A record of the attempt in flight goes to its place, whether it is the first or not. -/
theorem attempts_storeAttempt {before : List AttemptRecord} {own : Option AttemptRecord}
    {record : AttemptRecord} (hattempts : recorder.attempts = before ++ own.toList)
    (hindex : record.index = before.length) :
    (recorder.storeAttempt record).attempts = before ++ [record] := by
  show (if record.index < recorder.attempts.length then _ else _) = _
  rw [hattempts, hindex]
  cases own with
  | none => simp
  | some own => simp

/-- The attempt in flight has a record of its own at the end, and nothing else has changed but
perhaps the failover bit. Every hook that looks at the attempt leaves the recorder like this. -/
theorem Attempting.replace (h : Attempting standing seen host noted recorder)
    {before : List AttemptRecord} {own : Option AttemptRecord}
    (hattempts : recorder.attempts = before ++ own.toList) (hbefore : Mirrors seen before)
    {record : AttemptRecord} {moved : Bool}
    (hrecord : known record = (seen.length, ⟨host, moved⟩))
    (hclamped : record.elapsedMs ≤ maxDurationMs) {failoverUsed : Bool}
    (hfailover : failoverUsed = (seen.any Seen.moved || moved)) :
    Attempting standing seen host (some moved)
      { recorder with attempts := before ++ [record], failoverUsed } where
  standing := h.standing
  attempts := ⟨before, some record, rfl, hbefore, by rw [Option.map_some, Option.map_some, hrecord]⟩
  clamped := by
    refine clamped_concat (fun other hother => h.clamped other ?_) hclamped
    rw [hattempts]
    exact List.mem_append_left _ hother
  failover := hfailover
  started := h.started
  firstStarted := h.firstStarted
  currentHost := h.currentHost
  currentIndex := h.currentIndex

/-- Storing a record of the attempt in flight, whatever its outcome is, keeps the moved bit it
had. -/
theorem Attempting.store (h : Attempting standing seen host noted recorder)
    {record : AttemptRecord}
    (hrecord : known record = (seen.length, ⟨host, noted.getD false⟩))
    (hclamped : record.elapsedMs ≤ maxDurationMs) :
    Attempting standing seen host (some (noted.getD false)) (recorder.storeAttempt record) := by
  obtain ⟨before, own, hattempts, hbefore, hown⟩ := h.attempts
  have hindex : record.index = before.length :=
    (congrArg Prod.fst hrecord).trans hbefore.length.symm
  have hstored : recorder.storeAttempt record = { recorder with attempts := before ++ [record] } :=
    congrArg (fun attempts => { recorder with attempts })
      (attempts_storeAttempt hattempts hindex)
  rw [hstored]
  exact h.replace hattempts hbefore hrecord hclamped h.failover

/-- A response is the first thing that is known of an attempt. -/
theorem Attempting.onResponse (h : Attempting standing seen host none recorder)
    (untilHttpDate : String → Option Nat) (now status : Nat) (headers : HeaderMap)
    (source : Option ErrorSource) :
    Attempting standing seen host (some false)
      (recorder.onResponse untilHttpDate now status headers source) := by
  obtain ⟨started, hinFlight⟩ := h.inFlight_eq
  simp only [RequestRecorder.onResponse, hinFlight]
  exact h.store rfl (durationMs_le started now)

/-- The outcome of the last record. -/
def lastOutcome (recorder : RequestRecorder) : Option AttemptOutcome :=
  recorder.attempts.getLast?.map AttemptRecord.outcome

/-- A recorder whose attempt was answered by a success. -/
structure Opened (seen : List Seen) (host : Host) (recorder : RequestRecorder) : Prop extends
    Attempting pending seen host (some false) recorder where
  outcome : lastOutcome recorder = some .ok

/-- The record of the attempt in flight is the last one, and so its outcome is the one that a
finished call reports. -/
theorem Attempting.lastOutcome_store (h : Attempting standing seen host noted recorder)
    {record : AttemptRecord} (hindex : record.index = seen.length) :
    lastOutcome (recorder.storeAttempt record) = some record.outcome := by
  obtain ⟨before, own, hattempts, hbefore, -⟩ := h.attempts
  rw [lastOutcome, attempts_storeAttempt hattempts (hindex.trans hbefore.length.symm),
    List.getLast?_concat]
  rfl

/-- A response with a status below 400 opens a stream: the attempt is recorded with the outcome
`ok`. -/
theorem Attempting.opened (h : InFlight seen host none recorder)
    (untilHttpDate : String → Option Nat) (now : Nat) {status : Nat} (hstatus : status < 400)
    (headers : HeaderMap) (source : Option ErrorSource) :
    Opened seen host (recorder.onResponse untilHttpDate now status headers source) := by
  refine ⟨h.onResponse untilHttpDate now status headers source, ?_⟩
  obtain ⟨started, hinFlight⟩ := h.inFlight_eq
  simp only [RequestRecorder.onResponse, hinFlight]
  rw [h.lastOutcome_store rfl]
  exact congrArg some (if_pos hstatus)

/-- A transport error clears the moved bit, so it must come before the cursor moves. -/
theorem Attempting.onTransportError (h : Attempting standing seen host noted recorder)
    (hnoted : noted.getD false = false) (now : Nat) (errorClass : ErrorClass)
    (timedOut responseOpened bodyStarted : Bool) :
    Attempting standing seen host (some false)
      (recorder.onTransportError now errorClass timedOut responseOpened bodyStarted) := by
  obtain ⟨started, hinFlight⟩ := h.inFlight_eq
  simp only [RequestRecorder.onTransportError, hinFlight]
  rw [← hnoted]
  refine h.store ?_ (durationMs_le started now)
  rw [hnoted]
  rfl

/-- The end of the body updates the record of the attempt and keeps its moved bit. -/
theorem Attempting.onResponseBodyComplete {moved : Bool}
    (h : Attempting standing seen host (some moved) recorder) (now : Nat)
    (source : Option ErrorSource) :
    Attempting standing seen host (some moved) (recorder.onResponseBodyComplete now source) := by
  obtain ⟨started, hinFlight⟩ := h.inFlight_eq
  obtain ⟨before, own, hattempts, hbefore, hown⟩ := h.attempts
  obtain ⟨record, rfl, hrecord⟩ := Option.map_eq_some_iff.mp hown
  have hmodified : recorder.attempts.modify seen.length (fun record =>
      { record with elapsedMs := durationMs started now, errorSource := source }) =
        before ++ [{ record with elapsedMs := durationMs started now, errorSource := source }] := by
    rw [hattempts, ← hbefore.length, List.modify_eq_take_cons_drop (by simp)]
    simp
  have hupdated : known { record with
      elapsedMs := durationMs started now, errorSource := source } =
        (seen.length, ⟨host, moved⟩) := hrecord
  simp only [RequestRecorder.onResponseBodyComplete, hinFlight, hmodified]
  exact h.replace hattempts hbefore hupdated (durationMs_le started now) h.failover

/-- Moving sets the bit of the attempt that failed, and the failover bit of the call. -/
theorem Attempting.onMoved {moved : Bool}
    (h : Attempting standing seen host (some moved) recorder) :
    Attempting standing seen host (some true) recorder.onMoved := by
  obtain ⟨before, own, hattempts, hbefore, hown⟩ := h.attempts
  obtain ⟨record, rfl, hrecord⟩ := Option.map_eq_some_iff.mp hown
  have hlast : recorder.attempts.getLast? = some record := by
    rw [hattempts]
    exact List.getLast?_concat
  have hdropped : recorder.attempts.dropLast = before := by
    rw [hattempts]
    exact List.dropLast_concat
  have hclamped := h.clamped record (List.mem_of_getLast? hlast)
  have hmoved : known { record with moved := true } = (seen.length, ⟨host, true⟩) := by
    have hindex := congrArg Prod.fst hrecord
    have hhost := congrArg (fun pair => pair.2.host) hrecord
    exact Prod.ext hindex (congrArg (Seen.mk · true) hhost)
  simp only [RequestRecorder.onMoved, hlast, hdropped]
  exact h.replace hattempts hbefore hmoved hclamped (Bool.or_true _).symm

/-- A dropped attempt is recorded as aborted, with the moved bit it had, if any. -/
theorem Attempting.onAborted (h : Attempting standing seen host noted recorder) (now : Nat) :
    Attempting standing seen host (some (noted.getD false)) (recorder.onAborted now) := by
  obtain ⟨started, hinFlight⟩ := h.inFlight_eq
  have hown := h.own
  simp only [RequestRecorder.onAborted, hinFlight]
  refine h.store ?_ (durationMs_le started now)
  -- An attempt that is recorded keeps its moved bit.
  have hmoved : (recorder.attempts[seen.length]?).any AttemptRecord.moved =
      noted.getD false := by
    cases hrecord : recorder.attempts[seen.length]? with
    | none =>
        rw [hrecord] at hown
        cases noted with
        | none => rfl
        | some moved => cases hown
    | some record =>
        rw [hrecord] at hown
        cases noted with
        | none => cases hown
        | some moved =>
            exact congrArg (fun pair => pair.2.moved) (Option.some.inj hown)
  rw [← hmoved]
  rfl

/-- The first event of a stream is no fact of an attempt: it sets a time of the call. -/
theorem Attempting.onFirstEvent (h : Attempting standing seen host noted recorder) (now : Nat) :
    Attempting standing seen host noted (recorder.onFirstEvent now) :=
  ⟨h.standing, h.attempts, h.clamped, h.failover, h.started, h.firstStarted, h.currentHost,
    h.currentIndex⟩

/-! ## The header -/

/-- The fields of a header agree with what was seen before the attempt it is sent on. -/
structure FieldsAgree (seen : List Seen) (fields : List (String × String)) : Prop where
  index : fields.lookup "a" = some (toString seen.length)
  previous : ∀ last, seen.getLast? = some last → fields.lookup "ph" = some last.host.asStr
  failover : seen ≠ [] →
    fields.lookup "fo" = some (if seen.any Seen.moved then "1" else "0")

/-- The header is computed before the attempt has a record, so its fields are about the attempts
before. -/
theorem Attempting.headerValue (h : Attempting standing seen host none recorder) {value : String}
    (hvalue : recorder.headerValue = some value) :
    ∃ fields, finalizeHeader fields = some value ∧ FieldsAgree seen fields := by
  obtain ⟨before, own, hattempts, hbefore, hown⟩ := h.attempts
  obtain rfl : own = none := Option.map_eq_none_iff.mp hown
  rw [Option.toList_none, List.append_nil] at hattempts
  obtain ⟨started, hstarted⟩ := Option.isSome_iff_exists.mp h.started
  have hfailover : recorder.failoverUsed = seen.any Seen.moved := by
    rw [h.failover, Option.getD_none, Bool.or_false]
  obtain ⟨fields, hfields, hfinal⟩ := Option.bind_eq_some_iff.mp hvalue
  refine ⟨fields, hfinal, ?_⟩
  simp only [RequestRecorder.headerFields, h.currentIndex, h.currentHost,
    Option.bind_some] at hfields
  split at hfields
  · -- The index is past 99 or the host is custom, and nothing is sent.
    cases hfields
  split at hfields
  · rename_i hpositive
    obtain ⟨previous, hprevious, hlist⟩ := Option.bind_eq_some_iff.mp hfields
    rw [hstarted, Option.map_some, Option.some.injEq] at hlist
    obtain rfl := hlist
    refine ⟨rfl, ?_, ?_⟩
    · -- The last record stands for the last attempt that was seen.
      intro last hlast
      rw [hattempts, List.getLast?_eq_getElem?] at hprevious
      obtain ⟨-, hseen⟩ := hbefore.record hprevious
      rw [hbefore.length, ← List.getLast?_eq_getElem?, hlast] at hseen
      obtain rfl := Option.some.inj hseen
      rfl
    · intro _
      rw [← hfailover]
      rfl
  · rename_i hzero
    have hnil : seen = [] := List.length_eq_zero_iff.mp (by omega)
    cases hfields
    refine ⟨rfl, ?_, fun hne => absurd hnil hne⟩
    intro last hlast
    rw [hnil] at hlast
    cases hlast

/-! ## The report -/

/-- The facts of a record that an attempt's counter carries. -/
def counted (counter : CounterKey × CounterRow) : Level × Host × AttemptOutcome × Nat :=
  (counter.1.level, counter.1.host, counter.1.outcome, counter.2.failoverUsed)

/-- A report agrees with what was seen: its records, its failover bit, and its counters, one
for the call and one an attempt. -/
structure Reports (seen : List Seen) (report : Report) : Prop where
  attempts : Mirrors seen report.event.attempts
  failover : report.event.failoverUsed = seen.any Seen.moved
  counters : ∃ request rows, report.counters = request :: rows ∧
    request.1.level = .request ∧ request.2.attempts = seen.length ∧
    rows.map counted = report.event.attempts.map fun record =>
      (.attempt, record.host, record.outcome, record.moved.toNat)

/-- A finished recorder with its one report. -/
structure Settled (seen : List Seen) (recorder : RequestRecorder) : Prop where
  finished : recorder.finished = true
  reported : ∃ report, recorder.reported = [report] ∧ Reports seen report

/-- Finishing a call in an attempt that is recorded reports it once, with all the attempts that
were seen. -/
theorem Attempting.finish {moved : Bool} (h : InFlight seen host (some moved) recorder)
    (now : Nat) (exhausted : Bool) :
    Settled (seen ++ [⟨host, moved⟩]) (recorder.finish now exhausted) := by
  have hready := h.between
  obtain ⟨hrecordable, hfinished, hreported⟩ := h.pending
  obtain ⟨firstStarted, hfirst⟩ := Option.isSome_iff_exists.mp h.firstStarted
  have hne : recorder.attempts ≠ [] := by
    intro hnil
    have hlength := hready.attempts.length
    rw [hnil, List.length_append] at hlength
    cases hlength
  obtain ⟨last, hlast⟩ : ∃ last, recorder.attempts.getLast? = some last :=
    ⟨_, List.getLast?_eq_some_getLast hne⟩
  simp only [RequestRecorder.finish, hfinished, Bool.false_eq_true, if_false, hfirst, hlast,
    hrecordable, Bool.not_true, hreported, List.nil_append]
  refine ⟨rfl, _, rfl, hready.attempts, hready.failover, _, _, rfl, rfl,
    hready.attempts.length, ?_⟩
  rw [List.map_map]
  rfl

/-- A recorder that is dropped in an attempt reports it, as aborted, with what was known of the
attempt before. -/
theorem Attempting.drop (h : InFlight seen host noted recorder) (now : Nat) :
    Settled (seen ++ [⟨host, noted.getD false⟩]) (recorder.drop now) := by
  rw [RequestRecorder.drop, if_neg (by rw [h.pending.2.1]; exact Bool.false_ne_true)]
  exact (h.onAborted now).finish now false

/-- Nothing is reported twice: a finished recorder does nothing more. -/
theorem Settled.finish (h : Settled seen recorder) (now : Nat) (exhausted : Bool) :
    Settled seen (recorder.finish now exhausted) := by
  rw [RequestRecorder.finish, if_pos h.finished]
  exact h

/-- Dropping a recorder that has reported adds nothing. -/
theorem Settled.drop (h : Settled seen recorder) (now : Nat) :
    Settled seen (recorder.drop now) := by
  rw [RequestRecorder.drop, if_pos h.finished]
  exact h

/-- A hook that comes after the report does not change it. -/
theorem Settled.of_eq {other : RequestRecorder} (h : Settled seen recorder)
    (hfinished : other.finished = recorder.finished)
    (hreported : other.reported = recorder.reported) : Settled seen other := by
  obtain ⟨report, hreport, hagrees⟩ := h.reported
  exact ⟨hfinished.trans h.finished, report, hreported.trans hreport, hagrees⟩

/-- A late transport error changes a record and not the report, since the report was taken when
the call finished. -/
theorem Settled.onTransportError (h : Settled seen recorder) (now : Nat)
    (errorClass : ErrorClass) (timedOut responseOpened bodyStarted : Bool) :
    Settled seen
      (recorder.onTransportError now errorClass timedOut responseOpened bodyStarted) := by
  unfold RequestRecorder.onTransportError
  split
  · exact h
  · exact h.of_eq rfl rfl

/-! ## Open streams -/

/-- The recorder of an open stream: still in the attempt that opened it, or reported. -/
def Streaming (seen : List Seen) (host : Host) (recorder : RequestRecorder) : Prop :=
  InFlight seen host (some false) recorder ∨ Settled (seen ++ [⟨host, false⟩]) recorder

/-- One call of a stream on its recorder: it keeps the attempt open, or settles it. -/
theorem Streaming.call {state : StreamRecorder} (h : Streaming seen host state.recorder)
    (now : Nat) (call : StreamCall) : Streaming seen host (state.call now call).recorder := by
  cases call with
  | onEvent =>
      unfold StreamRecorder.call
      dsimp only
      split
      · exact h
      · rcases h with hopen | hsettled
        · exact .inl (hopen.onFirstEvent now)
        · exact .inr (hsettled.of_eq rfl rfl)
  | onWireFailure errorClass timedOut =>
      rcases h with hopen | hsettled
      · exact .inr ((hopen.onTransportError rfl now errorClass timedOut true _).finish now false)
      · exact .inr ((hsettled.onTransportError now errorClass timedOut true _).finish now false)
  | onComplete =>
      rcases h with hopen | hsettled
      · exact .inr (hopen.finish now false)
      · exact .inr (hsettled.finish now false)

/-- Whatever a stream calls on its recorder, by induction on the calls. -/
theorem Streaming.run {state : StreamRecorder} (h : Streaming seen host state.recorder)
    (clock : Nat → Nat) (n : Nat) (calls : List StreamCall) :
    Streaming seen host (StreamRecorder.run clock n state calls).recorder := by
  induction calls generalizing n state with
  | nil => exact h
  | cons call rest ih => exact ih (h.call (clock n) call) (n + 1)

/-- In the end a stream is reported once, by one of its calls or by the drop. -/
theorem Streaming.drop (h : Streaming seen host recorder) (now : Nat) :
    Settled (seen ++ [⟨host, false⟩]) (recorder.drop now) := by
  rcases h with hopen | hsettled
  · exact hopen.drop now
  · exact hsettled.drop now

/-! ## The outcome of a report -/

/-- A finished recorder whose one report has a final outcome, which is the one of its last
attempt. -/
structure Concluded (outcome : AttemptOutcome) (recorder : RequestRecorder) : Prop where
  finished : recorder.finished = true
  reported : ∃ report, recorder.reported = [report] ∧
    report.event.finalOutcome = .outcome outcome ∧
    report.event.attempts.getLast?.map AttemptRecord.outcome = some outcome

/-- A call that did not exhaust its retries ends with the outcome of its last record. -/
theorem Attempting.concluded {outcome : AttemptOutcome} (h : InFlight seen host noted recorder)
    (houtcome : lastOutcome recorder = some outcome) (now : Nat) :
    Concluded outcome (recorder.finish now false) := by
  obtain ⟨hrecordable, hfinished, hreported⟩ := h.pending
  obtain ⟨firstStarted, hfirst⟩ := Option.isSome_iff_exists.mp h.firstStarted
  obtain ⟨last, hlast, hlastOutcome⟩ := Option.map_eq_some_iff.mp houtcome
  simp only [RequestRecorder.finish, hfinished, Bool.false_eq_true, if_false, hfirst, hlast,
    hrecordable, Bool.not_true, hreported, List.nil_append]
  exact ⟨rfl, _, rfl, congrArg _ hlastOutcome, houtcome⟩

/-- The outcome stays when the recorder is dropped. -/
theorem Concluded.drop {outcome : AttemptOutcome} (h : Concluded outcome recorder) (now : Nat) :
    Concluded outcome (recorder.drop now) := by
  rw [RequestRecorder.drop, if_pos h.finished]
  exact h

/-- A recorder that is dropped in an attempt concludes as aborted, also when the attempt had a
response already. -/
theorem Attempting.aborted (h : InFlight seen host noted recorder) (now : Nat) :
    Concluded .aborted (recorder.drop now) := by
  rw [RequestRecorder.drop, if_neg (by rw [h.pending.2.1]; exact Bool.false_ne_true)]
  refine (h.onAborted now).concluded ?_ now
  obtain ⟨started, hinFlight⟩ := h.inFlight_eq
  simp only [RequestRecorder.onAborted, hinFlight]
  exact h.lastOutcome_store rfl

/-- A failure under an open stream concludes it with an outcome of its own, which is not that of a
dropped stream. -/
theorem Attempting.failed (h : InFlight seen host (some false) recorder) (now : Nat)
    (errorClass : ErrorClass) (timedOut bodyStarted : Bool) :
    ∃ outcome, outcome ≠ .aborted ∧
      Concluded outcome
        ((recorder.onTransportError now errorClass timedOut true bodyStarted).finish now
          false) := by
  refine ⟨(RequestRecorder.failureFacts errorClass timedOut bodyStarted).1, ?_, ?_⟩
  · cases timedOut <;> cases bodyStarted <;> exact AttemptOutcome.noConfusion
  · refine (h.onTransportError rfl now errorClass timedOut true bodyStarted).concluded ?_ now
    obtain ⟨started, hinFlight⟩ := h.inFlight_eq
    simp only [RequestRecorder.onTransportError, hinFlight]
    exact h.lastOutcome_store rfl

/-! ## The calls of a stream -/

/-- The calls of a stream one part after the other, with the clock going on from the number of the
first part. -/
theorem run_append (clock : Nat → Nat) (n : Nat) (state : StreamRecorder)
    (first second : List StreamCall) :
    StreamRecorder.run clock n state (first ++ second) =
      StreamRecorder.run clock (n + first.length) (StreamRecorder.run clock n state first)
        second := by
  induction first generalizing n state with
  | nil => rfl
  | cons call rest ih =>
      rw [List.cons_append, StreamRecorder.run, StreamRecorder.run, ih, List.length_cons]
      congr 1
      omega

/-- Events leave an open stream open. -/
theorem Opened.events {state : StreamRecorder} (h : Opened seen host state.recorder)
    (clock : Nat → Nat) (n count : Nat) :
    Opened seen host
      (StreamRecorder.run clock n state (List.replicate count .onEvent)).recorder := by
  induction count generalizing n state with
  | zero => exact h
  | succ count ih =>
      refine ih ?_ (n + 1)
      unfold StreamRecorder.call
      dsimp only
      split
      · exact h
      · exact ⟨h.toAttempting.onFirstEvent (clock n), h.outcome⟩

end

end TrustedRouter.Proofs.Telemetry.Recorder
