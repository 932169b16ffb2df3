import TrustedRouter.Proofs.Telemetry.Books
import TrustedRouter.Proofs.Transport.Routing
import TrustedRouter.Telemetry.Recorder

/-!
# `TrustedRouter.Proofs.Telemetry.Handover`: from a finished call to the wire

The reporter takes whatever increments it is handed. What it puts on the wire is as good as they
are. This module follows the increments that `RequestRecorder::finish` derives from a call, through
the open window and its folds, the closed windows and the batch.

`HandedOver` is the assumption: the arguments of `on_request` are those that some recorder hands
over when it finishes. Nothing is asked of the recorder, so this covers every call of the engine.

* `posted_rows_coherent`: the numbers of every row that is ever posted fit together. A row counts a
  call, no more failovers and first successes than calls, and no fewer attempts. Its histograms
  hold no more than its calls, unless the count of calls is at its cap: the counts of a row are
  clamped one by one, so nothing is promised of their proportions past that.
* `notable_call_buffered`: a call that failed, was retried, moved or was slow is buffered, at a
  sample rate of one, whatever the policy is.
* `failure_evicted_last`: a failure leaves the buffer for a newer call only when all that is
  buffered are failures.
-/

set_option autoImplicit false

namespace TrustedRouter.Proofs.Telemetry

open TrustedRouter.Telemetry
open Rust

/-! ## Rows -/

/-- The numbers of a row fit together. -/
structure Fits (row : CounterRow) : Prop where
  failover : row.failoverUsed ≤ row.requests
  attempts : row.requests ≤ row.attempts
  first : row.firstAttemptSuccess ≤ row.requests
  /-- Below the cap. A refolded row is clamped component by component. -/
  histograms : row.requests < maxCount →
    BTreeMap.total row.totalMsHist ≤ row.requests ∧
      BTreeMap.total row.firstEventMsHist ≤ row.requests

/-- A row of at least one call. -/
structure Coherent (row : CounterRow) : Prop extends Fits row where
  counts : 1 ≤ row.requests

/-- A new row is one that an increment can be merged into, although it is no coherent row itself:
it counts no call yet. -/
theorem fits_default : Fits {} :=
  ⟨Nat.le_refl _, Nat.le_refl _, Nat.le_refl _, fun _ => ⟨Nat.le_refl _, Nat.le_refl _⟩⟩

/-- Merging loses counts to a clamp or to saturation, and invents none. -/
theorem total_mergeHistogram_le (target source : Histogram) :
    BTreeMap.total (mergeHistogram target source) ≤
      BTreeMap.total target + BTreeMap.total source := by
  have hfold := @BTreeMap.total_foldl_upsert_le LatencyBucket _ (LatencyBucket × Nat)
    (fun a b => compare a b == .lt) Prod.fst
    (fun entry present => U64.saturatingAdd (present.getD 0) (bounded entry.2 0 maxCount)) Prod.snd
  refine hfold ?_ ?_ source target
  · intro entry
    simp only [U64.saturatingAdd, bounded, Option.getD_none]
    omega
  · intro entry value
    simp only [U64.saturatingAdd, bounded, Option.getD_some]
    omega

/-- Merging keeps the numbers of a row together. The target may be a new row, which has no call
yet and is not coherent by itself. -/
theorem Coherent.merge {target increment : CounterRow} (htarget : Fits target)
    (hincrement : Coherent increment) : Coherent (mergeCounterIncrement target increment) := by
  obtain ⟨hfailover, hattempts, hfirst, hhistograms⟩ := htarget
  obtain ⟨⟨hfailover', hattempts', hfirst', hhistograms'⟩, hcounts⟩ := hincrement
  have hcap : maxCount ≤ U64.max := by decide
  have hone : 1 ≤ maxCount := by decide
  refine ⟨⟨?_, ?_, ?_, ?_⟩, ?_⟩
  · simp only [mergeCounterIncrement, U64.saturatingAdd, bounded]
    omega
  · simp only [mergeCounterIncrement, U64.saturatingAdd, bounded]
    omega
  · simp only [mergeCounterIncrement, U64.saturatingAdd, bounded]
    omega
  · intro hbelow
    -- Below the cap neither row was at it, so that the calls add up.
    have hsum : (mergeCounterIncrement target increment).requests =
        target.requests + increment.requests ∧ target.requests < maxCount ∧
          increment.requests < maxCount := by
      simp only [mergeCounterIncrement, U64.saturatingAdd, bounded] at hbelow ⊢
      omega
    obtain ⟨hrequests, htargetBelow, hincrementBelow⟩ := hsum
    have htotal := total_mergeHistogram_le target.totalMsHist increment.totalMsHist
    have hevent := total_mergeHistogram_le target.firstEventMsHist increment.firstEventMsHist
    have hold := hhistograms htargetBelow
    have hnew := hhistograms' hincrementBelow
    rw [hrequests]
    show BTreeMap.total (mergeHistogram _ _) ≤ _ ∧ BTreeMap.total (mergeHistogram _ _) ≤ _
    omega
  · simp only [mergeCounterIncrement, U64.saturatingAdd, bounded]
    omega

/-- Every row of a window is coherent. -/
def RowsCoherent (counters : Counters) : Prop := ∀ row ∈ counters, Coherent row.2

/-- Folding a row keeps it coherent. -/
theorem RowsCoherent.refold {counters counters' : Counters} {fits : CounterKey → Bool}
    {endpoint : Bool} {target : CounterKey} (h : RowsCoherent counters)
    (hrefold : refold counters fits endpoint = some (target, counters')) :
    RowsCoherent counters' := by
  rw [Telemetry.refold, Option.map_eq_some_iff] at hrefold
  obtain ⟨folded, hfolded, hpair⟩ := hrefold
  cases hpair
  intro row hrow
  rcases List.mem_append.mp hrow with hkept | hnew
  · exact h row (List.mem_of_mem_eraseP hkept)
  · rw [List.mem_singleton.mp hnew]
    exact Coherent.merge fits_default (h folded (List.mem_of_find?_eq_some hfolded))

/-- Choosing a target refolds a row at most, so that the rows are coherent after it too. -/
theorem RowsCoherent.counterTarget {counters : Counters} (h : RowsCoherent counters)
    (key : CounterKey) : RowsCoherent (counterTarget counters key).2 := by
  unfold Telemetry.counterTarget
  split
  · exact h
  · split
    · exact h
    · split
      · rename_i refolded hrefold
        exact h.refold hrefold
      · split
        · exact h
        · split
          · rename_i refolded hrefold
            exact h.refold hrefold
          · exact h

/-- Whatever row an increment goes to, it stays coherent. -/
theorem RowsCoherent.addIncrement {counters : Counters} {increment : CounterRow}
    (h : RowsCoherent counters) (hincrement : Coherent increment) (target : CounterKey) :
    RowsCoherent (addIncrement target increment counters) := by
  induction counters with
  | nil =>
      intro row hrow
      rw [List.mem_singleton.mp hrow]
      exact Coherent.merge fits_default hincrement
  | cons first rest ih =>
      obtain ⟨hfirst, hrest⟩ := List.forall_mem_cons.mp h
      rw [Telemetry.addIncrement]
      split
      · exact List.forall_mem_cons.mpr ⟨hincrement.merge hfirst.toFits, hrest⟩
      · exact List.forall_mem_cons.mpr ⟨hfirst, ih hrest⟩

/-- Merging increments that are coherent keeps the window so, by induction on the increments. -/
theorem RowsCoherent.mergeCounters {counters increments : Counters} (h : RowsCoherent counters)
    (hincrements : RowsCoherent increments) :
    RowsCoherent (increments.foldl mergeCounter counters) := by
  induction increments generalizing counters with
  | nil => exact h
  | cons entry rest ih =>
      obtain ⟨hentry, hrest⟩ := List.forall_mem_cons.mp hincrements
      exact ih ((h.counterTarget entry.1).addIncrement hentry _) hrest

/-! ## Calls -/

/-- The recorders of a call: a new one, and what any hooks in any order make of it. -/
inductive Recording : RequestRecorder → Prop where
  | new (spec : RecorderSpec) : Recording (.new spec)
  | beginAttempt {recorder : RequestRecorder} (lib : Whatwg.Backend) (now : Nat)
      (url : Whatwg.Url) : Recording recorder → Recording (recorder.beginAttempt lib now url)
  | onResponse {recorder : RequestRecorder} (untilHttpDate : String → Option Nat)
      (now status : Nat) (headers : Http.HeaderMap) (errorSource : Option ErrorSource) :
      Recording recorder →
        Recording (recorder.onResponse untilHttpDate now status headers errorSource)
  | onResponseBodyComplete {recorder : RequestRecorder} (now : Nat)
      (errorSource : Option ErrorSource) :
      Recording recorder → Recording (recorder.onResponseBodyComplete now errorSource)
  | onTransportError {recorder : RequestRecorder} (now : Nat) (errorClass : ErrorClass)
      (timedOut responseOpened bodyStarted : Bool) : Recording recorder →
        Recording (recorder.onTransportError now errorClass timedOut responseOpened bodyStarted)
  | onMoved {recorder : RequestRecorder} : Recording recorder → Recording recorder.onMoved
  | onFirstEvent {recorder : RequestRecorder} (now : Nat) :
      Recording recorder → Recording (recorder.onFirstEvent now)
  | onAborted {recorder : RequestRecorder} (now : Nat) :
      Recording recorder → Recording (recorder.onAborted now)

/-- What no hook changes. -/
structure Kept (recorder recorder' : RequestRecorder) : Prop where
  method : recorder'.method = recorder.method
  recordable : recorder'.recordable = recorder.recordable
  reported : recorder'.reported = recorder.reported

/-- Storing an attempt leaves the method, and reports nothing. -/
theorem Kept.storeAttempt (record : AttemptRecord) (recorder : RequestRecorder) :
    Kept recorder (recorder.storeAttempt record) := ⟨rfl, rfl, rfl⟩

/-- A recorder reports nothing before it finishes, and knows whether its method is recorded. -/
theorem Recording.quiet {recorder : RequestRecorder} (h : Recording recorder) :
    recorder.reported = [] ∧
      recorder.recordable = (recorder.method == .get || recorder.method == .post) := by
  -- Each hook stores an attempt, or leaves the recorder alone, or sets another field.
  have hkept : ∀ {before after : RequestRecorder}, Kept before after →
      before.reported = [] ∧
        before.recordable = (before.method == .get || before.method == .post) →
      after.reported = [] ∧
        after.recordable = (after.method == .get || after.method == .post) := by
    intro before after hsame hbefore
    rw [hsame.reported, hsame.recordable, hsame.method]
    exact hbefore
  induction h with
  | new spec => exact ⟨rfl, rfl⟩
  | beginAttempt lib now url _ ih => exact ih
  | onResponse untilHttpDate now status headers errorSource _ ih =>
      refine hkept ?_ ih
      unfold RequestRecorder.onResponse
      split
      · exact ⟨rfl, rfl, rfl⟩
      · exact .storeAttempt _ _
  | onResponseBodyComplete now errorSource _ ih =>
      refine hkept ?_ ih
      unfold RequestRecorder.onResponseBodyComplete
      split
      · exact ⟨rfl, rfl, rfl⟩
      · exact ⟨rfl, rfl, rfl⟩
  | onTransportError now errorClass timedOut responseOpened bodyStarted _ ih =>
      refine hkept ?_ ih
      unfold RequestRecorder.onTransportError
      split
      · exact ⟨rfl, rfl, rfl⟩
      · exact .storeAttempt _ _
  | onMoved _ ih =>
      refine hkept ?_ ih
      unfold RequestRecorder.onMoved
      split
      · exact ⟨rfl, rfl, rfl⟩
      · exact ⟨rfl, rfl, rfl⟩
  | onFirstEvent now _ ih => exact ih
  | onAborted now _ ih =>
      refine hkept ?_ ih
      unfold RequestRecorder.onAborted
      split
      · exact ⟨rfl, rfl, rfl⟩
      · exact .storeAttempt _ _

/-- The arguments of `on_request` are what the recorder of a call hands over when it finishes. -/
structure HandedOver (record : Record) : Prop where
  report : ∃ (recorder : RequestRecorder) (now : Nat) (exhausted : Bool), Recording recorder ∧
    (recorder.finish now exhausted).reported =
      [{ event := record.event, counters := record.counters }]

/-- It hands over the event and the increments of a call with an attempt. -/
theorem HandedOver.exists_last {record : Record} (h : HandedOver record) :
    ∃ (recorder : RequestRecorder) (totalMs : Nat) (exhausted : Bool) (last : AttemptRecord),
      recorder.attempts.getLast? = some last ∧
      (recorder.method = .get ∨ recorder.method = .post) ∧
      record.event = recorder.event exhausted totalMs last ∧
      record.counters = recorder.requestCounter totalMs last ::
        recorder.attempts.map recorder.attemptCounter := by
  obtain ⟨recorder, now, exhausted, hrecording, hreported⟩ := h.report
  obtain ⟨hnone, hrecordable⟩ := hrecording.quiet
  -- Of the ways through `finish` only one reports, with a first start and a last attempt.
  unfold RequestRecorder.finish at hreported
  split at hreported
  · rw [hnone] at hreported
    cases hreported
  · dsimp only at hreported
    split at hreported
    · rename_i firstStarted last hstarted hlast
      split at hreported
      · rw [hnone] at hreported
        cases hreported
      · rename_i hrecorded
        dsimp only at hreported
        rw [hnone, List.nil_append] at hreported
        obtain ⟨hevent, hcounters⟩ := Report.mk.inj (List.singleton_inj.mp hreported)
        refine ⟨{ recorder with finished := true }, durationMs firstStarted now, exhausted, last,
          hlast, ?_, hevent.symm, hcounters.symm⟩
        have hmethod : (recorder.method == .get || recorder.method == .post) = true := by
          rw [← hrecordable]
          simpa using hrecorded
        simpa using hmethod
    · rw [hnone] at hreported
      cases hreported

/-- The increments of a call are coherent rows: one for the request, and one for each attempt of
it. -/
theorem HandedOver.rowsCoherent {record : Record} (h : HandedOver record) :
    RowsCoherent record.counters := by
  obtain ⟨recorder, totalMs, exhausted, last, hlast, -, -, hcounters⟩ := h.exists_last
  have hbool : ∀ flag : Bool, flag.toNat ≤ 1 := by
    intro flag
    cases flag <;> decide
  have hattempts : 1 ≤ recorder.attempts.length := by
    cases hempty : recorder.attempts with
    | nil =>
        rw [hempty] at hlast
        cases hlast
    | cons first rest => exact Nat.succ_le_succ (Nat.zero_le _)
  rw [hcounters]
  -- The row of the request has the histograms; a row of an attempt has none.
  refine List.forall_mem_cons.mpr ⟨⟨⟨hbool _, hattempts, hbool _, fun _ => ⟨?_, ?_⟩⟩, ?_⟩, ?_⟩
  · exact Nat.le_refl 1
  · simp only [RequestRecorder.requestCounter]
    cases recorder.ttftMs.or last.ttfbMs with
    | none => exact Nat.zero_le 1
    | some firstEventMs => exact Nat.le_refl 1
  · exact Nat.le_refl 1
  · intro row hrow
    obtain ⟨attempt, -, rfl⟩ := List.mem_map.mp hrow
    exact ⟨⟨hbool _, Nat.le_refl 1, Nat.zero_le 1, fun _ => ⟨Nat.zero_le 1, Nat.zero_le 1⟩⟩,
      Nat.le_refl 1⟩

/-! ## Every state of every run -/

/-- All rows of a state are coherent, those of the open window and those of the closed ones. -/
structure StateCoherent (state : State) : Prop where
  current : RowsCoherent state.currentCounters
  closed : ∀ entry ∈ closedRows state, Coherent entry.2

/-- Only the open rows and the closed windows matter, so that an operation on anything else keeps
it. -/
theorem StateCoherent.of_eq {state state' : State} (h : StateCoherent state)
    (hcurrent : state'.currentCounters = state.currentCounters)
    (hclosed : state'.closedWindows = state.closedWindows) : StateCoherent state' := by
  refine ⟨hcurrent ▸ h.current, ?_⟩
  rw [closedRows, hclosed]
  exact h.closed

/-- Windows close with the rows they have, and those that are dropped are whole windows. -/
theorem StateCoherent.settles {reporter : Reporter} {state state' : State}
    (h : StateCoherent state) (hsettles : Settles reporter state state') :
    StateCoherent state' := by
  refine ⟨?_, ?_⟩
  · obtain ⟨closing, gone, kept, start, retained, -, -, rfl⟩ := hsettles.windows
    show RowsCoherent (if closing.isEmpty then state.currentCounters else [])
    split
    · exact h.current
    · exact fun row hrow => (List.not_mem_nil hrow).elim
  · intro entry hentry
    rcases hsettles.row_cases hentry with hold | ⟨-, hopen⟩
    · exact h.closed entry hold
    · exact h.current _ hopen

/-- Taking rows out keeps the others, and a window without rows is as good as any. -/
theorem StateCoherent.retires {selected : Selected} {state state' : State}
    (h : StateCoherent state) (hretires : Retires selected state state') :
    StateCoherent state' := by
  refine ⟨hretires.currentCounters ▸ h.current, ?_⟩
  intro entry hentry
  rw [hretires.rows] at hentry
  exact h.closed entry (List.mem_filter.mp hentry).1

/-- One step. -/
theorem StateCoherent.moves {reporter : Reporter} {system : System} {step : Step} {next : State}
    (h : StateCoherent system.state) (hok : WellFormed reporter system.state)
    (hhanded : ∀ record, step = .onRequest record → HandedOver record)
    (hmoves : Moves reporter system step next) : StateCoherent next := by
  cases hmoves with
  | same _ _ hsame => exact h.of_eq hsame.currentCounters hsame.closedWindows
  | @records record hstep hopen hnext =>
      -- The rows handed over are merged into those of the open window.
      have hrecorded := onRequest_recorded record hok hopen
      have hrolled := h.settles (settles_rollWindow reporter record.now hok.dropped)
      rw [hnext]
      refine ⟨?_, ?_⟩
      · rw [hrecorded.currentCounters]
        exact hrolled.current.mergeCounters (hhanded record hstep).rowsCoherent
      · rw [closedRows, hrecorded.closedWindows]
        exact hrolled.closed
  | @selects fresh now _ _ hnext =>
      have hsame := selectBatch_state reporter fresh now system.state
      rw [hnext]
      exact (h.settles (settles_settleWindows reporter now hok.dropped)).of_eq
        hsame.currentCounters hsame.closedWindows
  | prunes _ hnext =>
      rw [hnext]
      exact h.settles (settles_pruneWindows reporter _ hok.dropped)
  | accepts _ hnext =>
      rw [hnext]
      exact h.retires (retires_acceptBatch hok _ _ _)
  | rejects _ hnext =>
      rw [hnext]
      exact h.retires (retires_rejectBatch hok _)
  | disables _ hnext =>
      rw [hnext]
      exact ⟨fun row hrow => (List.not_mem_nil hrow).elim,
        fun entry hentry => (List.not_mem_nil hentry).elim⟩

/-- A whole run, each of whose calls was handed over by a recorder. -/
theorem StateCoherent.run {reporter : Reporter} {system : System} {steps : List Step}
    (h : StateCoherent system.state) (hok : WellFormed reporter system.state)
    (hhanded : ∀ record, .onRequest record ∈ steps → HandedOver record) :
    StateCoherent (system.run reporter steps).state := by
  induction steps generalizing system with
  | nil => exact h
  | cons step rest ih =>
      have hmoves := moves_step reporter system step
      refine ih (h.moves hok ?_ hmoves) (hok.moves hmoves) ?_
      · rintro record rfl
        exact hhanded record List.mem_cons_self
      · exact fun record hrecord => hhanded record (List.mem_cons_of_mem _ hrecord)

/-! ## On the wire -/

/-- The numbers of a row on the wire fit together. -/
structure WireCoherent (counter : WireCounter) : Prop where
  counts : 1 ≤ counter.requests
  failover : counter.failoverUsed ≤ counter.requests
  attempts : counter.requests ≤ counter.attempts
  first : counter.firstAttemptSuccess ≤ counter.requests
  histograms : counter.requests < maxCount →
    BTreeMap.total counter.totalMsHist ≤ counter.requests ∧
      BTreeMap.total counter.firstEventMsHist ≤ counter.requests

/-- The words of the buckets hold no more than the buckets. -/
theorem total_wireHistogram_le (histogram : Histogram) :
    BTreeMap.total (wireHistogram histogram) ≤ BTreeMap.total histogram := by
  have hfold := @BTreeMap.total_foldl_upsert_le String _ (LatencyBucket × Nat)
    (fun a b => decide (a < b))
    (fun entry => entry.1.asStr) (fun entry _ => bounded entry.2 0 maxCount) Prod.snd
  refine Nat.le_trans (hfold ?_ ?_ histogram []) (Nat.le_of_eq (Nat.zero_add _))
  · intro entry
    simp only [bounded]
    omega
  · intro entry value
    simp only [bounded]
    omega

/-- Clamping keeps them together. -/
theorem Coherent.fromRow {row : CounterRow} (h : Coherent row) (key : CounterKey) (ageMs : Nat) :
    WireCoherent (.fromRow key row ageMs) := by
  have hcounts := h.counts
  have hfailover := h.failover
  have hattempts := h.attempts
  have hfirst := h.first
  have hone : 1 ≤ maxCount := by decide
  refine ⟨?_, ?_, ?_, ?_, ?_⟩
  · simp only [WireCounter.fromRow, bounded]
    omega
  · simp only [WireCounter.fromRow, bounded]
    omega
  · simp only [WireCounter.fromRow, bounded]
    omega
  · simp only [WireCounter.fromRow, bounded]
    omega
  · intro hbelow
    -- Below the wire's bound the requests were not cut, so the histograms are those of the row.
    have hsame : (WireCounter.fromRow key row ageMs).requests = row.requests ∧
        row.requests < maxCount := by
      simp only [WireCounter.fromRow, bounded] at hbelow ⊢
      omega
    obtain ⟨htotal, hevent⟩ := h.histograms hsame.2
    rw [hsame.1]
    exact ⟨Nat.le_trans (total_wireHistogram_le _) htotal,
      Nat.le_trans (total_wireHistogram_le _) hevent⟩

/-- Whatever calls finish in whatever order, and whatever flushes do in between: the numbers of
every row of every batch that is posted fit together. -/
theorem posted_rows_coherent (reporter : Reporter) (rate : Option Rat) (interval : Nat)
    (instanceId : String) (steps : List Step)
    (hhanded : ∀ record, .onRequest record ∈ steps → HandedOver record) {selected : Selected}
    (hposted : ((System.new rate interval instanceId).run reporter steps).phase =
      .posted selected) :
    ∀ counter ∈ selected.batch.counters, WireCoherent counter := by
  have hnew := wellFormed_new reporter rate interval instanceId
  obtain ⟨before, fresh, now, after, hsplit, hentered, hselect, -⟩ :=
    posted_selected hnew rfl hposted
  -- The batch was selected from a reachable state, whose rows are coherent.
  have hbefore :
      StateCoherent ((System.new rate interval instanceId).run reporter before).state := by
    refine StateCoherent.run ⟨?_, ?_⟩ hnew ?_
    · exact fun row hrow => (List.not_mem_nil hrow).elim
    · exact fun entry hentry => (List.not_mem_nil hentry).elim
    · intro record hrecord
      rw [hsplit] at hhanded
      exact hhanded record (List.mem_append_left _ hrecord)
  have hselects : Moves reporter ((System.new rate interval instanceId).run reporter before)
      (.select fresh) _ := .selects rfl hentered rfl
  have hchosen := hbefore.moves (hnew.run before) (fun record hstep => by cases hstep) hselects
  intro counter hcounter
  obtain ⟨ref, -, row, hrow, ageMs, rfl⟩ :=
    Result.exists_mem_of_forall₂ (carries_selectBatch hselect).rows.flip hcounter
  exact (hchosen.closed _ hrow).fromRow ref.2 ageMs

/-- The recorder of a call whose one attempt was refused. -/
def refusedRecorder : RequestRecorder :=
  ((RequestRecorder.new
      { endpoint := .chatCompletions, method := .post, streaming := false
        providerPinned := false, model := none, configuredTimeout := none }).beginAttempt
    Transport.plainBackend 0 Transport.defaultControlBase.url).onTransportError
      (Duration.fromMillis 80) .connectRefused false false false

/-- What it hands over. -/
def refusedCall : Record :=
  { sampleCall (Duration.fromSecs 60) with
    event := refusedRecorder.event false 80 (refusedRecorder.attempts.getLast (by decide))
    counters :=
      refusedRecorder.requestCounter 80 (refusedRecorder.attempts.getLast (by decide)) ::
        refusedRecorder.attempts.map refusedRecorder.attemptCounter }

/-- The refused call is what a recorder hands over after one failed attempt. -/
theorem handedOver_refusedCall : HandedOver refusedCall := by
  refine ⟨refusedRecorder, Duration.fromMillis 80, false, ?_, rfl⟩
  exact .onTransportError _ _ _ _ _ (.beginAttempt _ _ _ (.new _))

/-- The batch after the refused call has its two rows. -/
theorem posted_rows_coherent_refused :
    ∃ selected, ((System.new none 0 "i-1").run flushReporter [.onRequest refusedCall,
        .enter (Duration.fromSecs 60), .select ⟨"b-1", 0⟩]).phase = .posted selected ∧
      selected.batch.counters.length = 2 ∧
      ∀ counter ∈ selected.batch.counters, WireCoherent counter := by
  have hentered : (((System.new none 0 "i-1").step flushReporter (.onRequest refusedCall)).step
      flushReporter (.enter (Duration.fromSecs 60))).phase = .entered (Duration.fromSecs 60) :=
    step_enter_phase rfl (by decide +kernel) (by decide +kernel)
  have hcounters : ((selectBatch flushReporter ⟨"b-1", 0⟩ (Duration.fromSecs 60)
      (((System.new none 0 "i-1").step flushReporter (.onRequest refusedCall)).step flushReporter
        (.enter (Duration.fromSecs 60))).state).1.any fun selected =>
          selected.batch.counters.length == 2) = true := by
    decide +kernel
  obtain ⟨selected, hselected, hlength⟩ := (Option.any_eq_true ..).mp hcounters
  have hposted : ((System.new none 0 "i-1").run flushReporter [.onRequest refusedCall,
      .enter (Duration.fromSecs 60), .select ⟨"b-1", 0⟩]).phase = .posted selected := by
    rw [run_cons, run_cons, run_cons, run_nil]
    exact step_select_phase hentered hselected
  refine ⟨selected, hposted, beq_iff_eq.mp hlength, ?_⟩
  refine posted_rows_coherent flushReporter none 0 "i-1" [.onRequest refusedCall,
    .enter (Duration.fromSecs 60), .select ⟨"b-1", 0⟩] ?_ hposted
  intro record hrecord
  simp only [List.mem_cons, List.not_mem_nil, or_false, reduceCtorEq, Step.onRequest.injEq]
    at hrecord
  rw [hrecord]
  exact handedOver_refusedCall

/-! ## Failures are kept -/

/-- A call that an operator has to see: it failed, or was retried, moved to another host, or was
slow. -/
def Notable (event : RequestEvent) : Prop :=
  event.finalOutcome.isOk = false ∨ 1 < event.attempts.length ∨ event.failoverUsed = true ∨
    slowMs < event.totalMs

/-- Such a call is sampled whatever the rate is, and at a rate of one: it stands for itself
alone. -/
theorem sampleReason_of_notable {event : RequestEvent} (h : Notable event) (rate draw : Rat) :
    ∃ reason, reason ≠ .random ∧ sampleReason event rate draw = some (reason, 1) := by
  unfold sampleReason
  split
  · exact ⟨.failure, by decide, rfl⟩
  · rename_i hok
    split
    · exact ⟨.retried, by decide, rfl⟩
    · rename_i honce
      split
      · exact ⟨.slow, by decide, rfl⟩
      · rename_i hfast
        simp only [Bool.or_eq_true, decide_eq_true_eq, not_or] at honce
        rcases h with hfailed | hretried | hmoved | hslow
        · rw [hfailed] at hok
          exact absurd rfl hok
        · exact absurd hretried honce.1
        · exact absurd hmoved honce.2
        · exact absurd hslow hfast

/-- The schema can carry every call that a recorder hands over. `from_event` refuses a call
without an attempt and one of another method, and a recorder hands over neither. -/
theorem HandedOver.fromEvent {record : Record} (h : HandedOver record) (reason : SampleReason) :
    ∃ wire, WireEvent.fromEvent record.event reason 1 = some wire ∧ wire.sampleRate = 1 := by
  obtain ⟨recorder, totalMs, exhausted, last, hlast, hmethod, hevent, -⟩ := h.exists_last
  have hwire : ∃ word, wireMethod record.event.method = some word := by
    rw [hevent]
    show ∃ word, wireMethod recorder.method = some word
    rcases hmethod with hget | hpost
    · exact ⟨"GET", by rw [hget]; rfl⟩
    · exact ⟨"POST", by rw [hpost]; rfl⟩
  -- A recorded call has a last attempt, so the wire event has one too.
  have hattempts : ((record.event.attempts.take maxWireAttempts).map
      WireAttempt.fromRecord).isEmpty = false := by
    rw [hevent]
    show ((recorder.attempts.take maxWireAttempts).map WireAttempt.fromRecord).isEmpty = false
    cases hempty : recorder.attempts with
    | nil =>
        rw [hempty] at hlast
        cases hlast
    | cons first rest => rfl
  obtain ⟨word, hword⟩ := hwire
  unfold WireEvent.fromEvent
  dsimp only
  rw [hattempts, hword, if_neg (by decide)]
  exact ⟨_, rfl, rfl⟩

/-- A notable call is in the buffer when `on_request` returns, at the end of it and at a sample
rate of one. No policy that the server has sent, and no draw, keeps it out. -/
theorem notable_call_buffered (reporter : Reporter) (system : System) {record : Record}
    (hrecord : HandedOver record) (hnotable : Notable record.event)
    (hopen : (system.state.disabled || system.state.closed) = false) :
    ∃ reason buffered, reason ≠ .random ∧
      (system.step reporter (.onRequest record)).state.events.getLast? = some buffered ∧
      WireEvent.fromEvent record.event reason 1 = some buffered.wire ∧
      buffered.wire.sampleRate = 1 ∧ buffered.completedAt = record.now := by
  obtain ⟨reason, hreason, hsample⟩ :=
    sampleReason_of_notable hnotable record.rate record.draw
  obtain ⟨wire, hwire, hrate⟩ := hrecord.fromEvent reason
  have hsampled : record.sampled = some wire := by
    rw [Record.sampled, Record.reason, hsample]
    exact hwire
  have hsame := onRequest_same reporter record hopen
  rw [bufferSample, hsampled] at hsame
  have hevents : (system.step reporter (.onRequest record)).state.events =
      (appendEvent reporter.library wire record.now
        (countInvalid record (mergeCounters record.counters
          (rollWindow reporter record.now system.state)))).events := hsame.events
  rw [hevents]
  exact ⟨reason, _, hreason, List.getLast?_concat .., hwire, hrate, rfl⟩

/-- The refused call is buffered, although its reporter samples no success. -/
theorem notable_call_buffered_refused :
    ∃ reason buffered, reason ≠ .random ∧
      ((System.new (some 0) 0 "i-1").step flushReporter
        (.onRequest refusedCall)).state.events.getLast? = some buffered ∧
      WireEvent.fromEvent refusedCall.event reason 1 = some buffered.wire ∧
      buffered.wire.sampleRate = 1 ∧ buffered.completedAt = refusedCall.now :=
  notable_call_buffered flushReporter (System.new (some 0) 0 "i-1") handedOver_refusedCall
    (.inl (by decide)) rfl

/-- A buffered failure makes room for a newer call only as the oldest of a full buffer of
failures. As long as there is a success in the buffer, that one goes first. -/
theorem failure_evicted_last {reporter : Reporter} {rate : Option Rat} {interval : Nat}
    {instanceId : String} {steps : List Step} {system : System}
    (hreached : (System.new rate interval instanceId).run reporter steps = system)
    (record : Record) {failure : BufferedEvent} (hfailure : failure.ok = false)
    (hbuffered : failure ∈ system.state.events)
    (hgone : failure ∉ (system.step reporter (.onRequest record)).state.events) :
    system.state.events.length = maxEvents ∧ system.state.events.head? = some failure ∧
      ∀ other ∈ system.state.events, other.ok = false := by
  have hok : WellFormed reporter system.state := by
    rw [← hreached]
    exact WellFormed.run (wellFormed_new reporter rate interval instanceId) steps
  cases hopen : system.state.disabled || system.state.closed with
  | true =>
      have hsame : onRequest reporter record system.state = system.state := if_pos hopen
      rw [System.step, hsame] at hgone
      exact absurd hbuffered hgone
  | false =>
      obtain ⟨before, evicted, after, fresh, hsplit, hevicted, -, hevents, -, -⟩ :=
        (onRequest_recorded record hok hopen).events
      rw [System.step, hevents] at hgone
      rw [hsplit] at hbuffered
      -- It is not among what stays, so it is what was evicted.
      have hmem : failure ∈ evicted := by
        simp only [List.mem_append] at hbuffered hgone
        tauto
      rcases hevicted with rfl | ⟨-, hfull, oldest, holdest, rfl⟩
      · cases hmem
      · obtain rfl := List.mem_singleton.mp hmem
        have hnone : system.state.events.findIdx? BufferedEvent.ok = none := by
          cases hfind : system.state.events.findIdx? BufferedEvent.ok with
          | none => rfl
          | some index =>
              obtain ⟨hlt, hsuccess, -⟩ := List.findIdx?_eq_some_iff_getElem.mp hfind
              rw [victim, hfind, Option.getD_some, List.getElem?_eq_getElem hlt] at holdest
              cases holdest
              rw [hfailure] at hsuccess
              cases hsuccess
        refine ⟨Nat.le_antisymm hok.events.length hfull, ?_, ?_⟩
        · rw [victim, hnone, Option.getD_none] at holdest
          rw [List.head?_eq_getElem?]
          exact holdest
        · intro other hother
          exact List.findIdx?_eq_none_iff.mp hnone other hother

/-- The first of a thousand failures goes when there is one more. -/
theorem failure_evicted_last_full :
    ∃ system, (System.new none 0 "i-1").run flushReporter
        (List.replicate maxEvents (.onRequest failedCall)) = system ∧
      failedEvent 0 ∉ (system.step flushReporter (.onRequest failedCall)).state.events ∧
      system.state.events.length = maxEvents ∧
      system.state.events.head? = some (failedEvent 0) ∧
      ∀ other ∈ system.state.events, other.ok = false := by
  obtain ⟨-, hfilled⟩ := filled_run (Nat.le_refl maxEvents)
  have hnext := hfilled.onRequest
  rw [List.length_range, if_pos (Nat.le_refl _)] at hnext
  have hgone : failedEvent 0 ∉ (((System.new none 0 "i-1").run flushReporter
      (List.replicate maxEvents (.onRequest failedCall))).step flushReporter
        (.onRequest failedCall)).state.events := by
    intro hmem
    have hin : failedEvent 0 ∈ ((List.range maxEvents).tail ++ [maxEvents]).map failedEvent :=
      hnext.events ▸ hmem
    -- The ids that are left start at 1.
    obtain ⟨id, hid, hsame⟩ := List.mem_map.mp hin
    rw [show id = 0 from congrArg BufferedEvent.id hsame] at hid
    revert hid
    decide +kernel
  refine ⟨_, rfl, hgone, ?_⟩
  refine failure_evicted_last rfl failedCall rfl ?_ hgone
  rw [hfilled.events]
  exact List.mem_map_of_mem (List.mem_range.mpr (by decide))

end TrustedRouter.Proofs.Telemetry
