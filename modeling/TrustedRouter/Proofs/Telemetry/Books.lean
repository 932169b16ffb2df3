import TrustedRouter.Proofs.Telemetry.Accounting

/-!
# `TrustedRouter.Proofs.Telemetry.Books`: delivered once, or dropped once

The `Books` of a run write down the name of every event that was appended and of every row
that closed, and later that it was delivered with a 202, counted in `dropped_since_last`, or
cleared. `note_grounded` ties the drops in the books to the counter of the reporter.

The books balance as long as nothing of a batch leaves while the batch is in flight
(`Reconciled.step`). The reporter does not see to that. The buffer makes room by its oldest
success, or its oldest event, and pruning takes the oldest windows. These are the items a
flush sends first. An item that leaves like that is counted as dropped, and then the 202
for its batch arrives (`delivered_and_dropped`). `Spares` is the condition that this does
not happen, and it is enough (`run_reconciled`).
-/

set_option autoImplicit false

namespace TrustedRouter.Proofs.Telemetry

open TrustedRouter.Telemetry
open Rust
open Rust.Duration
open Ledger (Book mem_missing perm_append_filter)

/-! ## Books -/

/-- Where every event and every closed row went. -/
structure Books where
  events : Book Nat := {}
  rows : Book CounterRef := {}

/-- What a step adds to the books. A 202 delivers its batch and a 413 drops it, whatever of it
is still there: the body was sent, and the reporter counts the whole batch. -/
def Books.note (reporter : Reporter) (system : System) (books : Books) (step : Step) : Books :=
  let state := system.state
  let next := (system.step reporter step).state
  match answered system step with
  | some (.accepts, selected) =>
      { events := books.events.deliver selected.eventIds
        rows := books.rows.deliver selected.counterRefs }
  | some (.rejects, selected) =>
      { events := books.events.drop selected.eventIds
        rows := books.rows.drop selected.counterRefs }
  | some (.disables, _) =>
      { events := books.events.clear (state.events.map BufferedEvent.id)
        rows := books.rows.clear ((closedRows state).map Prod.fst) }
  | _ =>
      { events := (books.events.enter
          (List.range' state.nextEventId (next.nextEventId - state.nextEventId))).drop
            ((lostEvents state next).map BufferedEvent.id)
        rows := (books.rows.enter ((closingRows state next).map Prod.fst)).drop
          ((lostRows state next).map Prod.fst) }

/-- The books of a run. -/
def Books.run (reporter : Reporter) : System → Books → List Step → Books
  | _, books, [] => books
  | system, books, step :: steps =>
      Books.run reporter (system.step reporter step) (books.note reporter system step) steps

/-- The books of a run in two parts. -/
theorem Books.run_append (reporter : Reporter) (system : System) (books : Books)
    (first second : List Step) :
    books.run reporter system (first ++ second) =
      (books.run reporter system first).run reporter (system.run reporter first) second := by
  induction first generalizing system books with
  | nil => rfl
  | cons step rest ih => exact ih (system.step reporter step) (books.note reporter system step)

/-- A step that hears no response, or backs off, notes what comes and what is lost. -/
theorem note_of_quiet {reporter : Reporter} {system : System} {step : Step} (books : Books)
    (hanswer : ∀ verdict selected,
      answered system step = some (verdict, selected) → verdict = .backsOff) :
    books.note reporter system step =
      { events := (books.events.enter (List.range' system.state.nextEventId
          ((system.step reporter step).state.nextEventId - system.state.nextEventId))).drop
            ((lostEvents system.state (system.step reporter step).state).map BufferedEvent.id)
        rows := (books.rows.enter
          ((closingRows system.state (system.step reporter step).state).map Prod.fst)).drop
            ((lostRows system.state (system.step reporter step).state).map Prod.fst) } := by
  rw [Books.note]
  rcases hsome : answered system step with _ | ⟨_ | _ | _ | _, selected⟩
  · rfl
  · cases hanswer _ _ hsome
  · cases hanswer _ _ hsome
  · cases hanswer _ _ hsome
  · rfl

/-- A response is no sample. -/
theorem invalidSamples_of_answered {system : System} {step : Step}
    {answer : Verdict × Selected} (h : answered system step = some answer) :
    invalidSamples system step = 0 := by
  cases step with
  | onRequest record => cases h
  | _ => rfl

/-- The drops in the books are the drops of the reporter: except for a 202 and when it is
disabled, `dropped_since_last` goes up by one for every name that is noted as dropped, and
for every invalid sample. -/
theorem note_grounded {reporter : Reporter} {system : System}
    (hok : WellFormed reporter system.state) (books : Books) (step : Step)
    (hanswer : ∀ verdict selected, answered system step = some (verdict, selected) →
      verdict = .backsOff ∨ verdict = .rejects) :
    ∃ events rows,
      (books.note reporter system step).events.dropped = events ++ books.events.dropped ∧
      (books.note reporter system step).rows.dropped = rows ++ books.rows.dropped ∧
      (system.step reporter step).state.droppedSinceLast =
        U64.saturatingAdd system.state.droppedSinceLast
          (events.length + rows.length + invalidSamples system step) := by
  have hmoves := moves_step reporter system step
  by_cases hquiet : ∀ verdict selected,
      answered system step = some (verdict, selected) → verdict = .backsOff
  · rw [note_of_quiet books hquiet]
    refine ⟨_, _, rfl, rfl, ?_⟩
    rw [List.length_map, List.length_map]
    exact hmoves.counted hok hquiet
  · -- Something was answered, and by the assumption it is a rejection.
    cases hmoves with
    | same hbacksOff => exact absurd hbacksOff hquiet
    | records hstep | selects hstep | prunes hstep =>
        refine absurd (fun verdict selected hsome => ?_) hquiet
        rw [hstep] at hsome
        cases hsome
    | accepts hsome => rcases hanswer _ _ hsome with hno | hno <;> cases hno
    | disables hsome => rcases hanswer _ _ hsome with hno | hno <;> cases hno
    | rejects hsome hnext =>
        rename_i selected
        have hvalid : invalidSamples system step = 0 := invalidSamples_of_answered hsome
        rw [Books.note, hsome, hnext, hvalid, rejectBatch, removeSelected_eq hok.windows]
        exact ⟨selected.eventIds, selected.counterRefs, rfl, rfl, rfl⟩

/-! ## What comes and what goes -/

/-- The names that a step takes in, with those held before, are the names that it loses, with
those held after. -/
structure Turnover (state next : State) : Prop where
  events :
    (List.range' state.nextEventId (next.nextEventId - state.nextEventId) ++
        state.events.map BufferedEvent.id).Perm
      ((lostEvents state next).map BufferedEvent.id ++ next.events.map BufferedEvent.id)
  rows :
    ((closingRows state next).map Prod.fst ++ (closedRows state).map Prod.fst).Perm
      ((lostRows state next).map Prod.fst ++ (closedRows next).map Prod.fst)
  closing : ((closingRows state next).map Prod.fst).Nodup
  disabled : next.disabled = state.disabled

/-- A row that closes is of the window that was open, whose id has been the counter until then. -/
theorem mem_closingRows {state next : State} {ref : CounterRef}
    (h : ref ∈ (closingRows state next).map Prod.fst) :
    ref.1 = state.nextWindowId ∧ state.nextWindowId < next.nextWindowId := by
  obtain ⟨entry, hentry, rfl⟩ := List.mem_map.mp h
  unfold closingRows at hentry
  split at hentry
  · rename_i hlt
    obtain ⟨row, -, rfl⟩ := List.mem_map.mp hentry
    exact ⟨rfl, hlt⟩
  · cases hentry

/-- The part about rows, for windows that settled. -/
theorem Settles.rows_perm {reporter : Reporter} {state settled next : State}
    (h : Settles reporter state settled) (hok : WellFormed reporter state)
    (hwindows : next.closedWindows = settled.closedWindows)
    (hid : next.nextWindowId = settled.nextWindowId) :
    ((closingRows state next).map Prod.fst ++ (closedRows state).map Prod.fst).Perm
        ((lostRows state next).map Prod.fst ++ (closedRows next).map Prod.fst) ∧
      ((closingRows state next).map Prod.fst).Nodup := by
  obtain ⟨hperm, hnodup, -⟩ := h.turnover hok
  have hclosing : closingRows state next = closingRows state settled := by
    rw [closingRows, closingRows, hid]
  have hclosed : closedRows next = closedRows settled := congrArg rowsOf hwindows
  rw [lostRows_congr hwindows hid, hclosing, hclosed, ← List.map_append, ← List.map_append]
  refine ⟨(List.perm_append_comm.trans hperm).map Prod.fst, ?_⟩
  rw [List.map_append] at hnodup
  exact hnodup.of_append_right

/-- Every step that does not retire or clear is a turnover: names come that are new, names go that
were held, and the rest stays. -/
theorem Moves.turnover {reporter : Reporter} {system : System} {step : Step} {next : State}
    (hmoves : Moves reporter system step next) (hok : WellFormed reporter system.state)
    (hanswer : ∀ verdict selected,
      answered system step = some (verdict, selected) → verdict = .backsOff) :
    Turnover system.state next := by
  rcases hmoves.quiet_cases hok hanswer with
    ⟨-, settled, hsettles, hsame⟩ | ⟨record, -, -, hrecorded⟩
  · -- Where only windows move, no event comes and none is lost.
    have hevents := hsame.events.trans hsettles.sameEvents.events
    have hid := hsame.nextEventId.trans hsettles.sameEvents.nextEventId
    obtain ⟨hrows, hclosing⟩ :=
      hsettles.rows_perm hok hsame.closedWindows hsame.nextWindowId
    refine ⟨?_, hrows, hclosing, hsame.disabled.trans hsettles.sameEvents.disabled⟩
    rw [hid, Nat.sub_self, lostEvents_of_eq hevents, hevents]
    exact .refl _
  · obtain ⟨fresh, hperm, hids, hid, -⟩ := hrecorded.turnover hok
    obtain ⟨hrows, hclosing⟩ := (settles_rollWindow reporter record.now hok.dropped).rows_perm
      hok hrecorded.closedWindows hrecorded.nextWindowId
    refine ⟨?_, hrows, hclosing, hrecorded.disabled⟩
    rw [hid, Nat.add_sub_cancel_left, ← hids, ← List.map_append, ← List.map_append]
    exact hperm.map BufferedEvent.id

/-! ## The condition -/

/-- Pruning at `now`, with `closing` bytes more, would reach no row of the batch: a window
with one is within its retention, and fits together with all that came after it. -/
def SparesRows (reporter : Reporter) (selected : Selected) (now closing : Nat)
    (windows : List CounterWindow) : Prop :=
  ∀ older window newer, windows = older ++ window :: newer →
    Named selected.counterRefs window →
      now - window.windowStart ≤ fromSecs retentionSeconds ∧
        sizes (window :: newer) + closing ≤ reporter.retentionBytes

/-- While a batch is in flight, a step evicts no event of it and prunes no row of it. A call
evicts the victim of a full buffer if it is sampled, and prunes if it closes a window. -/
def Spares (reporter : Reporter) (system : System) : Step → Prop
  | .onRequest record =>
      ∀ selected, system.phase = .posted selected →
        (record.sampled.isSome = true → maxEvents ≤ system.state.events.length →
          ∀ oldest, victim system.state.events = some oldest →
            oldest.id ∉ selected.eventIds) ∧
        (∀ start, system.state.currentWindowStart = some start →
          start < minuteStart record.now → system.state.currentCounters ≠ [] →
            SparesRows reporter selected record.now
              (reporter.library.windowSize system.state.currentCounters)
              system.state.closedWindows)
  | .pruneNow now =>
      ∀ selected, system.phase = .posted selected →
        SparesRows reporter selected now 0 system.state.closedWindows
  | _ => True

/-- Every step of a run spares the batch in flight. -/
def SparesAll (reporter : Reporter) : System → List Step → Prop
  | _, [] => True
  | system, step :: steps =>
      Spares reporter system step ∧ SparesAll reporter (system.step reporter step) steps

/-! ## The batch in flight stays -/

/-- All of the batch is there, each item under its own name. -/
structure InFlight (selected : Selected) (state : State) : Prop where
  eventsNodup : selected.eventIds.Nodup
  rowsNodup : selected.counterRefs.Nodup
  events : ∀ id ∈ selected.eventIds, id ∈ state.events.map BufferedEvent.id
  rows : ∀ ref ∈ selected.counterRefs, ref ∈ (closedRows state).map Prod.fst

/-- A batch is all there when it is selected. -/
theorem inFlight_selectBatch {reporter : Reporter} {fresh : Fresh} {now : Nat}
    {state : State} {selected : Selected} (hok : WellFormed reporter state)
    (h : (selectBatch reporter fresh now state).1 = some selected) :
    InFlight selected (selectBatch reporter fresh now state).2 := by
  have hcarries := carries_selectBatch h
  obtain ⟨hevents, hrows⟩ := nodup_selectBatch hok h
  refine ⟨hevents, hrows, fun id hid => ?_, fun ref href => ?_⟩
  · obtain ⟨buffered, hbuffered, rfl⟩ := hcarries.exists_event hid
    exact List.mem_map_of_mem hbuffered
  · obtain ⟨row, hrow⟩ := hcarries.exists_row href
    exact List.mem_map_of_mem hrow

/-- A batch that is all there stays there while the buffers are not touched. -/
theorem InFlight.of_same {selected : Selected} {state next : State}
    (h : InFlight selected state) (hsame : SameBuffers state next) :
    InFlight selected next := by
  refine ⟨h.eventsNodup, h.rowsNodup, ?_, ?_⟩
  · rw [hsame.events]
    exact h.events
  · rw [closedRows, hsame.closedWindows]
    exact h.rows

/-- Pruning that spares the rows of the batch leaves them. -/
theorem SparesRows.keeps {reporter : Reporter} {selected : Selected} {now : Nat}
    {windows closing : List CounterWindow} {state : State}
    (h : SparesRows reporter selected now (sizes closing) windows)
    (hok : WellFormed reporter state) (hclosed : state.closedWindows = windows ++ closing)
    {ref : CounterRef} (href : ref ∈ selected.counterRefs)
    (hmem : ref ∈ (rowsOf windows).map Prod.fst) :
    ref ∈ (closedRows (pruneWindows reporter now state)).map Prod.fst := by
  obtain ⟨⟨_, row⟩, hrow, rfl⟩ := List.mem_map.mp hmem
  obtain ⟨window, hwindow, hid, hrow'⟩ := mem_rowsOf.mp hrow
  obtain ⟨older, newer, hsplit⟩ := List.append_of_mem hwindow
  have hnamed : Named selected.counterRefs window := ⟨_, hrow', by rw [hid]; exact href⟩
  obtain ⟨hfresh, hfits⟩ := h older window newer hsplit hnamed
  -- The window that holds the row is fresh, and fits with all that is newer.
  have hkept : window :: (newer ++ closing) <:+
      (pruneWindows reporter now state).closedWindows := by
    refine pruneWindows_keeps hok.windows.retained hok.dropped ?_ ?_ ?_
    · rw [hclosed, hsplit, List.append_assoc]
      exact List.suffix_append _ _
    · rw [expired, decide_eq_false_iff_not, Nat.not_lt]
      exact hfresh
    · rw [← List.cons_append, sizes_append]
      exact hfits
  refine List.mem_map_of_mem (mem_rowsOf.mpr ⟨window, ?_, hid, hrow'⟩)
  exact hkept.subset (List.mem_cons_self ..)

/-- A call that spares the batch leaves all of it there: the event it evicts and the windows it
prunes are not of the batch. -/
theorem InFlight.onRequest {reporter : Reporter} {system : System} {record : Record}
    {selected : Selected} (h : InFlight selected system.state)
    (hok : WellFormed reporter system.state)
    (hopen : (system.state.disabled || system.state.closed) = false)
    (hphase : system.phase = .posted selected)
    (hspares : Spares reporter system (.onRequest record)) :
    InFlight selected (onRequest reporter record system.state) := by
  have hrecorded := onRequest_recorded record hok hopen
  obtain ⟨hevicts, hprunes⟩ := hspares selected hphase
  refine ⟨h.eventsNodup, h.rowsNodup, fun id hid => ?_, fun ref href => ?_⟩
  · obtain ⟨before, evicted, after, fresh, hsplit, hevicted, -, hevents, -⟩ := hrecorded.events
    obtain ⟨buffered, hbuffered, rfl⟩ := List.mem_map.mp (h.events id hid)
    rw [hevents]
    refine List.mem_map_of_mem (List.mem_append_left _ ?_)
    rw [hsplit] at hbuffered
    rcases List.mem_append.mp hbuffered with hleft | hafter
    · rcases List.mem_append.mp hleft with hbefore | hgone
      · exact List.mem_append_left _ hbefore
      · -- The event that goes is the victim, which the condition keeps out of the batch.
        rcases hevicted with rfl | ⟨hsampled, hfull, oldest, hvictim, rfl⟩
        · cases hgone
        · rw [List.mem_singleton.mp hgone] at hid
          exact absurd hid (hevicts hsampled hfull oldest hvictim)
    · exact List.mem_append_right _ hafter
  · rw [closedRows, hrecorded.closedWindows]
    -- Only a window that closes can push an older one out.
    rcases rollWindow_cases reporter record.now system.state with
      ⟨hroll, -⟩ | ⟨hroll, -⟩ | ⟨start, hstart, hrows, hlater, hroll⟩
    · rw [hroll]
      exact h.rows ref href
    · rw [hroll]
      exact h.rows ref href
    · rw [hroll]
      refine SparesRows.keeps ?_ (hok.pushWindow record.now start hrows) rfl href (h.rows ref href)
      exact hprunes start hstart hlater hrows

/-- A response ends the flush. -/
theorem phase_of_answered {reporter : Reporter} {system : System} {step : Step}
    {answer : Verdict × Selected} (h : answered system step = some answer) :
    (system.step reporter step).phase = .idle := by
  unfold answered at h
  split at h
  · rename_i hphase
    simp only [System.step, hphase]
  · cases h

/-- The batch in flight after a step that spares it is all there. -/
theorem inFlight_step {reporter : Reporter} {system : System} {step : Step}
    (hok : WellFormed reporter system.state)
    (h : ∀ selected, system.phase = .posted selected → InFlight selected system.state)
    (hspares : Spares reporter system step) {selected : Selected}
    (hposted : (system.step reporter step).phase = .posted selected) :
    InFlight selected (system.step reporter step).state := by
  rcases posted_step hposted with hphase | ⟨fresh, now, rfl, hphase, hselect⟩
  · have hheld := h selected hphase
    -- A batch that stays posted was not answered.
    have hanswered : ∀ answer, answered system step ≠ some answer := by
      intro answer hsome
      rw [phase_of_answered hsome] at hposted
      cases hposted
    cases moves_step reporter system step with
    | same _ _ hsame => exact hheld.of_same hsame
    | records hstep hopen hnext =>
        rw [hnext]
        exact hheld.onRequest hok hopen hphase (hstep ▸ hspares)
    | selects hstep hentered =>
        rw [hphase] at hentered
        cases hentered
    | prunes hstep hnext =>
        subst hstep
        rw [hnext]
        refine ⟨hheld.eventsNodup, hheld.rowsNodup, ?_, fun ref href => ?_⟩
        · rw [(settles_pruneWindows reporter _ hok.dropped).sameEvents.events]
          exact hheld.events
        · exact SparesRows.keeps (hspares selected hphase) hok (List.append_nil _).symm href
            (hheld.rows ref href)
    | accepts hsome => exact absurd hsome (hanswered _)
    | rejects hsome => exact absurd hsome (hanswered _)
    | disables hsome => exact absurd hsome (hanswered _)
  · rw [step_select_state hphase]
    exact inFlight_selectBatch hok hselect

/-! ## The books balance -/

/-- The books balance with what the reporter holds, and a batch in flight is all there. -/
structure Reconciled (reporter : Reporter) (system : System) (books : Books) : Prop where
  wellFormed : WellFormed reporter system.state
  events : books.events.Balanced (system.state.events.map BufferedEvent.id)
  appended : books.events.entered = List.range system.state.nextEventId
  rows : books.rows.Balanced ((closedRows system.state).map Prod.fst)
  closed : ∀ ref ∈ books.rows.entered, ref.1 < system.state.nextWindowId
  inFlight : ∀ selected, system.phase = .posted selected → InFlight selected system.state
  cleared : system.state.disabled = false → books.events.cleared = []

/-- The books of a new reporter are empty and balanced. -/
theorem reconciled_new (reporter : Reporter) (rate : Option Rat) (interval : Nat)
    (instanceId : String) : Reconciled reporter (.new rate interval instanceId) {} where
  wellFormed := wellFormed_new reporter rate interval instanceId
  events := Book.balanced_nil
  appended := rfl
  rows := Book.balanced_nil
  closed := fun _ h => (List.not_mem_nil h).elim
  inFlight := fun _ h => nomatch h
  cleared := fun _ => rfl

/-- A batch that is all there can be taken off the names that are held, and what is left are the
names that are held afterwards. -/
theorem InFlight.split {reporter : Reporter} {selected : Selected} {state next : State}
    (h : InFlight selected state) (hok : WellFormed reporter state)
    (hretires : Retires selected state next) :
    (state.events.map BufferedEvent.id).Perm
        (selected.eventIds ++ next.events.map BufferedEvent.id) ∧
      ((closedRows state).map Prod.fst).Perm
        (selected.counterRefs ++ (closedRows next).map Prod.fst) := by
  rw [hretires.events, hretires.rows]
  refine ⟨?_, ?_⟩
  · exact perm_append_filter _ (hok.events.ids.imp Nat.ne_of_lt) h.eventsNodup h.events
  · exact perm_append_filter _ hok.windows.refs_nodup h.rowsNodup h.rows

/-- The names that come are new, and those that are lost were held, so the books balance
again. -/
theorem Reconciled.turnover {reporter : Reporter} {system : System} {books : Books}
    (h : Reconciled reporter system books) {next : System}
    (hturnover : Turnover system.state next.state)
    (hevolves : Evolves system.state next.state) (hok : WellFormed reporter next.state)
    (hinFlight : ∀ selected, next.phase = .posted selected → InFlight selected next.state) :
    Reconciled reporter next
      { events := (books.events.enter (List.range' system.state.nextEventId
          (next.state.nextEventId - system.state.nextEventId))).drop
            ((lostEvents system.state next.state).map BufferedEvent.id)
        rows := (books.rows.enter ((closingRows system.state next.state).map Prod.fst)).drop
          ((lostRows system.state next.state).map Prod.fst) } := by
  refine ⟨hok, ?_, ?_, ?_, ?_, hinFlight, ?_⟩
  · refine ((h.events.enter (List.nodup_range' ..) fun id hid hold => ?_).reorder
      hturnover.events).drop
    -- The ids that entered before are below the counter, and the new ones start at it.
    rw [h.appended, List.mem_range] at hold
    have hle := (List.mem_range'_1.mp hid).1
    omega
  · show books.events.entered ++ _ = _
    rw [h.appended, List.range_eq_range', List.range_eq_range']
    have happend : List.range' 0 system.state.nextEventId ++
        List.range' (0 + system.state.nextEventId)
          (next.state.nextEventId - system.state.nextEventId) = _ := List.range'_append_1
    rw [Nat.zero_add] at happend
    rw [happend, Nat.add_sub_cancel' hevolves.nextEventId]
  · refine ((h.rows.enter hturnover.closing fun ref href hold => ?_).reorder hturnover.rows).drop
    -- The closing window has the next id, which no row that entered before can have.
    have hlt := h.closed ref hold
    rw [(mem_closingRows href).1] at hlt
    exact Nat.lt_irrefl _ hlt
  · intro ref href
    rcases List.mem_append.mp href with hold | hnew
    · exact Nat.lt_of_lt_of_le (h.closed ref hold) hevolves.nextWindowId
    · obtain ⟨heq, hlt⟩ := mem_closingRows hnew
      rw [heq]
      exact hlt
  · intro hdisabled
    exact h.cleared (hturnover.disabled ▸ hdisabled)

/-- A batch that is all there leaves as a whole, whether it was delivered or dropped. -/
theorem Reconciled.retires {reporter : Reporter} {system next : System} {books books' : Books}
    (h : Reconciled reporter system books) {selected : Selected}
    (hphase : system.phase = .posted selected)
    (hretires : Retires selected system.state next.state)
    (hok : WellFormed reporter next.state) (hidle : next.phase = .idle)
    (hbooks : books' = ⟨books.events.deliver selected.eventIds,
        books.rows.deliver selected.counterRefs⟩ ∨
      books' = ⟨books.events.drop selected.eventIds, books.rows.drop selected.counterRefs⟩) :
    Reconciled reporter next books' := by
  -- What is held is what the batch names and what stays, in some order.
  obtain ⟨hevents, hrows⟩ := (h.inFlight selected hphase).split h.wellFormed hretires
  have hposted : ∀ other, next.phase = .posted other → InFlight other next.state := by
    intro other hother
    rw [hidle] at hother
    cases hother
  rcases hbooks with rfl | rfl
  · exact
      { wellFormed := hok
        events := (h.events.reorder hevents).deliver
        appended := hretires.nextEventId ▸ h.appended
        rows := (h.rows.reorder hrows).deliver
        closed := hretires.nextWindowId ▸ h.closed
        inFlight := hposted
        cleared := hretires.disabled ▸ h.cleared }
  · exact
      { wellFormed := hok
        events := (h.events.reorder hevents).drop
        appended := hretires.nextEventId ▸ h.appended
        rows := (h.rows.reorder hrows).drop
        closed := hretires.nextWindowId ▸ h.closed
        inFlight := hposted
        cleared := hretires.disabled ▸ h.cleared }

/-- The batch that a response is about is in flight. -/
theorem posted_of_answered {system : System} {step : Step} {verdict : Verdict}
    {selected : Selected} (h : answered system step = some (verdict, selected)) :
    system.phase = .posted selected := by
  unfold answered at h
  split at h
  · rename_i hphase
    cases h
    exact hphase
  · cases h

/-- A step that spares the batch in flight keeps the books balanced. The four verdicts of a
response are a case each: the batch is delivered, dropped, cleared with everything else, or
kept. -/
theorem Reconciled.step {reporter : Reporter} {system : System} {books : Books}
    (h : Reconciled reporter system books) {step : Step}
    (hspares : Spares reporter system step) :
    Reconciled reporter (system.step reporter step) (books.note reporter system step) := by
  have hmoves := moves_step reporter system step
  have hok := h.wellFormed.moves hmoves
  have hevolves := evolves_moves h.wellFormed hmoves
  have hinFlight : ∀ selected, (system.step reporter step).phase = .posted selected →
      InFlight selected (system.step reporter step).state :=
    fun _ hposted => inFlight_step h.wellFormed h.inFlight hspares hposted
  -- Most steps hear no response, or one that only backs off. The others are the three verdicts.
  by_cases hquiet : ∀ verdict selected,
      answered system step = some (verdict, selected) → verdict = .backsOff
  · rw [note_of_quiet books hquiet]
    exact h.turnover (hmoves.turnover h.wellFormed hquiet) hevolves hok hinFlight
  · cases hmoves with
    | same hbacksOff => exact absurd hbacksOff hquiet
    | records hstep | selects hstep | prunes hstep =>
        refine absurd (fun verdict selected hsome => ?_) hquiet
        rw [hstep] at hsome
        cases hsome
    | accepts hsome hnext =>
        refine h.retires (posted_of_answered hsome) ?_ hok (phase_of_answered hsome) (.inl ?_)
        · rw [hnext]
          exact retires_acceptBatch h.wellFormed _ _ _
        · rw [Books.note, hsome]
    | rejects hsome hnext =>
        refine h.retires (posted_of_answered hsome) ?_ hok (phase_of_answered hsome) (.inr ?_)
        · rw [hnext]
          exact retires_rejectBatch h.wellFormed _
        · rw [Books.note, hsome]
    | disables hsome hnext =>
        -- Everything that is held is cleared, and the books say so without a count.
        rw [Books.note, hsome]
        refine ⟨hok, ?_, ?_, ?_, ?_, hinFlight, ?_⟩
        · rw [hnext]
          exact h.events.clear
        · rw [hnext]
          exact h.appended
        · rw [hnext]
          exact h.rows.clear
        · rw [hnext]
          exact h.closed
        · rw [hnext]
          exact fun hdisabled => nomatch hdisabled

/-- Through a whole run, each of whose steps spares the batch in flight at that step. -/
theorem Reconciled.run {reporter : Reporter} {system : System} {books : Books}
    (h : Reconciled reporter system books) {steps : List Step}
    (hspares : SparesAll reporter system steps) :
    Reconciled reporter (system.run reporter steps) (books.run reporter system steps) := by
  induction steps generalizing system books with
  | nil => exact h
  | cons step rest ih => exact ih (h.step hspares.1) hspares.2

/-- In a run whose steps spare the batch in flight, nothing that was delivered with a 202 is
counted as dropped. What was delivered was delivered once, and while the reporter is not disabled
every event that was appended is buffered, delivered or counted. The names in the books are those
that `dropped_since_last` counts, whatever the next step is. -/
theorem run_reconciled {reporter : Reporter} (rate : Option Rat) (interval : Nat)
    (instanceId : String) {steps : List Step}
    (hspares : SparesAll reporter (.new rate interval instanceId) steps) :
    let system := (System.new rate interval instanceId).run reporter steps
    let books := Books.run reporter (.new rate interval instanceId) {} steps
    (∀ id ∈ books.events.delivered, id ∉ books.events.dropped) ∧
    (∀ ref ∈ books.rows.delivered, ref ∉ books.rows.dropped) ∧
    books.events.delivered.Nodup ∧
    (system.state.disabled = false →
      system.state.nextEventId = system.state.events.length +
        books.events.delivered.length + books.events.dropped.length) ∧
    ∀ step, (∀ verdict selected, answered system step = some (verdict, selected) →
        verdict = .backsOff ∨ verdict = .rejects) →
      ∃ events rows,
        (books.note reporter system step).events.dropped = events ++ books.events.dropped ∧
        (books.note reporter system step).rows.dropped = rows ++ books.rows.dropped ∧
        (system.step reporter step).state.droppedSinceLast =
          U64.saturatingAdd system.state.droppedSinceLast
            (events.length + rows.length + invalidSamples system step) := by
  intro system books
  have h : Reconciled reporter system books :=
    (reconciled_new reporter rate interval instanceId).run hspares
  refine ⟨fun _ => h.events.not_mem_dropped, fun _ => h.rows.not_mem_dropped,
    h.events.delivered_nodup, fun hdisabled => ?_,
    fun step hanswer => note_grounded h.wellFormed books step hanswer⟩
  -- Every id handed out is buffered, delivered or dropped, and none was cleared.
  have hlength := h.events.length_eq
  rw [h.appended, List.length_range, List.length_map, h.cleared hdisabled, List.length_nil]
    at hlength
  exact hlength

/-- A call that could not connect. It is sampled, and counted nowhere. -/
def failedCall : Record :=
  { invalidCall with
    event :=
      { invalidCall.event with
        attempts := [
          { index := 0
            host := .apex
            outcome := .transportError
            httpStatus := none
            errorClass := some .connectError
            errorSource := none
            shouldRetry := .absent
            retryAfterMs := none
            elapsedMs := 80
            ttfbMs := none
            requestId := none
            moved := false
            phase := .none }] } }

/-- Two such calls, the second one while the event of the first is in flight. -/
def overlapping : List Step :=
  [.onRequest failedCall, .enter 0, .select ⟨"b-1", 0⟩, .onRequest failedCall,
    .respond (accepted 0)]

/-- The steps of the sample spare the batch: the buffer is far from full, and no window is old. -/
theorem sparesAll_overlapping : SparesAll flushReporter (.new none 0 "i-1") overlapping := by
  refine ⟨(fun _ h => nomatch h), trivial, trivial, fun selected _ => ⟨?_, ?_⟩, trivial,
    trivial⟩
  · intro _ hfull
    exact absurd hfull (by decide +kernel)
  · intro start _ _ hrows
    exact absurd (by decide +kernel) hrows

/-- One event is delivered, and the other is buffered. -/
theorem run_reconciled_sample :
    (Books.run flushReporter (.new none 0 "i-1") {} overlapping).events.delivered = [0] ∧
    ((System.new none 0 "i-1").run flushReporter overlapping).state.nextEventId =
      ((System.new none 0 "i-1").run flushReporter overlapping).state.events.length +
        (Books.run flushReporter (.new none 0 "i-1") {} overlapping).events.delivered.length +
        (Books.run flushReporter (.new none 0 "i-1") {} overlapping).events.dropped.length :=
  ⟨by decide +kernel,
    (run_reconciled none 0 "i-1" sparesAll_overlapping).2.2.2.1 (by decide +kernel)⟩

/-! ## A batch that loses an event -/

/-- The event of the failed call, under the id `id`. -/
def failedEvent (id : Nat) : BufferedEvent where
  id := id
  wire :=
    { ageMs := 0
      plane := "inference"
      endpoint := "chat_completions"
      method := "POST"
      streaming := false
      providerPinned := false
      model := none
      attempts := [
        { index := 0
          host := "apex"
          outcome := "transport_error"
          httpStatus := none
          errorClass := some "connect_error"
          errorSource := none
          retryAfterMs := none
          elapsedMs := 80
          ttfbMs := none
          requestId := none
          moved := false
          shouldRetry := none }]
      finalOutcome := "transport_error"
      finalHttpStatus := none
      totalMs := 80
      ttftMs := none
      failoverUsed := false
      timeoutPhase := "none"
      configuredTimeoutMs := none
      sampleRate := 1
      sampleReason := "failure" }
  completedAt := 0
  estimatedBytes := Str.len sampleEventJson
  ok := false

/-- The state holds the events of failed calls, and nothing else. -/
structure Filled (ids : List Nat) (nextId : Nat) (state : State) : Prop where
  accepts : (state.disabled || state.closed) = false
  gate : state.gate = 0
  start : state.currentWindowStart = none ∨ state.currentWindowStart = some 0
  counters : state.currentCounters = []
  windows : state.closedWindows = []
  events : state.events = ids.map failedEvent
  nextEventId : state.nextEventId = nextId

/-- The urgent flag is no part of the buffer. -/
theorem Filled.markUrgent {ids : List Nat} {nextId : Nat} {state : State}
    (h : Filled ids nextId state) : Filled ids nextId (markUrgent state) := by
  unfold Telemetry.markUrgent
  split
  · exact ⟨h.accepts, h.gate, h.start, h.counters, h.windows, h.events, h.nextEventId⟩
  · exact h

/-- In the first minute rolling does no more than set it, since no window is open or it is the
window of that minute. -/
theorem Filled.rollWindow {ids : List Nat} {nextId : Nat} {state : State}
    (h : Filled ids nextId state) :
    rollWindow flushReporter 0 state = { state with currentWindowStart := some 0 } := by
  rcases h.start with hstart | hstart
  · rw [Telemetry.rollWindow, hstart]
    rfl
  · have hsame : state = { state with currentWindowStart := some 0 } := by rw [← hstart]
    rw [Telemetry.rollWindow, hstart]
    exact (if_neg (by decide)).trans hsame

/-- A failed call sets the minute, and appends its event. -/
theorem onRequest_failedCall {ids : List Nat} {nextId : Nat} {state : State}
    (h : Filled ids nextId state) :
    onRequest flushReporter failedCall state =
      markUrgent (appendEvent flushReporter.library (failedEvent 0).wire 0
        { state with currentWindowStart := some 0 }) := by
  have hroll : rollWindow flushReporter failedCall.now state =
      { state with currentWindowStart := some 0 } := h.rollWindow
  have hcount : ∀ state, countInvalid failedCall state = state :=
    fun _ => if_neg (by decide +kernel)
  have hworker : ∀ state, startWorker failedCall.runtime failedCall.now state = state :=
    fun state => if_pos (Bool.or_true _)
  have hsampled : failedCall.sampled = some (failedEvent 0).wire := by decide +kernel
  rw [onRequest, if_neg (by rw [h.accepts]; exact Bool.false_ne_true)]
  simp only [hroll, hcount, bufferSample, hsampled, hworker]
  rfl

/-- Another failed call. -/
theorem Filled.onRequest {ids : List Nat} {nextId : Nat} {state : State}
    (h : Filled ids nextId state) :
    Filled ((if maxEvents ≤ ids.length then ids.tail else ids) ++ [nextId]) (nextId + 1)
      (onRequest flushReporter failedCall state) := by
  have hid : state.nextEventId + 1 = nextId + 1 := congrArg (· + 1) h.nextEventId
  rw [onRequest_failedCall h]
  refine Filled.markUrgent ?_
  have hlength : state.events.length = ids.length := by rw [h.events, List.length_map]
  rw [appendEvent]
  dsimp only
  rw [hlength]
  by_cases hfull : maxEvents ≤ ids.length
  · -- No event is a success, so the first one goes.
    obtain ⟨oldest, rest, rfl⟩ := List.exists_cons_of_length_pos
      (Nat.lt_of_lt_of_le (by decide) hfull)
    have hnone : state.events.findIdx? BufferedEvent.ok = none := by
      rw [List.findIdx?_eq_none_iff, h.events]
      intro buffered hbuffered
      obtain ⟨id, -, rfl⟩ := List.mem_map.mp hbuffered
      rfl
    have hdrop : dropBufferedEvent { state with currentWindowStart := some 0 } =
        { state with
          currentWindowStart := some 0
          events := rest.map failedEvent
          eventsSizeBytes := state.eventsSizeBytes - (failedEvent oldest).estimatedBytes
          droppedSinceLast := U64.saturatingAdd state.droppedSinceLast 1 } := by
      rw [dropBufferedEvent]
      dsimp only
      rw [hnone, h.events]
      rfl
    rw [if_pos hfull, if_pos hfull, hdrop]
    refine ⟨h.accepts, h.gate, .inr rfl, h.counters, h.windows, ?_, hid⟩
    rw [List.map_append, ← h.nextEventId]
    rfl
  · rw [if_neg hfull, if_neg hfull]
    refine ⟨h.accepts, h.gate, .inr rfl, h.counters, h.windows, ?_, hid⟩
    rw [List.map_append, ← h.events, ← h.nextEventId]
    rfl

/-- Failed calls fill the buffer in the order of their ids, by induction on their number. -/
theorem filled_run {count : Nat} (h : count ≤ maxEvents) :
    ((System.new none 0 "i-1").run flushReporter
        (List.replicate count (.onRequest failedCall))).phase = .idle ∧
      Filled (List.range count) count ((System.new none 0 "i-1").run flushReporter
        (List.replicate count (.onRequest failedCall))).state := by
  induction count with
  | zero => exact ⟨rfl, rfl, rfl, .inl rfl, rfl, rfl, rfl, rfl⟩
  | succ count ih =>
      obtain ⟨hidle, hfilled⟩ := ih (Nat.le_of_succ_le h)
      have hnext := hfilled.onRequest
      rw [List.length_range, if_neg (Nat.not_le_of_lt h), ← List.range_succ] at hnext
      rw [List.replicate_succ', run_concat]
      exact ⟨hidle, hnext⟩

/-- A batch of as many sample events as there may be fits. -/
theorem batchJson_fits {batch : WireBatch} (hevents : batch.events.length ≤ maxBatchEvents)
    (hcounters : batch.counters = []) :
    ∃ body, flushReporter.library.batchJson batch = some body ∧
      Str.len body ≤ maxBatchBytes := by
  refine ⟨_, rfl, ?_⟩
  have hmost := len_rowsJson_mono sampleEventJson hevents
  rw [maxBatchEvents, len_rowsJson_succ] at hmost
  have hevent : Str.len sampleEventJson = 560 := by decide +kernel
  have hhead : Str.len batchHeadJson = 239 := by decide +kernel
  have hlink : Str.len ",\"counters\":" = 12 := by decide +kernel
  have hrows : Str.len (rowsJson sampleRowJson 0) = 2 := by decide +kernel
  have hend : Str.len "\x7d" = 1 := by decide +kernel
  rw [hevent] at hmost
  rw [hcounters, List.length_nil]
  simp only [Str.len, String.utf8ByteSize_append, maxBatchBytes] at hmost hhead hlink hrows hend ⊢
  omega

/-- A flush of a filled buffer puts its first events on the wire, as many as a batch may have. -/
theorem Filled.selectBatch {ids : List Nat} {nextId : Nat} {state : State}
    (h : Filled ids nextId state) (hne : ids ≠ []) (fresh : Fresh) :
    ∃ selected,
      (selectBatch flushReporter fresh 0 state).1 = some selected ∧
      selected.eventIds = ids.take maxBatchEvents ∧
      Filled ids nextId (selectBatch flushReporter fresh 0 state).2 := by
  -- There are no rows and no windows here, so settling only names the minute.
  have hsettle : settleWindows flushReporter 0 state =
      { state with currentWindowStart := some 0, closedWindows := [] } := by
    rw [settleWindows, h.rollWindow,
      closeCurrentWindow_of_nil flushReporter 0 (by exact h.counters), pruneWindows, h.windows]
    rfl
  have hids : (chooseEvents 0 { state with
      currentWindowStart := some 0, closedWindows := [] }).map Prod.snd =
        ids.take maxBatchEvents := by
    rw [chooseEvents, h.events, List.map_map, ← List.map_take, List.map_map]
    exact List.map_id' _
  have hsome : (chooseEvents 0 { state with
      currentWindowStart := some 0, closedWindows := [] }).isEmpty = false := by
    rw [List.isEmpty_eq_false_iff]
    intro hnil
    rw [hnil, List.map_nil, eq_comm, List.take_eq_nil_iff] at hids
    exact hids.elim (by decide) hne
  unfold Telemetry.selectBatch
  dsimp only
  rw [hsettle, if_neg (by rw [hsome]; exact Bool.false_ne_true)]
  -- The first batch fits, and the trimming loop stops at once.
  refine (batchJson_fits ?_ ?_).elim fun body hbody =>
    ⟨_, trimBatch_of_fits hbody.1 hbody.2 _ _ _, hids, ?_⟩
  · rw [List.length_map, chooseEvents, List.length_map, List.length_take]
    exact Nat.min_le_left _ _
  · rfl
  · exact ⟨h.accepts, h.gate, .inr rfl, h.counters, rfl, h.events, h.nextEventId⟩

/-- While no batch is in flight there is nothing to spare, and calls put none in flight. -/
theorem sparesAll_replicate {reporter : Reporter} {system : System} (record : Record)
    (hidle : system.phase = .idle) (count : Nat) :
    SparesAll reporter system (List.replicate count (.onRequest record)) := by
  induction count generalizing system with
  | zero => trivial
  | succ count ih =>
      refine ⟨fun selected hposted => ?_, ih hidle⟩
      rw [hidle] at hposted
      cases hposted

/-- A full buffer, with its first events in flight and nothing delivered or dropped yet. -/
structure Brimming (system : System) (books : Books) (selected : Selected) : Prop where
  reconciled : Reconciled flushReporter system books
  phase : system.phase = .posted selected
  eventIds : selected.eventIds = (List.range maxEvents).take maxBatchEvents
  filled : Filled (List.range maxEvents) maxEvents system.state
  delivered : books.events.delivered = []
  dropped : books.events.dropped = []

/-- The steps that get there. -/
def brim : List Step :=
  List.replicate maxEvents (.onRequest failedCall) ++ [.enter 0, .select ⟨"b-1", 0⟩]

/-- Entering and selecting on a full buffer: the oldest events are in flight then, and still in
the buffer. -/
theorem brimming_of_filled {system : System} {books : Books}
    (hreconciled : Reconciled flushReporter system books) (hidle : system.phase = .idle)
    (hfilled : Filled (List.range maxEvents) maxEvents system.state) :
    ∃ selected, Brimming (system.run flushReporter [.enter 0, .select ⟨"b-1", 0⟩])
      (books.run flushReporter system [.enter 0, .select ⟨"b-1", 0⟩]) selected := by
  have hentered : (system.step flushReporter (.enter 0)).phase = .entered 0 := by
    refine step_enter_phase hidle ?_ (by decide +kernel)
    rw [hfilled.gate, (Bool.or_eq_false_iff.mp hfilled.accepts).1]
    rfl
  have hstate : (system.step flushReporter (.enter 0)).state = system.state := by
    simp only [System.step, hidle]
  obtain ⟨selected, hselect, hids, hfilled'⟩ :=
    hfilled.selectBatch (by rw [ne_eq, List.range_eq_nil]; decide) ⟨"b-1", 0⟩
  have henter : Reconciled flushReporter (system.step flushReporter (.enter 0)) _ :=
    hreconciled.step trivial
  have hselected : Reconciled flushReporter
      ((system.step flushReporter (.enter 0)).step flushReporter (.select ⟨"b-1", 0⟩)) _ :=
    henter.step trivial
  rw [run_cons, run_cons, run_nil, Books.run, Books.run, Books.run]
  rw [← hstate] at hselect hfilled'
  rw [← step_select_state hentered] at hfilled'
  -- Everything that was appended is buffered, so nothing was delivered or dropped.
  have hlength := hselected.events.length_eq
  rw [hselected.appended, hfilled'.nextEventId, hfilled'.events] at hlength
  simp only [List.length_range, List.length_map] at hlength
  refine ⟨selected, hselected, step_select_phase hentered hselect, hids, hfilled', ?_, ?_⟩
  · exact List.eq_nil_of_length_eq_zero (by omega)
  · exact List.eq_nil_of_length_eq_zero (by omega)

/-- A thousand failed calls and a flush lead to such a system. -/
theorem exists_brimming :
    ∃ selected, Brimming ((System.new none 0 "i-1").run flushReporter brim)
      (Books.run flushReporter (.new none 0 "i-1") {} brim) selected := by
  obtain ⟨hidle, hfilled⟩ := filled_run (Nat.le_refl maxEvents)
  have hreconciled := (reconciled_new flushReporter none 0 "i-1").run
    (sparesAll_replicate failedCall rfl maxEvents)
  rw [brim, run_append, Books.run_append]
  exact brimming_of_filled hreconciled hidle hfilled

/-- The buffer after one more call: the first event is gone, since all are failures, and the new
one is at the end. -/
theorem Brimming.filled_next {system : System} {books : Books} {selected : Selected}
    (h : Brimming system books selected) :
    Filled ((List.range maxEvents).tail ++ [maxEvents]) (maxEvents + 1)
      (system.step flushReporter (.onRequest failedCall)).state := by
  have hfilled := h.filled.onRequest
  rw [List.length_range, if_pos (Nat.le_refl _)] at hfilled
  exact hfilled

/-- Another call evicts the first event of the batch, and counts it as dropped although it is in
flight. -/
theorem Brimming.evicts {system : System} {books : Books} {selected : Selected}
    (h : Brimming system books selected) :
    0 ∈ (books.note flushReporter system (.onRequest failedCall)).events.dropped ∧
      (books.note flushReporter system (.onRequest failedCall)).events.dropped.length = 1 ∧
      (books.note flushReporter system (.onRequest failedCall)).events.delivered = [] := by
  have hturnover := (moves_step flushReporter system (.onRequest failedCall)).turnover
    h.reconciled.wellFormed fun _ _ hsome => nomatch hsome
  have hnext := h.filled_next
  -- One id comes and the length stays, so exactly one event is lost.
  have hlength := hturnover.events.length_eq
  rw [hnext.nextEventId, h.filled.nextEventId, hnext.events, h.filled.events] at hlength
  simp only [List.length_append, List.length_map, List.length_range', List.length_range,
    List.length_tail, List.length_singleton] at hlength
  have hnote : books.note flushReporter system (.onRequest failedCall) = _ :=
    note_of_quiet books fun _ _ hsome => nomatch hsome
  have hfirst : failedEvent 0 ∈ lostEvents system.state
      (system.step flushReporter (.onRequest failedCall)).state := by
    refine (mem_missing _).mpr ⟨?_, ?_⟩
    · rw [h.filled.events]
      exact List.mem_map_of_mem (List.mem_range.mpr (by decide))
    · rw [hnext.events, List.map_map]
      show 0 ∉ List.map id ((List.range maxEvents).tail ++ [maxEvents])
      rw [List.map_id]
      decide +kernel
  rw [hnote]
  refine ⟨?_, ?_, h.delivered⟩
  · exact List.mem_append_left _ (List.mem_map_of_mem hfirst)
  · show (List.map BufferedEvent.id _ ++ books.events.dropped).length = 1
    rw [h.dropped, List.append_nil, List.length_map]
    have hpos : 0 < maxEvents := by decide
    omega

/-- An event was both delivered and dropped, and so the sum is wrong. -/
structure CountedTwice (system : System) (books : Books) : Prop where
  running : system.state.disabled = false
  distinct : books.events.delivered.Nodup
  both : ∃ id, id ∈ books.events.delivered ∧ id ∈ books.events.dropped
  unequal : system.state.nextEventId ≠ system.state.events.length +
    books.events.delivered.length + books.events.dropped.length

/-- Then the 202 arrives, and the event that was evicted is among those it acknowledges. -/
theorem Brimming.countedTwice {system : System} {books : Books} {selected : Selected}
    (h : Brimming system books selected) :
    CountedTwice
      (system.run flushReporter [.onRequest failedCall, .respond (accepted 0)])
      (books.run flushReporter system [.onRequest failedCall, .respond (accepted 0)]) := by
  obtain ⟨hfirst, hcount, hnone⟩ := h.evicts
  have hnext := h.filled_next
  have hok := h.reconciled.wellFormed.moves
    (moves_step flushReporter system (.onRequest failedCall))
  have hanswer : answered (system.step flushReporter (.onRequest failedCall))
      (.respond (accepted 0)) = some (.accepts, selected) := answered_respond h.phase
  have hretires := retires_of_accepts hok hanswer
  have hids : selected.eventIds = List.range maxBatchEvents := by
    rw [h.eventIds, List.take_range]
    rfl
  -- Of the batch all but the first event are still there.
  have hsplit : (List.range maxEvents).tail ++ [maxEvents] =
      List.range' 1 (maxBatchEvents - 1) ++
        List.range' maxBatchEvents (maxEvents + 1 - maxBatchEvents) := by
    decide +kernel
  have hleft : ((system.step flushReporter (.onRequest failedCall)).step flushReporter
      (.respond (accepted 0))).state.events.length = maxEvents + 1 - maxBatchEvents := by
    have hgone : (List.range' 1 (maxBatchEvents - 1)).filter
        ((fun buffered => !(List.range maxBatchEvents).contains buffered.id) ∘ failedEvent) =
          [] := by
      rw [List.filter_eq_nil_iff]
      intro id hid
      have hlt : id < maxBatchEvents := (List.mem_range'_1.mp hid).2
      have hmem : (List.range maxBatchEvents).contains id = true :=
        List.contains_iff_mem.mpr (List.mem_range.mpr hlt)
      show ¬ (!(List.range maxBatchEvents).contains id) = true
      rw [hmem]
      exact Bool.false_ne_true
    have hkept : (List.range' maxBatchEvents (maxEvents + 1 - maxBatchEvents)).filter
        ((fun buffered => !(List.range maxBatchEvents).contains buffered.id) ∘ failedEvent) =
          List.range' maxBatchEvents (maxEvents + 1 - maxBatchEvents) := by
      rw [List.filter_eq_self]
      intro id hid
      have hle : maxBatchEvents ≤ id := (List.mem_range'_1.mp hid).1
      show (!(List.range maxBatchEvents).contains id) = true
      rw [Bool.not_eq_true', ← Bool.not_eq_true, List.contains_iff_mem, List.mem_range]
      exact Nat.not_lt_of_le hle
    rw [hretires.events, hnext.events, hids, hsplit, List.filter_map, List.length_map,
      List.filter_append, hgone, hkept, List.nil_append, List.length_range']
  rw [run_cons, run_cons, run_nil, Books.run, Books.run, Books.run, Books.note, hanswer]
  refine ⟨?_, ?_, ⟨0, ?_, hfirst⟩, ?_⟩
  · rw [hretires.disabled]
    exact (Bool.or_eq_false_iff.mp hnext.accepts).1
  · show (selected.eventIds ++ _).Nodup
    rw [hnone, List.append_nil, hids]
    exact List.nodup_range
  · show 0 ∈ selected.eventIds ++ _
    rw [hids]
    exact List.mem_append_left _ (List.mem_range.mpr (by decide))
  · rw [hretires.nextEventId, hnext.nextEventId, hleft]
    show _ ≠ _ + (selected.eventIds ++ _).length +
      (books.note flushReporter system (.onRequest failedCall)).events.dropped.length
    rw [hnone, List.append_nil, hids, List.length_range, hcount]
    decide

/-- A full buffer has its first events in flight when another call evicts one of them. The
event is counted as dropped. Then the 202 arrives, with which it was delivered. -/
theorem delivered_and_dropped :
    ∃ steps, CountedTwice ((System.new none 0 "i-1").run flushReporter steps)
      (Books.run flushReporter (.new none 0 "i-1") {} steps) := by
  obtain ⟨selected, h⟩ := exists_brimming
  refine ⟨brim ++ [.onRequest failedCall, .respond (accepted 0)], ?_⟩
  rw [run_append, Books.run_append]
  exact h.countedTwice

end TrustedRouter.Proofs.Telemetry
