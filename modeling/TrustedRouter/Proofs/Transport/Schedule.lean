import TrustedRouter.Lib.Retry
import TrustedRouter.Proofs.Transport.Engine

/-!
# `TrustedRouter.Proofs.Transport.Schedule`: failover decides where, never whether

The loop of the engine is a bounded retry over the candidate list. `outcomeOf` is what an attempt
asks for, read off its result, and `executeOn_plays` says that a call plays the schedule of its
own outcomes: the candidates of its attempts are the places, the sleeps are the pauses, and the
budget is `max_retries`.

The rest follows from `Retry`. The target of an attempt has a closed form. Two calls with the same
outcomes, one of them with failover switched off, make the same number of attempts, sleep the same
and return the same. And the sleeps of a call have a bound of their own.
-/

set_option autoImplicit false

namespace TrustedRouter.Proofs.Transport

open TrustedRouter.Transport
open Rust.Duration
open Whatwg (Url)
open Retry (Outcome Plays)

/-! ## Outcomes and sleeps -/

/-- What attempt `n` asks for, from its result. -/
def outcomeOf (env : Environment) (call : Call) (n : Nat) (result : Except Error Response) :
    Outcome (Except Error Response) :=
  match (judge env result none).1 with
  | .returns result => .final result
  | .disposes disposition =>
      if disposition.retry && requestReplaySafe call.method call.options then
        .again (.error disposition.error) disposition.failover
          (retryDelay disposition.retryAfter (env.jitter n))
      else .final (.error disposition.error)

/-- The outcomes of a stretch of attempts that starts with attempt `n`. -/
def outcomesFrom (env : Environment) (call : Call) :
    (n : Nat) → List Attempt → List (Outcome (Except Error Response))
  | _, [] => []
  | n, attempt :: rest =>
      outcomeOf env call n attempt.result :: outcomesFrom env call (n + 1) rest

/-- There is one outcome an attempt. -/
theorem length_outcomesFrom (env : Environment) (call : Call) (n : Nat)
    (attempts : List Attempt) : (outcomesFrom env call n attempts).length = attempts.length := by
  induction attempts generalizing n with
  | nil => rfl
  | cons attempt rest ih => rw [outcomesFrom, List.length_cons, List.length_cons, ih]

/-- The outcome of an attempt is read from its own result, with the number it has in the call. -/
theorem getElem?_outcomesFrom (env : Environment) (call : Call) (n i : Nat)
    (attempts : List Attempt) :
    (outcomesFrom env call n attempts)[i]? =
      attempts[i]?.map fun attempt => outcomeOf env call (n + i) attempt.result := by
  induction attempts generalizing n i with
  | nil => rfl
  | cons attempt rest ih =>
      cases i with
      | zero => rfl
      | succ i =>
          rw [outcomesFrom, List.getElem?_cons_succ, List.getElem?_cons_succ, ih,
            Nat.add_right_comm, Nat.add_assoc]

/-- The sleeps of the loop, in nanoseconds: what `runLoop` leaves out of its trace. -/
def loopSleeps (env : Environment) (call : Call) (candidates : List Url) :
    (fuel : Nat) → LoopState → List Nat
  | 0, _ => []
  | fuel + 1, state =>
      match candidates[state.cursor.index]? with
      | none => []
      | some url =>
          match (step env call state url).2 with
          | .returns _ _ => []
          | .sleeps delay next => delay :: loopSleeps env call candidates fuel next

/-- The sleeps of one call. -/
def executeSleeps (env : Environment) (call : Call) (recorder : Recorder)
    (candidates : List Url) : List Nat :=
  loopSleeps env call candidates (call.client.maxRetries + 1)
    { attempt := 0, cursor := .new candidates.length, recorder }

/-! ## One turn -/

/-- The recorder has no part in the judgement, so that the outcome of an attempt can be read from
its result alone. -/
theorem judge_unrecorded {env : Environment} {result : Except Error Response}
    {recorder recorder' : Recorder} {judgement : Judgement}
    (h : judge env result recorder = (judgement, recorder')) :
    (judge env result none).1 = judgement := by
  rw [show judgement = (judge env result recorder).1 by rw [h]]
  cases result with
  | error error => rfl
  | ok response =>
      simp only [judge]
      split
      · rfl
      · split
        · rfl
        · split <;> rfl

/-- The cursor moves as the schedule does: one place further when asked to, and not past the last
one. -/
theorem advance_index (cursor : CandidateCursor) (failover : Bool) :
    (if failover then cursor.advance else (cursor, false)).1.index =
      Retry.move cursor.len cursor.index failover := by
  unfold Retry.move CandidateCursor.advance
  cases failover
  · rfl
  · by_cases hroom : cursor.index + 1 < cursor.len <;> simp [hroom]

/-- A turn that ends the loop is a last attempt of the schedule, with its result. -/
theorem outcomeOf_returns {env : Environment} {call : Call} {state : LoopState} {url : Url}
    {attempt : Attempt} {result : Except Error Response} {recorder : Recorder}
    (h : step env call state url = (attempt, .returns result recorder)) :
    (outcomeOf env call state.attempt attempt.result).IsLast
        (call.client.maxRetries - state.attempt) ∧
      (outcomeOf env call state.attempt attempt.result).result = result := by
  simp only [step] at h
  split at h
  · rename_i judged recorder' hjudge
    cases h
    simp only [outcomeOf, judge_unrecorded hjudge]
    exact ⟨.inr ⟨_, rfl⟩, rfl⟩
  · rename_i disposition recorder' hjudge
    simp only [Prod.mk.injEq] at h
    obtain ⟨rfl, hpolicy⟩ := h
    simp only [outcomeOf, judge_unrecorded hjudge]
    simp only [applyPolicy] at hpolicy
    split at hpolicy
    · rename_i hstop
      cases hpolicy
      -- Either the budget is spent, or the disposition asks for no other attempt.
      split
      · rename_i hagain
        refine ⟨.inl ?_, rfl⟩
        simp only [Bool.and_eq_true] at hagain
        simp only [hagain.1, hagain.2, Bool.not_true, Bool.or_false, decide_eq_true_eq] at hstop
        omega
      · exact ⟨.inr ⟨_, rfl⟩, rfl⟩
    · cases hpolicy

/-- A turn that goes on asks for the next one, after the same pause and at the same place. -/
theorem outcomeOf_sleeps {env : Environment} {call : Call} {state next : LoopState} {url : Url}
    {attempt : Attempt} {delay : Nat}
    (h : step env call state url = (attempt, .sleeps delay next)) :
    ∃ result elsewhere,
      outcomeOf env call state.attempt attempt.result = .again result elsewhere delay ∧
        next.cursor.index = Retry.move state.cursor.len state.cursor.index elsewhere := by
  simp only [step] at h
  split at h
  · cases h
  · rename_i disposition recorder' hjudge
    simp only [Prod.mk.injEq] at h
    obtain ⟨rfl, hpolicy⟩ := h
    -- What the loop does with a result does not depend on its recorder.
    simp only [outcomeOf, judge_unrecorded hjudge]
    simp only [applyPolicy] at hpolicy
    split at hpolicy
    · cases hpolicy
    · rename_i hgo
      simp only [Bool.or_eq_true, Bool.not_eq_true', decide_eq_true_eq, not_or,
        Bool.not_eq_false, Nat.not_le] at hgo
      cases hpolicy
      rw [hgo.1.2, hgo.2]
      exact ⟨_, _, rfl, advance_index state.cursor disposition.failover⟩

/-! ## The whole run -/

/-- The loop plays the schedule of its outcomes, from any state within its bounds. -/
theorem runLoop_plays (env : Environment) (call : Call) (candidates : List Url) (fuel : Nat)
    (state : LoopState) (hwithin : Within call candidates fuel state) :
    ∃ result recorder, (runLoop env call candidates fuel state).result = some (result, recorder) ∧
      Plays candidates.length (call.client.maxRetries - state.attempt) state.cursor.index
        (outcomesFrom env call state.attempt (runLoop env call candidates fuel state).attempts)
        { places := (runLoop env call candidates fuel state).attempts.map Attempt.candidate
          pauses := loopSleeps env call candidates fuel state
          result } := by
  induction fuel generalizing state with
  | zero => exact absurd hwithin not_within_zero
  | succ fuel ih =>
      obtain ⟨url, hurl⟩ : ∃ url, candidates[state.cursor.index]? = some url :=
        ⟨_, List.getElem?_eq_getElem hwithin.index⟩
      obtain ⟨hcandidate, -⟩ := step_attempt env call state url
      rcases hstep : step env call state url with ⟨attempt, next⟩
      rw [hstep] at hcandidate
      dsimp only at hcandidate
      cases next with
      | returns result recorder =>
          obtain ⟨hlast, hresult⟩ := outcomeOf_returns hstep
          rw [runLoop_of_returns fuel hurl hstep]
          refine ⟨result, recorder, rfl, ?_⟩
          simp only [loopSleeps, hurl, hstep, outcomesFrom, List.map_cons, List.map_nil,
            hcandidate, ← hresult]
          exact .last hlast
      | sleeps delay next =>
          obtain ⟨hbelow, -, -, hattempt, -, -⟩ := step_sleeps hstep
          obtain ⟨failed, elsewhere, houtcome, hindex⟩ := outcomeOf_sleeps hstep
          obtain ⟨result, recorder, hresult, hplays⟩ := ih next (hwithin.step hstep)
          rw [runLoop_of_sleeps fuel hurl hstep]
          refine ⟨result, recorder, hresult, ?_⟩
          -- One attempt is spent of the budget, and the place is the cursor of the next state.
          have hbudget : call.client.maxRetries - state.attempt =
              call.client.maxRetries - next.attempt + 1 := by omega
          rw [hindex, hwithin.len, hattempt] at hplays
          rw [hattempt] at hbudget
          simp only [loopSleeps, hurl, hstep, outcomesFrom, List.map_cons, hcandidate, houtcome,
            hbudget]
          exact .again hplays

/-- Every call on a candidate list that is not empty plays the schedule of its outcomes. -/
theorem executeOn_plays (env : Environment) (call : Call) (recorder : Recorder)
    {candidates : List Url} (hcandidates : candidates ≠ []) :
    ∃ result recorder', (executeOn env call recorder candidates).result =
        some (result, recorder') ∧
      Plays candidates.length call.client.maxRetries 0
        (outcomesFrom env call 0 (executeOn env call recorder candidates).attempts)
        { places := (executeOn env call recorder candidates).attempts.map Attempt.candidate
          pauses := executeSleeps env call recorder candidates
          result } :=
  runLoop_plays env call candidates _ _ (within_start call hcandidates recorder)

/-- A stretch of outcomes is the outcomes of the stretch: an outcome does not look at the attempts
after it. -/
theorem take_outcomesFrom (env : Environment) (call : Call) (n i : Nat)
    (attempts : List Attempt) :
    (outcomesFrom env call n attempts).take i = outcomesFrom env call n (attempts.take i) := by
  induction attempts generalizing n i with
  | nil => simp [outcomesFrom]
  | cons attempt rest ih =>
      cases i with
      | zero => rfl
      | succ i => rw [outcomesFrom, List.take_succ_cons, List.take_succ_cons, outcomesFrom, ih]

/-- The engine refines the bounded retry. A call returns the result its schedule gives, and each
attempt targets the candidate that is as many places down the list as attempts before it asked to
move, or the last one. -/
theorem executeOn_refines_schedule (env : Environment) (call : Call) (recorder : Recorder)
    (candidates : List Url) (hcandidates : candidates ≠ []) :
    let attempts := (executeOn env call recorder candidates).attempts
    (∃ result recorder', (executeOn env call recorder candidates).result =
        some (result, recorder') ∧
      Plays candidates.length call.client.maxRetries 0 (outcomesFrom env call 0 attempts)
        { places := attempts.map Attempt.candidate
          pauses := executeSleeps env call recorder candidates
          result }) ∧
    ∀ (i : Nat) (attempt : Attempt), attempts[i]? = some attempt →
      candidates[min ((outcomesFrom env call 0 (attempts.take i)).countP Outcome.elsewhere)
        (candidates.length - 1)]? = some attempt.url := by
  intro attempts
  obtain ⟨result, recorder', hresult, hplays⟩ := executeOn_plays env call recorder hcandidates
  refine ⟨⟨result, recorder', hresult, hplays⟩, ?_⟩
  intro i attempt hattempt
  have hlisted := (executeOn_runFrom env call recorder hcandidates).listed attempt
    (List.mem_of_getElem? hattempt)
  -- The place of the i-th attempt is read off the outcomes before it.
  have hplace := hplays.places_eq (List.length_pos_iff.mpr hcandidates)
    (i := i) (by
      rw [length_outcomesFrom]
      exact (List.getElem?_eq_some_iff.mp hattempt).1)
  rw [List.getElem?_map, hattempt, Option.map_some, Option.some.injEq, take_outcomesFrom,
    Nat.zero_add] at hplace
  rw [← hplace]
  exact hlisted

/-- After a reset the second attempt targets the second candidate. -/
theorem executeOn_refines_schedule_reset :
    [defaultControlBase.url, aliasUrl][min ((outcomesFrom resetOnce keyedPost 0
        ((executeOn resetOnce keyedPost none [defaultControlBase.url, aliasUrl]).attempts.take
          1)).countP Outcome.elsewhere) 1]? = some aliasUrl :=
  (executeOn_refines_schedule resetOnce keyedPost none [defaultControlBase.url, aliasUrl]
    (List.cons_ne_nil _ _)).2 1 _ rfl

/-! ## Two calls -/

/-- Failover decides where an attempt goes, never whether there is one. Take two calls with one
retry budget, on any two candidate lists, such as the list of one that `regional_failover(false)`
leaves. If their attempts ask for the same as far as both go, they make the same number of
attempts, sleep the same and return the same. -/
theorem executeOn_where_not_whether {env env' : Environment} {call call' : Call}
    {recorder recorder' : Recorder} {candidates candidates' : List Url}
    (hcandidates : candidates ≠ []) (hcandidates' : candidates' ≠ [])
    (hbudget : call.client.maxRetries = call'.client.maxRetries)
    (hagree : ∀ (i : Nat) (attempt attempt' : Attempt),
      (executeOn env call recorder candidates).attempts[i]? = some attempt →
      (executeOn env' call' recorder' candidates').attempts[i]? = some attempt' →
      outcomeOf env call i attempt.result = outcomeOf env' call' i attempt'.result) :
    (executeOn env call recorder candidates).attempts.length =
        (executeOn env' call' recorder' candidates').attempts.length ∧
      executeSleeps env call recorder candidates =
        executeSleeps env' call' recorder' candidates' ∧
      (executeOn env call recorder candidates).result.map Prod.fst =
        (executeOn env' call' recorder' candidates').result.map Prod.fst := by
  obtain ⟨result, last, hresult, hplays⟩ := executeOn_plays env call recorder hcandidates
  obtain ⟨result', last', hresult', hplays'⟩ :=
    executeOn_plays env' call' recorder' hcandidates'
  rw [← hbudget] at hplays'
  -- Equal outcomes make equal schedules, the places apart.
  have hsame := hplays.agree hplays' (by
    intro i outcome outcome' houtcome houtcome'
    rw [getElem?_outcomesFrom, Option.map_eq_some_iff] at houtcome houtcome'
    obtain ⟨attempt, hattempt, rfl⟩ := houtcome
    obtain ⟨attempt', hattempt', rfl⟩ := houtcome'
    rw [Nat.zero_add]
    exact hagree i attempt attempt' hattempt hattempt')
  obtain ⟨houtcomes, hsleeps, hreturned⟩ := hsame
  have hlength := congrArg List.length houtcomes
  rw [length_outcomesFrom, length_outcomesFrom] at hlength
  refine ⟨hlength, hsleeps, ?_⟩
  rw [hresult, hresult', Option.map_some, Option.map_some]
  exact congrArg some hreturned

/-- A call that is reset once sleeps and returns the same with one candidate and with two. -/
theorem executeOn_where_not_whether_reset :
    executeSleeps resetOnce keyedPost none [defaultControlBase.url] =
        executeSleeps resetOnce keyedPost none [defaultControlBase.url, aliasUrl] ∧
      (executeOn resetOnce keyedPost none [defaultControlBase.url]).result.map Prod.fst =
        (executeOn resetOnce keyedPost none
          [defaultControlBase.url, aliasUrl]).result.map Prod.fst := by
  have hresults :
      (executeOn resetOnce keyedPost none [defaultControlBase.url]).attempts.map Attempt.result =
        (executeOn resetOnce keyedPost none
          [defaultControlBase.url, aliasUrl]).attempts.map Attempt.result := rfl
  refine (executeOn_where_not_whether (List.cons_ne_nil _ _) (List.cons_ne_nil _ _) rfl ?_).2
  intro i attempt attempt' hattempt hattempt'
  have hresult := congrArg (fun results => results[i]?) hresults
  rw [List.getElem?_map, List.getElem?_map, hattempt, hattempt', Option.map_some, Option.map_some,
    Option.some.injEq] at hresult
  rw [hresult]

/-! ## How long a call sleeps -/

/-- The pause an attempt asks for has the server's wish as its floor. -/
theorem outcomeOf_again {env : Environment} {call : Call} {n pause : Nat}
    {result failed : Except Error Response} {elsewhere : Bool}
    (h : outcomeOf env call n result = .again failed elsewhere pause) :
    ∃ floor, pause = retryDelay floor (env.jitter n) ∧
      ∀ response, result = .ok response →
        floor = parseRetryAfter env.untilHttpDate response.headers := by
  have hdisposes : ∃ disposition, (judge env result none).1 = .disposes disposition ∧
      pause = retryDelay disposition.retryAfter (env.jitter n) := by
    simp only [outcomeOf] at h
    split at h
    · cases h
    · rename_i disposition hjudge
      split at h
      · cases h
        exact ⟨disposition, hjudge, rfl⟩
      · cases h
  obtain ⟨disposition, hjudge, hpause⟩ := hdisposes
  refine ⟨disposition.retryAfter, hpause, ?_⟩
  rintro response rfl
  -- Each arm that disposes reads the header of the response.
  simp only [judge] at hjudge
  split at hjudge
  · cases hjudge
  · split at hjudge
    · cases hjudge
      rfl
    · split at hjudge
      · cases hjudge
        rfl
      · cases hjudge

/-- A sleep is at least its floor, at least its jitter, and at most a minute. -/
theorem retryDelay_bounds {floor : Option Nat} {attempt jitter : Nat}
    (hjitter : jitter ≤ backoffCeilingMs attempt) :
    fromMillis jitter ≤ retryDelay floor jitter ∧ retryDelay floor jitter ≤ maxRetryAfter ∧
      ∀ value, floor = some value → min value maxRetryAfter ≤ retryDelay floor jitter := by
  have hceiling : backoffCeilingMs attempt ≤ 30000 := min_le_right _ _
  have hmillis : fromMillis jitter ≤ maxRetryAfter := by
    simp only [fromMillis, maxRetryAfter, fromSecs]
    omega
  refine ⟨le_max_right _ _, max_le (min_le_right _ _) hmillis, ?_⟩
  rintro value rfl
  exact le_max_left _ _

/-- A parsed wish is at most a minute, in each of the three forms that it can have. -/
theorem parseRetryAfter_le {untilHttpDate : String → Option Nat} {headers : Http.HeaderMap}
    {floor : Nat} (h : parseRetryAfter untilHttpDate headers = some floor) :
    floor ≤ maxRetryAfter := by
  simp only [parseRetryAfter] at h
  split at h
  · cases h
    exact min_le_right _ _
  · obtain ⟨value, -, hvalue⟩ := Option.bind_eq_some_iff.mp h
    split at hvalue
    · cases hvalue
      exact min_le_right _ _
    · obtain ⟨date, -, rfl⟩ := Option.map_eq_some_iff.mp hvalue
      exact min_le_right _ _

/-- How long a call sleeps, whatever the servers answer. There is one sleep between two attempts.
Each is at least the jitter drawn for it and at least what the response asked for, and at most a
minute, so that the whole call sleeps at most `max_retries` minutes. -/
theorem executeOn_sleeps_bounded (env : Environment) (call : Call) (recorder : Recorder)
    (candidates : List Url) (hcandidates : candidates ≠ [])
    (hjitter : ∀ attempt, env.jitter attempt ≤ backoffCeilingMs attempt) :
    (executeSleeps env call recorder candidates).length + 1 =
        (executeOn env call recorder candidates).attempts.length ∧
      (executeSleeps env call recorder candidates).sum ≤
        call.client.maxRetries * maxRetryAfter ∧
      ∀ (i : Nat) (attempt : Attempt) (sleep : Nat),
        (executeOn env call recorder candidates).attempts[i]? = some attempt →
        (executeSleeps env call recorder candidates)[i]? = some sleep →
        fromMillis (env.jitter i) ≤ sleep ∧ sleep ≤ maxRetryAfter ∧
          ∀ response floor, attempt.result = .ok response →
            parseRetryAfter env.untilHttpDate response.headers = some floor → floor ≤ sleep := by
  obtain ⟨result, last, -, hplays⟩ := executeOn_plays env call recorder hcandidates
  have hpauses := hplays.pauses_eq
  dsimp only at hpauses
  have hlength : (executeSleeps env call recorder candidates).length + 1 =
      (executeOn env call recorder candidates).attempts.length := by
    have hpos := List.length_pos_iff.mpr hplays.outcomes_ne_nil
    rw [hpauses, List.length_map, List.length_dropLast, ← length_outcomesFrom env call 0]
    omega
  refine ⟨hlength, hplays.sum_pauses_le ?_, ?_⟩
  · intro outcome hmem
    obtain ⟨i, houtcome⟩ := List.mem_iff_getElem?.mp hmem
    rw [getElem?_outcomesFrom, Option.map_eq_some_iff] at houtcome
    obtain ⟨attempt, -, rfl⟩ := houtcome
    cases hasks : outcomeOf env call (0 + i) attempt.result with
    | final _ => exact Nat.zero_le _
    | again failed elsewhere pause =>
        obtain ⟨floor, rfl, -⟩ := outcomeOf_again hasks
        exact (retryDelay_bounds (hjitter _)).2.1
  · intro i attempt sleep hattempt hsleep
    have hi : i + 1 < (outcomesFrom env call 0
        (executeOn env call recorder candidates).attempts).length := by
      have hlt := (List.getElem?_eq_some_iff.mp hsleep).1
      rw [length_outcomesFrom]
      omega
    have houtcome := getElem?_outcomesFrom env call 0 i
      (executeOn env call recorder candidates).attempts
    rw [hattempt, Option.map_some, Nat.zero_add] at houtcome
    -- An attempt with a pause after it asked to go on.
    obtain ⟨failed, elsewhere, pause, hagain, hpause⟩ := hplays.exists_again houtcome hi
    obtain rfl := Option.some.inj (hsleep.symm.trans hpause)
    obtain ⟨floor, rfl, hfloor⟩ := outcomeOf_again hagain
    obtain ⟨hlow, hhigh, hserver⟩ := @retryDelay_bounds floor i _ (hjitter i)
    refine ⟨hlow, hhigh, ?_⟩
    intro response wish hresponse hwish
    rw [hfloor response hresponse, hwish] at hserver ⊢
    have hmin := hserver wish rfl
    rwa [min_eq_left (parseRetryAfter_le hwish)] at hmin

/-- The one sleep of a reset call. -/
theorem executeOn_sleeps_bounded_reset :
    (executeSleeps resetOnce keyedPost none [defaultControlBase.url]).sum ≤
      2 * maxRetryAfter :=
  (executeOn_sleeps_bounded resetOnce keyedPost none [defaultControlBase.url]
    (List.cons_ne_nil _ _) fun _ => Nat.zero_le _).2.1

end TrustedRouter.Proofs.Transport
