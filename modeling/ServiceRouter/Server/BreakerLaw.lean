import Mathlib.Data.List.Induction
import ServiceRouter.Server.CircuitBreaker

/-!
# What a history of calls says about the breaker

Each entry of the map is a small machine of its own that only the calls for
its upstream drive.  Its counter is the number of failures in a row, and once
the counter has reached the threshold its stamp is the clock of the last
failure.
-/

namespace ServiceRouter

namespace CircuitBreakerMap

/-! ## One entry as a machine -/

def BreakerCall.isSuccess (u : String) (call : BreakerCall) : Bool :=
  call.op = .recordSuccess u

def BreakerCall.isFailure (u : String) (call : BreakerCall) : Bool :=
  call.op = .recordFailure u

def stateAfter (threshold : Nat) (u : String) (state : BreakState)
    (call : BreakerCall) : BreakState :=
  if call.isSuccess u then .initial
  else if call.isFailure u then {
    consecutiveFailures := (state.consecutiveFailures + 1) % 2 ^ 32
    openSinceEpochSecs :=
      if (state.consecutiveFailures + 1) % 2 ^ 32 ≥ threshold
      then call.clock else state.openSinceEpochSecs }
  else state

theorem entry_step {cb : CircuitBreakerMap} (henabled : cb.threshold ≠ 0)
    (u : String) (call : BreakerCall) :
    (cb.step call).entry u =
      stateAfter cb.threshold u (cb.entry u) call := by
  obtain ⟨clock, op⟩ := call
  cases op with
  | allow v =>
      simp [step, stateAfter, BreakerCall.isSuccess, BreakerCall.isFailure]
  | recordSuccess v =>
      by_cases h : u = v
      · simp [step, stateAfter, BreakerCall.isSuccess,
          entry_recordSuccess henabled, h]
      · simp [step, stateAfter, BreakerCall.isSuccess,
          BreakerCall.isFailure, entry_recordSuccess henabled, h, Ne.symm h]
  | recordFailure v =>
      by_cases h : u = v
      · simp [step, stateAfter, BreakerCall.isSuccess,
          BreakerCall.isFailure, entry_recordFailure henabled, h]
      · simp [step, stateAfter, BreakerCall.isSuccess,
          BreakerCall.isFailure, entry_recordFailure henabled, h, Ne.symm h]

theorem entry_run {cb : CircuitBreakerMap} (henabled : cb.threshold ≠ 0)
    (u : String) (history : List BreakerCall) :
    (cb.run history).entry u =
      history.foldl (stateAfter cb.threshold u) (cb.entry u) := by
  induction history generalizing cb with
  | nil => rfl
  | cons call history ih =>
      have hthreshold := (step_settings cb call).1
      rw [run_cons, ih (hthreshold ▸ henabled), hthreshold,
        entry_step henabled, List.foldl_cons]

theorem stateAfter_of_ne {threshold : Nat} {u : String} {state : BreakState}
    {call : BreakerCall} (h : call.op.upstream ≠ u) :
    stateAfter threshold u state call = state := by
  have hsuccess : call.isSuccess u = false := by
    simp only [BreakerCall.isSuccess, decide_eq_false_iff_not]
    intro hop
    exact h (by rw [hop]; rfl)
  have hfailure : call.isFailure u = false := by
    simp only [BreakerCall.isFailure, decide_eq_false_iff_not]
    intro hop
    exact h (by rw [hop]; rfl)
  simp [stateAfter, hsuccess, hfailure]

theorem foldl_stateAfter_filter (threshold : Nat) (u : String)
    (state : BreakState) (history : List BreakerCall) :
    (history.filter fun call => call.op.upstream = u).foldl
        (stateAfter threshold u) state =
      history.foldl (stateAfter threshold u) state := by
  induction history generalizing state with
  | nil => rfl
  | cons call history ih =>
      by_cases h : call.op.upstream = u
      · rw [List.filter_cons_of_pos (by simpa using h), List.foldl_cons,
          List.foldl_cons, ih]
      · rw [List.filter_cons_of_neg (by simpa using h), List.foldl_cons,
          stateAfter_of_ne h, ih]

/-! ## Failures in a row -/

/-- The number of failures of `u` since its last success. -/
def failuresInARow (u : String) (history : List BreakerCall) : Nat :=
  (history.reverse.takeWhile fun call => !call.isSuccess u).countP
    fun call => call.isFailure u

def lastFailure (u : String) (history : List BreakerCall) : Option Nat :=
  (history.reverse.find? fun call => call.isFailure u).map BreakerCall.clock

theorem failuresInARow_concat (u : String) (history : List BreakerCall)
    (call : BreakerCall) :
    failuresInARow u (history ++ [call]) =
      if call.isSuccess u then 0
      else failuresInARow u history + if call.isFailure u then 1 else 0 := by
  rw [failuresInARow, List.reverse_append, List.reverse_singleton,
    List.singleton_append, List.takeWhile_cons]
  cases hsuccess : call.isSuccess u with
  | true => simp
  | false => simp [failuresInARow, List.countP_cons]

theorem lastFailure_concat (u : String) (history : List BreakerCall)
    (call : BreakerCall) :
    lastFailure u (history ++ [call]) =
      if call.isFailure u then some call.clock else lastFailure u history := by
  rw [lastFailure, List.reverse_append, List.reverse_singleton,
    List.singleton_append, List.find?_cons]
  cases hfailure : call.isFailure u with
  | true => rfl
  | false => rfl

theorem failuresInARow_append {u : String} {first second : List BreakerCall}
    (hsecond : ∀ call ∈ second, call.isSuccess u = false) :
    failuresInARow u (first ++ second) =
      failuresInARow u first + second.countP fun call => call.isFailure u := by
  induction second using List.reverseRecOn with
  | nil => simp
  | append_singleton second call ih =>
      have hcall := hsecond call (by simp)
      have hinit := ih fun c hc => hsecond c (List.mem_append_left _ hc)
      rw [← List.append_assoc, failuresInARow_concat, hcall, hinit,
        List.countP_append, List.countP_singleton]
      simp only [Bool.false_eq_true, if_false]
      omega

/-- With a clock that never goes back, the last failure is the latest. -/
theorem le_lastFailure {u : String} {history : List BreakerCall}
    (hclock : history.Pairwise fun a b => a.clock ≤ b.clock)
    {call : BreakerCall} (hmem : call ∈ history)
    (hfailure : call.isFailure u = true) :
    ∃ clock, lastFailure u history = some clock ∧ call.clock ≤ clock := by
  induction history using List.reverseRecOn with
  | nil => cases hmem
  | append_singleton history last ih =>
      obtain ⟨hinit, -, hbefore⟩ := List.pairwise_append.mp hclock
      rw [lastFailure_concat]
      rcases List.mem_append.mp hmem with hmem | hmem
      · cases hlast : last.isFailure u with
        | true => exact ⟨_, rfl, hbefore call hmem last (by simp)⟩
        | false => exact ih hinit hmem
      · obtain rfl := List.mem_singleton.mp hmem
        exact ⟨_, if_pos hfailure, le_rfl⟩

/-- The counter is the number of failures in a row, and an open entry carries
the clock of the last failure. -/
theorem state_after_history (threshold : Nat) (hpos : 0 < threshold)
    (u : String) (history : List BreakerCall) :
    let state := history.foldl (stateAfter threshold u) .initial
    state.consecutiveFailures = failuresInARow u history % 2 ^ 32 ∧
      (threshold ≤ state.consecutiveFailures →
        lastFailure u history = some state.openSinceEpochSecs) := by
  induction history using List.reverseRecOn with
  | nil =>
      refine ⟨rfl, fun hopen => ?_⟩
      simp only [List.foldl_nil, BreakState.initial] at hopen
      omega
  | append_singleton history call ih =>
      obtain ⟨hcount, hstamp⟩ := ih
      simp only [List.foldl_append, List.foldl_cons, List.foldl_nil,
        failuresInARow_concat, lastFailure_concat]
      generalize history.foldl (stateAfter threshold u) .initial = state at *
      cases hsuccess : call.isSuccess u with
      | true =>
          rw [stateAfter, if_pos hsuccess, if_pos rfl]
          refine ⟨rfl, fun hopen => ?_⟩
          simp only [BreakState.initial] at hopen
          omega
      | false =>
          cases hfailure : call.isFailure u with
          | true =>
              simp only [stateAfter, hsuccess, hfailure, if_true,
                Bool.false_eq_true, if_false]
              refine ⟨by omega, fun hopen => ?_⟩
              rw [if_pos hopen]
          | false =>
              simp only [stateAfter, hsuccess, hfailure,
                Bool.false_eq_true, if_false]
              exact ⟨hcount, hstamp⟩

section Law

variable {threshold : Nat} (recoverySecs : Nat) {u : String}
  {history : List BreakerCall}

private theorem entry_run_new (hpos : 0 < threshold)
    (history : List BreakerCall) :
    ((new threshold recoverySecs).run history).entry u =
      history.foldl (stateAfter threshold u) .initial := by
  have henabled : (new threshold recoverySecs).threshold ≠ 0 := by
    rw [new_threshold]
    omega
  rw [entry_run henabled, entry_new]
  rfl

theorem consecutiveFailures_run (hpos : 0 < threshold)
    (history : List BreakerCall) :
    (((new threshold recoverySecs).run history).entry u).consecutiveFailures =
      failuresInARow u history % 2 ^ 32 := by
  rw [entry_run_new recoverySecs hpos]
  exact (state_after_history threshold hpos u history).1

theorem openSince_run (hpos : 0 < threshold)
    (hopen : threshold ≤ failuresInARow u history % 2 ^ 32) :
    lastFailure u history = some
      (((new threshold recoverySecs).run history).entry u).openSinceEpochSecs := by
  have hstate := state_after_history threshold hpos u history
  rw [entry_run_new recoverySecs hpos]
  exact hstate.2 (hstate.1 ▸ hopen)

theorem allow_after_history (hfew : failuresInARow u history < 2 ^ 32)
    (now : Nat) :
    (((new threshold recoverySecs).run history).allow now u).1 = true ↔
      threshold = 0 ∨ failuresInARow u history < threshold ∨
        ∃ clock, lastFailure u history = some clock ∧
          recoverySecs ≤ now - clock := by
  rw [allow_iff, run_threshold, run_recoverySecs, new_threshold,
    new_recoverySecs]
  rcases Nat.eq_zero_or_pos threshold with hzero | hpos
  · simp [hzero]
  · have hcount : (((new threshold recoverySecs).run history).entry
        u).consecutiveFailures = failuresInARow u history := by
      rw [consecutiveFailures_run recoverySecs hpos, Nat.mod_eq_of_lt hfew]
    rw [hcount]
    by_cases hlt : failuresInARow u history < threshold
    · simp [hlt]
    · have hopen : threshold ≤ failuresInARow u history % 2 ^ 32 := by
        rw [Nat.mod_eq_of_lt hfew]
        omega
      rw [openSince_run recoverySecs hpos hopen]
      simp [hlt]

theorem allow_filter (threshold : Nat) (u : String)
    (history : List BreakerCall) (now : Nat) :
    (((new threshold recoverySecs).run
        (history.filter fun call => call.op.upstream = u)).allow now u).1 =
      (((new threshold recoverySecs).run history).allow now u).1 := by
  rw [Bool.eq_iff_iff, allow_iff, allow_iff]
  simp only [run_threshold, run_recoverySecs, new_threshold, new_recoverySecs]
  rcases Nat.eq_zero_or_pos threshold with hzero | hpos
  · simp [hzero]
  · rw [entry_run_new recoverySecs hpos, entry_run_new recoverySecs hpos,
      foldl_stateAfter_filter]

end Law

/-- The breaker admits a request exactly if it is disabled, fewer failures in
a row than the threshold are recorded, or the last one is old enough. -/
theorem breaker_admits_iff (threshold recoverySecs : Nat) (u : String)
    (history : List BreakerCall) (now : Nat)
    (hfew : failuresInARow u history < 2 ^ 32) :
    ((((new threshold recoverySecs).run history).allow now u).1 = true ↔
      threshold = 0 ∨ failuresInARow u history < threshold ∨
        ∃ clock, lastFailure u history = some clock ∧
          recoverySecs ≤ now - clock) ∧
    (((new threshold recoverySecs).run
        (history.filter fun call => call.op.upstream = u)).allow now u).1 =
      (((new threshold recoverySecs).run history).allow now u).1 :=
  ⟨allow_after_history recoverySecs hfew now,
    allow_filter recoverySecs threshold u history now⟩

def twoFailures : List BreakerCall :=
  [⟨10, .recordFailure "a"⟩, ⟨11, .recordSuccess "b"⟩, ⟨12, .allow "a"⟩,
    ⟨20, .recordFailure "a"⟩]

theorem breaker_admits_twoFailures :
    (((new 2 30).run twoFailures).allow 49 "a").1 = false ∧
      (((new 2 30).run twoFailures).allow 50 "a").1 = true := by
  constructor
  · rw [← Bool.not_eq_true,
      (breaker_admits_iff 2 30 "a" twoFailures 49 (by decide)).1]
    decide
  · exact (breaker_admits_iff 2 30 "a" twoFailures 50 (by decide)).1.mpr
      (by decide)

/-! ## Probes -/

def admitted (cb : CircuitBreakerMap) (u : String) : List BreakerCall → Nat
  | [] => 0
  | call :: rest =>
      (if call.op = .allow u ∧ (cb.allow call.clock u).1 = true then 1 else 0) +
        admitted (cb.step call) u rest

def NoRecords (u : String) (calls : List BreakerCall) : Prop :=
  ∀ call ∈ calls, call.isSuccess u = false ∧ call.isFailure u = false

theorem entry_step_of_no_record {cb : CircuitBreakerMap} {u : String}
    {call : BreakerCall} (henabled : cb.threshold ≠ 0)
    (hcall : call.isSuccess u = false ∧ call.isFailure u = false) :
    (cb.step call).entry u = cb.entry u := by
  simp [entry_step henabled, stateAfter, hcall.1, hcall.2]

/-- While the breaker of `u` is open and nothing is recorded, it admits the
calls that come after the recovery time. -/
theorem admitted_of_open {cb : CircuitBreakerMap} {u : String}
    {calls : List BreakerCall} (henabled : cb.threshold ≠ 0)
    (hopen : cb.threshold ≤ (cb.entry u).consecutiveFailures)
    (hrecords : NoRecords u calls) :
    admitted cb u calls = calls.countP fun call =>
      call.op = .allow u ∧
        cb.recoverySecs ≤ call.clock - (cb.entry u).openSinceEpochSecs := by
  induction calls generalizing cb with
  | nil => rfl
  | cons call calls ih =>
      have hcall := hrecords call List.mem_cons_self
      have hentry := entry_step_of_no_record henabled hcall
      obtain ⟨hthreshold, hrecovery⟩ := step_settings cb call
      have hallow : (cb.allow call.clock u).1 = true ↔
          cb.recoverySecs ≤
            call.clock - (cb.entry u).openSinceEpochSecs := by
        rw [allow_iff]
        omega
      rw [admitted, ih (hthreshold ▸ henabled)
          (by rw [hthreshold, hentry]; exact hopen)
          fun c hc => hrecords c (List.mem_cons_of_mem _ hc),
        hentry, hrecovery, List.countP_cons, Nat.add_comm]
      simp only [hallow, decide_eq_true_eq]

def TrippedAfter (threshold recoverySecs : Nat) (u : String)
    (history : List BreakerCall) : Prop :=
  threshold ≤
    (((new threshold recoverySecs).run history).entry u).consecutiveFailures

/-- Once tripped, the breaker admits at most one request for `u` before the
next outcome of `u` is recorded. -/
def SingleProbe (threshold recoverySecs : Nat) (u : String)
    (history : List BreakerCall) : Prop :=
  ∀ pre mid post, history = pre ++ mid ++ post →
    TrippedAfter threshold recoverySecs u pre → NoRecords u mid →
    admitted ((new threshold recoverySecs).run pre) u mid ≤ 1

/-- While the breaker of `u` is open, at most one request for it arrives after
the recovery time and before the next outcome of `u` is recorded. -/
def SingleLateArrival (threshold recoverySecs : Nat) (u : String)
    (history : List BreakerCall) : Prop :=
  ∀ pre mid post opened, history = pre ++ mid ++ post →
    threshold ≤ failuresInARow u pre % 2 ^ 32 →
    lastFailure u pre = some opened → NoRecords u mid →
    (mid.countP fun call =>
      call.op = .allow u ∧ opened + recoverySecs ≤ call.clock) ≤ 1

theorem single_probe_iff {threshold recoverySecs : Nat}
    (hthreshold : 0 < threshold) (hrecovery : 0 < recoverySecs) (u : String)
    (history : List BreakerCall) :
    SingleProbe threshold recoverySecs u history ↔
      SingleLateArrival threshold recoverySecs u history := by
  have hcount (pre : List BreakerCall) :
      TrippedAfter threshold recoverySecs u pre ↔
        threshold ≤ failuresInARow u pre % 2 ^ 32 := by
    rw [TrippedAfter, consecutiveFailures_run recoverySecs hthreshold]
  have hadmitted (pre mid : List BreakerCall) (opened : Nat)
      (htripped : TrippedAfter threshold recoverySecs u pre)
      (hopened : lastFailure u pre = some opened)
      (hrecords : NoRecords u mid) :
      admitted ((new threshold recoverySecs).run pre) u mid =
        mid.countP fun call =>
          call.op = .allow u ∧ opened + recoverySecs ≤ call.clock := by
    have hstamp := openSince_run recoverySecs hthreshold
      ((hcount pre).mp htripped)
    rw [hopened, Option.some.injEq] at hstamp
    have henabled : ((new threshold recoverySecs).run pre).threshold ≠ 0 := by
      rw [run_threshold, new_threshold]
      omega
    have hopen : ((new threshold recoverySecs).run pre).threshold ≤
        (((new threshold recoverySecs).run pre).entry
          u).consecutiveFailures := by
      rw [run_threshold, new_threshold]
      exact htripped
    rw [admitted_of_open henabled hopen hrecords, ← hstamp, run_recoverySecs,
      new_recoverySecs]
    refine List.countP_congr fun call _ => ?_
    simp only [decide_eq_true_eq]
    refine and_congr_right fun _ => ?_
    omega
  constructor
  · intro hprobe pre mid post opened hsplit hopen hopened hrecords
    have htripped := (hcount pre).mpr hopen
    rw [← hadmitted pre mid opened htripped hopened hrecords]
    exact hprobe pre mid post hsplit htripped hrecords
  · intro hlate pre mid post hsplit htripped hrecords
    have hopen := (hcount pre).mp htripped
    have hopened := openSince_run recoverySecs hthreshold hopen
    rw [hadmitted pre mid _ htripped hopened hrecords]
    exact hlate pre mid post _ hsplit hopen hopened hrecords

def oneProbe : List BreakerCall :=
  [⟨0, .recordFailure "a"⟩, ⟨30, .allow "b"⟩, ⟨30, .allow "a"⟩]

theorem single_probe_oneProbe : SingleProbe 1 30 "a" oneProbe := by
  refine (single_probe_iff (by decide) (by decide) "a" oneProbe).mpr ?_
  intro pre mid post opened hsplit _ _ _
  have htotal : oneProbe.countP (fun call => call.op = .allow "a") = 1 := by
    decide
  rw [hsplit, List.countP_append, List.countP_append] at htotal
  have hmono : (mid.countP fun call =>
      call.op = .allow "a" ∧ opened + 30 ≤ call.clock) ≤
      mid.countP fun call => call.op = .allow "a" :=
    List.countP_mono_left fun call _ h => by simp_all
  omega

def twoProbes : List BreakerCall :=
  [⟨0, .recordFailure "a"⟩, ⟨30, .allow "a"⟩, ⟨30, .allow "a"⟩]

/-- Both requests are admitted before any outcome is recorded. -/
theorem not_single_probe_twoProbes : ¬ SingleProbe 1 30 "a" twoProbes := by
  intro hprobe
  have htripped : TrippedAfter 1 30 "a" (twoProbes.take 1) := by
    rw [TrippedAfter, consecutiveFailures_run 30 (by decide)]
    decide
  have hrecords : NoRecords "a" (twoProbes.drop 1) := by
    unfold NoRecords
    decide
  have hle := hprobe (twoProbes.take 1) (twoProbes.drop 1) [] rfl htripped
    hrecords
  revert hle
  decide

end CircuitBreakerMap

end ServiceRouter
