import Mathlib.Algebra.GroupWithZero.Nat
import ServiceRouter.Foundation.HashMap

/-!
# Circuit breaker

One entry per upstream, created when it is first needed.  The three calls are
atomic; each reads the clock at most once, and the reading is an argument.
-/

namespace ServiceRouter

open Foundation

structure BreakState where
  consecutiveFailures : Nat
  openSinceEpochSecs : Nat
  deriving DecidableEq, Repr

def BreakState.initial : BreakState := ⟨0, 0⟩

structure CircuitBreakerMap where
  states : HashMap String BreakState
  threshold : Nat
  recoverySecs : Nat

namespace CircuitBreakerMap

def new (threshold recoverySecs : Nat) : CircuitBreakerMap :=
  ⟨∅, threshold, recoverySecs⟩

def isDisabled (cb : CircuitBreakerMap) : Bool := cb.threshold == 0

def entry (cb : CircuitBreakerMap) (upstream : String) : BreakState :=
  (cb.states.lookup upstream).getD .initial

def setEntry (cb : CircuitBreakerMap) (upstream : String)
    (state : BreakState) : CircuitBreakerMap :=
  { cb with states := cb.states.insert upstream state }

def allow (cb : CircuitBreakerMap) (now : Nat) (upstream : String) :
    Bool × CircuitBreakerMap :=
  if cb.threshold = 0 then (true, cb)
  else
    let entry := cb.entry upstream
    let created := cb.setEntry upstream entry
    if entry.consecutiveFailures < cb.threshold then (true, created)
    else
      let elapsed := now - entry.openSinceEpochSecs
      (decide (elapsed ≥ cb.recoverySecs), created)

def recordSuccess (cb : CircuitBreakerMap) (upstream : String) :
    CircuitBreakerMap :=
  if cb.threshold = 0 then cb
  else
    match cb.states.lookup upstream with
    | none => cb
    | some _ => cb.setEntry upstream ⟨0, 0⟩

def recordFailure (cb : CircuitBreakerMap) (now : Nat) (upstream : String) :
    CircuitBreakerMap :=
  if cb.threshold = 0 then cb
  else
    let entry := cb.entry upstream
    -- Both additions on the 32-bit counter wrap.
    let failures := (entry.consecutiveFailures + 1) % 2 ^ 32
    cb.setEntry upstream {
      consecutiveFailures := failures
      openSinceEpochSecs :=
        if failures ≥ cb.threshold then now else entry.openSinceEpochSecs }

/-! ## Calls -/

inductive BreakerOp where
  | allow (upstream : String)
  | recordSuccess (upstream : String)
  | recordFailure (upstream : String)
  deriving DecidableEq, Repr

structure BreakerCall where
  clock : Nat
  op : BreakerOp
  deriving DecidableEq, Repr

def BreakerOp.upstream : BreakerOp → String
  | .allow u => u
  | .recordSuccess u => u
  | .recordFailure u => u

def step (cb : CircuitBreakerMap) (call : BreakerCall) : CircuitBreakerMap :=
  match call.op with
  | .allow u => (cb.allow call.clock u).2
  | .recordSuccess u => cb.recordSuccess u
  | .recordFailure u => cb.recordFailure call.clock u

def run (cb : CircuitBreakerMap) (history : List BreakerCall) :
    CircuitBreakerMap :=
  history.foldl step cb

@[simp] theorem run_cons (cb : CircuitBreakerMap) (call : BreakerCall)
    (history : List BreakerCall) :
    cb.run (call :: history) = (cb.step call).run history := rfl

@[simp] theorem run_append (cb : CircuitBreakerMap)
    (first second : List BreakerCall) :
    cb.run (first ++ second) = (cb.run first).run second :=
  List.foldl_append

/-! ## What the calls read and write -/

@[simp] theorem new_threshold (threshold recoverySecs : Nat) :
    (new threshold recoverySecs).threshold = threshold := rfl

@[simp] theorem new_recoverySecs (threshold recoverySecs : Nat) :
    (new threshold recoverySecs).recoverySecs = recoverySecs := rfl

@[simp] theorem entry_new (threshold recoverySecs : Nat) (u : String) :
    (new threshold recoverySecs).entry u = .initial := by
  simp [entry, new]

@[simp] theorem entry_setEntry (cb : CircuitBreakerMap) (u v : String)
    (state : BreakState) :
    (cb.setEntry v state).entry u = if u = v then state else cb.entry u := by
  by_cases h : u = v
  · subst h
    simp [entry, setEntry]
  · simp [entry, setEntry, h, AList.lookup_insert_ne h]

theorem allow_iff {cb : CircuitBreakerMap} {now : Nat} {u : String} :
    (cb.allow now u).1 = true ↔
      cb.threshold = 0 ∨ (cb.entry u).consecutiveFailures < cb.threshold ∨
        cb.recoverySecs ≤ now - (cb.entry u).openSinceEpochSecs := by
  unfold allow
  by_cases hzero : cb.threshold = 0
  · simp [hzero]
  · by_cases hlt : (cb.entry u).consecutiveFailures < cb.threshold
    · simp [hzero, hlt]
    · simp [hzero, hlt]

theorem entry_setEntry_self (cb : CircuitBreakerMap) (u v : String) :
    (cb.setEntry v (cb.entry v)).entry u = cb.entry u := by
  rw [entry_setEntry]
  split
  · next h => rw [h]
  · rfl

@[simp] theorem entry_allow (cb : CircuitBreakerMap) (now : Nat)
    (u v : String) : (cb.allow now v).2.entry u = cb.entry u := by
  by_cases hzero : cb.threshold = 0
  · simp [allow, hzero]
  · by_cases hlt : (cb.entry v).consecutiveFailures < cb.threshold
    · simp only [allow, if_neg hzero, if_pos hlt, entry_setEntry_self]
    · simp only [allow, if_neg hzero, if_neg hlt, entry_setEntry_self]

theorem entry_recordSuccess {cb : CircuitBreakerMap}
    (henabled : cb.threshold ≠ 0) (u v : String) :
    (cb.recordSuccess v).entry u =
      if u = v then .initial else cb.entry u := by
  simp only [recordSuccess, if_neg henabled]
  cases hlookup : cb.states.lookup v with
  | none =>
      -- An unknown upstream already counts as closed.
      by_cases h : u = v
      · subst h
        simp [entry, hlookup]
      · simp [h]
  | some state => simp [BreakState.initial]

theorem entry_recordFailure {cb : CircuitBreakerMap}
    (henabled : cb.threshold ≠ 0) (now : Nat) (u v : String) :
    (cb.recordFailure now v).entry u =
      if u = v then {
        consecutiveFailures :=
          ((cb.entry v).consecutiveFailures + 1) % 2 ^ 32
        openSinceEpochSecs :=
          if ((cb.entry v).consecutiveFailures + 1) % 2 ^ 32 ≥ cb.threshold
          then now else (cb.entry v).openSinceEpochSecs }
      else cb.entry u := by
  simp only [recordFailure, if_neg henabled, entry_setEntry]

/-- Counting a failure shows unless the breaker is disabled. -/
theorem recordFailure_eq_self_iff {cb : CircuitBreakerMap} {now : Nat}
    {u : String} : cb.recordFailure now u = cb ↔ cb.threshold = 0 := by
  constructor
  · intro hself
    by_contra henabled
    have hentry := entry_recordFailure henabled now u u
    rw [hself, if_pos rfl] at hentry
    have hcount := congrArg BreakState.consecutiveFailures hentry
    dsimp only at hcount
    omega
  · intro hzero
    simp [recordFailure, hzero]

theorem step_settings (cb : CircuitBreakerMap) (call : BreakerCall) :
    (cb.step call).threshold = cb.threshold ∧
      (cb.step call).recoverySecs = cb.recoverySecs := by
  unfold step
  cases call.op with
  | allow u =>
      simp only [allow]
      split
      · exact ⟨rfl, rfl⟩
      · split <;> exact ⟨rfl, rfl⟩
  | recordSuccess u =>
      simp only [recordSuccess]
      split
      · exact ⟨rfl, rfl⟩
      · split <;> exact ⟨rfl, rfl⟩
  | recordFailure u =>
      simp only [recordFailure]
      split <;> exact ⟨rfl, rfl⟩

theorem run_settings (cb : CircuitBreakerMap) (history : List BreakerCall) :
    (cb.run history).threshold = cb.threshold ∧
      (cb.run history).recoverySecs = cb.recoverySecs := by
  induction history generalizing cb with
  | nil => exact ⟨rfl, rfl⟩
  | cons call history ih =>
      obtain ⟨hthreshold, hrecovery⟩ := step_settings cb call
      obtain ⟨hth, hrec⟩ := ih (cb.step call)
      exact ⟨hth.trans hthreshold, hrec.trans hrecovery⟩

@[simp] theorem run_threshold (cb : CircuitBreakerMap)
    (history : List BreakerCall) :
    (cb.run history).threshold = cb.threshold :=
  (run_settings cb history).1

@[simp] theorem run_recoverySecs (cb : CircuitBreakerMap)
    (history : List BreakerCall) :
    (cb.run history).recoverySecs = cb.recoverySecs :=
  (run_settings cb history).2

end CircuitBreakerMap

end ServiceRouter
