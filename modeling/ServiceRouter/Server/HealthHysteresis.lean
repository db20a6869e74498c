import ServiceRouter.Foundation.Hysteresis
import ServiceRouter.Foundation.Typestate
import ServiceRouter.Server.HealthChecker

/-!
# Hysteresis of the health checks

A key is unhealthy exactly when the hysteresis of its own results says so, and
a probe round records each key at most once.
-/

namespace ServiceRouter

open Foundation

/-! ## Recording results -/

/-- The result of one probe; `true` is a success. -/
abbrev ProbeResult := String × Bool

namespace HealthStatus

def record (unhealthyThreshold healthyThreshold : Nat)
    (status : HealthStatus) (result : ProbeResult) : HealthStatus :=
  if result.2 then status.recordSuccess result.1 healthyThreshold
  else status.recordFailure result.1 unhealthyThreshold

def recordAll (unhealthyThreshold healthyThreshold : Nat)
    (status : HealthStatus) (results : List ProbeResult) : HealthStatus :=
  results.foldl (record unhealthyThreshold healthyThreshold) status

end HealthStatus

/-- The results of a key, the last one at the end. -/
def historyOf (key : String) (results : List ProbeResult) : List Bool :=
  (results.filter fun result => result.1 = key).map Prod.snd

theorem historyOf_concat_self (key : String) (ok : Bool)
    (results : List ProbeResult) :
    historyOf key (results ++ [(key, ok)]) =
      historyOf key results ++ [ok] := by
  simp [historyOf]

theorem historyOf_concat_of_ne {key other : String} (h : other ≠ key)
    (ok : Bool) (results : List ProbeResult) :
    historyOf key (results ++ [(other, ok)]) = historyOf key results := by
  simp [historyOf, h]

/-! ## What one result changes -/

section Step

variable {unhealthyThreshold healthyThreshold : Nat}

/-- A counter that has counted `n` equal results in a row; there is none
before the first. -/
def countOf (n : Nat) : Option Nat :=
  if n = 0 then none else some (n % 2 ^ 32)

theorem next_countOf (n : Nat) :
    Counters.next 32 (countOf n) = (n + 1) % 2 ^ 32 := by
  unfold countOf
  split
  · rename_i hzero
    subst hzero
    rfl
  · rw [Counters.next, Nat.mod_add_mod]

theorem lookup_increment_self {counts : HashMap String Nat} {key : String}
    {n : Nat} (h : counts.lookup key = countOf n) :
    (Counters.increment 32 counts key).lookup key = some ((n + 1) % 2 ^ 32) := by
  rw [Counters.increment, AList.lookup_insert, h, next_countOf]

theorem lookup_increment_of_ne {counts : HashMap String Nat}
    {key other : String} (h : key ≠ other) :
    (Counters.increment 32 counts other).lookup key = counts.lookup key :=
  AList.lookup_insert_ne h

/-- A result says nothing about other keys. -/
theorem record_of_ne (unhealthyThreshold healthyThreshold : Nat)
    (status : HealthStatus) {key other : String} (h : key ≠ other) (ok : Bool) :
    let after := status.record unhealthyThreshold healthyThreshold (other, ok)
    after.failCounts.lookup key = status.failCounts.lookup key ∧
      after.okCounts.lookup key = status.okCounts.lookup key ∧
      after.isHealthy key = status.isHealthy key := by
  cases ok with
  | true =>
      refine ⟨AList.lookup_erase_ne h, lookup_increment_of_ne h, ?_⟩
      simp only [HealthStatus.record, HealthStatus.recordSuccess,
        HealthStatus.isHealthy, if_true]
      split
      · rw [AList.lookup_erase_ne h]
      · rfl
  | false =>
      refine ⟨lookup_increment_of_ne h, AList.lookup_erase_ne h, ?_⟩
      simp only [HealthStatus.record, HealthStatus.recordFailure,
        HealthStatus.isHealthy, Bool.false_eq_true, if_false]
      split
      · rw [AList.lookup_insert_ne h]
      · rfl

theorem isHealthy_recordSuccess {status : HealthStatus} {key : String}
    {n : Nat} (hcount : status.okCounts.lookup key = countOf n)
    (hfits : n + 1 < 2 ^ 32) :
    (status.recordSuccess key healthyThreshold).isHealthy key = false ↔
      status.isHealthy key = false ∧ ¬ max healthyThreshold 1 ≤ n + 1 := by
  simp only [HealthStatus.recordSuccess, HealthStatus.isHealthy,
    lookup_increment_self hcount, Option.getD_some, Nat.mod_eq_of_lt hfits]
  by_cases h : healthyThreshold ≤ n + 1
  · rw [if_pos h, AList.lookup_erase]
    exact iff_of_false (by decide) fun hnot => by omega
  · rw [if_neg h]
    exact (and_iff_left (by omega)).symm

theorem isHealthy_recordFailure {status : HealthStatus} {key : String}
    {n : Nat} (hcount : status.failCounts.lookup key = countOf n)
    (hfits : n + 1 < 2 ^ 32) :
    (status.recordFailure key unhealthyThreshold).isHealthy key = false ↔
      status.isHealthy key = false ∨ max unhealthyThreshold 1 ≤ n + 1 := by
  simp only [HealthStatus.recordFailure, HealthStatus.isHealthy,
    lookup_increment_self hcount, Option.getD_some, Nat.mod_eq_of_lt hfits]
  by_cases h : unhealthyThreshold ≤ n + 1
  · rw [if_pos h, AList.lookup_insert]
    exact iff_of_true rfl (.inr (by omega))
  · rw [if_neg h]
    exact (or_iff_left (by omega)).symm

end Step

/-! ## Whole histories -/

section Run

variable {unhealthyThreshold healthyThreshold : Nat} {key : String}

/-- The counters of a key count the results at the end of its history. -/
theorem counts_recordAll (unhealthyThreshold healthyThreshold : Nat)
    (key : String) (results : List ProbeResult) :
    let status := HealthStatus.new.recordAll unhealthyThreshold
      healthyThreshold results
    status.failCounts.lookup key =
        countOf (trailing false (historyOf key results)) ∧
      status.okCounts.lookup key =
        countOf (trailing true (historyOf key results)) := by
  induction results using List.reverseRecOn with
  | nil => exact ⟨rfl, rfl⟩
  | append_singleton results result ih =>
      obtain ⟨other, ok⟩ := result
      obtain ⟨hfail, hok⟩ := ih
      simp only [HealthStatus.recordAll, List.foldl_concat]
      by_cases h : other = key
      · subst h
        rw [historyOf_concat_self]
        cases ok with
        | true =>
            rw [trailing_concat_self, trailing_concat_of_ne (by decide)]
            exact ⟨AList.lookup_erase _ _, lookup_increment_self hok⟩
        | false =>
            rw [trailing_concat_self, trailing_concat_of_ne (by decide)]
            exact ⟨lookup_increment_self hfail, AList.lookup_erase _ _⟩
      · have hother := record_of_ne unhealthyThreshold healthyThreshold
          (HealthStatus.new.recordAll unhealthyThreshold healthyThreshold
            results) (Ne.symm h) ok
        rw [historyOf_concat_of_ne h]
        exact ⟨hother.1.trans hfail, hother.2.1.trans hok⟩

/-- There is no run of equal results as long as the counters are wide. -/
def NoLongRun (history : List Bool) : Prop :=
  ∀ ok, ¬ List.replicate (2 ^ 32) ok <:+: history

theorem NoLongRun.trailing_lt {history : List Bool} (h : NoLongRun history)
    (ok : Bool) : trailing ok history < 2 ^ 32 := by
  by_contra hlong
  exact h ok (replicate_suffix_iff.mpr (not_lt.mp hlong)).isInfix

theorem isHealthy_recordAll {results : List ProbeResult}
    (hshort : NoLongRun (historyOf key results)) :
    (HealthStatus.new.recordAll unhealthyThreshold healthyThreshold
        results).isHealthy key = false ↔
      Marked (max unhealthyThreshold 1) (max healthyThreshold 1)
        (historyOf key results) := by
  induction results using List.reverseRecOn with
  | nil =>
      refine iff_of_false ?_ (not_marked_nil (by omega))
      simp [HealthStatus.recordAll, HealthStatus.isHealthy, HealthStatus.new]
  | append_singleton results result ih =>
      obtain ⟨other, ok⟩ := result
      simp only [HealthStatus.recordAll, List.foldl_concat]
      by_cases h : other = key
      · subst h
        rw [historyOf_concat_self] at hshort ⊢
        have hbefore : NoLongRun (historyOf other results) := fun b hb =>
          hshort b (hb.trans (List.prefix_append _ _).isInfix)
        have hcounts := counts_recordAll unhealthyThreshold healthyThreshold
          other results
        have hfits := hshort.trailing_lt ok
        rw [trailing_concat_self] at hfits
        cases ok with
        | true =>
            rw [marked_concat_true (by omega), ← ih hbefore]
            exact isHealthy_recordSuccess hcounts.2 hfits
        | false =>
            rw [marked_concat_false (by omega), ← ih hbefore]
            exact isHealthy_recordFailure hcounts.1 hfits
      · have hother := record_of_ne unhealthyThreshold healthyThreshold
          (HealthStatus.new.recordAll unhealthyThreshold healthyThreshold
            results) (Ne.symm h) ok
        rw [historyOf_concat_of_ne h] at hshort ⊢
        rw [← ih hshort]
        exact iff_of_eq (congrArg (· = false) hother.2.2)

end Run

/-! ## Probe rounds -/

def resultOf (exchange : ProbeExchange) : Option ProbeResult :=
  match exchange.op with
  | .recordSuccess key _ => some (key, true)
  | .recordFailure key _ => some (key, false)
  | _ => none

/-- The results recorded in a log. -/
def resultsOf (log : List ProbeExchange) : List ProbeResult :=
  log.filterMap resultOf

/-- What the exchanges of a log do to the status. -/
def HealthStatus.after (status : HealthStatus) :
    List ProbeExchange → HealthStatus
  | [] => status
  | exchange :: log =>
      match exchange.op with
      | .recordSuccess key threshold =>
          (status.recordSuccess key threshold).after log
      | .recordFailure key threshold =>
          (status.recordFailure key threshold).after log
      | _ => status.after log

/-- The keys recorded so far; a key is recorded once, with the thresholds of
the configuration. -/
def recordsOnce (config : HealthCheckConfig) :
    Typestate ProbeInterface (List String) where
  allowed seenKeys op :=
    match op with
    | .recordSuccess key threshold =>
        key ∉ seenKeys ∧ threshold = config.healthyThreshold
    | .recordFailure key threshold =>
        key ∉ seenKeys ∧ threshold = config.unhealthyThreshold
    | _ => True
  next seenKeys op :=
    match op with
    | .recordSuccess key _ => key :: seenKeys
    | .recordFailure key _ => key :: seenKeys
    | _ => seenKeys

section Rounds

variable {config : HealthCheckConfig}

theorem probeInstances_follows (instances : List ServiceInstance)
    (seenKeys : List String) :
    (probeInstances config instances seenKeys).Follows (recordsOnce config)
      (fun recorded seenKeys => recorded = seenKeys) seenKeys := by
  induction instances generalizing seenKeys with
  | nil => rfl
  | cons inst instances ih =>
      unfold probeInstances
      dsimp only
      split
      · exact ih seenKeys
      · rename_i hfresh
        refine ⟨trivial, fun answer => ?_⟩
        change Program.Follows _ _ seenKeys
          (if answersSuccess answer = true then _ else _)
        split
        · exact ⟨⟨hfresh, rfl⟩, fun _ => ih (inst.hostPort :: seenKeys)⟩
        · exact ⟨⟨hfresh, rfl⟩, fun _ => ih (inst.hostPort :: seenKeys)⟩

theorem probeRoutes_follows (routes : List RoutingRule)
    (seenKeys : List String) :
    (probeRoutes config routes seenKeys).Follows (recordsOnce config)
      (fun _ _ => True) seenKeys := by
  induction routes generalizing seenKeys with
  | nil => trivial
  | cons route routes ih =>
      unfold probeRoutes
      cases route.serviceId with
      | none => exact ih seenKeys
      | some svcId =>
          refine ⟨trivial, fun resolved => ?_⟩
          cases resolved with
          | error e => exact ih seenKeys
          | ok instances =>
              change Program.Follows _ _ seenKeys
                ((probeInstances config instances seenKeys).bind _)
              apply Program.follows_bind.mpr
              apply (probeInstances_follows instances seenKeys).mono
              rintro recorded seenKeys rfl
              exact ih recorded

theorem probeAll_follows :
    (probeAll config).Follows (recordsOnce config) (fun _ _ => True) [] :=
  ⟨trivial, fun cfg => probeRoutes_follows cfg.routes []⟩

private theorem nodup_cons_of_fresh {key : String}
    {keys seenKeys : List String} (hfresh : key ∉ seenKeys)
    (hnodup : keys.Nodup) (hunseen : ∀ k ∈ keys, k ∉ key :: seenKeys) :
    (key :: keys).Nodup ∧ ∀ k ∈ key :: keys, k ∉ seenKeys := by
  constructor
  · apply List.nodup_cons.mpr
    exact ⟨fun hmem => hunseen key hmem List.mem_cons_self, hnodup⟩
  · intro k hk
    rcases List.mem_cons.mp hk with rfl | hk
    · exact hfresh
    · exact fun hmem => hunseen k hk (List.mem_cons_of_mem _ hmem)

theorem nodup_of_accepts {log : List ProbeExchange} {seenKeys : List String}
    (h : (recordsOnce config).Accepts seenKeys log) :
    ((resultsOf log).map Prod.fst).Nodup ∧
      ∀ key ∈ (resultsOf log).map Prod.fst, key ∉ seenKeys := by
  induction log generalizing seenKeys with
  | nil => simp [resultsOf]
  | cons exchange log ih =>
      obtain ⟨op, reply⟩ := exchange
      obtain ⟨hallowed, hrest⟩ := h
      obtain ⟨hnodup, hunseen⟩ := ih hrest
      cases op with
      | recordSuccess key threshold =>
          exact nodup_cons_of_fresh hallowed.1 hnodup hunseen
      | recordFailure key threshold =>
          exact nodup_cons_of_fresh hallowed.1 hnodup hunseen
      | _ => exact ⟨hnodup, hunseen⟩

theorem after_of_accepts {log : List ProbeExchange} {seenKeys : List String}
    (h : (recordsOnce config).Accepts seenKeys log) (status : HealthStatus) :
    status.after log = status.recordAll config.unhealthyThreshold
      config.healthyThreshold (resultsOf log) := by
  induction log generalizing seenKeys status with
  | nil => rfl
  | cons exchange log ih =>
      obtain ⟨op, reply⟩ := exchange
      obtain ⟨hallowed, hrest⟩ := h
      cases op with
      | recordSuccess key threshold =>
          obtain ⟨-, rfl⟩ := hallowed
          exact ih hrest _
      | recordFailure key threshold =>
          obtain ⟨-, rfl⟩ := hallowed
          exact ih hrest _
      | _ => exact ih hrest status

theorem after_append (status : HealthStatus) (first second : List ProbeExchange) :
    status.after (first ++ second) = (status.after first).after second := by
  induction first generalizing status with
  | nil => rfl
  | cons exchange first ih =>
      obtain ⟨op, reply⟩ := exchange
      cases op with
      | recordSuccess key threshold => exact ih _
      | recordFailure key threshold => exact ih _
      | _ => exact ih status

/-- Rounds only record results, with the same thresholds. -/
theorem after_rounds {rounds : List (List ProbeExchange)}
    (hrounds : ∀ log ∈ rounds, ∃ rest, (probeAll config).Runs log rest)
    (status : HealthStatus) :
    status.after rounds.flatten = status.recordAll config.unhealthyThreshold
      config.healthyThreshold (resultsOf rounds.flatten) := by
  induction rounds generalizing status with
  | nil => rfl
  | cons log rounds ih =>
      rw [List.forall_mem_cons] at hrounds
      obtain ⟨⟨rest, hrun⟩, hrounds⟩ := hrounds
      have haccepts := (probeAll_follows.of_runs hrun).1
      have hresults : resultsOf (log ++ rounds.flatten) =
          resultsOf log ++ resultsOf rounds.flatten :=
        List.filterMap_append
      rw [List.flatten_cons, after_append, after_of_accepts haccepts,
        ih hrounds, hresults, HealthStatus.recordAll, HealthStatus.recordAll,
        HealthStatus.recordAll, List.foldl_append]

end Rounds

/-- A round records each key at most once.  After any rounds, and after any
recorded results at all, a key is unhealthy if and only if its history is
marked; it never has both counters. -/
theorem health_hysteresis (config : HealthCheckConfig) :
    (∀ log rest, (probeAll config).Runs log rest →
      ((resultsOf log).map Prod.fst).Nodup) ∧
    (∀ rounds : List (List ProbeExchange),
      (∀ log ∈ rounds, ∃ rest, (probeAll config).Runs log rest) →
      ∀ key, NoLongRun (historyOf key (resultsOf rounds.flatten)) →
      ((HealthStatus.new.after rounds.flatten).isHealthy key = false ↔
        Marked (max config.unhealthyThreshold 1)
          (max config.healthyThreshold 1)
          (historyOf key (resultsOf rounds.flatten)))) ∧
    ∀ results key,
      let status := HealthStatus.new.recordAll config.unhealthyThreshold
        config.healthyThreshold results
      (NoLongRun (historyOf key results) →
        (status.isHealthy key = false ↔
          Marked (max config.unhealthyThreshold 1)
            (max config.healthyThreshold 1) (historyOf key results))) ∧
      (status.failCounts.lookup key = none ∨
        status.okCounts.lookup key = none) := by
  refine ⟨fun log rest hrun => ?_, fun rounds hrounds key hshort => ?_,
    fun results key => ⟨isHealthy_recordAll, ?_⟩⟩
  · exact (nodup_of_accepts (probeAll_follows.of_runs hrun).1).1
  · rw [after_rounds hrounds]
    exact isHealthy_recordAll hshort
  · obtain ⟨hfail, hok⟩ := counts_recordAll config.unhealthyThreshold
      config.healthyThreshold key results
    rw [hfail, hok]
    have hone := trailing_eq_zero_or Bool.false_ne_true (historyOf key results)
    rcases hone with h | h
    · rw [h]
      exact .inl rfl
    · rw [h]
      exact .inr rfl

/-- The third failure in a row marks the key, whatever another key did. -/
theorem health_hysteresis_third :
    (HealthStatus.new.recordAll 3 1 [("a:80", false), ("a:80", false),
      ("b:80", true), ("a:80", false)]).isHealthy "a:80" = false := by
  have hiff := (health_hysteresis {}).2.2 [("a:80", false), ("a:80", false),
    ("b:80", true), ("a:80", false)] "a:80"
  have hhistory : historyOf "a:80" [("a:80", false), ("a:80", false),
      ("b:80", true), ("a:80", false)] = [false, false, false] := by decide
  rw [hhistory] at hiff
  refine (hiff.1 fun ok hlong => ?_).mpr
    ⟨[false, false, false], [], rfl, List.suffix_refl _, by decide⟩
  have hlength := hlong.length_le
  rw [List.length_replicate] at hlength
  simp at hlength

end ServiceRouter
