import ServiceRouter.Config.Model
import ServiceRouter.Error
import ServiceRouter.Foundation.Counters
import ServiceRouter.Foundation.Interaction
import ServiceRouter.Registry.Instance

/-!
# Active health checks

The health of an upstream instance is known under its `host:port` key.  A probe
round asks every instance once and records what it answered; the requests only
read which keys are marked.
-/

namespace ServiceRouter

open Foundation

/-! ## What is known of each key -/

structure HealthStatus where
  /-- A key that is present is unhealthy. -/
  unhealthy : HashMap String Unit := ∅
  /-- Failures in a row. -/
  failCounts : HashMap String Nat := ∅
  /-- Successes in a row. -/
  okCounts : HashMap String Nat := ∅

namespace HealthStatus

def new : HealthStatus := {}

def isHealthy (status : HealthStatus) (key : String) : Bool :=
  (status.unhealthy.lookup key).isNone

def recordSuccess (status : HealthStatus) (key : String)
    (healthyThreshold : Nat) : HealthStatus :=
  let okCounts := Counters.increment 32 status.okCounts key
  let count := (okCounts.lookup key).getD 0
  { failCounts := status.failCounts.erase key
    okCounts := okCounts
    unhealthy :=
      if healthyThreshold ≤ count then status.unhealthy.erase key
      else status.unhealthy }

def recordFailure (status : HealthStatus) (key : String)
    (unhealthyThreshold : Nat) : HealthStatus :=
  let failCounts := Counters.increment 32 status.failCounts key
  let count := (failCounts.lookup key).getD 0
  { okCounts := status.okCounts.erase key
    failCounts := failCounts
    unhealthy :=
      if unhealthyThreshold ≤ count then status.unhealthy.insert key ()
      else status.unhealthy }

end HealthStatus

/-! ## Probe rounds -/

inductive ProbeOp where
  | loadConfig
  /-- Ask the resolver that was loaded when the round began. -/
  | resolve (serviceId : String)
  /-- Send a request to this address; the reply is the response status. -/
  | get (url : String)
  | recordSuccess (key : String) (healthyThreshold : Nat)
  | recordFailure (key : String) (unhealthyThreshold : Nat)

def ProbeOp.Reply : ProbeOp → Type
  | .loadConfig => AppConfig
  | .resolve _ => Except RegistryError (List ServiceInstance)
  | .get _ => Except String Nat
  | .recordSuccess _ _ => Unit
  | .recordFailure _ _ => Unit

def ProbeInterface : Interface := ⟨ProbeOp, ProbeOp.Reply⟩

abbrev ProbeProgram := Program ProbeInterface

abbrev ProbeExchange := Exchange ProbeInterface

def probe (op : ProbeOp) : ProbeProgram op.Reply := .call op .done

def answersSuccess : Except String Nat → Bool
  | .ok status => 200 ≤ status && status < 300
  | .error _ => false

/-- Probe the instances of one service; the result is the keys seen so far. -/
def probeInstances (config : HealthCheckConfig) :
    List ServiceInstance → List String → ProbeProgram (List String)
  | [], seenKeys => return seenKeys
  | inst :: instances, seenKeys => do
      let key := inst.hostPort
      if key ∈ seenKeys then probeInstances config instances seenKeys
      else do
        let url := s!"http://{inst.host}:{inst.port}{config.path}"
        let answer ← probe (.get url)
        if answersSuccess answer then
          probe (.recordSuccess key config.healthyThreshold)
        else probe (.recordFailure key config.unhealthyThreshold)
        probeInstances config instances (key :: seenKeys)

def probeRoutes (config : HealthCheckConfig) :
    List RoutingRule → List String → ProbeProgram Unit
  | [], _ => return ()
  | route :: routes, seenKeys =>
      match route.serviceId with
      | none => probeRoutes config routes seenKeys
      | some svcId => do
          let resolved ← probe (.resolve svcId)
          match resolved with
          | .error _ => probeRoutes config routes seenKeys
          | .ok instances => do
              let seenKeys ← probeInstances config instances seenKeys
              probeRoutes config routes seenKeys

def probeAll (config : HealthCheckConfig) : ProbeProgram Unit := do
  let cfg ← probe .loadConfig
  probeRoutes config cfg.routes []

end ServiceRouter
