import ServiceRouter.Foundation.HashMap
import ServiceRouter.Foundation.Text

/-!
# Service instances

What a registry returns for a service, and the weight an instance asks for.
-/

namespace ServiceRouter

open Foundation

structure ServiceInstance where
  host : String
  port : Nat
  metadata : HashMap String String := ∅
  deriving DecidableEq

def ServiceInstance.baseUrl (inst : ServiceInstance) : String :=
  s!"http://{inst.host}:{inst.port}"

/-- The key under which the health checker knows the instance. -/
def ServiceInstance.hostPort (inst : ServiceInstance) : String :=
  s!"{inst.host}:{inst.port}"

/-- The `weight` metadata entry; one when it is absent, malformed or zero. -/
def ServiceInstance.weight (inst : ServiceInstance) : Nat :=
  max (((inst.metadata.lookup "weight").bind parseUsize).getD 1) 1

end ServiceRouter
