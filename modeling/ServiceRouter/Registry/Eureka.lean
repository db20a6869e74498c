import ServiceRouter.Config.Model
import ServiceRouter.Registry.Client

/-!
# The Eureka client

One request lists the instances of an application; those that are up are
returned.
-/

namespace ServiceRouter

open Foundation

structure EurekaRegistry where
  config : EurekaConfig

def EurekaInstance.toInstance (inst : EurekaInstance) : ServiceInstance where
  host := inst.ipAddr
  port := inst.port.value
  metadata := inst.metadata.getD ∅

namespace EurekaRegistry

variable (registry : EurekaRegistry)

def baseUrl : String := trimEndMatches registry.config.serverUrl '/'

def appUrl (serviceName : String) : String :=
  s!"{registry.baseUrl}/apps/{serviceName}"

def healthUrl : String :=
  let path := trim registry.config.healthPath
  if path.isEmpty then s!"{registry.baseUrl}/apps"
  else if startsWith path "/" then s!"{registry.baseUrl}{path}"
  else s!"{registry.baseUrl}/{path}"

def addAuth (req : RegistryRequest) : RegistryRequest :=
  match registry.config.auth with
  | some auth => { req with auth := .basic auth.username auth.password }
  | none => req

def appRequest (tables : CaseMapping) (serviceId : String) : RegistryRequest :=
  registry.addAuth
    { url := registry.appUrl (tables.toUppercase serviceId)
      accept := some "application/json" }

def getHealthyInstances (tables : CaseMapping) (serviceId : String) :
    RegistryProgram (Except RegistryError (List ServiceInstance)) := do
  let sent ← (RegistryOp.send (registry.appRequest tables serviceId)).ask
  match sent with
  | .error reason => return .error (.http reason)
  | .ok status =>
      if status.isUnauthorized then return .error .authFailed
      else if status.isNotFound then return .ok []
      else if !status.isSuccess then
        return .error (.unexpectedResponse
          s!"Eureka returned {status.display}")
      else do
        let body ← readBody .eurekaApp
        match body with
        | .error e => return .error e
        | .ok app =>
            let up := (EurekaApp.application app).instance_.filter
              fun i => i.status = "UP"
            return .ok (up.map EurekaInstance.toInstance)

end EurekaRegistry

end ServiceRouter
