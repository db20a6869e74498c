import ServiceRouter.Config.Model
import ServiceRouter.Foundation.SharedCell
import ServiceRouter.Registry.Client

/-!
# The Nacos client

The client logs in for an access token, keeps it in a slot, and sends it with
every list request.  A task logs in again at intervals, and a lookup that is
denied logs in and asks once more.
-/

namespace ServiceRouter

open Foundation

/-- The token is in a slot that the client shares with its refresh task. -/
structure NacosRegistry where
  config : NacosConfig

def NacosHost.toInstance (host : NacosHost) : ServiceInstance where
  host := host.ip
  port := host.port
  metadata := host.metadata.getD ∅

namespace NacosRegistry

variable (registry : NacosRegistry)

/-! ## Requests -/

/-- The server with and without the path `/nacos` has one API root. -/
def apiBase : String :=
  let base := trimEndMatches registry.config.serverAddr '/'
  if "/nacos".toList.isSuffixOf base.toList then base else s!"{base}/nacos"

def loginUrl : String := s!"{registry.apiBase}/v1/auth/login"

def loginRequest (auth : NacosAuth) : RegistryRequest where
  method := .post
  url := registry.loginUrl
  form := [("username", auth.username), ("password", auth.password)]

def listUrl (serviceId : String) : String :=
  let url := s!"{registry.apiBase}/v1/ns/instance/list" ++
    s!"?serviceName={serviceId}&healthyOnly=true"
  let url := match registry.config.namespace_ with
    | some ns => url ++ s!"&namespaceId={ns}"
    | none => url
  match registry.config.group with
  | some group => url ++ s!"&groupName={group}"
  | none => url

/-- The first list request carries a token only if there is one. -/
def listAuth (token : String) : RegistryAuth :=
  if token = "" then .none else .bearer token

def listRequest (serviceId : String) (auth : RegistryAuth) : RegistryRequest where
  url := registry.listUrl serviceId
  auth := auth

/-! ## Logging in -/

def authenticate : RegistryProgram (Except RegistryError Unit) :=
  match registry.config.auth with
  | none => return .ok ()
  | some auth => do
      let sent ← (RegistryOp.send (registry.loginRequest auth)).ask
      match sent with
      | .error reason => return .error (.http reason)
      | .ok status =>
          if status.isForbidden || status.isUnauthorized then
            return .error .authFailed
          else do
            let body ← readBody .nacosLogin
            match body with
            | .error e => return .error e
            | .ok login => do
                (RegistryOp.storeToken login.accessToken).ask
                return .ok ()

def new : RegistryProgram (Except RegistryError Unit) :=
  match registry.config.auth with
  | none => return .ok ()
  | some _ => registry.authenticate

/-- One turn of the refresh loop; a failure leaves the token. -/
def refreshTurn (auth : NacosAuth) : RegistryProgram Unit := do
  RegistryOp.tick.ask
  let sent ← (RegistryOp.send (registry.loginRequest auth)).ask
  match sent with
  | .error _ => return ()
  | .ok _ => do
      let body ← (RegistryOp.json .nacosLogin).ask
      match body with
      | .error _ => return ()
      | .ok login => (RegistryOp.storeToken login.accessToken).ask

def refreshTurns (auth : NacosAuth) : Nat → RegistryProgram Unit
  | 0 => return ()
  | turns + 1 => do
      registry.refreshTurn auth
      refreshTurns auth turns

/-- The task of `start_token_refresh_task` for as many turns; an interval of
zero seconds panics. -/
def tokenRefreshTask (turns : Nat) : RegistryProgram Unit :=
  match registry.config.auth with
  | none => do
      -- Skip the first tick, then break at the next.
      RegistryOp.tick.ask
      RegistryOp.tick.ask
  | some auth =>
      if auth.tokenRefreshIntervalSecs = 0
      then .abort "`period` must be non-zero."
      else do
        RegistryOp.tick.ask
        registry.refreshTurns auth turns

/-! ## Lookups -/

def parseInstances (status : StatusCode) :
    RegistryProgram (Except RegistryError (List ServiceInstance)) :=
  if !status.isSuccess then
    return .error (.unexpectedResponse s!"Nacos returned {status.display}")
  else do
    let body ← readBody .nacosInstanceList
    match body with
    | .error e => return .error e
    | .ok list =>
        let healthy := list.hosts.filter NacosHost.healthy
        return .ok (healthy.map NacosHost.toInstance)

/-- Log in, and ask with the token that is current then. -/
def retryLookup (serviceId : String) :
    RegistryProgram (Except RegistryError (List ServiceInstance)) := do
  let login ← registry.authenticate
  match login with
  | .error e => return .error e
  | .ok () => do
      let token ← RegistryOp.loadToken.ask
      let sent ← (RegistryOp.send
        (registry.listRequest serviceId (.bearer token))).ask
      match sent with
      | .error reason => return .error (.http reason)
      | .ok status => parseInstances status

def getHealthyInstances (serviceId : String) :
    RegistryProgram (Except RegistryError (List ServiceInstance)) := do
  let token ← RegistryOp.loadToken.ask
  let sent ← (RegistryOp.send
    (registry.listRequest serviceId (listAuth token))).ask
  match sent with
  | .error reason => return .error (.http reason)
  | .ok status =>
      if status.isUnauthorized || status.isForbidden then
        registry.retryLookup serviceId
      else parseInstances status

end NacosRegistry

end ServiceRouter
