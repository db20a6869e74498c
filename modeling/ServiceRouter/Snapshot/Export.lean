import Mathlib.Data.Finmap
import ServiceRouter.Config.Loader
import ServiceRouter.Config.Serialize
import ServiceRouter.Foundation.StableSort
import ServiceRouter.Foundation.UnixPath

/-!
# The exported configuration snapshot

A copy of the configuration for tickets.  Registries and routes are reduced to
rows without secrets; the server section is exported as it is.
-/

namespace ServiceRouter

open Foundation

/-! ## Credentials in URLs -/

/-- The part of the `url` crate that redaction uses.  Setting a component that
the URL cannot have leaves it as it is. -/
structure UrlCrate where
  Url : Type
  parse : String → Option Url
  scheme : Url → String
  host : Url → Option String
  port : Url → Option Nat
  path : Url → String
  query : Url → Option String
  fragment : Url → Option String
  setUsername : Url → String → Url
  setPassword : Url → Option String → Url
  print : Url → String

def UrlCrate.isHttpLike (crate : UrlCrate) (u : crate.Url) : Bool :=
  ["http", "https", "ws", "wss"].contains (crate.scheme u)

def UrlCrate.clearUserinfo (crate : UrlCrate) (u : crate.Url) : crate.Url :=
  crate.setPassword (crate.setUsername u "") none

def redactHttpCredentials (crate : UrlCrate) (s : String) : String :=
  match crate.parse s with
  | some u =>
      if crate.isHttpLike u then crate.print (crate.clearUserinfo u) else s
  | none => s

/-! ## Rows -/

inductive RegistrySnapshotRow where
  | nacos (priority : Nat) (serverAddr : String) (namespace_ : Option String)
      (group : Option String) (authConfigured : Bool)
  | eureka (priority : Nat) (serverUrl healthPath : String)
      (authConfigured : Bool)
  | kubernetes (priority : Nat) (apiServerUrl : String)
      (namespace_ : Option String) (kubeconfigBasename : Option String)
      (kubeconfigContext : Option String) (insecureSkipTlsVerify : Bool)
      (endpointSliceLabelSelector : Option String)
      (bearerAuthConfigured tokenFileConfigured : Bool)
  -- The counts are a map, whatever the order it is iterated in.
  | mock (priority : Nat) (serviceInstanceCounts : Finmap fun _ : String => Nat)
      (errorServiceIds : List String) (healthBehavior : String)

structure RegistriesSnapshot where
  queryMode : RegistryQueryMode
  sources : List RegistrySnapshotRow

structure RouteSnapshotRow where
  id : String
  priority : Nat
  pathKind : String
  pathPattern : String
  methods : Option (List String)
  headerKeys : Option (List String)
  serviceId : Option String
  upstreamUrlRedacted : Option String
  stripPrefix : Option String
  responseHeaderKeys : Option (List String)
  deriving DecidableEq

structure ConfigSnapshotExport where
  diagnosticVersion : String
  snapshotId : String
  configBasename : String
  logLevel : String
  server : ServerConfig
  registries : RegistriesSnapshot
  routes : List RouteSnapshotRow

/-! ## Building the export -/

def sortedKeys {ν : Type} (map : HashMap String ν) : List String :=
  sortByKey id map.keys

def mockServiceCounts (c : MockRegistryConfig) : HashMap String Nat :=
  HashMap.collect Sigma.fst (fun entry => entry.2.length) c.services.entries

def mockHealthKind : MockRegistryHealthBehavior → String
  | .healthy => "healthy"
  | .degraded _ => "degraded"
  | .unhealthy _ => "unhealthy"

def registrySnapshotRow (crate : UrlCrate) :
    RegistryConfig → RegistrySnapshotRow
  | .nacos c =>
      .nacos c.priority (redactHttpCredentials crate c.serverAddr)
        c.namespace_ c.group c.auth.isSome
  | .eureka c =>
      .eureka c.priority (redactHttpCredentials crate c.serverUrl)
        c.healthPath c.auth.isSome
  | .kubernetes c =>
      .kubernetes c.priority (redactHttpCredentials crate c.apiServerUrl)
        c.namespace_ (c.kubeconfigPath.bind fileName) c.kubeconfigContext
        c.insecureSkipTlsVerify c.endpointSliceLabelSelector
        (c.auth.bind K8sAuth.token).isSome
        (c.auth.bind K8sAuth.tokenFile).isSome
  | .mock c =>
      .mock c.priority (mockServiceCounts c).toFinmap
        (sortedKeys c.errorServices) (mockHealthKind c.healthBehavior)

def registriesSnapshot (crate : UrlCrate) (rc : RegistriesConfig) :
    RegistriesSnapshot where
  queryMode := rc.queryMode
  sources := rc.sources.map (registrySnapshotRow crate)

def pathParts : PathMatcher → String × String
  | .exact value => ("exact", value)
  | .prefix_ value => ("prefix", value)
  | .glob value => ("glob", value)
  | .regex value => ("regex", value)

def routeSnapshotRow (crate : UrlCrate) (rule : RoutingRule) :
    RouteSnapshotRow where
  id := rule.id
  priority := rule.priority
  pathKind := (pathParts rule.path).1
  pathPattern := (pathParts rule.path).2
  methods := rule.methods
  headerKeys := rule.headers.map sortedKeys
  serviceId := rule.serviceId
  upstreamUrlRedacted := rule.upstreamUrl.map (redactHttpCredentials crate)
  stripPrefix := rule.stripPrefix
  responseHeaderKeys := rule.responseHeaders.bind fun h =>
    if h.entries.isEmpty then none else some (sortedKeys h)

/-- `snapshotId` is a fresh UUID. -/
def buildConfigSnapshotExport (crate : UrlCrate) (snapshotId : String)
    (config : AppConfig) (configYamlPath : PathBuf) :
    ConfigSnapshotExport where
  diagnosticVersion := "1.0"
  snapshotId := snapshotId
  configBasename := (fileName configYamlPath.display).getD "(unknown)"
  logLevel := config.logLevel
  server := config.server
  registries := registriesSnapshot crate config.registries
  routes := config.routes.map (routeSnapshotRow crate)

end ServiceRouter
