import ServiceRouter.Error
import ServiceRouter.Foundation.Counters

/-!
# Proxy metrics

Counters of 64 bits for matched rules and for terminal failures, the latter
under stable codes.
-/

namespace ServiceRouter

open Foundation

structure ProxyMetrics where
  routeHits : HashMap String Nat := ∅
  failureReasons : HashMap String Nat := ∅

def ProxyMetrics.recordRouteHit (metrics : ProxyMetrics) (ruleId : String) :
    ProxyMetrics :=
  { metrics with
    routeHits := Counters.increment 64 metrics.routeHits ruleId }

def ProxyMetrics.recordFailure (metrics : ProxyMetrics)
    (reasonCode : String) : ProxyMetrics :=
  { metrics with
    failureReasons := Counters.increment 64 metrics.failureReasons reasonCode }

def failureCodeForRegistry : RegistryError → String
  | .http _ => "registry_http"
  | .unexpectedResponse _ => "registry_unexpected"
  | .serviceNotFound _ => "registry_not_found"
  | .authFailed => "registry_auth_failed"
  | .allFailed _ => "registry_all_failed"

def failureCodeForProxy : ProxyError → String
  | .noInstances _ => "no_instances"
  | .registry e => failureCodeForRegistry e
  | .upstreamConnection _ => "upstream_connection"
  | .wsUpgrade _ => "ws_upgrade"
  | .bodyRead _ => "body_read"
  | .pluginError _ => "plugin_error"

end ServiceRouter
