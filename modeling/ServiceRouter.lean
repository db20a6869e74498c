import ServiceRouter.Foundation.Interaction
import ServiceRouter.Foundation.Json
import ServiceRouter.Foundation.StableSort
import ServiceRouter.Platform
import ServiceRouter.Error
import ServiceRouter.Config.Model
import ServiceRouter.Config.Serialize
import ServiceRouter.Config.Diff
import ServiceRouter.Config.StrictCheck
import ServiceRouter.Config.Shadowing
import ServiceRouter.Proxy.HopByHop
import ServiceRouter.Proxy.HttpProxy
import ServiceRouter.Proxy.ResponseHeaders
import ServiceRouter.Routing.Matcher
import ServiceRouter.Routing.Router
import ServiceRouter.Routing.Selection
import ServiceRouter.Server.CircuitBreaker
import ServiceRouter.Server.BreakerLaw
import ServiceRouter.Server.Handlers
import ServiceRouter.Server.HandlerRuns
import ServiceRouter.Server.BreakerFeedback
import ServiceRouter.Config.DiffRouting
import ServiceRouter.Main.FailedReload
import ServiceRouter.Main.ReloadNoticed
import ServiceRouter.Main.LocalOverride
import ServiceRouter.Registry.Factory
import ServiceRouter.Main.ResolverReload
import ServiceRouter.Server.FailureCounts
import ServiceRouter.Snapshot.Redaction
import ServiceRouter.Snapshot.PluginSecrets
import ServiceRouter.Server.RoundRobin
import ServiceRouter.Proxy.WsRelay
import ServiceRouter.Server.PluginStack
import ServiceRouter.Main.Rehearsal
import ServiceRouter.Main.ParseReturns
import ServiceRouter.Config.EnvExpansion
import ServiceRouter.Proxy.UpstreamUrl
import ServiceRouter.Proxy.RequestHeaders
import ServiceRouter.Server.RetryLaw
import ServiceRouter.Server.SelectionSafety
import ServiceRouter.Server.HealthFiltering
import ServiceRouter.Server.HealthHysteresis
import ServiceRouter.Server.ProbeRounds
import ServiceRouter.Server.AdmittedTraffic
import ServiceRouter.Config.StripPrefix
import ServiceRouter.Config.DeadRoutes
import ServiceRouter.Config.DiffImpact
import ServiceRouter.Config.ShadowCompleteness
import ServiceRouter.Proxy.WsUrl
import ServiceRouter.Registry.BaseUrl
import ServiceRouter.Registry.Eureka
import ServiceRouter.Registry.KubernetesLookup
import ServiceRouter.Registry.NacosTokens
import ServiceRouter.Registry.ServiceBackends
import ServiceRouter.Config.DiffPatch
import ServiceRouter.Main.Remediation
import ServiceRouter.Main.ExplainedPath
import ServiceRouter.Proxy.ConfiguredOrder
import ServiceRouter.Main.HeaderOverride
import ServiceRouter.Server.HeaderPlugins
import ServiceRouter.Config.OverrideAlgebra
import ServiceRouter.Server.Prometheus
import ServiceRouter.Main.ReplayFidelity
import ServiceRouter.Main.DoctorVerdict
import ServiceRouter.Registry.LiveResolver
import ServiceRouter.Server.Readiness
import ServiceRouter.Registry.Resolution
import ServiceRouter.Config.CleanDiff
import ServiceRouter.Config.StrictlySound
import ServiceRouter.Main.ConfigGates
import ServiceRouter.Config.DiffMirror
import ServiceRouter.Registry.SelectorQuery
