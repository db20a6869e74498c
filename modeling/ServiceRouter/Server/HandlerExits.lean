import ServiceRouter.Server.PluginRuns

/-!
# The exits of the handler

A finished run of the handler has left it before a rule was resolved, because
none was, or through one of five exits behind the rule.
-/

namespace ServiceRouter

open Foundation

/-! ## Behind a resolved rule -/

inductive RoutedRun (P : Platform) (plugins : List String) (path : String)
    (req : Request) (rule : CompiledRoutingRule) (requestId : String) :
    List ServerExchange → Except ProxyError Response → Prop
  | noUpstream {baseLog : List ServerExchange} {e : ProxyError}
      (hbase : (upstreamBaseOf rule path).Returns baseLog (.error e)) :
      RoutedRun P plugins path req rule requestId
        (⟨.recordRouteHit rule.id, ()⟩ :: baseLog) (.error e)
  | breakerOpen {baseLog : List ServerExchange} {u : String}
      (hbase : (upstreamBaseOf rule path).Returns baseLog (.ok u)) :
      RoutedRun P plugins path req rule requestId
        (⟨.recordRouteHit rule.id, ()⟩ :: (baseLog ++
          [⟨.breakerAllow u, false⟩,
            ⟨.recordFailure "circuit_breaker_open", ()⟩]))
        (.error (.upstreamConnection s!"circuit breaker open for {u}"))
  | forwardFailed {baseLog forwardLog : List ServerExchange} {u : String}
      {e : ProxyError}
      (hbase : (upstreamBaseOf rule path).Returns baseLog (.ok u))
      (hforward : (forward P req rule u (rule.rewritePath path)
        requestId).Returns forwardLog (.error e)) :
      RoutedRun P plugins path req rule requestId
        (⟨.recordRouteHit rule.id, ()⟩ :: (baseLog ++
          ⟨.breakerAllow u, true⟩ :: (forwardLog ++
            [⟨.recordFailure (failureCodeForProxy e), ()⟩])))
        (.error e)
  | hookFailed {baseLog forwardLog hookLog : List ServerExchange}
      {u e : String} {res : Response}
      (hbase : (upstreamBaseOf rule path).Returns baseLog (.ok u))
      (hforward : (forward P req rule u (rule.rewritePath path)
        requestId).Returns forwardLog (.ok res))
      (hhooks : ResponseHooks plugins.zipIdx.reverse res hookLog (.error e)) :
      RoutedRun P plugins path req rule requestId
        (⟨.recordRouteHit rule.id, ()⟩ :: (baseLog ++
          ⟨.breakerAllow u, true⟩ :: (forwardLog ++ hookLog)))
        (.error (.pluginError e))
  | finished {baseLog forwardLog hookLog : List ServerExchange}
      {u : String} {res out : Response}
      (hbase : (upstreamBaseOf rule path).Returns baseLog (.ok u))
      (hforward : (forward P req rule u (rule.rewritePath path)
        requestId).Returns forwardLog (.ok res))
      (hhooks : ResponseHooks plugins.zipIdx.reverse res hookLog (.ok out)) :
      RoutedRun P plugins path req rule requestId
        (⟨.recordRouteHit rule.id, ()⟩ :: (baseLog ++
          ⟨.breakerAllow u, true⟩ :: (forwardLog ++ hookLog)))
        (.ok (echoRequestId P requestId out))

section Exits

variable {P : Platform} {plugins : List String} {path requestId : String}
  {req : Request} {rule : CompiledRoutingRule} {log : List ServerExchange}
  {result : Except ProxyError Response}

theorem handleRouted_returns
    (h : (handleRouted P plugins path req rule requestId).Returns log
      result) : RoutedRun P plugins path req rule requestId log result := by
  obtain ⟨hit, afterHit, rfl, hroute⟩ := returns_perform_bind.mp h
  obtain ⟨baseLog, base, afterBase, rfl, hbase, hask⟩ :=
    Program.returns_bind.mp hroute
  cases base with
  | error e =>
      obtain ⟨rfl, rfl⟩ := Program.returns_done.mp hask
      rw [List.append_nil]
      exact .noUpstream hbase
  | ok u =>
      obtain ⟨allowed, afterAllow, rfl, hforward⟩ :=
        returns_perform_bind.mp hask
      cases allowed with
      | false =>
          obtain ⟨counted, rest, rfl, hdone⟩ :=
            returns_perform_bind.mp hforward
          obtain ⟨rfl, rfl⟩ := Program.returns_done.mp hdone
          exact .breakerOpen hbase
      | true =>
          obtain ⟨forwardLog, forwarded, rest, rfl, hforwarded, hfinish⟩ :=
            Program.returns_bind.mp hforward
          cases forwarded with
          | error e =>
              obtain ⟨counted, tail, rfl, hdone⟩ :=
                returns_perform_bind.mp hfinish
              obtain ⟨rfl, rfl⟩ := Program.returns_done.mp hdone
              exact .forwardFailed hbase hforwarded
          | ok res =>
              obtain ⟨hookLog, answered, tail, rfl, hhooks, hdone⟩ :=
                Program.returns_bind.mp hfinish
              cases answered with
              | error e =>
                  obtain ⟨rfl, rfl⟩ := Program.returns_done.mp hdone
                  rw [List.append_nil]
                  exact .hookFailed hbase hforwarded
                    (runOnResponse_returns hhooks)
              | ok out =>
                  obtain ⟨rfl, rfl⟩ := Program.returns_done.mp hdone
                  rw [List.append_nil]
                  exact .finished hbase hforwarded
                    (runOnResponse_returns hhooks)

end Exits

/-! ## The whole handler -/

inductive HandlerRun (P : Platform) (plugins : List String) (req : Request) :
    List ServerExchange → Except ProxyError Response → Prop
  | hookFailed {idLog hookLog : List ServerExchange} {requestId e : String}
      (hid : (requestIdOf P req).Returns idLog requestId)
      (hhooks : RequestHooks plugins.zipIdx req hookLog (.error e)) :
      HandlerRun P plugins req (idLog ++ hookLog) (.error (.pluginError e))
  | shortCircuited {idLog hookLog : List ServerExchange} {requestId : String}
      {resp : Response}
      (hid : (requestIdOf P req).Returns idLog requestId)
      (hhooks : RequestHooks plugins.zipIdx req hookLog
        (.ok (.respond resp))) :
      HandlerRun P plugins req (idLog ++ hookLog) (.ok resp)
  | unrouted {idLog hookLog : List ServerExchange} {requestId : String}
      {routed : Request} {router : RouterSnapshot}
      (hid : (requestIdOf P req).Returns idLog requestId)
      (hhooks : RequestHooks plugins.zipIdx req hookLog
        (.ok (.continue_ routed)))
      (hrule : RouterSnapshot.resolvedRule P router req.path req.method
        routed.headers = none) :
      HandlerRun P plugins req
        (idLog ++ (hookLog ++ [⟨.loadRouter, router⟩,
          ⟨.recordFailure "no_matching_route", ()⟩]))
        (.error (.noInstances req.path))
  | routed {idLog hookLog routedLog : List ServerExchange}
      {requestId : String} {routed : Request} {router : RouterSnapshot}
      {rule : CompiledRoutingRule} {result : Except ProxyError Response}
      (hid : (requestIdOf P req).Returns idLog requestId)
      (hhooks : RequestHooks plugins.zipIdx req hookLog
        (.ok (.continue_ routed)))
      (hrule : RouterSnapshot.resolvedRule P router req.path req.method
        routed.headers = some rule)
      (hrun : RoutedRun P plugins req.path routed rule requestId routedLog
        result) :
      HandlerRun P plugins req
        (idLog ++ (hookLog ++ ⟨.loadRouter, router⟩ :: routedLog)) result

theorem proxyHandler_returns {P : Platform} {plugins : List String}
    {req : Request} {log : List ServerExchange}
    {result : Except ProxyError Response}
    (h : (proxyHandler P plugins req).Returns log result) :
    HandlerRun P plugins req log result := by
  obtain ⟨idLog, requestId, afterId, rfl, hid, hplugins⟩ :=
    Program.returns_bind.mp h
  obtain ⟨hookLog, action, afterHooks, rfl, hran, hroute⟩ :=
    Program.returns_bind.mp hplugins
  have hhooks := runOnRequest_returns hran
  rcases action with e | ⟨routed⟩ | resp
  · obtain ⟨rfl, rfl⟩ := Program.returns_done.mp hroute
    rw [List.append_nil]
    exact .hookFailed hid hhooks
  · obtain ⟨router, afterLoad, rfl, hresolved⟩ :=
      returns_perform_bind.mp hroute
    cases hrule : RouterSnapshot.resolvedRule P router req.path req.method
        routed.headers with
    | none =>
        simp only [hrule] at hresolved
        obtain ⟨counted, rest, rfl, hdone⟩ :=
          returns_perform_bind.mp hresolved
        obtain ⟨rfl, rfl⟩ := Program.returns_done.mp hdone
        exact .unrouted hid hhooks hrule
    | some rule =>
        simp only [hrule] at hresolved
        exact .routed hid hhooks hrule (handleRouted_returns hresolved)
  · obtain ⟨rfl, rfl⟩ := Program.returns_done.mp hroute
    rw [List.append_nil]
    exact .shortCircuited hid hhooks

end ServiceRouter
