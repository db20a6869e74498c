import ServiceRouter.Server.HandlerOps

/-!
# Runs of the plugin hooks

The exchanges of one pass through the chain: on the way in the hooks run until
one does not continue, on the way out until one fails.
-/

namespace ServiceRouter

open Foundation

inductive RequestHooks : List (String × Nat) → Request →
    List ServerExchange → Except String RequestAction → Prop
  | done (req : Request) : RequestHooks [] req [] (.ok (.continue_ req))
  | continue_ {name : String} {position : Nat} {rest : List (String × Nat)}
      {req next : Request} {log : List ServerExchange}
      {result : Except String RequestAction}
      (h : RequestHooks rest next log result) :
      RequestHooks ((name, position) :: rest) req
        (⟨.onRequest position req, .ok (.continue_ next)⟩ :: log) result
  | respond (name : String) (position : Nat) (rest : List (String × Nat))
      (req : Request) (resp : Response) :
      RequestHooks ((name, position) :: rest) req
        [⟨.onRequest position req, .ok (.respond resp)⟩]
        (.ok (.respond resp))
  | error (name : String) (position : Nat) (rest : List (String × Nat))
      (req : Request) (reason : String) :
      RequestHooks ((name, position) :: rest) req
        [⟨.onRequest position req, .error reason⟩] (.error reason)
  | panicked (name : String) (position : Nat) (rest : List (String × Nat))
      (req : Request) :
      RequestHooks ((name, position) :: rest) req
        [⟨.onRequest position req, .panicked⟩]
        (.error s!"plugin '{name}' panicked in on_request")

theorem runOnRequest_returns {plugins : List (String × Nat)} {req : Request}
    {log : List ServerExchange} {result : Except String RequestAction}
    (h : (runOnRequest plugins req).Returns log result) :
    RequestHooks plugins req log result := by
  induction plugins generalizing req log with
  | nil =>
      obtain ⟨rfl, rfl⟩ := Program.returns_done.mp h
      exact .done req
  | cons plugin plugins ih =>
      obtain ⟨name, position⟩ := plugin
      obtain ⟨outcome, rest, rfl, hrest⟩ := returns_perform_bind.mp h
      rcases outcome with ⟨next | resp⟩ | reason | _
      · exact .continue_ (ih hrest)
      · obtain ⟨rfl, rfl⟩ := Program.returns_done.mp hrest
        exact .respond name position plugins req resp
      · obtain ⟨rfl, rfl⟩ := Program.returns_done.mp hrest
        exact .error name position plugins req reason
      · obtain ⟨rfl, rfl⟩ := Program.returns_done.mp hrest
        exact .panicked name position plugins req

theorem RequestHooks.asks {allowed : ServerOp → Prop}
    (hallowed : ∀ position req, allowed (.onRequest position req))
    {plugins : List (String × Nat)} {req : Request}
    {log : List ServerExchange} {result : Except String RequestAction}
    (h : RequestHooks plugins req log result) :
    ∀ exchange ∈ log, allowed exchange.op := by
  induction h with
  | done req => exact List.forall_mem_nil _
  | continue_ _ ih => exact List.forall_mem_cons.mpr ⟨hallowed _ _, ih⟩
  | respond name position rest req resp =>
      exact List.forall_mem_singleton.mpr (hallowed position req)
  | error name position rest req reason =>
      exact List.forall_mem_singleton.mpr (hallowed position req)
  | panicked name position rest req =>
      exact List.forall_mem_singleton.mpr (hallowed position req)

inductive ResponseHooks : List (String × Nat) → Response →
    List ServerExchange → Except String Response → Prop
  | done (resp : Response) : ResponseHooks [] resp [] (.ok resp)
  | next {name : String} {position : Nat} {rest : List (String × Nat)}
      {resp changed : Response} {log : List ServerExchange}
      {result : Except String Response}
      (h : ResponseHooks rest changed log result) :
      ResponseHooks ((name, position) :: rest) resp
        (⟨.onResponse position resp, .ok changed⟩ :: log) result
  | error (name : String) (position : Nat) (rest : List (String × Nat))
      (resp : Response) (reason : String) :
      ResponseHooks ((name, position) :: rest) resp
        [⟨.onResponse position resp, .error reason⟩] (.error reason)
  | panicked (name : String) (position : Nat) (rest : List (String × Nat))
      (resp : Response) :
      ResponseHooks ((name, position) :: rest) resp
        [⟨.onResponse position resp, .panicked⟩]
        (.error s!"plugin '{name}' panicked in on_response")

theorem runOnResponse_returns {plugins : List (String × Nat)}
    {resp : Response} {log : List ServerExchange}
    {result : Except String Response}
    (h : (runOnResponse plugins resp).Returns log result) :
    ResponseHooks plugins resp log result := by
  induction plugins generalizing resp log with
  | nil =>
      obtain ⟨rfl, rfl⟩ := Program.returns_done.mp h
      exact .done resp
  | cons plugin plugins ih =>
      obtain ⟨name, position⟩ := plugin
      obtain ⟨outcome, rest, rfl, hrest⟩ := returns_perform_bind.mp h
      rcases outcome with changed | reason | _
      · exact .next (ih hrest)
      · obtain ⟨rfl, rfl⟩ := Program.returns_done.mp hrest
        exact .error name position plugins resp reason
      · obtain ⟨rfl, rfl⟩ := Program.returns_done.mp hrest
        exact .panicked name position plugins resp

theorem ResponseHooks.asks {allowed : ServerOp → Prop}
    (hallowed : ∀ position resp, allowed (.onResponse position resp))
    {plugins : List (String × Nat)} {resp : Response}
    {log : List ServerExchange} {result : Except String Response}
    (h : ResponseHooks plugins resp log result) :
    ∀ exchange ∈ log, allowed exchange.op := by
  induction h with
  | done resp => exact List.forall_mem_nil _
  | next _ ih => exact List.forall_mem_cons.mpr ⟨hallowed _ _, ih⟩
  | error name position rest resp reason =>
      exact List.forall_mem_singleton.mpr (hallowed position resp)
  | panicked name position rest resp =>
      exact List.forall_mem_singleton.mpr (hallowed position resp)

end ServiceRouter
