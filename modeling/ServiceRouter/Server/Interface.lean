import ServiceRouter.Config.Model
import ServiceRouter.Error
import ServiceRouter.Foundation.Interaction
import ServiceRouter.Proxy.Message
import ServiceRouter.Registry.Instance
import ServiceRouter.Routing.Router

/-!
# What a request handler asks of its surroundings

Each operation is one access to the state that requests share, to a plugin, a
registry or an upstream.  Handlers are programs over this interface, so that
the operations of concurrent requests can interleave in any order.
-/

namespace ServiceRouter

open Foundation

inductive RequestAction where
  | continue_ (req : Request)
  | respond (resp : Response)

inductive HookOutcome (α : Type) where
  | ok (result : α)
  | error (reason : String)
  | panicked

inductive ServerOp where
  | onRequest (position : Nat) (req : Request)
  | onResponse (position : Nat) (resp : Response)
  | newUuid
  | loadRouter
  | loadConfig
  | resolve (serviceId : String)
  | isHealthy (key : String)
  /-- Add one to the counter of a service and return its old value. -/
  | fetchAdd (serviceId : String)
  | randomHash (len : Nat)
  | breakerAllow (upstream : String)
  | breakerRecordSuccess (upstream : String)
  | breakerRecordFailure (upstream : String)
  | recordRouteHit (ruleId : String)
  | recordFailure (reasonCode : String)
  | send (req : UpstreamRequest)
  | connectWebsocket (url : String)

def ServerOp.Reply : ServerOp → Type
  | .onRequest _ _ => HookOutcome RequestAction
  | .onResponse _ _ => HookOutcome Response
  | .newUuid => String
  | .loadRouter => RouterSnapshot
  | .loadConfig => AppConfig
  | .resolve _ => Except RegistryError (List ServiceInstance)
  | .isHealthy _ => Bool
  | .fetchAdd _ => Nat
  | .randomHash _ => Nat
  | .breakerAllow _ => Bool
  | .breakerRecordSuccess _ => Unit
  | .breakerRecordFailure _ => Unit
  | .recordRouteHit _ => Unit
  | .recordFailure _ => Unit
  | .send _ => Except String UpstreamResponse
  | .connectWebsocket _ => Except String Unit

def ServerInterface : Interface := ⟨ServerOp, ServerOp.Reply⟩

abbrev ServerProgram := Program ServerInterface

abbrev ServerExchange := Exchange ServerInterface

abbrev ServerEvent := Event ServerInterface

/-- Ask one operation; the reply has the type that belongs to it. -/
def perform (op : ServerOp) : ServerProgram op.Reply := .call op .done

theorem returns_perform_bind {α : Type} {op : ServerOp}
    {f : op.Reply → ServerProgram α} {log : List ServerExchange} {a : α} :
    ((perform op).bind f).Returns log a ↔
      ∃ (reply : op.Reply) (rest : List ServerExchange),
        log = ⟨op, reply⟩ :: rest ∧ (f reply).Returns rest a :=
  Program.returns_call

theorem returns_perform {op : ServerOp} {log : List ServerExchange}
    {reply : op.Reply} :
    (perform op).Returns log reply ↔ log = [⟨op, reply⟩] := by
  constructor
  · intro h
    obtain ⟨asked, rest, rfl, hrest⟩ := Program.returns_call.mp h
    obtain ⟨rfl, rfl⟩ := Program.returns_done.mp hrest
    rfl
  · rintro rfl
    exact Program.returns_call.mpr ⟨reply, [], rfl, .refl _⟩

end ServiceRouter
