import ServiceRouter.Error
import ServiceRouter.Foundation.Ensures
import ServiceRouter.Registry.Kubernetes

/-!
# What a registry client asks of its surroundings

The clients of the remote registries are programs that send requests, read the
body of the response they have just received, and share the slot of an access
token.  Sending and reading the body are two operations, since other tasks may
run in between.
-/

namespace ServiceRouter

open Foundation

/-! ## Requests and responses -/

inductive RegistryMethod where
  | get
  | post
  deriving DecidableEq

inductive RegistryAuth where
  | none
  | bearer (token : String)
  | basic (username password : String)
  deriving DecidableEq

structure RegistryRequest where
  method : RegistryMethod := .get
  url : String
  accept : Option String := none
  auth : RegistryAuth := .none
  form : List (String × String) := []
  deriving DecidableEq

/-- `http::StatusCode`, with the text it is displayed as. -/
structure StatusCode where
  code : Nat
  display : String
  deriving DecidableEq

namespace StatusCode

def isSuccess (status : StatusCode) : Bool :=
  200 ≤ status.code && status.code < 300

def isUnauthorized (status : StatusCode) : Bool := status.code = 401

def isForbidden (status : StatusCode) : Bool := status.code = 403

def isNotFound (status : StatusCode) : Bool := status.code = 404

/-- The credentials of the request were not accepted. -/
def deniesAccess (status : StatusCode) : Bool :=
  status.isUnauthorized || status.isForbidden

theorem not_deniesAccess_of_isNotFound {status : StatusCode}
    (h : status.isNotFound = true) : status.deniesAccess = false := by
  simp only [isNotFound, decide_eq_true_eq] at h
  simp [deniesAccess, isUnauthorized, isForbidden, h]

end StatusCode

/-! ## What bodies are read as -/

structure NacosLoginResponse where
  accessToken : String
  tokenTtl : Nat

structure NacosHost where
  ip : String
  port : Nat
  healthy : Bool
  metadata : Option (HashMap String String)

structure NacosInstanceList where
  hosts : List NacosHost

structure EurekaPort where
  value : Nat

structure EurekaInstance where
  ipAddr : String
  port : EurekaPort
  status : String
  metadata : Option (HashMap String String)

structure EurekaApplication where
  instance_ : List EurekaInstance

structure EurekaApp where
  application : EurekaApplication

structure K8sServiceSpec where
  ports : List K8sServicePort := []

structure K8sService where
  spec : K8sServiceSpec := {}

inductive BodyShape where
  | nacosLogin
  | nacosInstanceList
  | eurekaApp
  | k8sService
  | k8sEndpoints
  | endpointSliceList
  deriving DecidableEq

def BodyShape.Content : BodyShape → Type
  | .nacosLogin => NacosLoginResponse
  | .nacosInstanceList => NacosInstanceList
  | .eurekaApp => EurekaApp
  | .k8sService => K8sService
  | .k8sEndpoints => K8sEndpoints
  | .endpointSliceList => EndpointSliceList

/-! ## Operations -/

inductive RegistryOp where
  | send (req : RegistryRequest)
  /-- `Response::json` on the response just received. -/
  | json (shape : BodyShape)
  | loadToken
  | storeToken (token : String)
  /-- The next tick of the interval of a task. -/
  | tick

def RegistryOp.Reply : RegistryOp → Type
  | .send _ => Except String StatusCode
  | .json shape => Except String shape.Content
  | .loadToken => String
  | .storeToken _ => Unit
  | .tick => Unit

def RegistryInterface : Interface := ⟨RegistryOp, RegistryOp.Reply⟩

abbrev RegistryProgram := Program RegistryInterface

abbrev RegistryExchange := Exchange RegistryInterface

abbrev RegistryEvent := Event RegistryInterface

/-- Ask one operation; the reply has the type that belongs to it. -/
def RegistryOp.ask (op : RegistryOp) : RegistryProgram op.Reply := .call op .done

theorem returns_ask_bind {α : Type} {op : RegistryOp}
    {f : op.Reply → RegistryProgram α} {log : List RegistryExchange} {a : α} :
    (op.ask.bind f).Returns log a ↔
      ∃ (reply : op.Reply) (rest : List RegistryExchange),
        log = ⟨op, reply⟩ :: rest ∧ (f reply).Returns rest a :=
  Program.returns_call

/-- Read the body, where an unreadable one is an unexpected response. -/
def readBody (shape : BodyShape) :
    RegistryProgram (Except RegistryError shape.Content) := do
  let body ← (RegistryOp.json shape).ask
  match body with
  | .error reason => return .error (.unexpectedResponse reason)
  | .ok content => return .ok content

theorem returns_readBody {shape : BodyShape} {log : List RegistryExchange}
    {result : Except RegistryError shape.Content} :
    (readBody shape).Returns log result ↔
      ∃ body : Except String shape.Content, log = [⟨.json shape, body⟩] ∧
        result = body.mapError .unexpectedResponse := by
  refine returns_ask_bind.trans (exists_congr fun body => ?_)
  cases body with
  | error reason => simp [Except.mapError, eq_comm]
  | ok content => simp [Except.mapError, eq_comm]

/-- The requests of a log, in order. -/
def requestsOf (log : List RegistryExchange) : List RegistryRequest :=
  log.filterMap fun exchange =>
    match exchange.op with
    | .send req => some req
    | _ => none

/-! ## Health -/

inductive RegistryKind where
  | nacos
  | eureka
  | kubernetes
  | mock
  deriving DecidableEq

def RegistryKind.display : RegistryKind → String
  | .nacos => "Nacos"
  | .eureka => "Eureka"
  | .kubernetes => "Kubernetes"
  | .mock => "Mock"

end ServiceRouter
