import ServiceRouter.Foundation.HashMap
import ServiceRouter.Foundation.Interaction
import ServiceRouter.Platform

/-!
# Replaying requests

`replay` starts an ephemeral proxy, sends it the requests of a file one after
the other, and counts those that pass.  What a client makes of a URL and what
it is answered are not of this repository: parsing is a parameter, and a
program asks for the answers.
-/

namespace ServiceRouter

open Foundation

/-! ## Requests of the client -/

/-- `reqwest::Url`, by its origin and the target that a request for it has. -/
structure ParsedUrl where
  origin : String
  target : String
  deriving DecidableEq

structure ClientRequest where
  method : String
  url : ParsedUrl
  headers : HeaderMap := ⟨[]⟩
  body : Option String := none
  deriving DecidableEq

/-- `reqwest::RequestBuilder`: the first error is kept until the request is
sent. -/
abbrev RequestBuilder := Except String ClientRequest

/-- A request is answered with a status or with the text of an error. -/
def ClientInterface : Interface := ⟨ClientRequest, fun _ => Except String Nat⟩

abbrev ClientProgram := Program ClientInterface

abbrev ClientExchange := Exchange ClientInterface

section Client

variable (P : Platform) (parseUrl : String → Option ParsedUrl)

def clientRequest (method url : String) : RequestBuilder :=
  match parseUrl url with
  | some url => .ok { method := method, url := url }
  | none => .error P.builderError

def RequestBuilder.header (req : RequestBuilder) (k v : String) :
    RequestBuilder :=
  match req with
  | .error e => .error e
  | .ok req =>
      match P.headerName k, P.headerValue v with
      | some name, some value =>
          .ok { req with headers := req.headers.append name value }
      | _, _ => .error P.builderError

def RequestBuilder.setBody (req : RequestBuilder) (body : Option String) :
    RequestBuilder :=
  match body with
  | some b => req.map fun req => { req with body := some b }
  | none => req

/-- The method of the request that is built; methods that are not listed
become `GET`. -/
def requestMethod (method : String) : String :=
  match method with
  | "POST" => "POST"
  | "PUT" => "PUT"
  | "DELETE" => "DELETE"
  | "PATCH" => "PATCH"
  | "HEAD" => "HEAD"
  | _ => "GET"

def buildReqwestRequest (baseUrl path method : String)
    (headers : HashMap String String) (body : Option String) :
    RequestBuilder :=
  let req := clientRequest P parseUrl (requestMethod method) (baseUrl ++ path)
  let req := headers.entries.foldl (fun req entry =>
    RequestBuilder.header P req entry.1 entry.2) req
  req.setBody body

/-- A request that could not be built is not sent. -/
def sendRequest (req : RequestBuilder) :
    ClientProgram (Except String Nat) :=
  match req with
  | .error e => .done (.error e)
  | .ok req => .call req .done

end Client

/-! ## The command -/

structure ReplayEntry where
  path : String
  method : String := "GET"
  headers : HashMap String String := ∅
  body : Option String := none
  expectStatus : Option Nat := none

/-- The variables of the loop and the lines it has printed. -/
structure ReplayState where
  passed : Nat := 0
  failed : Nat := 0
  stdout : List String := []

structure ReplayReport where
  passed : Nat
  failed : Nat
  exitCode : Nat
  stdout : List String

inductive ReplayError where
  | file (reason : String)
  | start (reason : String)

/-- What one answer adds to the counters and to the lines. -/
def ReplayState.count (state : ReplayState) (position total : Nat)
    (entry : ReplayEntry) (method : String) :
    Except String Nat → ReplayState
  | .ok status =>
      let ok := (entry.expectStatus.map fun e => e == status).getD true
      let tag := if ok then "PASS" else "FAIL"
      let expectNote :=
        (entry.expectStatus.map fun e => s!" (expected {e})").getD ""
      let line := s!"  [{position + 1}/{total}] {tag} {method} " ++
        s!"{entry.path} -> {status}{expectNote}"
      if ok
      then { state with
        passed := state.passed + 1
        stdout := state.stdout ++ [line] }
      else { state with
        failed := state.failed + 1
        stdout := state.stdout ++ [line] }
  | .error e =>
      let line := s!"  [{position + 1}/{total}] FAIL {method} " ++
        s!"{entry.path} -> error: {e}"
      { state with
        failed := state.failed + 1
        stdout := state.stdout ++ [line] }

section Replay

variable (P : Platform) (parseUrl : String → Option ParsedUrl)

/-- The request for an entry. -/
def entryRequest (baseUrl : String) (entry : ReplayEntry) : RequestBuilder :=
  buildReqwestRequest P parseUrl baseUrl entry.path
    (P.caseMapping.toUppercase entry.method) entry.headers entry.body

def replayRequests (baseUrl : String) (total : Nat) :
    List (ReplayEntry × Nat) → ReplayState → ClientProgram ReplayState
  | [], state => .done state
  | (entry, position) :: entries, state => do
      let method := P.caseMapping.toUppercase entry.method
      let reply ← sendRequest (entryRequest P parseUrl baseUrl entry)
      replayRequests baseUrl total entries
        (state.count position total entry method reply)

/-- The parsed file and the address of the started proxy are given. -/
def replay (replayFile : String) (file : Except String (List ReplayEntry))
    (start : Except String String) :
    ClientProgram (Except ReplayError ReplayReport) :=
  match file with
  | .error reason => .done (.error (.file reason))
  | .ok requests =>
      if requests.isEmpty
      then .done (.ok {
        passed := 0
        failed := 0
        exitCode := 0
        stdout := [s!"replay: no requests in {replayFile}"] })
      else
        match start with
        | .error reason => .done (.error (.start reason))
        | .ok localAddr => do
            let baseUrl := s!"http://{localAddr}"
            let total := requests.length
            let state ← replayRequests P parseUrl baseUrl total requests.zipIdx {}
            return .ok {
              passed := state.passed
              failed := state.failed
              exitCode := if state.failed > 0 then 1 else 0
              stdout := state.stdout ++ [s!"\nreplay summary: " ++
                s!"{state.passed}/{total} passed, {state.failed} failed"] }

end Replay

end ServiceRouter
