import ServiceRouter.Server.Interface

/-!
# Forwarding WebSocket upgrades

The upstream is connected first; then the client gets its switching response.
The relay that runs after the handshake is not part of the handler.
-/

namespace ServiceRouter

open Foundation

def replaceFirst (pattern replacement : List Char) : List Char → List Char
  | [] => if pattern.isEmpty then replacement else []
  | c :: rest =>
      if pattern.isPrefixOf (c :: rest)
      then replacement ++ (c :: rest).drop pattern.length
      else c :: replaceFirst pattern replacement rest

def replacen1 (text pattern replacement : String) : String :=
  String.ofList
    (replaceFirst pattern.toList replacement.toList text.toList)

def buildWsUrl (base path : String) (query : Option String) : String :=
  let wsBase := replacen1 (replacen1 (trimEndMatches base '/')
    "https://" "wss://") "http://" "ws://"
  let path := if startsWith path "/" then path else s!"/{path}"
  match query with
  | some q =>
      if !q.toList.isEmpty then s!"{wsBase}{path}?{q}" else s!"{wsBase}{path}"
  | none => s!"{wsBase}{path}"

def switchingProtocols : Response where
  status := 101
  headers := ⟨[
    (connectionHeader, .fromStatic "upgrade"),
    (upgradeHeader, .fromStatic "websocket"),
    (secWebsocketAccept, .fromStatic "server")]⟩
  body := []

def proxyWebsocket (req : Request) (upstreamBase rewrittenPath : String) :
    ServerProgram (Except ProxyError Response) := do
  let url := buildWsUrl upstreamBase rewrittenPath req.query
  let reply ← perform (.connectWebsocket url)
  match reply with
  | .error reason => return .error (.wsUpgrade reason)
  | .ok _ => return .ok switchingProtocols

end ServiceRouter
