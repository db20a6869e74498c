import ServiceRouter.Platform

/-!
# HTTP messages

A request body is what reading it to the end yields: the bytes, or the text of
the error its stream fails with.  The same holds for the body of an upstream
response.  A response to the client is complete.
-/

namespace ServiceRouter

abbrev Bytes := List UInt8

structure Request where
  method : String
  path : String
  query : Option String := none
  headers : HeaderMap := ⟨[]⟩
  body : Except String Bytes := .ok []

structure Response where
  status : Nat
  headers : HeaderMap
  body : Bytes
  deriving DecidableEq

structure UpstreamRequest where
  method : String
  url : String
  headers : HeaderMap
  body : Bytes
  deriving DecidableEq

structure UpstreamResponse where
  status : Nat
  headers : HeaderMap
  body : Except String Bytes

def HeaderValue.fromStatic (text : String) : HeaderValue :=
  ⟨text.toList.map fun c => UInt8.ofNat c.toNat⟩

def xRequestId : HeaderName := ⟨"x-request-id", by decide⟩

def upgradeHeader : HeaderName := ⟨"upgrade", by decide⟩

def connectionHeader : HeaderName := ⟨"connection", by decide⟩

def secWebsocketAccept : HeaderName := ⟨"sec-websocket-accept", by decide⟩

end ServiceRouter
