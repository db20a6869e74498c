import ServiceRouter.Config.Model
import ServiceRouter.Error
import ServiceRouter.Proxy.HopByHop

/-!
# Compiled routing rules

A rule is compiled once: its pattern is checked and its response headers are
parsed.  `CompiledRoutingRule.matches` then runs the path, the method and the
header check in this order.  A compiled pattern is represented by its source
text, from which the `Platform` answers match questions.
-/

namespace ServiceRouter

open Foundation

inductive CompiledPath where
  | exact (value : String)
  | prefix_ (value : String)
  | glob (pattern : String)
  | regex (pattern : String)
  deriving DecidableEq, Repr

structure CompiledRoutingRule where
  id : String
  compiledPath : CompiledPath
  methods : Option (List String)
  headers : Option (HashMap String String)
  serviceId : Option String
  upstreamUrl : Option String
  stripPrefix : Option String
  responseHeaders : Option (List (HeaderName × HeaderValue))
  priority : Nat

def CompiledPath.matches (P : Platform) (path : String) :
    CompiledPath → Bool
  | .exact value => value == path
  | .prefix_ value => startsWith path value
  | .glob pattern => P.globMatches pattern path
  | .regex pattern => P.regexIsMatch pattern path

/-! ## Compilation -/

def compileResponseHeader (P : Platform) (routeId nameRaw valRaw : String) :
    Except ConfigError (HeaderName × HeaderValue) :=
  if isForbiddenConfigResponseHeader P nameRaw then
    .error (.validation (s!"route '{routeId}' response_headers: '{nameRaw}'" ++
      " is not allowed (hop-by-hop or body-framing)"))
  else
    match P.headerName nameRaw with
    | none => .error (.validation
        s!"route '{routeId}' response_headers: invalid header name '{nameRaw}'")
    | some name =>
        match P.headerValue valRaw with
        | none => .error (.validation
            s!"route '{routeId}' response_headers: invalid value for '{nameRaw}'")
        | some value => .ok (name, value)

def compileResponseHeaders (P : Platform) (routeId : String)
    (map : HashMap String String) :
    Except ConfigError (List (HeaderName × HeaderValue)) :=
  map.entries.mapM fun entry =>
    compileResponseHeader P routeId entry.1 entry.2

def compilePath (P : Platform) (routeId : String) :
    PathMatcher → Except ConfigError CompiledPath
  | .exact value => .ok (.exact value)
  | .prefix_ value => .ok (.prefix_ value)
  | .glob value =>
      match P.globNew value with
      | .ok _ => .ok (.glob value)
      | .error reason => .error (.invalidGlob routeId value reason)
  | .regex value =>
      match P.regexNew value with
      | .ok _ => .ok (.regex value)
      | .error reason => .error (.invalidRegex routeId value reason)

/-- An empty map compiles like an absent one. -/
def compileOptionalHeaders (P : Platform) (routeId : String) :
    Option (HashMap String String) →
      Except ConfigError (Option (List (HeaderName × HeaderValue)))
  | none => .ok none
  | some map =>
      if map.entries.isEmpty then .ok none
      else (compileResponseHeaders P routeId map).map some

def CompiledRoutingRule.compile (P : Platform) (rule : RoutingRule) :
    Except ConfigError CompiledRoutingRule := do
  let compiledPath ← compilePath P rule.id rule.path
  let responseHeaders ← compileOptionalHeaders P rule.id rule.responseHeaders
  return {
    id := rule.id
    compiledPath := compiledPath
    methods := rule.methods
    headers := rule.headers
    serviceId := rule.serviceId
    upstreamUrl := rule.upstreamUrl
    stripPrefix := rule.stripPrefix
    responseHeaders := responseHeaders
    priority := rule.priority }

/-! ## Matching -/

def methodMatches (P : Platform) (method : String) :
    Option (List String) → Bool
  | none => true
  | some methods =>
      methods.any fun m =>
        P.caseMapping.toUppercase m == P.caseMapping.toUppercase method

def headerMatches (P : Platform) (requestHeaders : HeaderMap)
    (name expected : String) : Bool :=
  match P.headerName name with
  | none => false
  | some headerName =>
      match requestHeaders.get? headerName with
      | none => false
      | some actual => (P.headerText actual).getD "" == expected

def headersMatch (P : Platform) (requestHeaders : HeaderMap) :
    Option (HashMap String String) → Bool
  | none => true
  | some headers =>
      headers.entries.all fun entry =>
        headerMatches P requestHeaders entry.1 entry.2

def CompiledRoutingRule.matches (P : Platform) (rule : CompiledRoutingRule)
    (path method : String) (requestHeaders : HeaderMap) : Bool :=
  rule.compiledPath.matches P path &&
    methodMatches P method rule.methods &&
    headersMatch P requestHeaders rule.headers

def CompiledRoutingRule.rewritePath (rule : CompiledRoutingRule)
    (path : String) : String :=
  match rule.stripPrefix with
  | none => path
  | some pre =>
      match stripPrefix? path pre with
      | none => path
      | some stripped => if stripped.toList.isEmpty then "/" else stripped

/-! ## What compilation keeps -/

section Compile

variable {P : Platform} {rule : RoutingRule} {compiled : CompiledRoutingRule}

/-- The inversion of `compile`: both fallible steps succeeded and every other
field is copied. -/
theorem compile_eq_ok :
    CompiledRoutingRule.compile P rule = .ok compiled ↔
      ∃ compiledPath responseHeaders,
        compilePath P rule.id rule.path = .ok compiledPath ∧
        compileOptionalHeaders P rule.id rule.responseHeaders =
          .ok responseHeaders ∧
        compiled = {
          id := rule.id
          compiledPath := compiledPath
          methods := rule.methods
          headers := rule.headers
          serviceId := rule.serviceId
          upstreamUrl := rule.upstreamUrl
          stripPrefix := rule.stripPrefix
          responseHeaders := responseHeaders
          priority := rule.priority } := by
  unfold CompiledRoutingRule.compile
  cases compilePath P rule.id rule.path with
  | error e => simp [bind, Except.bind]
  | ok compiledPath =>
      cases compileOptionalHeaders P rule.id rule.responseHeaders with
      | error e => simp [bind, Except.bind]
      | ok responseHeaders =>
          simp [bind, Except.bind, pure, Except.pure, eq_comm]

theorem compile_id
    (h : CompiledRoutingRule.compile P rule = .ok compiled) :
    compiled.id = rule.id := by
  obtain ⟨_, _, -, -, rfl⟩ := compile_eq_ok.mp h
  rfl

theorem compile_priority
    (h : CompiledRoutingRule.compile P rule = .ok compiled) :
    compiled.priority = rule.priority := by
  obtain ⟨_, _, -, -, rfl⟩ := compile_eq_ok.mp h
  rfl

end Compile

/-- The match conditions of a rule that has not been compiled. -/
def PathMatcher.matches (P : Platform) (path : String) : PathMatcher → Bool
  | .exact value => value == path
  | .prefix_ value => startsWith path value
  | .glob pattern => P.globMatches pattern path
  | .regex pattern => P.regexIsMatch pattern path

def RoutingRule.matches (P : Platform) (rule : RoutingRule)
    (path method : String) (requestHeaders : HeaderMap) : Bool :=
  rule.path.matches P path && methodMatches P method rule.methods &&
    headersMatch P requestHeaders rule.headers

theorem compilePath_matches {P : Platform} {routeId : String}
    {matcher : PathMatcher} {compiledPath : CompiledPath}
    (h : compilePath P routeId matcher = .ok compiledPath) (path : String) :
    compiledPath.matches P path = matcher.matches P path := by
  cases matcher with
  | exact value => cases h; rfl
  | prefix_ value => cases h; rfl
  | glob value =>
      simp only [compilePath] at h
      cases hglob : P.globNew value <;> rw [hglob] at h <;> cases h
      rfl
  | regex value =>
      simp only [compilePath] at h
      cases hregex : P.regexNew value <;> rw [hregex] at h <;> cases h
      rfl

/-- A compiled rule matches exactly the requests its source rule describes. -/
theorem compile_matches {P : Platform} {rule : RoutingRule}
    {compiled : CompiledRoutingRule}
    (h : CompiledRoutingRule.compile P rule = .ok compiled)
    (path method : String) (requestHeaders : HeaderMap) :
    compiled.matches P path method requestHeaders =
      rule.matches P path method requestHeaders := by
  obtain ⟨compiledPath, _, hpath, -, rfl⟩ := compile_eq_ok.mp h
  simp only [CompiledRoutingRule.matches, RoutingRule.matches,
    compilePath_matches hpath]

end ServiceRouter
