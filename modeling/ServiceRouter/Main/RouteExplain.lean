import ServiceRouter.Config.Loader
import ServiceRouter.Foundation.Json
import ServiceRouter.Foundation.KeepFirst
import ServiceRouter.Routing.Router

/-!
# Explaining a route

`routeExplain` asks the compiled routes for a request given on the command
line or in a sample file.  For a match it reports where the request would go.
Otherwise it runs through the first rules again, with checks of its own, and
collects a reason and a suggestion for each check that fails.
-/

namespace ServiceRouter

open Foundation

/-! ## The request -/

structure RouteRequestSample where
  path : String
  method : Option String
  headers : HashMap String String

structure ExplainedRequest where
  path : String
  method : String
  headers : List (String × String)

/-- The sample file replaces the path and the method of the command line; its
headers are kept unless the command line has a header under the same key. -/
def mergeRequest (iter : IterOrder) (sample : Option RouteRequestSample)
    (path method : String) (headers : List (String × String)) :
    ExplainedRequest :=
  match sample with
  | some sample =>
      let merged : HashMap String String :=
        headers.foldl (fun merged header => merged.insert header.1 header.2)
          sample.headers
      { path := sample.path
        method := sample.method.getD "GET"
        headers := iter.order (merged.entries.map fun entry =>
          (entry.1, entry.2)) }
  | none => { path := path, method := method, headers := headers }

def insertHeader (P : Platform) (headerMap : HeaderMap)
    (header : String × String) : HeaderMap :=
  match P.headerName header.1, P.headerValue header.2 with
  | some name, some value => headerMap.insert name value
  | _, _ => headerMap

/-- Headers whose name or value is not valid are left out. -/
def buildHeaderMap (P : Platform) (headers : List (String × String)) :
    HeaderMap :=
  headers.foldl (insertHeader P) .empty

/-! ## Why a rule does not match -/

def describePathExpectation : CompiledPath → String
  | .exact v => s!"exact '{v}'"
  | .prefix_ v => s!"prefix '{v}' (path must start with this)"
  | .glob p => s!"glob '{p}'"
  | .regex re => "regex `" ++ re ++ "`"

def pathMismatchActionMessage : CompiledPath → String
  | .exact v => s!"use path '{v}' or change the rule to the path you need"
  | .prefix_ v =>
      s!"ensure the path starts with '{v}' or adjust the rule prefix" ++
        " / try a more specific rule first"
  | .glob p =>
      s!"shape the path to match glob '{p}' or relax/tighten the pattern" ++
        " in config"
  | .regex re =>
      "adjust the path to satisfy regex `" ++ re ++
        "` or update the pattern in config"

structure Suggestion where
  code : String
  message : String
  command : String

/-- A reason with the suggestion that belongs to it. -/
structure Finding where
  reason : String
  suggestion : Suggestion

structure RuleMismatch where
  pathOk : Bool
  methodOk : Bool
  headersOk : Bool
  reasons : List String
  suggestions : List Suggestion

section Explain

variable (P : Platform) (path method configPath : String)

def pathFinding (compiledPath : CompiledPath) : Finding where
  reason := s!"path '{path}' does not match rule (" ++
    describePathExpectation compiledPath ++ ")"
  suggestion := {
    code := "PATH_MISMATCH"
    message := pathMismatchActionMessage compiledPath
    command := s!"cargo run -- route-explain {path} " ++
      P.caseMapping.toUppercase method ++ s!" --config {configPath} --verbose" }

/-- The methods of a rule as a reader sees them. -/
def allowedMethods (methods : Option (List String)) : String :=
  (methods.map (String.intercalate ",")).getD "*"

def methodFinding (methods : Option (List String)) : Finding where
  reason := s!"method '{P.caseMapping.toUppercase method}' not in " ++
    s!"[{allowedMethods methods}]"
  suggestion := {
    code := "METHOD_MISMATCH"
    message := s!"call with one of [{allowedMethods methods}] or add " ++
      s!"'{P.caseMapping.toUppercase method}' to rule.methods"
    command := s!"cargo run -- route-explain {path} " ++
      ((methods.bind List.head?).map P.caseMapping.toUppercase).getD "GET" ++
      s!" --config {configPath}" }

def invalidNameFinding (ruleId name : String) : Finding where
  reason := s!"invalid rule header name '{name}'"
  suggestion := {
    code := "RULE_HEADER_NAME_INVALID"
    message := "header names must be valid HTTP tokens; " ++
      "fix the key in YAML for this rule"
    command := s!"edit route '{ruleId}' headers: replace invalid key '{name}'" }

/-- The command that sends the header which a condition expects. -/
def headerCommand (name : HeaderName) (expected : String) : String :=
  s!"cargo run -- route-explain {path} " ++
    P.caseMapping.toUppercase method ++
    s!" --config {configPath} --header \"{name.asStr}:{expected}\""

def headerMismatchFinding (name : HeaderName) (expected actual : String) :
    Finding where
  reason := s!"header '{name.asStr}' mismatch: expected '{expected}', " ++
    s!"got '{actual}'"
  suggestion := {
    code := "HEADER_VALUE_MISMATCH"
    message := s!"set header '{name.asStr}' to '{expected}' or update " ++
      "rule condition"
    command := headerCommand P path method configPath name expected }

def headerMissingFinding (name : HeaderName) (expected : String) :
    Finding where
  reason := s!"missing required header '{name.asStr}'"
  suggestion := {
    code := "HEADER_MISSING"
    message := s!"add required header '{name.asStr}' with expected value " ++
      s!"'{expected}'"
    command := headerCommand P path method configPath name expected }

/-- What a header condition that is not met adds. -/
def explainHeader (ruleId : String) (headerMap : HeaderMap)
    (name expected : String) : Option Finding :=
  match P.headerName name with
  | none => some (invalidNameFinding ruleId name)
  | some name =>
      match (headerMap.get? name).bind P.headerText with
      | some actual =>
          if actual = expected then none
          else some (headerMismatchFinding P path method configPath name
            expected actual)
      | none => some (headerMissingFinding P path method configPath name
          expected)

def RuleMismatch.push (mismatch : RuleMismatch) (finding : Finding) :
    RuleMismatch :=
  { mismatch with
    reasons := mismatch.reasons ++ [finding.reason]
    suggestions := mismatch.suggestions ++ [finding.suggestion] }

/-- One turn of the loop over the header conditions. -/
def explainHeaderTurn (ruleId : String) (headerMap : HeaderMap)
    (mismatch : RuleMismatch) (condition : String × String) : RuleMismatch :=
  match explainHeader P path method configPath ruleId headerMap condition.1
      condition.2 with
  | some finding => { mismatch.push finding with headersOk := false }
  | none => mismatch

def explainRuleMismatch (rule : CompiledRoutingRule) (headerMap : HeaderMap) :
    RuleMismatch :=
  let pathOk := rule.compiledPath.matches P path
  let methodOk := (rule.methods.map fun methods =>
    methods.any fun m => eqIgnoreAsciiCase m method).getD true
  let start : RuleMismatch :=
    { pathOk := pathOk, methodOk := methodOk, headersOk := true, reasons := []
      suggestions := [] }
  let start :=
    if !pathOk
    then start.push (pathFinding P path method configPath rule.compiledPath)
    else start
  let start :=
    if !methodOk
    then start.push (methodFinding P path method configPath rule.methods)
    else start
  match rule.headers with
  | none => start
  | some headers =>
      (headers.entries.map fun entry => (entry.1, entry.2)).foldl
        (explainHeaderTurn P path method configPath rule.id headerMap) start

end Explain

/-! ## Rows and the outline -/

def Suggestion.toValue (suggestion : Suggestion) : Value :=
  .mkObject [
    ("code", .string suggestion.code),
    ("message", .string suggestion.message),
    ("command", .string suggestion.command)]

def RuleMismatch.toValue (mismatch : RuleMismatch) (ruleId : String) : Value :=
  .mkObject [
    ("rule_id", .string ruleId),
    ("path", .bool mismatch.pathOk),
    ("method", .bool mismatch.methodOk),
    ("headers", .bool mismatch.headersOk),
    ("reasons", .array (mismatch.reasons.map .string)),
    ("suggestions", .array (mismatch.suggestions.map Suggestion.toValue))]

/-- The text under `code`, for a suggestion that has one. -/
def suggestionCode (suggestion : Value) : Option String :=
  match suggestion.getField "code" with
  | some (.string code) => some code
  | _ => none

/-- The array under `suggestions`, for a row that has one. -/
def rowSuggestions (row : Value) : Option (List Value) :=
  match row.getField "suggestions" with
  | some (.array suggestions) => some suggestions
  | _ => none

/-- The codes seen so far and the suggestions kept. -/
abbrev Outline := List String × List Value

def keepSuggestion (outline : Outline) (suggestion : Value) : Outline :=
  match suggestionCode suggestion with
  | none => outline
  | some code =>
      if code ∈ outline.1 then outline
      else (code :: outline.1, outline.2 ++ [suggestion])

def keepRow (outline : Outline) (row : Value) : Outline :=
  match rowSuggestions row with
  | none => outline
  | some suggestions => suggestions.foldl keepSuggestion outline

def mergeRemediationOutline (diagnostics : List Value) : List Value :=
  (diagnostics.foldl keepRow ([], [])).2

/-! ## The report -/

/-- The response headers of a rule as JSON; `lossy` reads a value that is not
visible ASCII. -/
def explainResponseHeadersJson (P : Platform) (lossy : List UInt8 → String)
    (rule : CompiledRoutingRule) : Value :=
  match rule.responseHeaders with
  | none => .null
  | some pairs =>
      if pairs.isEmpty then .null
      else .mkObject (pairs.map fun pair =>
        (pair.1.asStr,
          .string ((P.headerText pair.2).getD (lossy pair.2.octets))))

structure MatchedReport where
  configPath : String
  requestFile : Option String
  path : String
  method : String
  ruleId : String
  priority : Nat
  target : Option String
  rewrittenPath : String
  responseHeaders : Value

structure UnmatchedReport where
  configPath : String
  requestFile : Option String
  path : String
  method : String
  inspectedRules : Nat
  remediationOutline : List Value
  diagnostics : List Value

inductive RouteExplanation where
  | matched (report : MatchedReport)
  | unmatched (report : UnmatchedReport)

inductive RouteExplainError where
  | requestFile (reason : String)
  | config (path : String) (error : ConfigError)
  | routes (error : ConfigError)

structure RouteExplainArgs where
  configPath : String
  path : String
  method : String
  headers : List (String × String)
  requestFile : Option String
  verbose : Bool

def inspectLimit (snapshot : RouterSnapshot) (verbose : Bool) : Nat :=
  if verbose then snapshot.rules.length else 5

/-- The rules that are inspected, each with what is found for it. -/
def inspectRules (P : Platform) (snapshot : RouterSnapshot)
    (request : ExplainedRequest) (headerMap : HeaderMap)
    (configPath : String) (verbose : Bool) :
    List (CompiledRoutingRule × RuleMismatch) :=
  (snapshot.rules.take (inspectLimit snapshot verbose)).map fun rule =>
    (rule, explainRuleMismatch P request.path request.method configPath rule
      headerMap)

def explainSnapshot (P : Platform) (lossy : List UInt8 → String)
    (args : RouteExplainArgs) (request : ExplainedRequest)
    (snapshot : RouterSnapshot) : RouteExplanation :=
  let headerMap := buildHeaderMap P request.headers
  match snapshot.resolvedRule P request.path request.method headerMap with
  | some rule => .matched {
      configPath := args.configPath
      requestFile := args.requestFile
      path := request.path
      method := P.caseMapping.toUppercase request.method
      ruleId := rule.id
      priority := rule.priority
      target := rule.upstreamUrl.or rule.serviceId
      rewrittenPath := rule.rewritePath request.path
      responseHeaders := explainResponseHeadersJson P lossy rule }
  | none =>
      let diagnostics := (inspectRules P snapshot request headerMap
        args.configPath args.verbose).map fun row => row.2.toValue row.1.id
      .unmatched {
        configPath := args.configPath
        requestFile := args.requestFile
        path := request.path
        method := P.caseMapping.toUppercase request.method
        inspectedRules := inspectLimit snapshot args.verbose
        remediationOutline := mergeRemediationOutline diagnostics
        diagnostics := diagnostics }

/-- `load_route_request_sample` and `load_config` read files; what they yield
is given. -/
def routeExplain (P : Platform) (iter : IterOrder)
    (lossy : List UInt8 → String)
    (loadSample : String → Except String RouteRequestSample)
    (loadConfig : String → Except ConfigError AppConfig)
    (args : RouteExplainArgs) : Except RouteExplainError RouteExplanation := do
  let sample ←
    match args.requestFile with
    | none => pure none
    | some file =>
        match loadSample file with
        | .ok sample => pure (some sample)
        | .error reason => .error (.requestFile reason)
  let request :=
    mergeRequest iter sample args.path args.method args.headers
  let config ←
    match loadConfig args.configPath with
    | .ok config => pure config
    | .error error => .error (.config args.configPath error)
  let snapshot ←
    match RouterSnapshot.fromConfig P config with
    | .ok snapshot => pure snapshot
    | .error error => .error (.routes error)
  return explainSnapshot P lossy args request snapshot

end ServiceRouter
