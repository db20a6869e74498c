import ServiceRouter.Foundation.Fallible
import ServiceRouter.Foundation.Serving
import ServiceRouter.Foundation.StableSort
import ServiceRouter.Server.HandlerOps

/-!
# Built-in plugins

The three plugins of the factory, and the chain it builds from a configuration.
Two of them insert configured headers, one into requests and one into
responses; a pass through the chain inserts the pairs of all of them.
-/

namespace ServiceRouter

open Foundation

/-- Set each header whose name and value are valid. -/
def insertHeaders (P : Platform) (headers : List (String × String))
    (map : HeaderMap) : HeaderMap :=
  headers.foldl (fun map header =>
    match P.headerName header.1, P.headerValue header.2 with
    | some name, some value => map.insert name value
    | _, _ => map) map

def validHeaders (P : Platform) (headers : List (String × String)) :
    List (HeaderName × HeaderValue) :=
  headers.filterMap fun header =>
    match P.headerName header.1, P.headerValue header.2 with
    | some name, some value => some (name, value)
    | _, _ => none

theorem insertHeaders_eq (P : Platform) (headers : List (String × String))
    (map : HeaderMap) :
    insertHeaders P headers map = map.insertAll (validHeaders P headers) := by
  induction headers generalizing map with
  | nil => rfl
  | cons header headers ih =>
      obtain ⟨k, v⟩ := header
      have hrest := fun map => ih map
      unfold insertHeaders validHeaders at hrest ⊢
      rw [List.foldl_cons, hrest, List.filterMap_cons]
      cases P.headerName k with
      | none => rfl
      | some name => cases P.headerValue v <;> rfl

/-! ## The plugins -/

inductive BuiltinPlugin where
  | requestLogger
  | requestHeaders (headers : List (String × String))
  | responseHeaders (headers : List (String × String))
  deriving DecidableEq

/-- `as_str().unwrap_or_default()` -/
def stringOrDefault : Value → String
  | .string s => s
  | _ => ""

def configuredHeaders (config : Value) : List (String × String) :=
  match config.getField "headers" with
  | some (.object map) => map.map fun field => (field.1, stringOrDefault field.2)
  | _ => []

namespace BuiltinPlugin

def name : BuiltinPlugin → String
  | .requestLogger => "request-logger"
  | .requestHeaders _ => "request-headers"
  | .responseHeaders _ => "response-headers"

def named (name : String) : Option BuiltinPlugin :=
  if name = "request-logger" then some .requestLogger
  else if name = "request-headers" then some (.requestHeaders [])
  else if name = "response-headers" then some (.responseHeaders [])
  else none

def init (config : Value) : BuiltinPlugin → Except String BuiltinPlugin
  | .requestLogger => .ok .requestLogger
  | .requestHeaders headers =>
      .ok (.requestHeaders (headers ++ configuredHeaders config))
  | .responseHeaders headers =>
      .ok (.responseHeaders (headers ++ configuredHeaders config))

def onRequest (P : Platform) (req : Request) :
    BuiltinPlugin → HookOutcome RequestAction
  | .requestHeaders headers =>
      .ok (.continue_ { req with
        headers := insertHeaders P headers req.headers })
  | _ => .ok (.continue_ req)

def onResponse (P : Platform) (resp : Response) :
    BuiltinPlugin → HookOutcome Response
  | .responseHeaders headers =>
      .ok { resp with headers := insertHeaders P headers resp.headers }
  | _ => .ok resp

/-- The pairs a plugin inserts into requests. -/
def requestPairs (P : Platform) :
    BuiltinPlugin → List (HeaderName × HeaderValue)
  | .requestHeaders headers => validHeaders P headers
  | _ => []

def responsePairs (P : Platform) :
    BuiltinPlugin → List (HeaderName × HeaderValue)
  | .responseHeaders headers => validHeaders P headers
  | _ => []

theorem onRequest_eq (P : Platform) (req : Request) (plugin : BuiltinPlugin) :
    plugin.onRequest P req = .ok (.continue_ { req with
      headers := req.headers.insertAll (plugin.requestPairs P) }) := by
  cases plugin with
  | requestHeaders headers => rw [onRequest, insertHeaders_eq, requestPairs]
  | _ => rfl

theorem onResponse_eq (P : Platform) (resp : Response)
    (plugin : BuiltinPlugin) :
    plugin.onResponse P resp = .ok { resp with
      headers := resp.headers.insertAll (plugin.responsePairs P) } := by
  cases plugin with
  | responseHeaders headers =>
      rw [onResponse, insertHeaders_eq, responsePairs]
  | _ => rfl

end BuiltinPlugin

/-! ## The factory -/

/-- Unknown names are skipped. -/
def loadPlugins : List PluginConfig → Except String (List BuiltinPlugin)
  | [] => .ok []
  | cfg :: entries =>
      match BuiltinPlugin.named cfg.name with
      | none => loadPlugins entries
      | some plugin => do
          let plugin ← plugin.init cfg.config
          let plugins ← loadPlugins entries
          return plugin :: plugins

def buildPluginChain (configs : List PluginConfig) :
    Except String (List BuiltinPlugin) :=
  loadPlugins (sortByKey PluginConfig.order
    (configs.filter PluginConfig.enabled))

/-- What an entry is loaded as. -/
def PluginConfig.loaded (cfg : PluginConfig) : Option BuiltinPlugin :=
  (BuiltinPlugin.named cfg.name).bind fun plugin =>
    (plugin.init cfg.config).toOption

theorem BuiltinPlugin.init_eq_ok (config : Value) (plugin : BuiltinPlugin) :
    ∃ ready, plugin.init config = .ok ready := by
  cases plugin <;> exact ⟨_, rfl⟩

theorem loadPlugins_eq (entries : List PluginConfig) :
    loadPlugins entries = .ok (entries.filterMap PluginConfig.loaded) := by
  induction entries with
  | nil => rfl
  | cons cfg entries ih =>
      rw [loadPlugins, List.filterMap_cons, PluginConfig.loaded]
      cases hnamed : BuiltinPlugin.named cfg.name with
      | none => exact ih
      | some plugin =>
          obtain ⟨ready, hready⟩ := plugin.init_eq_ok cfg.config
          simp only [hready, ih, Option.bind_some]
          rfl

/-- A loaded plugin is the one of its name with the headers of its config. -/
theorem loaded_eq_some_iff {cfg : PluginConfig} {plugin : BuiltinPlugin} :
    cfg.loaded = some plugin ↔
      cfg.name = "request-logger" ∧ plugin = .requestLogger ∨
      cfg.name = "request-headers" ∧
        plugin = .requestHeaders (configuredHeaders cfg.config) ∨
      cfg.name = "response-headers" ∧
        plugin = .responseHeaders (configuredHeaders cfg.config) := by
  constructor
  · intro h
    unfold PluginConfig.loaded BuiltinPlugin.named at h
    split at h
    · next hname =>
        cases h
        exact .inl ⟨hname, rfl⟩
    · split at h
      · next hname =>
          cases h
          exact .inr (.inl ⟨hname, rfl⟩)
      · split at h
        · next hname =>
            cases h
            exact .inr (.inr ⟨hname, rfl⟩)
        · cases h
  · unfold PluginConfig.loaded BuiltinPlugin.named
    rintro (⟨hname, rfl⟩ | ⟨hname, rfl⟩ | ⟨hname, rfl⟩)
    all_goals
      rw [hname]
      rfl

/-! ## A pass through the chain -/

def requestPairsOf (P : Platform) (chain : List BuiltinPlugin) :
    List (HeaderName × HeaderValue) :=
  chain.flatMap (BuiltinPlugin.requestPairs P)

def responsePairsOf (P : Platform) (chain : List BuiltinPlugin) :
    List (HeaderName × HeaderValue) :=
  chain.flatMap (BuiltinPlugin.responsePairs P)

/-- The hook of the plugin at a place of the chain. -/
def onRequestAt (P : Platform) (chain : List BuiltinPlugin) (position : Nat)
    (req : Request) : HookOutcome RequestAction :=
  match chain[position]? with
  | some plugin => plugin.onRequest P req
  | none => .panicked

def onResponseAt (P : Platform) (chain : List BuiltinPlugin)
    (position : Nat) (resp : Response) : HookOutcome Response :=
  match chain[position]? with
  | some plugin => plugin.onResponse P resp
  | none => .panicked

/-- The questions answered by the plugins of a chain and the id generator. -/
def ownAnswers (P : Platform) (chain : List BuiltinPlugin) (uuid : String) :
    (op : ServerOp) → Option op.Reply
  | .onRequest position req => some (onRequestAt P chain position req)
  | .onResponse position resp => some (onResponseAt P chain position resp)
  | .newUuid => some uuid
  | _ => none

/-- The entries are at these places of the chain. -/
def Placed (chain : List BuiltinPlugin) (entries : List (String × Nat))
    (plugins : List BuiltinPlugin) : Prop :=
  List.Forall₂ (fun entry plugin => chain[entry.2]? = some plugin) entries
    plugins

theorem placed_zipIdx (chain : List BuiltinPlugin) :
    Placed chain (chain.map BuiltinPlugin.name).zipIdx chain := by
  apply List.forall₂_iff_get.mpr
  constructor
  · rw [List.length_zipIdx, List.length_map]
  · intro i hi hchain
    simp

theorem placed_reverse (chain : List BuiltinPlugin) :
    Placed chain (chain.map BuiltinPlugin.name).zipIdx.reverse
      chain.reverse :=
  List.rel_reverse (placed_zipIdx chain)

theorem answering_perform_of_some {α : Type}
    {known : (op : ServerOp) → Option op.Reply} {op : ServerOp}
    {f : op.Reply → ServerProgram α} {reply : op.Reply}
    (h : known op = some reply) :
    ((perform op).bind f).answering known = (f reply).answering known :=
  Program.answering_call_of_some h

theorem answering_perform_of_none {α : Type}
    {known : (op : ServerOp) → Option op.Reply} {op : ServerOp}
    {f : op.Reply → ServerProgram α} (h : known op = none) :
    ((perform op).bind f).answering known =
      (perform op).bind fun reply => (f reply).answering known :=
  Program.answering_call_of_none h

section Pass

variable {P : Platform} {chain : List BuiltinPlugin} {uuid : String}
  {entries : List (String × Nat)} {plugins : List BuiltinPlugin}

theorem answering_runOnRequest (h : Placed chain entries plugins)
    (req : Request) :
    (runOnRequest entries req).answering (ownAnswers P chain uuid) =
      .done (.ok (.continue_ { req with
        headers := req.headers.insertAll (requestPairsOf P plugins) })) := by
  induction h generalizing req with
  | nil => rfl
  | @cons entry plugin entries plugins hplugin _ ih =>
      obtain ⟨name, position⟩ := entry
      have hanswer : ownAnswers P chain uuid (.onRequest position req) =
          some (.ok (.continue_ { req with
            headers := req.headers.insertAll (plugin.requestPairs P) })) := by
        simp only [ownAnswers, onRequestAt, hplugin, plugin.onRequest_eq]
      rw [runOnRequest, Program.bind_eq, answering_perform_of_some hanswer]
      simp only [ih]
      rw [requestPairsOf, requestPairsOf, List.flatMap_cons,
        MultiMap.insertAll_append]

theorem answering_runOnResponse (h : Placed chain entries plugins)
    (resp : Response) :
    (runOnResponse entries resp).answering (ownAnswers P chain uuid) =
      .done (.ok { resp with
        headers := resp.headers.insertAll (responsePairsOf P plugins) }) := by
  induction h generalizing resp with
  | nil => rfl
  | @cons entry plugin entries plugins hplugin _ ih =>
      obtain ⟨name, position⟩ := entry
      have hanswer : ownAnswers P chain uuid (.onResponse position resp) =
          some (.ok { resp with
            headers := resp.headers.insertAll
              (plugin.responsePairs P) }) := by
        simp only [ownAnswers, onResponseAt, hplugin, plugin.onResponse_eq]
      rw [runOnResponse, Program.bind_eq, answering_perform_of_some hanswer]
      simp only [ih]
      rw [responsePairsOf, responsePairsOf, List.flatMap_cons,
        MultiMap.insertAll_append]

end Pass

end ServiceRouter
