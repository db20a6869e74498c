import ServiceRouter.Server.BuiltinPlugins

/-!
# How header plugins compose

A chain holds the enabled entries with a known name in stable order.  A pass
through it leaves each header as the last setting found on the way has it: on
the way in that of the latest plugin in the chain, on the way out, where the
chain is walked backwards, that of the earliest.
-/

namespace ServiceRouter

open Foundation

/-! ## The settings of a plugin -/

/-- What a plugin with these pairs leaves under a name: the last valid value,
if any pair sets the name validly. -/
def lastSetting (P : Platform) (name : HeaderName)
    (headers : List (String × String)) : Option HeaderValue :=
  headers.reverse.findSome? fun header =>
    if P.headerName header.1 = some name then P.headerValue header.2 else none

namespace BuiltinPlugin

def requestSetting (P : Platform) (name : HeaderName) :
    BuiltinPlugin → Option HeaderValue
  | .requestHeaders headers => lastSetting P name headers
  | _ => none

def responseSetting (P : Platform) (name : HeaderName) :
    BuiltinPlugin → Option HeaderValue
  | .responseHeaders headers => lastSetting P name headers
  | _ => none

end BuiltinPlugin

/-- All values of a header for which a setting has been found, or none. -/
def overwritten (setting : Option HeaderValue) (before : List HeaderValue) :
    List HeaderValue :=
  match setting with
  | some value => [value]
  | none => before

theorem getLast?_getAll_validHeaders (P : Platform) (name : HeaderName)
    (headers : List (String × String)) :
    ((⟨validHeaders P headers⟩ : HeaderMap).getAll name).getLast? =
      lastSetting P name headers := by
  have hvalues : (⟨validHeaders P headers⟩ : HeaderMap).getAll name =
      headers.filterMap fun header =>
        if P.headerName header.1 = some name then P.headerValue header.2
        else none := by
    induction headers with
    | nil => rfl
    | cons header headers ih =>
        unfold validHeaders at ih ⊢
        rw [List.filterMap_cons, List.filterMap_cons, ← ih]
        cases hname : P.headerName header.1 with
        | none => simp
        | some found =>
            cases hvalue : P.headerValue header.2 with
            | none => simp
            | some value =>
                by_cases hfound : found = name <;> simp [hfound]
  rw [hvalues, List.getLast?_filterMap]
  rfl

theorem BuiltinPlugin.getLast?_requestPairs (P : Platform) (name : HeaderName)
    (plugin : BuiltinPlugin) :
    ((⟨plugin.requestPairs P⟩ : HeaderMap).getAll name).getLast? =
      plugin.requestSetting P name := by
  cases plugin with
  | requestHeaders headers => exact getLast?_getAll_validHeaders P name headers
  | _ => rfl

theorem BuiltinPlugin.getLast?_responsePairs (P : Platform)
    (name : HeaderName) (plugin : BuiltinPlugin) :
    ((⟨plugin.responsePairs P⟩ : HeaderMap).getAll name).getLast? =
      plugin.responseSetting P name := by
  cases plugin with
  | responseHeaders headers =>
      exact getLast?_getAll_validHeaders P name headers
  | _ => rfl

/-! ## The settings of an entry -/

/-- The map of headers an entry is configured with. -/
def PluginConfig.headers (cfg : PluginConfig) : List (String × Value) :=
  match cfg.config.getField "headers" with
  | some (.object map) => map
  | _ => []

/-- What an entry of this plugin leaves under a name: of the pairs in the order
of its map the last one that sets the name validly. -/
def PluginConfig.setting (P : Platform) (plugin : String) (name : HeaderName)
    (cfg : PluginConfig) : Option HeaderValue :=
  if cfg.name = plugin then
    cfg.headers.reverse.findSome? fun field =>
      if P.headerName field.1 = some name
      then P.headerValue (stringOrDefault field.2) else none
  else none

theorem lastSetting_configuredHeaders (P : Platform) (name : HeaderName)
    (cfg : PluginConfig) :
    lastSetting P name (configuredHeaders cfg.config) =
      cfg.headers.reverse.findSome? fun field =>
        if P.headerName field.1 = some name
        then P.headerValue (stringOrDefault field.2) else none := by
  have hheaders : configuredHeaders cfg.config =
      cfg.headers.map fun field => (field.1, stringOrDefault field.2) := by
    unfold configuredHeaders PluginConfig.headers
    cases cfg.config.getField "headers" with
    | none => rfl
    | some v => cases v <;> rfl
  rw [lastSetting, hheaders, ← List.map_reverse, List.findSome?_map]
  rfl

theorem setting_of_loaded {P : Platform} {name : HeaderName}
    {cfg : PluginConfig} {plugin : BuiltinPlugin}
    (h : cfg.loaded = some plugin) :
    cfg.setting P "request-headers" name = plugin.requestSetting P name ∧
      cfg.setting P "response-headers" name =
        plugin.responseSetting P name := by
  unfold PluginConfig.setting
  rw [← lastSetting_configuredHeaders]
  rcases loaded_eq_some_iff.mp h with
    ⟨hname, rfl⟩ | ⟨hname, rfl⟩ | ⟨hname, rfl⟩
  all_goals
    rw [hname]
    exact ⟨rfl, rfl⟩

/-! ## The settings of a chain -/

theorem getAll_flatMap {pairs : BuiltinPlugin → List (HeaderName × HeaderValue)}
    (chain : List BuiltinPlugin) (name : HeaderName) :
    (⟨chain.flatMap pairs⟩ : HeaderMap).getAll name =
      chain.flatMap fun plugin =>
        (⟨pairs plugin⟩ : HeaderMap).getAll name := by
  simp only [MultiMap.getAll, List.filter_flatMap, List.map_flatMap]

/-- Whatever the plugins insert, the last of them that has a setting decides. -/
theorem getAll_insertAll_flatMap
    {pairs : BuiltinPlugin → List (HeaderName × HeaderValue)}
    {setting : BuiltinPlugin → Option HeaderValue} {name : HeaderName}
    (hsetting : ∀ plugin,
      ((⟨pairs plugin⟩ : HeaderMap).getAll name).getLast? = setting plugin)
    (chain : List BuiltinPlugin) (map : HeaderMap) :
    (map.insertAll (chain.flatMap pairs)).getAll name =
      overwritten (chain.reverse.findSome? setting) (map.getAll name) := by
  rw [MultiMap.getAll_insertAll, getAll_flatMap, List.getLast?_flatMap]
  simp only [hsetting]
  cases chain.reverse.findSome? setting <;> rfl

theorem getAll_requestPairsOf (P : Platform) (chain : List BuiltinPlugin)
    (map : HeaderMap) (name : HeaderName) :
    (map.insertAll (requestPairsOf P chain)).getAll name =
      overwritten
        (chain.reverse.findSome? (BuiltinPlugin.requestSetting P name))
        (map.getAll name) :=
  getAll_insertAll_flatMap (BuiltinPlugin.getLast?_requestPairs P name) chain
    map

theorem getAll_responsePairsOf (P : Platform) (chain : List BuiltinPlugin)
    (map : HeaderMap) (name : HeaderName) :
    (map.insertAll (responsePairsOf P chain)).getAll name =
      overwritten
        (chain.reverse.findSome? (BuiltinPlugin.responseSetting P name))
        (map.getAll name) :=
  getAll_insertAll_flatMap (BuiltinPlugin.getLast?_responsePairs P name) chain
    map

/-! ## The chain -/

def PluginConfig.Known (cfg : PluginConfig) : Prop :=
  cfg.name = "request-logger" ∨ cfg.name = "request-headers" ∨
    cfg.name = "response-headers"

/-- The plugins are those of the enabled entries with a known name, by order
and, where that is equal, by position. -/
structure ChainOf (configs : List PluginConfig) (chain : List BuiltinPlugin)
    (order : List (Fin configs.length)) : Prop where
  sorted : order.Pairwise (PositionBefore PluginConfig.order configs)
  mem_iff : ∀ i, i ∈ order ↔
    (configs.get i).enabled = true ∧ (configs.get i).Known
  loaded : List.Forall₂ (fun i plugin => (configs.get i).loaded = some plugin)
    order chain

theorem PluginConfig.isSome_loaded_iff {cfg : PluginConfig} :
    cfg.loaded.isSome = true ↔ cfg.Known := by
  simp only [Option.isSome_iff_exists, loaded_eq_some_iff, exists_or,
    exists_and_left, exists_eq, and_true]
  rfl

private theorem forall₂_filterMap {α β : Type} (f : α → Option β)
    (items : List α) :
    List.Forall₂ (fun a b => f a = some b)
      (items.filter fun a => (f a).isSome) (items.filterMap f) := by
  induction items with
  | nil => exact .nil
  | cons a items ih =>
      cases ha : f a with
      | none => simpa [ha] using ih
      | some b => simpa [ha] using ih

theorem exists_chainOf {configs : List PluginConfig}
    {chain : List BuiltinPlugin} (h : buildPluginChain configs = .ok chain) :
    ∃ order, ChainOf configs chain order := by
  obtain ⟨order, hsorted, hpairwise, hmem⟩ := exists_order_of_filter
    PluginConfig.order PluginConfig.enabled configs
  rw [buildPluginChain, loadPlugins_eq, hsorted, List.filterMap_map] at h
  cases h
  refine ⟨order.filter fun i => (configs.get i).loaded.isSome,
    hpairwise.filter _, fun i => ?_, forall₂_filterMap _ order⟩
  rw [List.mem_filter, hmem, PluginConfig.isSome_loaded_iff]

private theorem findSome?_congr_forall₂ {α β γ : Type} {f : α → Option γ}
    {g : β → Option γ} {left : List α} {right : List β}
    (h : List.Forall₂ (fun a b => f a = g b) left right) :
    left.findSome? f = right.findSome? g := by
  induction h with
  | nil => rfl
  | cons hab _ ih => rw [List.findSome?_cons, List.findSome?_cons, hab, ih]

/-! ## A pass through the chain -/

/-- Requests get the setting of the last entry that has one, responses that of
the first; all other headers keep their values. -/
def HeaderPluginsCompose (P : Platform) (configs : List PluginConfig)
    (chain : List BuiltinPlugin) : Prop :=
  ∃ order, ChainOf configs chain order ∧
  (∀ uuid req, ∃ out,
    (runOnRequest (chain.map BuiltinPlugin.name).zipIdx req).answering
        (ownAnswers P chain uuid) =
      .done (.ok (.continue_ { req with headers := out })) ∧
    ∀ name, out.getAll name =
      overwritten
        (order.reverse.findSome? fun i =>
          (configs.get i).setting P "request-headers" name)
        (req.headers.getAll name)) ∧
  ∀ uuid resp, ∃ out,
    (runOnResponse (chain.map BuiltinPlugin.name).zipIdx.reverse
        resp).answering (ownAnswers P chain uuid) =
      .done (.ok { resp with headers := out }) ∧
    ∀ name, out.getAll name =
      overwritten
        (order.findSome? fun i =>
          (configs.get i).setting P "response-headers" name)
        (resp.headers.getAll name)

/-- Header plugins compose in every chain that is built. -/
theorem headerPlugins_compose (P : Platform) {configs : List PluginConfig}
    {chain : List BuiltinPlugin} (h : buildPluginChain configs = .ok chain) :
    HeaderPluginsCompose P configs chain := by
  obtain ⟨order, hchain⟩ := exists_chainOf h
  refine ⟨order, hchain, fun uuid req => ?_, fun uuid resp => ?_⟩
  · refine ⟨_, answering_runOnRequest (placed_zipIdx chain) req,
      fun name => ?_⟩
    have hsettings : (order.reverse.findSome? fun i =>
        (configs.get i).setting P "request-headers" name) =
          chain.reverse.findSome? (BuiltinPlugin.requestSetting P name) :=
      findSome?_congr_forall₂ (List.rel_reverse
        (hchain.loaded.imp fun _ _ h => (setting_of_loaded h).1))
    rw [hsettings, getAll_requestPairsOf]
  · refine ⟨_, answering_runOnResponse (placed_reverse chain) resp,
      fun name => ?_⟩
    have hsettings : (order.findSome? fun i =>
        (configs.get i).setting P "response-headers" name) =
          chain.findSome? (BuiltinPlugin.responseSetting P name) :=
      findSome?_congr_forall₂
        (hchain.loaded.imp fun _ _ h => (setting_of_loaded h).2)
    rw [hsettings, getAll_responsePairsOf, List.reverse_reverse]

/-- Plugins of one order between a late and a disabled one, for requests and
for responses, and an entry with an unknown name. -/
def teamPlugins : List PluginConfig :=
  let team (name : String) : Value :=
    .object [("headers", .object [("x-stage", .string name),
      ("x-team", .string name)])]
  [{ name := "request-headers", order := 200, config := team "late" },
    { name := "request-headers", config := team "first" },
    { name := "tracing" },
    { name := "response-headers", config := team "outer" },
    { name := "request-headers", order := 300, enabled := false,
      config := team "off" },
    { name := "response-headers", order := 200, config := team "inner" }]

def teamChain : List BuiltinPlugin :=
  let team (name : String) : List (String × String) :=
    [("x-stage", name), ("x-team", name)]
  [.requestHeaders (team "first"), .responseHeaders (team "outer"),
    .requestHeaders (team "late"), .responseHeaders (team "inner")]

theorem headerPlugins_compose_team :
    buildPluginChain teamPlugins = .ok teamChain ∧
      HeaderPluginsCompose .plain teamPlugins teamChain := by
  have hchain : buildPluginChain teamPlugins = .ok teamChain := by decide
  exact ⟨hchain, headerPlugins_compose .plain hchain⟩

end ServiceRouter
