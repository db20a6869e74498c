import ServiceRouter.Main.RunServer

/-!
# Reloads that cannot take effect

A file whose loading fails leaves everything as it was.  A file that loads but
has response headers the router rejects still replaces the configuration in
the slot, and only the router stays.
-/

namespace ServiceRouter

open Foundation

variable {ρ : Type}

/-- What requests and the health checker read from the slot. -/
structure SlotSettings where
  instanceSelection : InstanceSelection
  maxRetries : Nat
  probedServices : List String
  deriving DecidableEq

def ServerState.settings (state : ServerState ρ) : SlotSettings where
  instanceSelection := state.configSlot.config.server.instanceSelection
  maxRetries := state.configSlot.config.server.maxRetries
  probedServices :=
    state.configSlot.config.routes.filterMap RoutingRule.serviceId

structure ServerState.SameAs (before after : ServerState ρ) : Prop where
  configSlot : after.configSlot = before.configSlot
  router : after.router = before.router
  settings : after.settings = before.settings

/-- The content of the file cannot become a running configuration. -/
def Rejected (P : Platform) (host : ConfigHost) (configPath : PathBuf)
    (file : FileRead) : Prop :=
  ∀ config, loadConfig P host configPath file = .ok config →
    ∃ e, RouterSnapshot.fromConfig P config = .error e

section FailedReload

variable {P : Platform} {host : ConfigHost} {configPath : PathBuf}
  {file : FileRead} {event : WatchEvent}

theorem runRebuildTask_configSlot (P : Platform) (state : ServerState ρ) :
    (runRebuildTask P state).configSlot = state.configSlot := by
  unfold runRebuildTask
  cases state.lastPtr with
  | none => rfl
  | some lastPtr =>
      by_cases hsame : state.configSlot.addr = lastPtr
      · simp [hsame]
      · cases hrebuild : rebuildRouter P state.configSlot.config <;>
          simp [hsame, hrebuild]

theorem runRebuildTask_router_of_coherent {state : ServerState ρ}
    (h : state.Coherent P) : (runRebuildTask P state).router = state.router := by
  unfold runRebuildTask
  cases state.lastPtr with
  | none => rfl
  | some lastPtr =>
      have hrebuild : rebuildRouter P state.configSlot.config =
          .ok state.router := h
      by_cases hsame : state.configSlot.addr = lastPtr
      · simp [hsame]
      · simp [hsame, hrebuild]

theorem sameAs_runRebuildTask {state : ServerState ρ}
    (h : state.Coherent P) : state.SameAs (runRebuildTask P state) := by
  have hslot := runRebuildTask_configSlot P state
  refine ⟨hslot, runRebuildTask_router_of_coherent h, ?_⟩
  unfold ServerState.settings
  rw [hslot]

theorem acceptedHeaders_iff_not_loaded
    (hrejected : Rejected P host configPath file) :
    (∀ config, loadConfig P host configPath file = .ok config →
        config.AcceptedHeaders P) ↔
      ∀ config, loadConfig P host configPath file ≠ .ok config := by
  constructor
  · intro haccepted config hload
    obtain ⟨snapshot, hsnapshot⟩ :=
      (exists_fromConfig_iff_of_loaded hload).mpr (haccepted config hload)
    obtain ⟨e, he⟩ := hrejected config hload
    rw [he] at hsnapshot
    cases hsnapshot
  · intro hnot config hload
    exact absurd hload (hnot config)

/-- For a file that cannot become a running configuration: the reload changes
nothing exactly if no loaded response header is one the router rejects. -/
theorem failed_reload_unchanged_iff {state : ServerState ρ}
    (hrunning : state.Coherent P)
    (hevent : event.isRelevant configPath = true)
    (hrejected : Rejected P host configPath file) (addr : Nat) :
    state.SameAs (runServer P host configPath state
        [.fileEvent event file addr, .rebuildTask]) ↔
      ∀ config, loadConfig P host configPath file = .ok config →
        config.AcceptedHeaders P := by
  rw [acceptedHeaders_iff_not_loaded hrejected]
  constructor
  · intro hsame config hload
    have hreload := (reloaded_eq_some hevent).mpr hload
    have hslot := hsame.configSlot
    simp only [runServer, List.foldl_cons, List.foldl_nil, serverStep,
      handleEvent_of_reloaded addr hreload, runRebuildTask_configSlot]
      at hslot
    obtain ⟨e, he⟩ := hrejected config hload
    have hrouter : RouterSnapshot.fromConfig P config = .ok state.router := by
      have hconfig : state.configSlot.config = config := by rw [← hslot]
      rw [← hconfig]
      exact hrunning
    rw [he] at hrouter
    cases hrouter
  · intro hnot
    have hreload : reloaded P host event configPath file = none := by
      rw [Option.eq_none_iff_forall_not_mem]
      intro config hmem
      exact hnot config ((reloaded_eq_some hevent).mp hmem)
    simp only [runServer, List.foldl_cons, List.foldl_nil, serverStep,
      handleEvent_of_not_reloaded addr hreload]
    exact sameAs_runRebuildTask hrunning

end FailedReload

/-! ## Saved files -/

def configYaml : PathBuf := ⟨["config.yaml"], "config.yaml"⟩

def fileSaved : WatchEvent := ⟨.modify, [configYaml]⟩

/-- A whole file with these routes and defaults in the other sections. -/
def fileWithRoutes (routes : String) : String :=
  "server: \x7b\x7d\nregistries: \x7b\x7d\nlog_level: info\n" ++ routes

def emptyYaml : String := fileWithRoutes "routes: []\n"

def rootYaml : String :=
  fileWithRoutes "routes:\n  - id: a\n    path:\n      type: exact\n" ++
  "      value: /\n    upstream_url: http://up\n"

/-- The same route with a hop-by-hop response header. -/
def connectionYaml : String :=
  rootYaml ++ "    response_headers:\n      connection: close\n"

def rootRoute : RoutingRule where
  id := "a"
  path := .exact "/"
  serviceId := none
  upstreamUrl := some "http://up"
  stripPrefix := none

def rootConfig : AppConfig where
  routes := [rootRoute]

def connectionConfig : AppConfig where
  routes := [{ rootRoute with
    responseHeaders := some (AList.singleton "connection" "close") }]

def overridesYaml : String :=
  "overrides:\n  - route_id: a\n    upstream_url: http://local\n"

def localEntry : LocalOverrideEntry := ⟨"a", "http://local"⟩

def sampleHost : ConfigHost where
  envVar _ := none
  configFromYaml text :=
    if text = emptyYaml then .ok {}
    else if text = rootYaml then .ok rootConfig
    else if text = connectionYaml then .ok connectionConfig
    else .error "invalid type"
  overridesFromYaml text :=
    if text = overridesYaml then .ok [localEntry]
    else .error "missing field overrides"

theorem loadConfig_missing (P : Platform) (host : ConfigHost)
    (path : PathBuf) :
    loadConfig P host path (.error .notFound) =
      .error (.fileNotFound path.display) := rfl

theorem loadConfig_empty :
    loadConfig .plain sampleHost configYaml (.ok emptyYaml) = .ok {} := by
  apply loadConfig_of_no_placeholder
  · refine placeholders_of_no_dollar (no_dollar_append ?_ ?_) <;>
      decide +kernel
  · simp [sampleHost]
  · rfl

theorem no_dollar_rootYaml : '$' ∉ rootYaml.toList := by
  refine no_dollar_append (no_dollar_append ?_ ?_) ?_ <;> decide +kernel

theorem loadConfig_root :
    loadConfig .plain sampleHost configYaml (.ok rootYaml) =
      .ok rootConfig := by
  apply loadConfig_of_no_placeholder
  · exact placeholders_of_no_dollar no_dollar_rootYaml
  · have hempty : rootYaml ≠ emptyYaml := by decide +kernel
    simp [sampleHost, hempty]
  · rfl

theorem loadConfig_connection :
    loadConfig .plain sampleHost configYaml (.ok connectionYaml) =
      .ok connectionConfig := by
  apply loadConfig_of_no_placeholder
  · exact placeholders_of_no_dollar
      (no_dollar_append no_dollar_rootYaml (by decide +kernel))
  · have hempty : connectionYaml ≠ emptyYaml := by decide +kernel
    have hroot : connectionYaml ≠ rootYaml := by decide +kernel
    simp [sampleHost, hempty, hroot]
  · rfl

def emptyServer : ServerState Unit where
  configSlot := ⟨0, {}⟩
  resolver := ()
  router := ⟨[]⟩
  lastPtr := some 0

theorem fromConfig_empty : RouterSnapshot.fromConfig .plain {} = .ok ⟨[]⟩ := by
  simp [RouterSnapshot.fromConfig, sortByKey, pure, Except.pure, bind,
    Except.bind]

theorem coherent_emptyServer : emptyServer.Coherent .plain :=
  fromConfig_empty

theorem failed_reload_unchanged_missing :
    emptyServer.SameAs (runServer .plain sampleHost configYaml emptyServer
      [.fileEvent fileSaved (.error .notFound) 1, .rebuildTask]) := by
  have hfails (config : AppConfig) :
      loadConfig .plain sampleHost configYaml (.error .notFound) ≠
        .ok config := by
    rw [loadConfig_missing]
    simp
  refine (failed_reload_unchanged_iff coherent_emptyServer (by decide) ?_
    1).mpr ?_
  · exact fun config hload => absurd hload (hfails config)
  · exact fun config hload => absurd hload (hfails config)

/-- The file loads, its response header is rejected, and the configuration in
the slot is another one. -/
theorem failed_reload_replaces_config :
    emptyServer.Coherent .plain ∧ fileSaved.isRelevant configYaml = true ∧
      Rejected .plain sampleHost configYaml (.ok connectionYaml) ∧
      ¬ emptyServer.SameAs (runServer .plain sampleHost configYaml
        emptyServer
        [.fileEvent fileSaved (.ok connectionYaml) 1, .rebuildTask]) := by
  refine ⟨coherent_emptyServer, by decide, ?_, ?_⟩
  · intro config hload
    rw [loadConfig_connection] at hload
    cases hload
    exact ⟨_, rfl⟩
  · intro hsame
    have hslot := hsame.configSlot
    have hreload : reloaded .plain sampleHost fileSaved configYaml
        (.ok connectionYaml) = some connectionConfig :=
      (reloaded_eq_some (by decide)).mpr loadConfig_connection
    simp only [runServer, List.foldl_cons, List.foldl_nil, serverStep,
      handleEvent_of_reloaded 1 hreload, runRebuildTask_configSlot] at hslot
    cases hslot

end ServiceRouter
