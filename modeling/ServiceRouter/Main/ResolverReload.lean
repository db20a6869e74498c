import ServiceRouter.Main.LocalOverride
import ServiceRouter.Registry.Factory

/-!
# The resolver and reloads

Startup builds the resolver; no step of the running server builds another one.
After a reload it is the resolver of the configuration in the slot only where
the sources of that configuration connect to the same registries.
-/

namespace ServiceRouter

open Foundation

variable {ρ : Type}

theorem resolver_serverStep (P : Platform) (host : ConfigHost)
    (configPath : PathBuf) (state : ServerState ρ) (step : ServerStep) :
    (serverStep P host configPath state step).resolver = state.resolver := by
  cases step with
  | fileEvent event file addr => rfl
  | rebuildTask =>
      unfold serverStep runRebuildTask
      cases state.lastPtr with
      | none => rfl
      | some lastPtr =>
          by_cases hsame : state.configSlot.addr = lastPtr
          · simp [hsame]
          · cases hrebuild : rebuildRouter P state.configSlot.config <;>
              simp [hsame, hrebuild]

theorem resolver_runServer (P : Platform) (host : ConfigHost)
    (configPath : PathBuf) (state : ServerState ρ) (steps : List ServerStep) :
    (runServer P host configPath state steps).resolver = state.resolver := by
  induction steps generalizing state with
  | nil => rfl
  | cons step steps ih =>
      rw [runServer, List.foldl_cons]
      rw [← resolver_serverStep P host configPath state step]
      exact ih _

/-- The resolver is built from the configuration in the slot. -/
def ServerState.Built (clients : RegistryClients)
    (state : ServerState MultiRegistryResolver) : Prop :=
  buildResolver clients state.configSlot.config = .ok state.resolver

section Follows

variable (P : Platform) (host : ConfigHost) (configPath : PathBuf)
  (clients : RegistryClients) (state : ServerState MultiRegistryResolver)
  (steps : List ServerStep)

/-- After each poll the resolver is built from the configuration in the
slot. -/
def ResolverFollowsSlot : Prop :=
  ∀ before after, steps = before ++ .rebuildTask :: after →
    (runServer P host configPath state before).lastPtr ≠ none →
    (runServer P host configPath state
      (before ++ [.rebuildTask])).Built clients

/-- After each poll router and resolver both belong to the configuration in
the slot. -/
def OneConfigVersion : Prop :=
  ∀ before after, steps = before ++ .rebuildTask :: after →
    (runServer P host configPath state before).lastPtr ≠ none →
    let polled := runServer P host configPath state (before ++ [.rebuildTask])
    polled.Coherent P ∧ polled.Built clients

/-- At each poll, the sources of the configuration loaded last connect like
those of the configuration at startup. -/
def RegistriesKept : Prop :=
  ∀ before after, steps = before ++ .rebuildTask :: after →
    (runServer P host configPath state before).lastPtr ≠ none →
    ConnectsAlike clients
      (lastLoaded P host configPath state.configSlot.config before)
      state.configSlot.config

variable {P host configPath clients state steps}

theorem built_of_start {file : FileRead}
    {localOverride : Option (PathBuf × FileRead)} {addr : Nat}
    (h : startServer P host (buildResolver clients) configPath file
      localOverride addr = .ok state) : state.Built clients := by
  obtain ⟨_, config, -, -, hresolver, -, hslot, -⟩ := startServer_eq_ok.mp h
  rw [ServerState.Built, hslot]
  exact hresolver

theorem built_after_turn_iff (before : List ServerStep)
    (h : state.Built clients) :
    (runServer P host configPath state
        (before ++ [.rebuildTask])).Built clients ↔
      ConnectsAlike clients
        (lastLoaded P host configPath state.configSlot.config before)
        state.configSlot.config := by
  rw [ServerState.Built, configSlot_after_turn, resolver_runServer]
  exact buildResolver_iff_connectsAlike h

theorem lastLoaded_of_same {config : AppConfig}
    (h : ∀ step ∈ steps, ∀ loaded, step.stores P host configPath =
      some loaded → loaded = config) :
    lastLoaded P host configPath config steps = config := by
  unfold lastLoaded
  cases hlast : (reloads P host configPath steps).getLast? with
  | none => rfl
  | some loaded =>
      obtain ⟨step, hstep, hstores⟩ :=
        List.mem_filterMap.mp (List.mem_of_getLast? hlast)
      exact h step hstep loaded hstores

end Follows

/-! ## A registry whose instance moves -/

def noClients : RegistryClients where
  nacosNew _ _ := .error .authFailed
  eurekaNew _ _ := ⟨fun service => .error (.serviceNotFound service)⟩
  k8sNew _ _ := .error .authFailed

def mockYaml (port : String) : String :=
  "server: \x7b\x7d\nlog_level: info\nroutes: []\nregistries:\n" ++
  "  sources:\n    - type: mock\n      services:\n        orders:\n" ++
  "          - host: h\n            port: " ++ port ++ "\n"

def mockRegistry (port : Nat) : MockRegistryConfig where
  services := AList.singleton "orders" [{ host := "h", port := port }]

def mockConfig (port : Nat) : AppConfig where
  registries := { sources := [.mock (mockRegistry port)] }

def mockHost : ConfigHost where
  envVar _ := none
  configFromYaml text :=
    if text = mockYaml "1" then .ok (mockConfig 1)
    else if text = mockYaml "2" then .ok (mockConfig 2)
    else .error "invalid type"
  overridesFromYaml _ := .error "missing field overrides"

def mockResolver (port : Nat) : MultiRegistryResolver :=
  .new [(100, mockNew (mockRegistry port))] .priority

def mockServer : ServerState MultiRegistryResolver where
  configSlot := ⟨0, mockConfig 1⟩
  resolver := mockResolver 1
  router := ⟨[]⟩
  lastPtr := none

theorem placeholders_mockYaml {port : String} (h : '$' ∉ port.toList) :
    placeholders (mockYaml port) = [] := by
  refine placeholders_of_no_dollar (no_dollar_append (no_dollar_append
    (no_dollar_append (no_dollar_append ?_ ?_) ?_) h) ?_) <;> decide +kernel

theorem loadConfig_mock_first :
    loadConfig .plain mockHost configYaml (.ok (mockYaml "1")) =
      .ok (mockConfig 1) := by
  apply loadConfig_of_no_placeholder
  · exact placeholders_mockYaml (by decide)
  · simp [mockHost]
  · rfl

theorem loadConfig_mock_second :
    loadConfig .plain mockHost configYaml (.ok (mockYaml "2")) =
      .ok (mockConfig 2) := by
  apply loadConfig_of_no_placeholder
  · exact placeholders_mockYaml (by decide)
  · have hfirst : mockYaml "2" ≠ mockYaml "1" := by
      intro h
      have hport := (String.append_right_inj _).mp
        ((String.append_left_inj _).mp h)
      exact absurd hport (by decide)
    simp [mockHost, hfirst]
  · rfl

theorem buildResolver_mock (port : Nat) :
    buildResolver noClients (mockConfig port) = .ok (mockResolver port) := rfl

theorem resolve_mockResolver (port : Nat) :
    (mockResolver port).resolve "orders" =
      .ok [{ host := "h", port := port }] := by
  rfl

theorem start_mockServer :
    startServer .plain mockHost (buildResolver noClients) configYaml
      (.ok (mockYaml "1")) none 0 = .ok mockServer :=
  startServer_eq_ok.mpr ⟨mockConfig 1, mockConfig 1, loadConfig_mock_first,
    rfl, buildResolver_mock 1,
    fromConfig_eq_sort.mpr ⟨[], rfl, rfl⟩, rfl, rfl⟩

theorem not_connectsAlike_mock :
    ¬ ConnectsAlike noClients (mockConfig 2) (mockConfig 1) := by
  intro halike
  have hsame := (buildResolver_iff_connectsAlike (buildResolver_mock 1)).mpr
    halike
  rw [buildResolver_mock] at hsame
  have hresolve := congrArg (fun resolver => resolver.resolve "orders")
    (Except.ok.inj hsame)
  simp [resolve_mockResolver] at hresolve

def saveMock (text : String) (addr : Nat) : ServerStep :=
  .fileEvent fileSaved (.ok text) addr

theorem stores_saveMock {text : String} {config : AppConfig}
    (h : loadConfig .plain mockHost configYaml (.ok text) = .ok config)
    (addr : Nat) :
    (saveMock text addr).stores .plain mockHost configYaml = some config :=
  (reloaded_eq_some (by decide)).mpr h

theorem cellSteps_saveMock {text : String} {config : AppConfig}
    (h : loadConfig .plain mockHost configYaml (.ok text) = .ok config)
    (addr : Nat) :
    cellSteps .plain mockHost configYaml (saveMock text addr) =
      [.store addr config] := by
  have hreload := stores_saveMock h addr
  unfold saveMock ServerStep.stores at hreload
  simp only [saveMock, cellSteps, hreload]

theorem allCompile_saveMock {text : String} {port : Nat}
    (h : loadConfig .plain mockHost configYaml (.ok text) =
      .ok (mockConfig port)) :
    AllCompile .plain mockHost configYaml
      [.rebuildTask, saveMock text 1, .rebuildTask] := by
  intro step hstep config hstores
  simp only [List.mem_cons, List.not_mem_nil, or_false] at hstep
  rcases hstep with rfl | rfl | rfl
  · cases hstores
  · rw [stores_saveMock h] at hstores
    cases hstores
    exact ⟨⟨[]⟩, fromConfig_eq_sort.mpr ⟨[], rfl, rfl⟩⟩
  · cases hstores

theorem lastLoaded_saveMock {text : String} {port : Nat}
    (h : loadConfig .plain mockHost configYaml (.ok text) =
      .ok (mockConfig port)) (config : AppConfig) :
    lastLoaded .plain mockHost configYaml config
      [.rebuildTask, saveMock text 1] = mockConfig port := by
  simp [lastLoaded, reloads, stores_saveMock h]

end ServiceRouter
