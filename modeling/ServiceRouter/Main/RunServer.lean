import ServiceRouter.Config.Watcher
import ServiceRouter.Foundation.PolledCell

/-!
# The running server

Startup loads the configuration, applies the local overrides and compiles the
router.  From then on the watcher stores reloaded configurations in the slot,
and a task that polls the slot rebuilds the router when it sees another
address than the last time.
-/

namespace ServiceRouter

open Foundation

variable {ρ : Type}

/-- What requests share with the two background tasks.  The resolver is of any
type `ρ`. -/
structure ServerState (ρ : Type) where
  configSlot : ConfigArc
  resolver : ρ
  router : RouterSnapshot
  /-- The pointer the rebuild task remembers, once it has run. -/
  lastPtr : Option Nat

inductive StartupError where
  | config (error : ConfigError)
  | localOverride (error : ConfigError)
  | registries (error : RegistryError)
  | routes (error : ConfigError)
  deriving DecidableEq, Repr

/-! ## Startup -/

def applyOverrideFile (host : ConfigHost) (config : AppConfig) :
    Option (PathBuf × FileRead) → Except StartupError AppConfig
  | none => .ok config
  | some (overridePath, file) => do
      let entries ← (loadLocalOverrides host overridePath file).mapError
        .localOverride
      return config.applyLocalOverrides entries

def startServer (P : Platform) (host : ConfigHost)
    (buildResolver : AppConfig → Except RegistryError ρ)
    (configPath : PathBuf) (file : FileRead)
    (localOverride : Option (PathBuf × FileRead)) (addr : Nat) :
    Except StartupError (ServerState ρ) := do
  let loaded ← (loadConfig P host configPath file).mapError .config
  let config ← applyOverrideFile host loaded localOverride
  let resolver ← (buildResolver config).mapError .registries
  let snapshot ← (RouterSnapshot.fromConfig P config).mapError .routes
  return {
    configSlot := ⟨addr, config⟩
    resolver := resolver
    router := snapshot
    lastPtr := none }

/-! ## Steps of the background tasks -/

def rebuildRouter (P : Platform) (config : AppConfig) :
    Except ConfigError RouterSnapshot :=
  RouterSnapshot.fromConfig P config

inductive ServerStep where
  | fileEvent (event : WatchEvent) (file : FileRead) (addr : Nat)
  | rebuildTask

/-- The first turn of the task reads the pointer; each later turn polls. -/
def runRebuildTask (P : Platform) (state : ServerState ρ) : ServerState ρ :=
  match state.lastPtr with
  | none => { state with lastPtr := some state.configSlot.addr }
  | some lastPtr =>
      let current := state.configSlot
      if current.addr ≠ lastPtr then
        match rebuildRouter P current.config with
        | .ok snapshot => { state with
            lastPtr := some current.addr
            router := snapshot }
        | .error _ => { state with lastPtr := some current.addr }
      else state

def serverStep (P : Platform) (host : ConfigHost) (configPath : PathBuf)
    (state : ServerState ρ) : ServerStep → ServerState ρ
  | .fileEvent event file addr => { state with
      configSlot :=
        handleEvent P host event configPath file addr state.configSlot }
  | .rebuildTask => runRebuildTask P state

def runServer (P : Platform) (host : ConfigHost) (configPath : PathBuf)
    (state : ServerState ρ) (steps : List ServerStep) : ServerState ρ :=
  steps.foldl (serverStep P host configPath) state

/-- The configuration a step makes the watcher store. -/
def ServerStep.stores (P : Platform) (host : ConfigHost)
    (configPath : PathBuf) : ServerStep → Option AppConfig
  | .fileEvent event file _ => reloaded P host event configPath file
  | .rebuildTask => none

/-- The router is compiled from the configuration in the slot. -/
def ServerState.Coherent (P : Platform) (state : ServerState ρ) : Prop :=
  RouterSnapshot.fromConfig P state.configSlot.config = .ok state.router

section Start

variable {P : Platform} {host : ConfigHost}
  {buildResolver : AppConfig → Except RegistryError ρ}
  {configPath : PathBuf} {file : FileRead}
  {localOverride : Option (PathBuf × FileRead)} {addr : Nat}
  {state : ServerState ρ}

theorem startServer_eq_ok :
    startServer P host buildResolver configPath file localOverride addr =
        .ok state ↔
      ∃ loaded config, loadConfig P host configPath file = .ok loaded ∧
        applyOverrideFile host loaded localOverride = .ok config ∧
        buildResolver config = .ok state.resolver ∧
        RouterSnapshot.fromConfig P config = .ok state.router ∧
        state.configSlot = ⟨addr, config⟩ ∧ state.lastPtr = none := by
  simp only [startServer, bind_eq_ok_iff, mapError_eq_ok_iff]
  constructor
  · rintro ⟨loaded, hload, config, hoverride, resolver, hresolver, snapshot,
      hsnapshot, hdone⟩
    cases hdone
    exact ⟨loaded, config, hload, hoverride, hresolver, hsnapshot, rfl, rfl⟩
  · rintro ⟨loaded, config, hload, hoverride, hresolver, hsnapshot, hslot,
      hptr⟩
    obtain ⟨configSlot, resolver, router, lastPtr⟩ := state
    cases hslot
    cases hptr
    exact ⟨loaded, hload, config, hoverride, resolver, hresolver, router,
      hsnapshot, rfl⟩

theorem coherent_of_start
    (h : startServer P host buildResolver configPath file localOverride addr =
      .ok state) : state.Coherent P := by
  obtain ⟨_, config, -, -, -, hrouter, hslot, -⟩ := startServer_eq_ok.mp h
  rw [ServerState.Coherent, hslot]
  exact hrouter

end Start

/-! ## The server as a polled cell -/

section Simulation

variable (P : Platform) (host : ConfigHost) (configPath : PathBuf)

def deriveRouter (config : AppConfig) : Option RouterSnapshot :=
  (RouterSnapshot.fromConfig P config).toOption

def ServerState.cell (state : ServerState ρ) :
    PolledCell Nat AppConfig RouterSnapshot where
  tag := state.configSlot.addr
  value := state.configSlot.config
  seen := state.lastPtr
  derived := state.router

def cellSteps : ServerStep → List (PolledCell.Step Nat AppConfig)
  | .fileEvent event file addr =>
      match reloaded P host event configPath file with
      | some config => [.store addr config]
      | none => []
  | .rebuildTask => [.look]

variable {P host configPath}

@[simp] theorem cellSteps_rebuildTask :
    cellSteps P host configPath .rebuildTask = [.look] := rfl

theorem upToDate_cell {state : ServerState ρ} :
    state.cell.UpToDate (deriveRouter P) ↔ state.Coherent P := by
  unfold PolledCell.UpToDate deriveRouter ServerState.cell ServerState.Coherent
  cases RouterSnapshot.fromConfig P state.configSlot.config <;>
    simp [Except.toOption]

theorem cell_runRebuildTask (state : ServerState ρ) :
    (runRebuildTask P state).cell = state.cell.look (deriveRouter P) := by
  unfold runRebuildTask PolledCell.look ServerState.cell
  cases hlast : state.lastPtr with
  | none => rfl
  | some lastPtr =>
      by_cases hsame : state.configSlot.addr = lastPtr
      · simp [hsame, hlast]
      · cases hrebuild : RouterSnapshot.fromConfig P
            state.configSlot.config <;>
          simp [hsame, rebuildRouter, hrebuild, deriveRouter,
            Except.toOption]

theorem cell_serverStep (state : ServerState ρ) (step : ServerStep) :
    (serverStep P host configPath state step).cell =
      state.cell.run (deriveRouter P) (cellSteps P host configPath step) := by
  cases step with
  | rebuildTask => exact cell_runRebuildTask state
  | fileEvent event file addr =>
      unfold serverStep cellSteps
      cases hreload : reloaded P host event configPath file with
      | none =>
          simp only [handleEvent_of_not_reloaded addr hreload, hreload]
          rfl
      | some config =>
          simp only [handleEvent_of_reloaded addr hreload, hreload]
          rfl

theorem cell_runServer (state : ServerState ρ) (steps : List ServerStep) :
    (runServer P host configPath state steps).cell =
      state.cell.run (deriveRouter P)
        (steps.flatMap (cellSteps P host configPath)) := by
  induction steps generalizing state with
  | nil => rfl
  | cons step steps ih =>
      rw [List.flatMap_cons, PolledCell.run_append, ← cell_serverStep]
      exact ih _

theorem store_mem_cellSteps {step : ServerStep} {addr : Nat}
    {config : AppConfig}
    (h : .store addr config ∈ cellSteps P host configPath step) :
    step.stores P host configPath = some config := by
  cases step with
  | rebuildTask => simp [cellSteps] at h
  | fileEvent event file addr' =>
      unfold cellSteps at h
      cases hreload : reloaded P host event configPath file with
      | none => simp [hreload] at h
      | some loaded =>
          simp only [hreload, List.mem_singleton,
            PolledCell.Step.store.injEq] at h
          rw [ServerStep.stores, hreload, h.2]

end Simulation

end ServiceRouter
