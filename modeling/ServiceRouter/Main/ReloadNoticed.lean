import ServiceRouter.Main.FailedReload

/-!
# Which reloads reach the router

The rebuild task compares addresses.  It misses what is stored before its
first turn, and a configuration at the address of one it has already seen.
-/

namespace ServiceRouter

open Foundation

variable {ρ : Type}

section Noticed

variable (P : Platform) (host : ConfigHost) (configPath : PathBuf)
  (state : ServerState ρ) (steps : List ServerStep)

/-- A stored configuration gets an address that is not in use. -/
def AddressesFresh : Prop :=
  PolledCell.TagsFresh state.configSlot.addr
    (steps.flatMap (cellSteps P host configPath))

/-- The rebuild task has read the initial pointer before anything is stored,
and whenever it polls after stores since its last turn, the address in the
slot is not the one it saw at that turn. -/
def StoresNoticed : Prop :=
  PolledCell.Noticed false state.configSlot.addr state.lastPtr
    (steps.flatMap (cellSteps P host configPath))

def AllCompile : Prop :=
  ∀ step ∈ steps, ∀ config, step.stores P host configPath = some config →
    ∃ snapshot, RouterSnapshot.fromConfig P config = .ok snapshot

/-- After each poll the router is compiled from the configuration in the
slot. -/
def RouterFollowsSlot : Prop :=
  ∀ before after, steps = before ++ .rebuildTask :: after →
    (runServer P host configPath state before).lastPtr ≠ none →
    (runServer P host configPath state
      (before ++ [.rebuildTask])).Coherent P

end Noticed

section Follows

variable {P : Platform} {host : ConfigHost} {configPath : PathBuf}
  {state : ServerState ρ} {steps : List ServerStep}

theorem runRebuildTask_lastPtr (P : Platform) (state : ServerState ρ) :
    (runRebuildTask P state).lastPtr ≠ none := by
  unfold runRebuildTask
  cases hlast : state.lastPtr with
  | none => exact Option.some_ne_none _
  | some lastPtr =>
      by_cases hsame : state.configSlot.addr = lastPtr
      · simp [hsame, hlast]
      · cases hrebuild : rebuildRouter P state.configSlot.config <;>
          simp [hsame, hrebuild]

/-- After its first turn the task remembers a pointer. -/
theorem lastPtr_after_turn (before : List ServerStep) :
    (runServer P host configPath state
      (before ++ [.rebuildTask])).lastPtr ≠ none := by
  rw [runServer, List.foldl_append]
  exact runRebuildTask_lastPtr P _

theorem coherent_after_turn {before after : List ServerStep}
    (hcoherent : state.Coherent P)
    (hcompile : AllCompile P host configPath steps)
    (hnoticed : StoresNoticed P host configPath state steps)
    (hsteps : steps = before ++ .rebuildTask :: after) :
    (runServer P host configPath state
      (before ++ [.rebuildTask])).Coherent P := by
  subst hsteps
  rw [← upToDate_cell, cell_runServer, List.flatMap_append]
  rw [StoresNoticed, List.flatMap_append] at hnoticed
  have hclean := upToDate_cell.mpr hcoherent
  refine PolledCell.upToDate_after_look (fun _ => hclean) ⟨_, hclean⟩ ?_
    hnoticed
  intro addr config hstore
  obtain ⟨step, hstep, hmem⟩ := List.mem_flatMap.mp hstore
  obtain ⟨snapshot, hsnapshot⟩ := hcompile step
    (List.mem_append_left _ hstep) config (store_mem_cellSteps hmem)
  exact ⟨snapshot, by rw [deriveRouter, hsnapshot]; rfl⟩

/-- In every run from startup that notices its stores, the router follows the
slot. -/
theorem router_follows_noticed_stores
    {buildResolver : AppConfig → Except RegistryError ρ} {file : FileRead}
    {localOverride : Option (PathBuf × FileRead)} {addr : Nat}
    (hstart : startServer P host buildResolver configPath file localOverride
      addr = .ok state)
    (hcompile : AllCompile P host configPath steps)
    (hnoticed : StoresNoticed P host configPath state steps) :
    RouterFollowsSlot P host configPath state steps := by
  intro before after hsteps _
  exact coherent_after_turn (coherent_of_start hstart) hcompile hnoticed hsteps

end Follows

/-! ## Two missed reloads -/

def startedServer : ServerState Unit where
  configSlot := ⟨0, {}⟩
  resolver := ()
  router := ⟨[]⟩
  lastPtr := none

theorem start_startedServer :
    startServer .plain sampleHost (fun _ => .ok ()) configYaml (.ok emptyYaml)
      none 0 = .ok startedServer :=
  startServer_eq_ok.mpr ⟨{}, {}, loadConfig_empty, rfl, rfl,
    fromConfig_empty, rfl, rfl⟩

def saveRoot (addr : Nat) : ServerStep :=
  .fileEvent fileSaved (.ok rootYaml) addr

theorem stores_saveRoot (addr : Nat) :
    (saveRoot addr).stores .plain sampleHost configYaml = some rootConfig :=
  (reloaded_eq_some (by decide)).mpr loadConfig_root

theorem cellSteps_saveRoot (addr : Nat) :
    cellSteps .plain sampleHost configYaml (saveRoot addr) =
      [.store addr rootConfig] := by
  have hreload := stores_saveRoot addr
  unfold saveRoot ServerStep.stores at hreload
  simp only [saveRoot, cellSteps, hreload]

theorem exists_fromConfig_root :
    ∃ snapshot, RouterSnapshot.fromConfig .plain rootConfig =
      .ok snapshot := by
  have hcompile : ∃ compiled,
      CompiledRoutingRule.compile .plain rootRoute = .ok compiled := ⟨_, rfl⟩
  refine exists_fromConfig_iff.mpr fun rule hrule => ?_
  rw [List.mem_singleton.mp hrule]
  exact hcompile

theorem allCompile_of_saves {steps : List ServerStep}
    (h : ∀ step ∈ steps, step = .rebuildTask ∨ ∃ addr, step = saveRoot addr) :
    AllCompile .plain sampleHost configYaml steps := by
  intro step hstep config hstores
  rcases h step hstep with rfl | ⟨addr, rfl⟩
  · cases hstores
  · rw [stores_saveRoot] at hstores
    cases hstores
    exact exists_fromConfig_root

theorem router_follows_noticed_save :
    RouterFollowsSlot .plain sampleHost configYaml startedServer
      [.rebuildTask, saveRoot 1, .rebuildTask] := by
  refine router_follows_noticed_stores start_startedServer ?_ ?_
  · exact allCompile_of_saves (by simp)
  · simp [StoresNoticed, cellSteps_saveRoot, PolledCell.Noticed,
      startedServer]

/-- Two reloads between two polls, the second at the address of the initial
configuration. -/
def reusedAddress : List ServerStep :=
  [.rebuildTask, saveRoot 1, saveRoot 0, .rebuildTask]

/-- A reload before the task has first run. -/
def earlyReload : List ServerStep :=
  [saveRoot 1, .rebuildTask, .rebuildTask]

theorem cellSteps_reusedAddress :
    reusedAddress.flatMap (cellSteps .plain sampleHost configYaml) =
      [.look, .store 1 rootConfig, .store 0 rootConfig, .look] := by
  simp [reusedAddress, cellSteps_saveRoot]

theorem cellSteps_earlyReload :
    earlyReload.flatMap (cellSteps .plain sampleHost configYaml) =
      [.store 1 rootConfig, .look, .look] := by
  simp [earlyReload, cellSteps_saveRoot]

theorem cell_reusedAddress :
    (runServer .plain sampleHost configYaml startedServer
      reusedAddress).cell = ⟨0, rootConfig, some 0, ⟨[]⟩⟩ := by
  rw [cell_runServer, cellSteps_reusedAddress]
  rfl

theorem cell_earlyReload :
    (runServer .plain sampleHost configYaml startedServer
      earlyReload).cell = ⟨1, rootConfig, some 1, ⟨[]⟩⟩ := by
  rw [cell_runServer, cellSteps_earlyReload]
  rfl

theorem not_coherent_of_cell {state : ServerState Unit} {addr : Nat}
    {lastPtr : Option Nat}
    (hcell : state.cell = ⟨addr, rootConfig, lastPtr, ⟨[]⟩⟩) :
    ¬ state.Coherent .plain := by
  intro hcoherent
  have hconfig : state.configSlot.config = rootConfig :=
    congrArg PolledCell.value hcell
  have hrouter : state.router = ⟨[]⟩ := congrArg PolledCell.derived hcell
  have hlength := length_of_fromConfig hcoherent
  rw [hconfig, hrouter] at hlength
  cases hlength

theorem router_misses_reloads :
    (AddressesFresh .plain sampleHost configYaml startedServer reusedAddress ∧
      AllCompile .plain sampleHost configYaml reusedAddress ∧
      ¬ RouterFollowsSlot .plain sampleHost configYaml startedServer
        reusedAddress) ∧
    (AddressesFresh .plain sampleHost configYaml startedServer earlyReload ∧
      AllCompile .plain sampleHost configYaml earlyReload ∧
      ¬ RouterFollowsSlot .plain sampleHost configYaml startedServer
        earlyReload) := by
  refine ⟨⟨?_, ?_, fun hfollows => ?_⟩, ?_, ?_, fun hfollows => ?_⟩
  · rw [AddressesFresh, cellSteps_reusedAddress]
    exact ⟨Nat.one_ne_zero, Nat.zero_ne_one, trivial⟩
  · exact allCompile_of_saves (by simp [reusedAddress])
  · exact not_coherent_of_cell cell_reusedAddress
      (hfollows [.rebuildTask, saveRoot 1, saveRoot 0] [] rfl
        (Option.some_ne_none 0))
  · rw [AddressesFresh, cellSteps_earlyReload]
    exact ⟨Nat.one_ne_zero, trivial⟩
  · exact allCompile_of_saves (by simp [earlyReload])
  · exact not_coherent_of_cell cell_earlyReload
      (hfollows [saveRoot 1, .rebuildTask] [] rfl
        (lastPtr_after_turn [saveRoot 1]))

end ServiceRouter
