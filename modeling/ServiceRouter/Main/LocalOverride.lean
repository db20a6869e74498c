import Mathlib.Data.List.Induction
import ServiceRouter.Main.ReloadNoticed

/-!
# Local overrides and reloads

Startup applies the overrides to the configuration it loads, the watcher does
not.  After a reload the router is compiled from the file alone, which is the
overridden configuration only where the overrides change nothing.
-/

namespace ServiceRouter

open Foundation

variable {ρ : Type}

/-! ## Overridden configurations with the same router -/

theorem priority_eq_of_compiled {P : Platform}
    {rules : List RoutingRule} {compiled : List CompiledRoutingRule}
    (h : rules.mapM (CompiledRoutingRule.compile P) = .ok compiled) :
    compiled.map CompiledRoutingRule.priority =
      rules.map RoutingRule.priority := by
  have hcompiled := mapM_eq_ok_iff.mp h
  clear h
  induction hcompiled with
  | nil => rfl
  | cons hrule _ ih =>
      rw [List.map_cons, List.map_cons, compile_priority hrule, ih]

theorem RoutingRule.Redirected.eq_of_compiled {P : Platform}
    {before after : RoutingRule} {compiled : CompiledRoutingRule}
    (h : before.Redirected after)
    (hbefore : CompiledRoutingRule.compile P before = .ok compiled)
    (hafter : CompiledRoutingRule.compile P after = .ok compiled) :
    after = before := by
  obtain ⟨_, _, -, -, rfl⟩ := compile_eq_ok.mp hbefore
  obtain ⟨_, _, -, -, hsame⟩ := compile_eq_ok.mp hafter
  have hurl : before.upstreamUrl = after.upstreamUrl :=
    congrArg CompiledRoutingRule.upstreamUrl hsame
  have hservice : before.serviceId = after.serviceId :=
    congrArg CompiledRoutingRule.serviceId hsame
  rw [h, ← hurl, ← hservice]

theorem eq_of_redirected_of_compiled {P : Platform}
    {before after : List RoutingRule} {compiled : List CompiledRoutingRule}
    (h : List.Forall₂ RoutingRule.Redirected before after)
    (hbefore : before.mapM (CompiledRoutingRule.compile P) = .ok compiled)
    (hafter : after.mapM (CompiledRoutingRule.compile P) = .ok compiled) :
    after = before := by
  rw [mapM_eq_ok_iff] at hbefore hafter
  induction h generalizing compiled with
  | nil => rfl
  | cons hrule _ ih =>
      cases hbefore with
      | cons hbefore hbefores =>
          cases hafter with
          | cons hafter hafters =>
              rw [hrule.eq_of_compiled hbefore hafter, ih hbefores hafters]

theorem map_priority_of_redirected {before after : List RoutingRule}
    (h : List.Forall₂ RoutingRule.Redirected before after) :
    after.map RoutingRule.priority = before.map RoutingRule.priority := by
  induction h with
  | nil => rfl
  | cons hrule _ ih =>
      rw [List.map_cons, List.map_cons, ih, hrule]

/-- A router is also that of the overridden configuration exactly if the
overrides change no route. -/
theorem fromConfig_overridden_iff {P : Platform} {config : AppConfig}
    {router : RouterSnapshot} (overrides : List LocalOverrideEntry)
    (h : RouterSnapshot.fromConfig P config = .ok router) :
    RouterSnapshot.fromConfig P (config.applyLocalOverrides overrides) =
        .ok router ↔
      (config.applyLocalOverrides overrides).routes = config.routes := by
  have hredirected := redirected_applyLocalOverrides config overrides
  obtain ⟨compiled, hcompiled, hrules⟩ := fromConfig_eq_sort.mp h
  constructor
  · intro hoverridden
    obtain ⟨compiled', hcompiled', hrules'⟩ :=
      fromConfig_eq_sort.mp hoverridden
    have hpriority : compiled.map CompiledRoutingRule.priority =
        compiled'.map CompiledRoutingRule.priority := by
      rw [priority_eq_of_compiled hcompiled,
        priority_eq_of_compiled hcompiled',
        map_priority_of_redirected hredirected]
    have hsame : compiled = compiled' :=
      sortByKey_inj hpriority (hrules.symm.trans hrules')
    subst hsame
    exact eq_of_redirected_of_compiled hredirected hcompiled hcompiled'
  · intro hroutes
    rw [fromConfig_eq_sort, hroutes]
    exact ⟨compiled, hcompiled, hrules⟩

/-! ## What has been loaded last -/

section Loaded

variable (P : Platform) (host : ConfigHost) (configPath : PathBuf)

def reloads (steps : List ServerStep) : List AppConfig :=
  steps.filterMap fun step => step.stores P host configPath

def lastLoaded (initial : AppConfig) (steps : List ServerStep) : AppConfig :=
  (reloads P host configPath steps).getLast?.getD initial

variable {P host configPath}

theorem configSlot_serverStep (state : ServerState ρ) (step : ServerStep) :
    (serverStep P host configPath state step).configSlot.config =
      (step.stores P host configPath).getD state.configSlot.config := by
  cases step with
  | rebuildTask =>
      unfold serverStep
      rw [runRebuildTask_configSlot]
      rfl
  | fileEvent event file addr =>
      unfold serverStep ServerStep.stores
      cases hreload : reloaded P host event configPath file with
      | none => simp [handleEvent_of_not_reloaded addr hreload, hreload]
      | some config => simp [handleEvent_of_reloaded addr hreload, hreload]

theorem reloads_concat (steps : List ServerStep) (step : ServerStep) :
    reloads P host configPath (steps ++ [step]) =
      reloads P host configPath steps ++
        (step.stores P host configPath).toList := by
  rw [reloads, List.filterMap_append]
  cases hstores : step.stores P host configPath <;> simp [reloads, hstores]

theorem configSlot_runServer (state : ServerState ρ)
    (steps : List ServerStep) :
    (runServer P host configPath state steps).configSlot.config =
      lastLoaded P host configPath state.configSlot.config steps := by
  induction steps using List.reverseRecOn with
  | nil => rfl
  | append_singleton steps step ih =>
      rw [lastLoaded, reloads_concat, runServer, List.foldl_append,
        List.foldl_cons, List.foldl_nil, configSlot_serverStep]
      cases step.stores P host configPath with
      | none =>
          rw [Option.toList_none, List.append_nil]
          exact ih
      | some config => simp

theorem configSlot_after_turn (state : ServerState ρ)
    (steps : List ServerStep) :
    (runServer P host configPath state
        (steps ++ [.rebuildTask])).configSlot.config =
      lastLoaded P host configPath state.configSlot.config steps := by
  rw [configSlot_runServer, lastLoaded, reloads_concat]
  simp [ServerStep.stores, lastLoaded]

end Loaded

/-! ## Overrides after reloads -/

section Overrides

variable (P : Platform) (host : ConfigHost) (configPath : PathBuf)
  (entries : List LocalOverrideEntry) (initial : AppConfig)
  (state : ServerState ρ) (steps : List ServerStep)

/-- After each poll the router is compiled from the content loaded last, with
the overrides applied. -/
def OverridesActive : Prop :=
  ∀ before after, steps = before ++ .rebuildTask :: after →
    (runServer P host configPath state before).lastPtr ≠ none →
    RouterSnapshot.fromConfig P
        ((lastLoaded P host configPath initial before).applyLocalOverrides
          entries) =
      .ok (runServer P host configPath state (before ++ [.rebuildTask])).router

/-- At each poll, nothing has been reloaded or the overrides change no route
of what was loaded last. -/
def OverridesHarmless : Prop :=
  ∀ before after, steps = before ++ .rebuildTask :: after →
    (runServer P host configPath state before).lastPtr ≠ none →
    reloads P host configPath before = [] ∨
      ((lastLoaded P host configPath initial before).applyLocalOverrides
        entries).routes = (lastLoaded P host configPath initial before).routes

variable {P host configPath entries initial state steps}

theorem configSlot_of_overridden
    {buildResolver : AppConfig → Except RegistryError ρ}
    {file overrideFile : FileRead} {overridePath : PathBuf} {addr : Nat}
    (hinitial : loadConfig P host configPath file = .ok initial)
    (hentries : loadLocalOverrides host overridePath overrideFile =
      .ok entries)
    (hstart : startServer P host buildResolver configPath file
      (some (overridePath, overrideFile)) addr = .ok state) :
    state.configSlot.config = initial.applyLocalOverrides entries := by
  obtain ⟨loaded, config, hload, hoverride, -, -, hslot, -⟩ :=
    startServer_eq_ok.mp hstart
  rw [hinitial] at hload
  cases hload
  simp only [applyOverrideFile, hentries, Except.mapError, bind, Except.bind,
    pure, Except.pure] at hoverride
  cases hoverride
  rw [hslot]

/-- In every run that notices its stores, the overrides stay active exactly if
every reload is one they do not change. -/
theorem overrides_active_iff
    {buildResolver : AppConfig → Except RegistryError ρ}
    {file overrideFile : FileRead} {overridePath : PathBuf} {addr : Nat}
    (hinitial : loadConfig P host configPath file = .ok initial)
    (hentries : loadLocalOverrides host overridePath overrideFile =
      .ok entries)
    (hstart : startServer P host buildResolver configPath file
      (some (overridePath, overrideFile)) addr = .ok state)
    (hcompile : AllCompile P host configPath steps)
    (hnoticed : StoresNoticed P host configPath state steps) :
    OverridesActive P host configPath entries initial state steps ↔
      OverridesHarmless P host configPath entries initial state steps := by
  have hslot := configSlot_of_overridden hinitial hentries hstart
  unfold OverridesActive OverridesHarmless
  refine forall₂_congr fun before after => ?_
  refine forall₂_congr fun hsteps hpoll => ?_
  have hrouter := coherent_after_turn (coherent_of_start hstart) hcompile
    hnoticed hsteps
  rw [ServerState.Coherent, configSlot_after_turn, hslot] at hrouter
  cases hlast : (reloads P host configPath before).getLast? with
  | none =>
      simp only [lastLoaded, hlast, Option.getD_none] at hrouter ⊢
      have hnone := List.getLast?_eq_none_iff.mp hlast
      exact ⟨fun _ => .inl hnone, fun _ => hrouter⟩
  | some last =>
      simp only [lastLoaded, hlast, Option.getD_some] at hrouter ⊢
      have hsome : reloads P host configPath before ≠ [] := by
        intro hnone
        rw [hnone] at hlast
        cases hlast
      rw [fromConfig_overridden_iff entries hrouter]
      exact ⟨.inr, fun h => h.resolve_left hsome⟩

end Overrides

/-! ## A route redirected to a local service -/

def overridesFile : PathBuf := ⟨["local.yaml"], "local.yaml"⟩

theorem loadLocalOverrides_sample :
    loadLocalOverrides sampleHost overridesFile (.ok overridesYaml) =
      .ok [localEntry] := by
  have hplain : placeholders overridesYaml = [] :=
    placeholders_of_no_dollar (by decide +kernel)
  exact loadLocalOverrides_eq_ok.mpr ⟨overridesYaml, rfl, overridesYaml,
    resolveEnvVars_of_no_placeholder hplain, by simp [sampleHost]⟩

def localRule : CompiledRoutingRule where
  id := "a"
  compiledPath := .exact "/"
  methods := none
  headers := none
  serviceId := none
  upstreamUrl := some "http://local"
  stripPrefix := none
  responseHeaders := none
  priority := 100

def overriddenServer : ServerState Unit where
  configSlot := ⟨0, rootConfig.applyLocalOverrides [localEntry]⟩
  resolver := ()
  router := ⟨[localRule]⟩
  lastPtr := none

theorem start_overriddenServer :
    startServer .plain sampleHost (fun _ => .ok ()) configYaml (.ok rootYaml)
      (some (overridesFile, .ok overridesYaml)) 0 = .ok overriddenServer := by
  refine startServer_eq_ok.mpr ⟨rootConfig,
    rootConfig.applyLocalOverrides [localEntry], loadConfig_root, ?_, rfl, ?_,
    rfl, rfl⟩
  · simp only [applyOverrideFile, loadLocalOverrides_sample, Except.mapError,
      bind, Except.bind, pure, Except.pure]
  · exact fromConfig_eq_sort.mpr ⟨[localRule], rfl, rfl⟩

theorem overrides_active_without_reload :
    OverridesActive .plain sampleHost configYaml [localEntry] rootConfig
      overriddenServer [.rebuildTask, .rebuildTask] := by
  have hquiet : ∀ step ∈ [ServerStep.rebuildTask, .rebuildTask],
      step = .rebuildTask := by simp
  refine (overrides_active_iff loadConfig_root loadLocalOverrides_sample
    start_overriddenServer ?_ ?_).mpr ?_
  · exact allCompile_of_saves fun step hstep => .inl (hquiet step hstep)
  · simp [StoresNoticed, PolledCell.Noticed]
  · intro before after hsteps _
    refine .inl (List.filterMap_eq_nil_iff.mpr fun step hstep => ?_)
    rw [hquiet step (hsteps ▸ List.mem_append_left _ hstep)]
    rfl

/-- The file is saved unchanged, and the router loses the override. -/
theorem overrides_lost_by_reload :
    startServer .plain sampleHost (fun _ => .ok ()) configYaml
        (.ok rootYaml) (some (overridesFile, .ok overridesYaml)) 0 =
        .ok overriddenServer ∧
      AllCompile .plain sampleHost configYaml
        [.rebuildTask, saveRoot 1, .rebuildTask] ∧
      AddressesFresh .plain sampleHost configYaml overriddenServer
        [.rebuildTask, saveRoot 1, .rebuildTask] ∧
      ¬ OverridesActive .plain sampleHost configYaml [localEntry] rootConfig
        overriddenServer [.rebuildTask, saveRoot 1, .rebuildTask] := by
  have hcompile : AllCompile .plain sampleHost configYaml
      [.rebuildTask, saveRoot 1, .rebuildTask] :=
    allCompile_of_saves (by simp)
  refine ⟨start_overriddenServer, hcompile, ?_, fun hactive => ?_⟩
  · simp [AddressesFresh, cellSteps_saveRoot, PolledCell.TagsFresh,
      overriddenServer]
  · have hnoticed : StoresNoticed .plain sampleHost configYaml overriddenServer
        [.rebuildTask, saveRoot 1, .rebuildTask] := by
      simp [StoresNoticed, cellSteps_saveRoot, PolledCell.Noticed,
        overriddenServer]
    have hrouter := coherent_after_turn
      (coherent_of_start start_overriddenServer) hcompile hnoticed
      (show _ = [.rebuildTask, saveRoot 1] ++ .rebuildTask :: [] from rfl)
    have hlast (config : AppConfig) :
        lastLoaded .plain sampleHost configYaml config
          [.rebuildTask, saveRoot 1] = rootConfig := by
      simp [lastLoaded, reloads, stores_saveRoot]
    rw [ServerState.Coherent, configSlot_after_turn, hlast] at hrouter
    have hkept := hactive [.rebuildTask, saveRoot 1] [] rfl
      (Option.some_ne_none 0)
    rw [hlast, fromConfig_overridden_iff _ hrouter] at hkept
    revert hkept
    decide

end ServiceRouter
