import ServiceRouter.Config.EnvResolver
import ServiceRouter.Routing.Router

/-!
# Loading configurations

A file is read, its placeholders are expanded, the text is parsed and the
result is validated.  Validation checks targets and patterns; the response
headers of a route are only checked when the route is compiled.
-/

namespace ServiceRouter

open Foundation

/-- A path with the components by which paths are compared. -/
structure PathBuf where
  components : List String
  display : String

inductive ReadFailure where
  | notFound
  | other (reason : String)
  deriving DecidableEq, Repr

abbrev FileRead := Except ReadFailure String

/-- What loading takes from the process environment and from `serde_yaml`,
with the texts of the parse errors. -/
structure ConfigHost where
  envVar : String → Option String
  configFromYaml : String → Except String AppConfig
  overridesFromYaml : String → Except String (List LocalOverrideEntry)

def readToString (path : PathBuf) : FileRead → Except ConfigError String
  | .ok raw => .ok raw
  | .error .notFound => .error (.fileNotFound path.display)
  | .error (.other reason) => .error (.readError reason)

def validateRule (P : Platform) (rule : RoutingRule) :
    Except ConfigError Unit :=
  if rule.serviceId.isNone && rule.upstreamUrl.isNone
  then .error (.missingTarget rule.id)
  else
    match rule.path with
    | .regex value =>
        match P.regexNew value with
        | .ok _ => .ok ()
        | .error reason => .error (.invalidRegex rule.id value reason)
    | .glob value =>
        match P.globNew value with
        | .ok _ => .ok ()
        | .error reason => .error (.invalidGlob rule.id value reason)
    | _ => .ok ()

def validateConfig (P : Platform) (config : AppConfig) :
    Except ConfigError Unit :=
  config.routes.forM (validateRule P)

def loadConfig (P : Platform) (host : ConfigHost) (path : PathBuf)
    (file : FileRead) : Except ConfigError AppConfig := do
  let raw ← readToString path file
  let expanded ← resolveEnvVarsInYaml host.envVar raw
  let config ← (host.configFromYaml expanded).mapError .parseError
  validateConfig P config
  return config

def loadLocalOverrides (host : ConfigHost) (path : PathBuf)
    (file : FileRead) : Except ConfigError (List LocalOverrideEntry) := do
  let raw ← readToString path file
  let expanded ← resolveEnvVarsInYaml host.envVar raw
  (host.overridesFromYaml expanded).mapError fun reason =>
    .parseError s!"local-override: {reason}"

/-! ## What a loaded configuration satisfies -/

def RoutingRule.AcceptedHeaders (P : Platform) (rule : RoutingRule) : Prop :=
  ∀ map, rule.responseHeaders = some map → ∀ entry ∈ map.entries,
    ∃ header, compileResponseHeader P rule.id entry.1 entry.2 = .ok header

def AppConfig.AcceptedHeaders (P : Platform) (config : AppConfig) : Prop :=
  ∀ rule ∈ config.routes, rule.AcceptedHeaders P

theorem validateConfig_eq_ok {P : Platform} {config : AppConfig} :
    validateConfig P config = .ok () ↔
      ∀ rule ∈ config.routes, validateRule P rule = .ok () := by
  exact forM_eq_ok_iff

theorem loadConfig_eq_ok {P : Platform} {host : ConfigHost} {path : PathBuf}
    {file : FileRead} {config : AppConfig} :
    loadConfig P host path file = .ok config ↔
      ∃ raw expanded, readToString path file = .ok raw ∧
        resolveEnvVarsInYaml host.envVar raw = .ok expanded ∧
        host.configFromYaml expanded = .ok config ∧
        validateConfig P config = .ok () := by
  simp only [loadConfig, bind_eq_ok_iff, mapError_eq_ok_iff]
  constructor
  · rintro ⟨raw, hraw, expanded, hexpanded, parsed, hparsed, _, hvalid, hdone⟩
    cases hdone
    exact ⟨raw, expanded, hraw, hexpanded, hparsed, hvalid⟩
  · rintro ⟨raw, expanded, hraw, hexpanded, hparsed, hvalid⟩
    exact ⟨raw, hraw, expanded, hexpanded, config, hparsed, (), hvalid, rfl⟩

theorem loadLocalOverrides_eq_ok {host : ConfigHost} {path : PathBuf}
    {file : FileRead} {entries : List LocalOverrideEntry} :
    loadLocalOverrides host path file = .ok entries ↔
      ∃ raw, readToString path file = .ok raw ∧
        ∃ expanded, resolveEnvVarsInYaml host.envVar raw = .ok expanded ∧
          host.overridesFromYaml expanded = .ok entries := by
  simp only [loadLocalOverrides, bind_eq_ok_iff, mapError_eq_ok_iff]

theorem loadConfig_of_no_placeholder {P : Platform} {host : ConfigHost}
    {path : PathBuf} {raw : String} {config : AppConfig}
    (hraw : placeholders raw = [])
    (hparsed : host.configFromYaml raw = .ok config)
    (hvalid : validateConfig P config = .ok ()) :
    loadConfig P host path (.ok raw) = .ok config :=
  loadConfig_eq_ok.mpr
    ⟨raw, raw, rfl, resolveEnvVars_of_no_placeholder hraw, hparsed, hvalid⟩

theorem exists_compilePath_of_valid {P : Platform} {rule : RoutingRule}
    (h : validateRule P rule = .ok ()) :
    ∃ compiledPath, compilePath P rule.id rule.path = .ok compiledPath := by
  unfold validateRule at h
  split at h
  · cases h
  · cases hpath : rule.path with
    | exact value => exact ⟨_, rfl⟩
    | prefix_ value => exact ⟨_, rfl⟩
    | glob value =>
        rw [hpath] at h
        cases hglob : P.globNew value with
        | error reason => simp [hglob] at h
        | ok _ => exact ⟨.glob value, by simp [compilePath, hglob]⟩
    | regex value =>
        rw [hpath] at h
        cases hregex : P.regexNew value with
        | error reason => simp [hregex] at h
        | ok _ => exact ⟨.regex value, by simp [compilePath, hregex]⟩

theorem exists_compileOptionalHeaders_iff {P : Platform}
    {rule : RoutingRule} :
    (∃ headers, compileOptionalHeaders P rule.id rule.responseHeaders =
      .ok headers) ↔ rule.AcceptedHeaders P := by
  unfold RoutingRule.AcceptedHeaders
  cases rule.responseHeaders with
  | none => simp [compileOptionalHeaders]
  | some map =>
      simp only [compileOptionalHeaders, Option.some.injEq, forall_eq']
      rw [← exists_mapM_eq_ok_iff]
      cases hempty : map.entries.isEmpty with
      | true => simp [List.isEmpty_iff.mp hempty, pure, Except.pure]
      | false =>
          simp only [Bool.false_eq_true, if_false, compileResponseHeaders]
          cases map.entries.mapM fun entry =>
            compileResponseHeader P rule.id entry.1 entry.2 <;>
            simp [Except.map]

/-- Of a validated rule only the response headers can fail to compile. -/
theorem exists_compile_iff_of_valid {P : Platform} {rule : RoutingRule}
    (h : validateRule P rule = .ok ()) :
    (∃ compiled, CompiledRoutingRule.compile P rule = .ok compiled) ↔
      rule.AcceptedHeaders P := by
  rw [← exists_compileOptionalHeaders_iff]
  obtain ⟨compiledPath, hpath⟩ := exists_compilePath_of_valid h
  constructor
  · rintro ⟨compiled, hcompile⟩
    obtain ⟨_, headers, -, hheaders, -⟩ := compile_eq_ok.mp hcompile
    exact ⟨headers, hheaders⟩
  · rintro ⟨headers, hheaders⟩
    exact ⟨_, compile_eq_ok.mpr ⟨compiledPath, headers, hpath, hheaders, rfl⟩⟩

/-- A loaded configuration has a router exactly if its response headers are
accepted. -/
theorem exists_fromConfig_iff_of_loaded {P : Platform} {host : ConfigHost}
    {path : PathBuf} {file : FileRead} {config : AppConfig}
    (h : loadConfig P host path file = .ok config) :
    (∃ snapshot, RouterSnapshot.fromConfig P config = .ok snapshot) ↔
      config.AcceptedHeaders P := by
  obtain ⟨_, _, -, -, -, hvalid⟩ := loadConfig_eq_ok.mp h
  rw [exists_fromConfig_iff]
  refine forall₂_congr fun rule hrule => ?_
  exact exists_compile_iff_of_valid (validateConfig_eq_ok.mp hvalid rule hrule)

end ServiceRouter
