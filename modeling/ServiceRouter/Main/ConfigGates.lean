import ServiceRouter.Config.CleanDiff
import ServiceRouter.Config.DiffImpact
import ServiceRouter.Config.Loader
import ServiceRouter.Config.StrictlySound
import ServiceRouter.Main.EphemeralProxy

/-!
# Commands that gate a change

`check-config`, `config-diff` and `config-drift` load files and end with an
exit code.  Zero is only returned when nothing failed and nothing was found.
The maps and sets of every comparison iterate in an order of its own.
-/

namespace ServiceRouter

open Foundation

def ConfigError.display : ConfigError → String
  | .fileNotFound path => s!"Config file not found: {path}"
  | .readError reason => s!"Failed to read config file: {reason}"
  | .parseError reason => s!"Failed to parse config YAML: {reason}"
  | .missingEnvVar name =>
      "Missing required environment variable: $" ++ name
  | .invalidRegex routeId pattern reason =>
      s!"Invalid regex pattern '{pattern}' in route '{routeId}': {reason}"
  | .invalidGlob routeId pattern reason =>
      s!"Invalid glob pattern '{pattern}' in route '{routeId}': {reason}"
  | .missingTarget routeId =>
      s!"Route '{routeId}' must specify either service_id or upstream_url"
  | .validation reason => s!"Validation error: {reason}"

/-! ## What a command writes and returns -/

inductive CommandOutput where
  | text (s : String)
  | json (report : Value)

/-- The output of a command with its exit code or the error it ended with. -/
structure CommandRun where
  stdout : List CommandOutput := []
  outcome : Except String Nat

/-- `main` turns an error into exit code one. -/
def CommandRun.exitCode (run : CommandRun) : Nat :=
  match run.outcome with
  | .ok code => code
  | .error _ => 1

def CommandRun.fail (stdout : List CommandOutput) (error : String) :
    CommandRun where
  stdout := stdout
  outcome := .error error

def printLine (line : String) : CommandOutput := .text (line ++ "\n")

/-- The surroundings of a command: the files do not change while it runs. -/
structure CommandHost where
  platform : Platform
  config : ConfigHost
  files : PathBuf → FileRead
  clients : RegistryClients

def CommandHost.load (host : CommandHost) (path : PathBuf) :
    Except ConfigError AppConfig :=
  loadConfig host.platform host.config path (host.files path)

def loadFailure (what : String) (path : PathBuf) (e : ConfigError) : String :=
  s!"Failed to load {what} from {path.display}: {e.display}"

/-! ## Reports -/

def ChangeKind.text : ChangeKind → String
  | .added => "added"
  | .removed => "removed"
  | .modified => "modified"

/-- A side that has nothing is left out. -/
def ConfigDiffChange.toValue (change : ConfigDiffChange) : Value :=
  .mkObject ([("path", .string change.path),
      ("kind", .string change.kind.text)] ++
    (change.left.map fun v => ("left", v)).toList ++
    (change.right.map fun v => ("right", v)).toList)

def changesValue (changes : List ConfigDiffChange) : Value :=
  .array (changes.map ConfigDiffChange.toValue)

namespace ConfigDiffReport

def toValue (report : ConfigDiffReport) : Value :=
  .mkObject [
    ("diagnostic_version", .string report.diagnosticVersion),
    ("left_path", .string report.leftPath),
    ("right_path", .string report.rightPath),
    ("identical", .bool report.identical),
    ("changes", changesValue report.changes)]

def formatText (report : ConfigDiffReport) : String :=
  if report.identical
  then "config-diff: no differences between " ++
    s!"{report.leftPath} and {report.rightPath}"
  else
    let s := s!"config-diff: {report.changes.length} difference(s) between " ++
      s!"{report.leftPath} and {report.rightPath}\n"
    report.changes.foldl (fun s c => s ++
      match c.kind with
      | .added => s!"+ {c.path}  (only in right)\n"
      | .removed => s!"- {c.path}  (only in left)\n"
      | .modified => s!"~ {c.path}\n") s

def formatMarkdown (report : ConfigDiffReport) : String :=
  if report.identical
  then "### Config diff\n\nNo differences between " ++
    "`" ++ report.leftPath ++ "` and `" ++ report.rightPath ++ "`."
  else
    let s := "### Config diff\n\nComparing " ++
      "`" ++ report.leftPath ++ "` (left/base) -> `" ++ report.rightPath ++
      s!"` (right/change); {report.changes.length} change(s).\n\n"
    report.changes.foldl (fun s c => s ++
      match c.kind with
      | .added => s!"- **{c.path}** -- added on right only\n"
      | .removed =>
          s!"- **{c.path}** -- removed on right (present only on left)\n"
      | .modified => s!"- **{c.path}** -- modified\n") s

end ConfigDiffReport

/-! ## The commands -/

def configDiff (host : CommandHost) (iter : IterOrder)
    (leftPath rightPath : PathBuf) (asJson markdown : Bool) : CommandRun :=
  if asJson && markdown
  then .fail [] "use either --json or --markdown, not both"
  else
    match host.load leftPath with
    | .error e => .fail [] (loadFailure "left config" leftPath e)
    | .ok left =>
        match host.load rightPath with
        | .error e => .fail [] (loadFailure "right config" rightPath e)
        | .ok right =>
            let report := diffAppConfigs iter left right leftPath.display
              rightPath.display
            { stdout :=
                if asJson then [.json report.toValue]
                else if markdown then [printLine report.formatMarkdown]
                else [.text report.formatText]
              outcome := .ok (if report.identical then 0 else 1) }

/-- The variables of the loop over the profiles, and what it has printed. -/
structure DriftState where
  allIdentical : Bool := true
  results : List Value := []
  stdout : List CommandOutput := []

def driftRow (profilePath : PathBuf) (report : ConfigDiffReport) : Value :=
  .mkObject [
    ("profile", .string profilePath.display),
    ("identical", .bool report.identical),
    ("drift_count", .ofNat report.changes.length),
    ("changes", changesValue report.changes)]

def driftLines (profilePath : PathBuf) (report : ConfigDiffReport) :
    List CommandOutput :=
  let status := if report.identical then "IDENTICAL" else "DRIFT"
  printLine (s!"{status} {profilePath.display} " ++
      s!"({report.changes.length} change(s) vs base)") ::
    if report.identical then []
    else report.changes.map fun change =>
      printLine s!"  - [{change.kind.text}] {change.path}"

def DriftState.record (state : DriftState) (asJson : Bool)
    (profilePath : PathBuf) (report : ConfigDiffReport) : DriftState where
  allIdentical := state.allIdentical && report.identical
  results :=
    if asJson then state.results ++ [driftRow profilePath report]
    else state.results
  stdout :=
    if asJson then state.stdout
    else state.stdout ++ driftLines profilePath report

/-- The loop over the profiles, which ends at one that does not load.  The
comparison with the profile at a position has its own order. -/
def driftLoop (host : CommandHost) (iter : Nat → IterOrder) (base : AppConfig)
    (basePath : PathBuf) (asJson : Bool) :
    List (PathBuf × Nat) → DriftState →
      Except (List CommandOutput × String) DriftState
  | [], state => .ok state
  | (profilePath, position) :: rest, state =>
      match host.load profilePath with
      | .error e => .error
          (state.stdout, loadFailure "profile config" profilePath e)
      | .ok profile =>
          driftLoop host iter base basePath asJson rest
            (state.record asJson profilePath
              (diffAppConfigs (iter position) base profile basePath.display
                profilePath.display))

def driftSummary (basePath : PathBuf) (profiles : Nat) (asJson : Bool)
    (state : DriftState) : List CommandOutput :=
  if asJson
  then [.json (.mkObject [
    ("diagnostic_version", .string "1.0"),
    ("base", .string basePath.display),
    ("profiles", .array state.results),
    ("all_identical", .bool state.allIdentical)])]
  else [
    printLine (s!"\nconfig-drift summary: {profiles} profile(s) compared " ++
      s!"against {basePath.display}"),
    printLine (if state.allIdentical
      then "Result: all profiles identical to base"
      else "Result: DRIFT detected")]

def configDrift (host : CommandHost) (iter : Nat → IterOrder)
    (basePath : PathBuf) (profilePaths : List PathBuf) (asJson : Bool) :
    CommandRun :=
  match host.load basePath with
  | .error e => .fail [] (loadFailure "base config" basePath e)
  | .ok base =>
      match driftLoop host iter base basePath asJson profilePaths.zipIdx {} with
      | .error (stdout, error) => .fail stdout error
      | .ok state => {
          stdout := state.stdout ++
            driftSummary basePath profilePaths.length asJson state
          outcome := .ok (if state.allIdentical then 0 else 1) }

def StrictFinding.toValue (finding : StrictFinding) : Value :=
  .mkObject ([("code", .string finding.code),
      ("message", .string finding.message)] ++
    (finding.details.map fun v => ("details", v)).toList)

def checkSummary (configPath : PathBuf) (config : AppConfig)
    (resolverEmpty strict : Bool) (findings : List StrictFinding) : Value :=
  .mkObject [
    ("status", .string "ok"),
    ("config_path", .string configPath.display),
    ("routes", .ofNat config.routes.length),
    ("registries", .ofNat config.registries.sources.length),
    ("resolver_empty", .bool resolverEmpty),
    ("strict_enabled", .bool strict),
    ("strict_passed", .bool findings.isEmpty),
    ("strict_findings", .array (findings.map StrictFinding.toValue))]

def checkLines (configPath : PathBuf) (config : AppConfig)
    (resolverEmpty strict : Bool) (findings : List StrictFinding) :
    List CommandOutput :=
  let header :=
    if resolverEmpty
    then "check-config OK: no registries configured, direct upstream " ++
      s!"routes only ({configPath.display})"
    else s!"check-config OK: {config.registries.sources.length} registries " ++
      s!"configured, {config.routes.length} routes compiled " ++
      s!"({configPath.display})"
  let verdict :=
    if !strict then []
    else if findings.isEmpty then [printLine "strict-check OK: no findings"]
    else printLine "strict-check FAIL:" :: findings.map fun finding =>
      printLine s!" - {finding.message}"
  printLine header :: verdict

def checkConfig (host : CommandHost) (iter : IterOrder) (configPath : PathBuf)
    (asJson strict : Bool) : CommandRun :=
  match host.load configPath with
  | .error e => .fail [] (loadFailure "config" configPath e)
  | .ok config =>
      match RouterSnapshot.fromConfig host.platform config with
      | .error e => .fail [] s!"Failed to compile routing rules: {e.display}"
      | .ok _ =>
          match buildResolver host.clients config with
          | .error e => .fail [] e.display
          | .ok resolver =>
              let findings :=
                if strict then runStrictConfigChecks iter config else []
              let resolverEmpty := resolver.registries.isEmpty
              { stdout :=
                  if asJson
                  then [.json (checkSummary configPath config resolverEmpty
                    strict findings)]
                  else checkLines configPath config resolverEmpty strict
                    findings
                outcome := .ok (if strict && !findings.isEmpty then 1 else 0) }

/-! ## When the exit code is zero -/

section ExitCodes

variable {host : CommandHost} {iter : IterOrder}

theorem exitCode_of_flag {stdout : List CommandOutput} {clean : Bool} :
    (⟨stdout, .ok (if clean then 0 else 1)⟩ : CommandRun).exitCode = 0 ↔
      clean = true := by
  cases clean <;> simp [CommandRun.exitCode]

theorem exitCode_fail_ne_zero (stdout : List CommandOutput) (error : String) :
    (CommandRun.fail stdout error).exitCode ≠ 0 :=
  Nat.one_ne_zero

/-- Both files load, to the same JSON. -/
def CommandHost.Agree (host : CommandHost) (leftPath rightPath : PathBuf) :
    Prop :=
  ∃ left right, host.load leftPath = .ok left ∧
    host.load rightPath = .ok right ∧ left.SameJson right

theorem CommandHost.Agree.symm {p q : PathBuf} (h : host.Agree p q) :
    host.Agree q p := by
  obtain ⟨left, right, hleft, hright, hsame⟩ := h
  exact ⟨right, left, hright, hleft, hsame.symm⟩

theorem CommandHost.Agree.trans {p q r : PathBuf} (h : host.Agree p q)
    (h' : host.Agree q r) : host.Agree p r := by
  obtain ⟨left, middle, hleft, hmiddle, hsame⟩ := h
  obtain ⟨middle', right, hmiddle', hright, hsame'⟩ := h'
  cases hmiddle.symm.trans hmiddle'
  exact ⟨left, right, hleft, hright, hsame.trans hsame'⟩

theorem configDiff_exitCode {leftPath rightPath : PathBuf}
    {asJson markdown : Bool} :
    (configDiff host iter leftPath rightPath asJson markdown).exitCode = 0 ↔
      (asJson && markdown) = false ∧ host.Agree leftPath rightPath := by
  unfold configDiff CommandHost.Agree
  cases hformat : asJson && markdown with
  | true => simp [exitCode_fail_ne_zero]
  | false =>
      rw [if_neg Bool.false_ne_true, and_iff_right rfl]
      cases hleft : host.load leftPath with
      | error e => simp [exitCode_fail_ne_zero]
      | ok left =>
          cases hright : host.load rightPath with
          | error e => simp [exitCode_fail_ne_zero]
          | ok right =>
              dsimp only
              rw [exitCode_of_flag, identical_iff_sameJson]
              simp

/-- One turn of the loop over the profiles keeps the flag exactly if the
profile is the same JSON as the base. -/
theorem DriftState.allIdentical_record {state : DriftState} {asJson : Bool}
    {profilePath : PathBuf} {base profile : AppConfig}
    {leftPath rightPath : String} :
    (state.record asJson profilePath
      (diffAppConfigs iter base profile leftPath rightPath)).allIdentical =
        true ↔
      state.allIdentical = true ∧ base.SameJson profile := by
  have hidentical : (diffAppConfigs iter base profile leftPath
      rightPath).identical = true ↔ base.SameJson profile :=
    identical_iff_sameJson
  rw [← hidentical]
  exact Bool.and_eq_true_iff

/-- The file loads, to the JSON of the base. -/
def CommandHost.LoadsAs (host : CommandHost) (base : AppConfig)
    (path : PathBuf) : Prop :=
  ∃ profile, host.load path = .ok profile ∧ base.SameJson profile

theorem CommandHost.agree_iff {base : AppConfig} {basePath path : PathBuf}
    (hbase : host.load basePath = .ok base) :
    host.Agree basePath path ↔ host.LoadsAs base path := by
  constructor
  · rintro ⟨left, right, hleft, hright, hsame⟩
    cases hbase.symm.trans hleft
    exact ⟨right, hright, hsame⟩
  · rintro ⟨right, hright, hsame⟩
    exact ⟨base, right, hbase, hright, hsame⟩

theorem driftLoop_allIdentical (host : CommandHost) (iter : Nat → IterOrder)
    (base : AppConfig) (basePath : PathBuf) (asJson : Bool)
    (rows : List (PathBuf × Nat)) (state : DriftState) :
    (∃ final, driftLoop host iter base basePath asJson rows state =
        .ok final ∧ final.allIdentical = true) ↔
      state.allIdentical = true ∧
        ∀ path ∈ rows.map Prod.fst, host.LoadsAs base path := by
  unfold CommandHost.LoadsAs
  induction rows generalizing state with
  | nil => simp [driftLoop]
  | cons row rows ih =>
      obtain ⟨profilePath, position⟩ := row
      rw [driftLoop, List.map_cons, List.forall_mem_cons]
      cases hload : host.load profilePath with
      | error e => simp
      | ok profile =>
          dsimp only
          rw [ih, DriftState.allIdentical_record, and_assoc]
          simp

theorem configDrift_exitCode {iter : Nat → IterOrder} {basePath : PathBuf}
    {profilePaths : List PathBuf} {asJson : Bool} :
    (configDrift host iter basePath profilePaths asJson).exitCode = 0 ↔
      ∀ path ∈ basePath :: profilePaths, host.Agree basePath path := by
  unfold configDrift
  cases hbase : host.load basePath with
  | error e =>
      have hfails : ¬ host.Agree basePath basePath := by
        rintro ⟨base, -, hload, -⟩
        cases hbase.symm.trans hload
      exact iff_of_false (exitCode_fail_ne_zero _ _) fun h =>
        hfails (h basePath List.mem_cons_self)
  | ok base =>
      have hself : host.LoadsAs base basePath := ⟨base, hbase, .refl base⟩
      have hloop := driftLoop_allIdentical host iter base basePath
        asJson profilePaths.zipIdx {}
      rw [List.zipIdx_map_fst, and_iff_right rfl] at hloop
      simp only [List.forall_mem_cons, CommandHost.agree_iff hbase,
        and_iff_right hself, ← hloop]
      cases driftLoop host iter base basePath asJson profilePaths.zipIdx {} with
      | error failure => simp [exitCode_fail_ne_zero]
      | ok final =>
          rw [exitCode_of_flag]
          simp

theorem checkConfig_exitCode {configPath : PathBuf} {asJson strict : Bool} :
    (checkConfig host iter configPath asJson strict).exitCode = 0 ↔
      ∃ config resolver snapshot, host.load configPath = .ok config ∧
        buildResolver host.clients config = .ok resolver ∧
        RouterSnapshot.fromConfig host.platform config = .ok snapshot ∧
        (strict = true → config.StrictlySound) := by
  unfold checkConfig
  cases hload : host.load configPath with
  | error e => simp [exitCode_fail_ne_zero]
  | ok config =>
      dsimp only
      cases hsnapshot : RouterSnapshot.fromConfig host.platform config with
      | error e => simp [exitCode_fail_ne_zero, hsnapshot]
      | ok snapshot =>
          dsimp only
          cases hresolver : buildResolver host.clients config with
          | error e => simp [exitCode_fail_ne_zero, hresolver]
          | ok resolver =>
              simp only [Except.ok.injEq, exists_and_left, ↓existsAndEq,
                true_and, hresolver, hsnapshot]
              have hsound := @runStrictConfigChecks_eq_nil_iff iter config
              cases strict with
              | false => simp [CommandRun.exitCode]
              | true =>
                  rw [← hsound, CommandRun.exitCode]
                  cases runStrictConfigChecks iter config <;> simp

/-! ## The gates -/

/-- A file that does not load fails every comparison with it. -/
theorem configDiff_exitCode_of_error {path : PathBuf} {e : ConfigError}
    (h : host.load path = .error e) (other : PathBuf)
    (asJson markdown : Bool) :
    (configDiff host iter path other asJson markdown).exitCode = 1 ∧
      (configDiff host iter other path asJson markdown).exitCode = 1 := by
  unfold configDiff
  rw [h]
  cases asJson && markdown with
  | true => exact ⟨rfl, rfl⟩
  | false =>
      refine ⟨rfl, ?_⟩
      cases host.load other <;> rfl

theorem configDrift_exitCode_of_error {iter : Nat → IterOrder}
    {basePath path : PathBuf} {profilePaths : List PathBuf} {asJson : Bool}
    {e : ConfigError} (hpath : path ∈ basePath :: profilePaths)
    (h : host.load path = .error e) :
    (configDrift host iter basePath profilePaths asJson).exitCode = 1 := by
  have hfails : (configDrift host iter basePath profilePaths
      asJson).exitCode ≠ 0 := by
    intro hzero
    obtain ⟨-, right, -, hright, -⟩ :=
      configDrift_exitCode.mp hzero path hpath
    cases h.symm.trans hright
  revert hfails
  unfold configDrift
  cases host.load basePath with
  | error e => exact fun _ => rfl
  | ok base =>
      dsimp only
      cases driftLoop host iter base basePath asJson profilePaths.zipIdx {} with
      | error failure => exact fun _ => rfl
      | ok final =>
          intro hfails
          cases hidentical : final.allIdentical with
          | true => exact absurd (exitCode_of_flag.mpr hidentical) hfails
          | false =>
              simp only [hidentical]
              rfl

/--
`config-drift` passes exactly if `config-diff` passes on any two of the base
and the profiles, whatever the format and the orders of each comparison.  A file
that does not load makes the one and every comparison with it fail.
-/
theorem drift_gate {host : CommandHost} {iter : Nat → IterOrder}
    {iter' : PathBuf → PathBuf → IterOrder} {basePath : PathBuf}
    {profilePaths : List PathBuf} {asJson : Bool}
    {asJson' markdown : PathBuf → PathBuf → Bool}
    (hformat : ∀ p q, (asJson' p q && markdown p q) = false) :
    ((configDrift host iter basePath profilePaths asJson).exitCode = 0 ↔
      ∀ p ∈ basePath :: profilePaths, ∀ q ∈ basePath :: profilePaths,
        (configDiff host (iter' p q) p q (asJson' p q)
          (markdown p q)).exitCode = 0) ∧
    ∀ p ∈ basePath :: profilePaths, ∀ e, host.load p = .error e →
      (configDrift host iter basePath profilePaths asJson).exitCode = 1 ∧
      ∀ q, (configDiff host (iter' p q) p q (asJson' p q)
          (markdown p q)).exitCode = 1 ∧
        (configDiff host (iter' q p) q p (asJson' q p)
          (markdown q p)).exitCode = 1 := by
  refine ⟨?_, fun p hp e hload => ⟨?_, fun q => ⟨?_, ?_⟩⟩⟩
  · rw [configDrift_exitCode]
    constructor
    · intro h p hp q hq
      exact configDiff_exitCode.mpr
        ⟨hformat p q, (h p hp).symm.trans (h q hq)⟩
    · intro h path hpath
      exact (configDiff_exitCode.mp
        (h basePath List.mem_cons_self path hpath)).2
  · exact configDrift_exitCode_of_error hp hload
  · exact (configDiff_exitCode_of_error hload q _ _).1
  · exact (configDiff_exitCode_of_error hload q _ _).2

theorem startEphemeralProxy_of_checkConfig {configPath : PathBuf}
    {asJson strict : Bool} :
    (checkConfig host iter configPath asJson strict).exitCode = 0 ↔
      (∃ ephemeral, startEphemeralProxy host.platform host.config host.clients
        configPath (host.files configPath) = .ok ephemeral) ∧
      (strict = true →
        ∀ config, host.load configPath = .ok config →
          config.StrictlySound) := by
  simp only [checkConfig_exitCode, startEphemeralProxy_eq_ok, CommandHost.load]
  constructor
  · rintro ⟨config, resolver, snapshot, hload, hresolver, hsnapshot, hsound⟩
    refine ⟨⟨_, config, resolver, snapshot, hload, hresolver, hsnapshot,
      rfl⟩, fun hstrict config' hload' => ?_⟩
    cases hload.symm.trans hload'
    exact hsound hstrict
  · rintro ⟨⟨_, config, resolver, snapshot, hload, hresolver, hsnapshot, -⟩,
      hsound⟩
    exact ⟨config, resolver, snapshot, hload, hresolver, hsnapshot,
      fun hstrict => hsound hstrict config hload⟩

/--
`check-config` passes exactly if the proxy of `smoke-proxy` and `replay` gets as
far as listening with the file and, with `--strict`, there is nothing to report.
That proxy and the server itself start exactly if the plain check passes and the
steps it does not make succeed: to listen, and for the server to watch the file
and to initialise the plugins.
-/
theorem check_gate {host : CommandHost} {os : ListenHost} {iter : IterOrder}
    {configPath : PathBuf} {asJson strict : Bool} {addr : Nat} :
    ((checkConfig host iter configPath asJson strict).exitCode = 0 ↔
      (∃ ephemeral, startEphemeralProxy host.platform host.config host.clients
        configPath (host.files configPath) = .ok ephemeral) ∧
      (strict = true →
        ∀ config, host.load configPath = .ok config →
          config.StrictlySound)) ∧
    ((∃ ephemeral, serveEphemeral host.platform host.config os host.clients
        configPath (host.files configPath) = .ok ephemeral) ↔
      (checkConfig host iter configPath asJson false).exitCode = 0 ∧
      os.bind "127.0.0.1:0" = .ok ()) ∧
    ((∃ production, serveProduction host.platform host.config os host.clients
        configPath (host.files configPath) addr = .ok production) ↔
      (checkConfig host iter configPath asJson false).exitCode = 0 ∧
      os.watch configPath = .ok () ∧
      ∃ config chain, host.load configPath = .ok config ∧
        buildPluginChain config.server.plugins = .ok chain ∧
        os.bind config.listenAddr = .ok ()) := by
  refine ⟨startEphemeralProxy_of_checkConfig, ?_, ?_⟩
  · simp only [startEphemeralProxy_of_checkConfig, serveEphemeral_eq_ok,
      exists_and_right, Bool.false_eq_true, false_imp_iff, and_true]
  · simp only [checkConfig_exitCode, serveProduction_eq_ok,
      startProduction_eq_ok, CommandHost.load]
    constructor
    · rintro ⟨_, ⟨config, resolver, snapshot, chain, hload, hresolver,
        hsnapshot, hchain, rfl⟩, hwatch, hbind⟩
      exact ⟨⟨config, resolver, snapshot, hload, hresolver, hsnapshot, nofun⟩,
        hwatch, config, chain, hload, hchain, hbind⟩
    · rintro ⟨⟨config, resolver, snapshot, hload, hresolver, hsnapshot, -⟩,
        hwatch, config', chain, hload', hchain, hbind⟩
      cases hload.symm.trans hload'
      exact ⟨_, ⟨config, resolver, snapshot, chain, hload, hresolver,
        hsnapshot, hchain, rfl⟩, hwatch, hbind⟩

theorem router_of_startProduction {configPath : PathBuf} {addr : Nat}
    {config : AppConfig} {snapshot : RouterSnapshot} {state : AppState}
    (hload : host.load configPath = .ok config)
    (hsnapshot : RouterSnapshot.fromConfig host.platform config = .ok snapshot)
    (hstart : startProduction host.platform host.config host.clients
      configPath (host.files configPath) addr = .ok state) :
    state.router = snapshot := by
  obtain ⟨config', resolver, snapshot', chain, hload', -, hsnapshot', -,
    rfl⟩ := startProduction_eq_ok.mp hstart
  cases hload.symm.trans hload'
  cases hsnapshot.symm.trans hsnapshot'
  rfl

theorem not_reports_of_identical {left right : AppConfig}
    {leftPath rightPath : String}
    (h : (diffAppConfigs iter left right leftPath rightPath).identical = true)
    (id : String) :
    ¬ (diffAppConfigs iter left right leftPath rightPath).Reports id := by
  have hclean : (diffAppConfigs iter left right leftPath
      rightPath).changes = [] := List.isEmpty_iff.mp h
  rintro ⟨change, hchange, -⟩
  rw [hclean] at hchange
  cases hchange

/-- The two files order the ties of the request alike. -/
def CommandHost.SameTies (host : CommandHost) (leftPath rightPath : PathBuf)
    (path method : String) (headers : HeaderMap) : Prop :=
  ∀ left right, host.load leftPath = .ok left → host.load rightPath = .ok right →
    SameTieOrder host.platform left.routes right.routes path method headers

/--
When the strict check passes on two files and `config-diff` finds no
difference, the servers started from them resolve a request to rules with the
same content, if the files order its ties alike.
-/
theorem gated_change {host : CommandHost} {iterLeft iterRight iter : IterOrder}
    {leftPath rightPath : PathBuf} {jsonLeft jsonRight asJson markdown : Bool}
    {addrLeft addrRight : Nat} {left right : AppState}
    (hleft : (checkConfig host iterLeft leftPath jsonLeft true).exitCode = 0)
    (hright : (checkConfig host iterRight rightPath jsonRight true).exitCode = 0)
    (hdiff : (configDiff host iter leftPath rightPath asJson
      markdown).exitCode = 0)
    (hstartLeft : startProduction host.platform host.config host.clients
      leftPath (host.files leftPath) addrLeft = .ok left)
    (hstartRight : startProduction host.platform host.config host.clients
      rightPath (host.files rightPath) addrRight = .ok right)
    {path method : String} {headers : HeaderMap}
    (hties : host.SameTies leftPath rightPath path method headers) :
    Option.Rel CompiledRoutingRule.SameContent
      (left.router.resolvedRule host.platform path method headers)
      (right.router.resolvedRule host.platform path method headers) := by
  obtain ⟨leftConfig, -, leftSnapshot, hloadLeft, -, hleftRouter,
    hleftSound⟩ := checkConfig_exitCode.mp hleft
  obtain ⟨rightConfig, -, rightSnapshot, hloadRight, -, hrightRouter,
    hrightSound⟩ := checkConfig_exitCode.mp hright
  obtain ⟨-, config, config', hload, hload', hsame⟩ :=
    configDiff_exitCode.mp hdiff
  cases hloadLeft.symm.trans hload
  cases hloadRight.symm.trans hload'
  rw [router_of_startProduction hloadLeft hleftRouter hstartLeft,
    router_of_startProduction hloadRight hrightRouter hstartRight]
  have hidentical : (diffAppConfigs iter leftConfig rightConfig
      leftPath.display rightPath.display).identical = true :=
    identical_iff_sameJson.mpr hsame
  refine resolves_alike_of_unreported hleftRouter hrightRouter
    (hleftSound rfl).ids (hrightSound rfl).ids ?_ fun rule _ =>
      not_reports_of_identical hidentical rule.id
  exact fun i i' j j' hid hid' _ _ =>
    hties leftConfig rightConfig hloadLeft hloadRight i i' j j' hid hid'

end ExitCodes

/-! ## Two files with the same routes -/

def rankedRoute (id path priority : String) : String :=
  "  - id: " ++ id ++ "\n    path:\n      type: prefix\n      value: " ++
  path ++ "\n    service_id: " ++ id ++ "\n    priority: " ++ priority ++
  "\n"

def rankedYaml : String :=
  fileWithRoutes "routes:\n" ++ rankedRoute "high" "/api" "10" ++
  rankedRoute "low" "/" "20"

def swappedYaml : String :=
  fileWithRoutes "routes:\n" ++ rankedRoute "low" "/" "20" ++
  rankedRoute "high" "/api" "10"

def rankedFile : PathBuf := ⟨["ranked.yaml"], "ranked.yaml"⟩

def swappedFile : PathBuf := ⟨["swapped.yaml"], "swapped.yaml"⟩

def rankedHost : CommandHost where
  platform := .plain
  config := {
    envVar := fun _ => none
    configFromYaml := fun text =>
      if text = rankedYaml then .ok rankedRoutes
      else if text = swappedYaml then .ok rankedRoutesSwapped
      else .error "invalid type"
    overridesFromYaml := fun _ => .error "missing field overrides" }
  files path :=
    if path.components = rankedFile.components then .ok rankedYaml
    else if path.components = swappedFile.components then .ok swappedYaml
    else .error .notFound
  clients := noClients

private theorem load_ranked : rankedHost.load rankedFile = .ok rankedRoutes := by
  have hread : rankedHost.files rankedFile = .ok rankedYaml := rfl
  rw [CommandHost.load, hread]
  apply loadConfig_of_no_placeholder
  · apply placeholders_of_no_dollar
    decide +kernel
  · simp [rankedHost]
  · rfl

private theorem load_swapped :
    rankedHost.load swappedFile = .ok rankedRoutesSwapped := by
  have hother : swappedYaml ≠ rankedYaml := by decide +kernel
  have hread : rankedHost.files swappedFile = .ok swappedYaml := rfl
  rw [CommandHost.load, hread]
  apply loadConfig_of_no_placeholder
  · apply placeholders_of_no_dollar
    decide +kernel
  · simp [rankedHost, hother]
  · rfl

private theorem sameJson_ranked :
    rankedRoutes.SameJson rankedRoutesSwapped where
  server := rfl
  logLevel := rfl
  registries := rfl
  routes := diffRoutesById_eq_nil_iff.mp
    (show diffRoutesById .insertion rankedRoutes.routes
      rankedRoutesSwapped.routes = [] by decide)

private theorem agree_ranked : rankedHost.Agree rankedFile swappedFile :=
  ⟨_, _, load_ranked, load_swapped, sameJson_ranked⟩

def absentFile : PathBuf := ⟨["absent.yaml"], "absent.yaml"⟩

/-- The two files pass in any order; a third that is missing fails. -/
theorem drift_gate_ranked :
    (configDiff rankedHost .insertion swappedFile rankedFile false
      true).exitCode = 0 ∧
    (configDrift rankedHost (fun _ => .insertion) rankedFile
      [swappedFile, absentFile] true).exitCode = 1 := by
  have hdrift : (configDrift rankedHost (fun _ => .insertion) rankedFile
      [swappedFile] true).exitCode = 0 := by
    rw [configDrift_exitCode]
    simpa using ⟨agree_ranked.trans agree_ranked.symm, agree_ranked⟩
  have habsent : rankedHost.load absentFile =
      .error (.fileNotFound "absent.yaml") := rfl
  have hformat : ∀ _ _ : PathBuf, (false && true) = false := fun _ _ => rfl
  constructor
  · exact (@drift_gate rankedHost (fun _ => .insertion)
      (fun _ _ => .insertion) rankedFile [swappedFile] true (fun _ _ => false)
      (fun _ _ => true) hformat).1.mp hdrift swappedFile (by simp) rankedFile
      (by simp)
  · exact ((@drift_gate rankedHost (fun _ => .insertion)
      (fun _ _ => .insertion) rankedFile [swappedFile, absentFile] true
      (fun _ _ => false) (fun _ _ => true) hformat).2 absentFile (by simp) _
      habsent).1

private theorem sound_ranked : rankedRoutes.StrictlySound :=
  have hclean : runStrictConfigChecks .insertion rankedRoutes = [] := by decide
  runStrictConfigChecks_eq_nil_iff.mp hclean

private theorem sound_swapped : rankedRoutesSwapped.StrictlySound :=
  have hclean : runStrictConfigChecks .insertion rankedRoutesSwapped = [] := by
    decide
  runStrictConfigChecks_eq_nil_iff.mp hclean

private theorem starts_ranked :
    ∃ state, startProduction rankedHost.platform rankedHost.config
      rankedHost.clients rankedFile (rankedHost.files rankedFile) 0 =
        .ok state :=
  ⟨_, startProduction_eq_ok.mpr
    ⟨_, _, _, _, load_ranked, rfl, rfl, rfl, rfl⟩⟩

private theorem starts_swapped :
    ∃ state, startProduction rankedHost.platform rankedHost.config
      rankedHost.clients swappedFile (rankedHost.files swappedFile) 0 =
        .ok state :=
  ⟨_, startProduction_eq_ok.mpr
    ⟨_, _, _, _, load_swapped, rfl, rfl, rfl, rfl⟩⟩

theorem gated_change_ranked :
    ∃ left right,
      startProduction .plain rankedHost.config noClients rankedFile
        (.ok rankedYaml) 0 = .ok left ∧
      startProduction .plain rankedHost.config noClients swappedFile
        (.ok swappedYaml) 0 = .ok right ∧
      Option.Rel CompiledRoutingRule.SameContent
        (left.router.resolvedRule .plain "/api" "GET" ⟨[]⟩)
        (right.router.resolvedRule .plain "/api" "GET" ⟨[]⟩) := by
  have hleft : (checkConfig rankedHost .insertion rankedFile false
      true).exitCode = 0 :=
    checkConfig_exitCode.mpr
      ⟨_, _, _, load_ranked, rfl, rfl, fun _ => sound_ranked⟩
  have hright : (checkConfig rankedHost .insertion swappedFile false
      true).exitCode = 0 :=
    checkConfig_exitCode.mpr
      ⟨_, _, _, load_swapped, rfl, rfl, fun _ => sound_swapped⟩
  have hdiff : (configDiff rankedHost .insertion rankedFile swappedFile false
      false).exitCode = 0 :=
    configDiff_exitCode.mpr ⟨rfl, agree_ranked⟩
  have hties : rankedHost.SameTies rankedFile swappedFile "/api" "GET"
      ⟨[]⟩ := by
    intro left right hleft hright i i' j j' _ _ _ _ hpriority hlt
    cases load_ranked.symm.trans hleft
    have hdistinct : ∀ i i' : Fin rankedRoutes.routes.length,
        (rankedRoutes.routes.get i).priority =
          (rankedRoutes.routes.get i').priority → i = i' := by decide
    exact absurd (hdistinct i i' hpriority) (ne_of_lt hlt)
  obtain ⟨left, hstartLeft⟩ := starts_ranked
  obtain ⟨right, hstartRight⟩ := starts_swapped
  exact ⟨left, right, hstartLeft, hstartRight,
    gated_change hleft hright hdiff hstartLeft hstartRight hties⟩

end ServiceRouter
