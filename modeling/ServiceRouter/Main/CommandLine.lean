import ServiceRouter.Config.Loader
import ServiceRouter.Foundation.OptionWords
import ServiceRouter.Foundation.UnixPath
import ServiceRouter.Foundation.WhileLoop

/-!
# The command line

The first word names a subcommand.  Most subcommands read the other words with
a loop over an index, which an option with a value moves by two.  In all but
one of these loops an option at the end of the line that lacks its value is
skipped by the increment at the end of the body.
-/

namespace ServiceRouter

open Foundation

/-- The leading dot of a relative path is a component of its own. -/
def PathBuf.ofText (text : String) : PathBuf where
  components :=
    (if startsWith text "/" then ["/"]
      else if (text.toList.splitOn '/').head? = some ['.'] then ["."]
      else []) ++ (pathComponents text).map String.ofList
  display := text

inductive Command where
  | run (configPath : PathBuf) (localOverride : Option PathBuf)
  | init (template : String) (outputDir : PathBuf)
  | checkConfig (configPath : PathBuf) (asJson strict : Bool)
  | doctor (configPath : PathBuf) (probeUpstream asJson : Bool)
  | routeExplain (configPath : PathBuf) (path method : String)
      (headers : List (String × String)) (requestFile : Option PathBuf)
      (asJson verbose : Bool)
  | configDiff (left right : PathBuf) (asJson markdown : Bool)
  | configSnapshot (configPath : PathBuf) (output : Option PathBuf)
  | smokeProxy (configPath : PathBuf) (requestPath method : String)
      (expectStatus : Nat)
  | replay (configPath replayFile : PathBuf)
  | configDrift (basePath : PathBuf) (profilePaths : List PathBuf)
      (asJson : Bool)
  | help

/-- A command with the lines that parsing it wrote to the standard error. -/
structure Parsed where
  command : Command
  stderr : List String := []

def defaultConfig : PathBuf := .ofText "config/config.yaml"

def isOption (word : String) : Bool := startsWith word "-"

/-! ## Loops over the words -/

/-- The variables of a loop: the index `i` and those of the subcommand. -/
structure Scan (α : Type) where
  index : Nat
  locals : α

/-- What a loop does at a word.  An option with a value stores the next word,
if there is one; any other word is done with by itself. -/
inductive WordAction (α : Type) where
  | value (store : String → α → α)
  | word (change : α → α)

/-- The body shared by the loops that end in `i += 1`.  The test of the loop
keeps the index in range. -/
def scanWord {α : Type} (action : String → WordAction α) (args : List String)
    (s : Scan α) : Scan α :=
  match action (args.getD s.index "") with
  | .word change => ⟨s.index + 1, change s.locals⟩
  | .value store =>
      match args[s.index + 1]? with
      | some value => ⟨s.index + 2, store value s.locals⟩
      | none => ⟨s.index + 1, s.locals⟩

/-- A subcommand that loops over the words. -/
structure WordLoop where
  Locals : Type
  start : Locals
  body : List String → Scan Locals → Scan Locals
  finish : Locals → Parsed

namespace WordLoop

def whileLoop (loop : WordLoop) (args : List String) :
    WhileLoop (Scan loop.Locals) where
  test s := s.index < args.length
  body := loop.body args

/-- The loops start behind the name of the subcommand. -/
def entry (loop : WordLoop) : Scan loop.Locals := ⟨1, loop.start⟩

def parse (loop : WordLoop) (fuel : Nat) (args : List String) :
    Option Parsed :=
  ((loop.whileLoop args).run fuel loop.entry).map fun s =>
    loop.finish s.locals

end WordLoop

/-! ## The subcommands -/

structure RunLocals where
  configPath : PathBuf := defaultConfig
  localOverride : Option PathBuf := none

def runWord (word : String) : WordAction RunLocals :=
  if word = "--local-override"
  then .value fun value s =>
    { s with localOverride := some (.ofText value) }
  else if !isOption word
  then .word fun s => { s with configPath := .ofText word }
  else .word id

def runLoop : WordLoop where
  Locals := RunLocals
  start := {}
  body := scanWord runWord
  finish s := { command := .run s.configPath s.localOverride }

structure InitLocals where
  template : String := "mock"
  outputDir : PathBuf := .ofText "."

def initWord (word : String) : WordAction InitLocals :=
  if word = "--template" ∨ word = "-t"
  then .value fun value s => { s with template := value }
  else if word = "--output" ∨ word = "-o"
  then .value fun value s => { s with outputDir := .ofText value }
  else if !isOption word
  then .word fun s => { s with outputDir := .ofText word }
  else .word id

def initLoop : WordLoop where
  Locals := InitLocals
  start := {}
  body := scanWord initWord
  finish s := { command := .init s.template s.outputDir }

structure CheckConfigLocals where
  asJson : Bool := false
  strict : Bool := false
  configPath : PathBuf := defaultConfig

def checkConfigWord (s : CheckConfigLocals) (word : String) :
    CheckConfigLocals :=
  if word = "--json" then { s with asJson := true }
  else if word = "--strict" then { s with strict := true }
  else { s with configPath := .ofText word }

def parseCheckConfig (words : List String) : Parsed :=
  let s := words.foldl checkConfigWord {}
  { command := .checkConfig s.configPath s.asJson s.strict }

structure DoctorLocals where
  configPath : PathBuf := defaultConfig
  probeUpstream : Bool := false
  asJson : Bool := false

def doctorWord (word : String) : WordAction DoctorLocals :=
  if word = "--config"
  then .value fun value s => { s with configPath := .ofText value }
  else if word = "--probe-upstream"
  then .word fun s => { s with probeUpstream := true }
  else if word = "--json"
  then .word fun s => { s with asJson := true }
  else .word fun s => { s with configPath := .ofText word }

def doctorLoop : WordLoop where
  Locals := DoctorLocals
  start := {}
  body := scanWord doctorWord
  finish s := { command := .doctor s.configPath s.probeUpstream s.asJson }

structure RouteExplainLocals where
  configPath : PathBuf := defaultConfig
  headers : List (String × String) := []
  asJson : Bool := false
  verbose : Bool := false
  requestFile : Option PathBuf := none
  positionals : List String := []

def RouteExplainLocals.addHeader (value : String) (s : RouteExplainLocals) :
    RouteExplainLocals :=
  match splitOnce value ':' with
  | some (k, v) => { s with headers := s.headers ++ [(trim k, trim v)] }
  | none => s

def routeExplainWord (word : String) : WordAction RouteExplainLocals :=
  if word = "--config"
  then .value fun value s => { s with configPath := .ofText value }
  else if word = "--request-file"
  then .value fun value s => { s with requestFile := some (.ofText value) }
  else if word = "--header"
  then .value RouteExplainLocals.addHeader
  else if word = "--json"
  then .word fun s => { s with asJson := true }
  else if word = "--verbose"
  then .word fun s => { s with verbose := true }
  else if isOption word
  then .word id
  else .word fun s => { s with positionals := s.positionals ++ [word] }

/-- This body has no increment at its end.  Every branch advances the index
by itself, but the branches of the options do so only if a value follows. -/
def routeExplainBody (args : List String) (s : Scan RouteExplainLocals) :
    Scan RouteExplainLocals :=
  match routeExplainWord (args.getD s.index "") with
  | .word change => ⟨s.index + 1, change s.locals⟩
  | .value store =>
      match args[s.index + 1]? with
      | some value => ⟨s.index + 2, store value s.locals⟩
      | none => s

def routeExplainLoop : WordLoop where
  Locals := RouteExplainLocals
  start := {}
  body := routeExplainBody
  finish s :=
    { command := .routeExplain s.configPath (s.positionals[0]?.getD "/")
        (s.positionals[1]?.getD "GET") s.headers s.requestFile s.asJson
        s.verbose }

structure ConfigSnapshotLocals where
  configPathSet : Option PathBuf := none
  output : Option PathBuf := none

def configSnapshotWord (word : String) : WordAction ConfigSnapshotLocals :=
  if word = "--config"
  then .value fun value s => { s with configPathSet := some (.ofText value) }
  else if word = "-o" ∨ word = "--output"
  then .value fun value s => { s with output := some (.ofText value) }
  else if !isOption word
  then .word fun s => { s with configPathSet := some (.ofText word) }
  else .word id

def configSnapshotLoop : WordLoop where
  Locals := ConfigSnapshotLocals
  start := {}
  body := scanWord configSnapshotWord
  finish s :=
    { command :=
        .configSnapshot (s.configPathSet.getD defaultConfig) s.output }

structure SmokeProxyLocals where
  configPath : PathBuf := defaultConfig
  requestPath : String := "/health"
  method : String := "GET"
  expectStatus : Nat := 200

def smokeProxyWord (tables : CaseMapping) (word : String) :
    WordAction SmokeProxyLocals :=
  if word = "--request" ∨ word = "-r"
  then .value fun value s => { s with requestPath := value }
  else if word = "--method" ∨ word = "-m"
  then .value fun value s => { s with method := tables.toUppercase value }
  else if word = "--expect-status"
  then .value fun value s =>
    { s with expectStatus := (parseU16 value).getD 200 }
  else if word = "--config"
  then .value fun value s => { s with configPath := .ofText value }
  else if !isOption word
  then .word fun s => { s with configPath := .ofText word }
  else .word id

def smokeProxyLoop (tables : CaseMapping) : WordLoop where
  Locals := SmokeProxyLocals
  start := {}
  body := scanWord (smokeProxyWord tables)
  finish s :=
    { command :=
        .smokeProxy s.configPath s.requestPath s.method s.expectStatus }

structure ReplayLocals where
  configPath : PathBuf := defaultConfig
  replayFile : Option PathBuf := none

def ReplayLocals.addPositional (word : String) (s : ReplayLocals) :
    ReplayLocals :=
  if s.replayFile.isNone
  then { s with replayFile := some (.ofText word) }
  else { s with configPath := .ofText word }

def replayWord (word : String) : WordAction ReplayLocals :=
  if word = "--config"
  then .value fun value s => { s with configPath := .ofText value }
  else if word = "--file" ∨ word = "-f"
  then .value fun value s => { s with replayFile := some (.ofText value) }
  else if !isOption word
  then .word (ReplayLocals.addPositional word)
  else .word id

def replayLoop : WordLoop where
  Locals := ReplayLocals
  start := {}
  body := scanWord replayWord
  finish s :=
    match s.replayFile with
    | some file => { command := .replay s.configPath file }
    | none =>
        { command := .help
          stderr :=
            ["Usage: replay <request-file> [--config <path>]",
              "  or:  replay --file <request-file> [--config <path>]"] }

structure ConfigDriftLocals where
  basePath : Option PathBuf := none
  profilePaths : List PathBuf := []
  asJson : Bool := false

def ConfigDriftLocals.addProfile (word : String) (s : ConfigDriftLocals) :
    ConfigDriftLocals :=
  { s with profilePaths := s.profilePaths ++ [.ofText word] }

def ConfigDriftLocals.addPositional (word : String)
    (s : ConfigDriftLocals) : ConfigDriftLocals :=
  if s.basePath.isNone
  then { s with basePath := some (.ofText word) }
  else s.addProfile word

def configDriftWord (word : String) : WordAction ConfigDriftLocals :=
  if word = "--json"
  then .word fun s => { s with asJson := true }
  else if word = "--base"
  then .value fun value s => { s with basePath := some (.ofText value) }
  else if word = "--profile" ∨ word = "-p"
  then .value ConfigDriftLocals.addProfile
  else if !isOption word
  then .word (ConfigDriftLocals.addPositional word)
  else .word id

def configDriftUsage : List String :=
  ["Usage: config-drift <base-config> <profile1> [profile2 ...] [--json]",
    "  or:  config-drift --base <path> --profile <path> " ++
      "[--profile <path>] [--json]"]

def configDriftLoop : WordLoop where
  Locals := ConfigDriftLocals
  start := {}
  body := scanWord configDriftWord
  finish s :=
    match s.basePath, s.profilePaths with
    | some base, profile :: profiles =>
        { command := .configDrift base (profile :: profiles) s.asJson }
    | _, _ => { command := .help, stderr := configDriftUsage }

structure ConfigDiffLocals where
  asJson : Bool := false
  markdown : Bool := false
  positionals : List PathBuf := []

def configDiffWord (s : ConfigDiffLocals) (word : String) :
    ConfigDiffLocals :=
  if word = "--json" then { s with asJson := true }
  else if word = "--markdown" then { s with markdown := true }
  else if !isOption word
  then { s with positionals := s.positionals ++ [.ofText word] }
  else s

def configDiffUsage : String :=
  "Usage: config-diff <left-config> <right-config> [--json|--markdown]"

def parseConfigDiff (words : List String) : Parsed :=
  let s := words.foldl configDiffWord {}
  match s.positionals with
  | left :: right :: _ =>
      { command := .configDiff left right s.asJson s.markdown }
  | _ => { command := .help, stderr := [configDiffUsage] }

/-! ## Parsing -/

/-- A subcommand loops over an index, or reads the words one after the
other. -/
inductive Subcommand where
  | loop (loop : WordLoop)
  | words (parse : List String → Parsed)

def subcommand (tables : CaseMapping) (name : String) : Subcommand :=
  match name with
  | "run" => .loop runLoop
  | "init" => .loop initLoop
  | "check-config" => .words parseCheckConfig
  | "doctor" => .loop doctorLoop
  | "route-explain" => .loop routeExplainLoop
  | "config-snapshot" => .loop configSnapshotLoop
  | "smoke-proxy" => .loop (smokeProxyLoop tables)
  | "replay" => .loop replayLoop
  | "config-drift" => .loop configDriftLoop
  | "config-diff" => .words parseConfigDiff
  | "-h" | "--help" | "help" => .words fun _ => { command := .help }
  | other => .words fun _ =>
      { command := .help, stderr := ["Unknown command: " ++ other] }

/-- Parsing with loops of at most `fuel` tests. -/
def parseCommand (tables : CaseMapping) (fuel : Nat) (args : List String) :
    Option Parsed :=
  match args with
  | [] => some { command := .run defaultConfig none }
  | name :: words =>
      match subcommand tables name with
      | .loop loop => loop.parse fuel args
      | .words parse => some (parse words)

end ServiceRouter
