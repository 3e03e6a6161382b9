/-
This file runs commands against an environment and its files.
-/

import CourseAdvisor.Command.Help
import CourseAdvisor.Command.Reading
import CourseAdvisor.Files.Locations
import CourseAdvisor.Settings.Basic
import CourseAdvisor.Text.Table

namespace CourseAdvisor

/-- A command fails for one of these causes. -/
inductive Failure where
  | settings (error : SettingsError)
  | loading (snapshot : Path) (error : StoreError)
  | advice (error : StoreError)
  | unwritablePath
  | binding (address : Http.Address)

/-- Only the outermost cause is told. -/
def Failure.message : Failure → String
  | .settings error => error.message
  | .loading snapshot _ => "loading catalog snapshot " ++ snapshot.shown
  | .advice error => error.message?.getD "store failed"
  | .unwritablePath => "path contains invalid UTF-8 characters"
  | .binding address =>
      "failed to bind to " ++ address.text ++ ": file name contained an unexpected NUL byte"

/-- A command prints a text or leaves a service that listens. -/
inductive Answer where
  | printed (text : String)
  | listening (address : Http.Address) (service : Http.Service)

/-- The world of a run is its environment and what stands at each path. -/
structure World where
  environment : Environment
  files : Path → FileState

namespace World

/-- Nothing stands at the other paths. -/
def ofFiles (environment : Environment) (files : List (Path × FileState)) : World where
  environment := environment
  files path := (files.lookup path).getD .missing

/-- The settings of the project lie over those of the user. -/
def settings (world : World) : Except Failure Settings :=
  let paths := [world.environment.userConfigPath, world.environment.projectConfigPath]
  (Settings.load world.environment.snapshotPath
    (paths.map fun path => (path, world.files path))).mapError .settings

/-- This is an advisor over a snapshot file with the standard rules. -/
def advisor (world : World) (snapshot : Path) (thresholds : Thresholds) :
    Except Failure Advisor :=
  match Snapshot.ofFile (world.files snapshot) with
  | .error error => .error (.loading snapshot error)
  | .ok content => .ok ⟨content.store, .standard thresholds⟩

end World

def recommendationTable (recommendations : List Recommendation) : Text.Table where
  header := ["Course", "Title", "Reason"]
  rows := recommendations.map fun recommendation =>
    [recommendation.courseId.text, recommendation.title, recommendation.reason]

/-- A table needs at least one row. -/
def recommendationText (learner : LearnerId) (asJson : Bool)
    (recommendations : List Recommendation) : String :=
  if asJson then (Response.success recommendations).toJson.prettyText ++ "\n"
  else if recommendations.isEmpty then "No recommendations for " ++ learner.text ++ ".\n"
  else (recommendationTable recommendations).text ++ "\n"

/-- Rules are numbered in the order in which they are applied. -/
def numbered (names : List String) : String :=
  String.join (names.zipIdx.map fun (name, index) => s!"{index + 1}. {name}\n")

def ruleText (thresholds : Thresholds) : String :=
  numbered (RuleSet.standard thresholds).names ++ "\n" ++
    "weak score threshold: " ++ thresholds.weakScore.text .plain ++
    "  beginner ratio threshold: " ++ thresholds.beginnerRatio.text .plain ++ "\n"

namespace Command

/-- The settings are loaded before the snapshot is read. -/
def recommendFor (world : World) (learner : LearnerId) (snapshot : Option Path)
    (asJson : Bool) : Except Failure Answer := do
  let settings ← world.settings
  let advisor ← world.advisor (snapshot.getD settings.snapshot) settings.thresholds
  match (advisor.recommend learner).value with
  | .error error => .error (.advice error)
  | .ok recommendations => .ok (.printed (recommendationText learner asJson recommendations))

/-- No network address holds a NUL character. -/
def serveFrom (world : World) (host : Option String) (port : Option UInt16)
    (snapshot : Option Path) : Except Failure Answer := do
  let settings ← world.settings
  let address : Http.Address :=
    ⟨host.getD settings.address.host, port.getD settings.address.port⟩
  let advisor ← world.advisor (snapshot.getD settings.snapshot) settings.thresholds
  if address.host.contains '\x00' then .error (.binding address)
  else .ok (.listening address ⟨advisor, 0⟩)

def showConfigIn (world : World) : Except Failure Answer := do
  let settings ← world.settings
  match settings.written with
  | none => .error .unwritablePath
  | some text => .ok (.printed (String.ofList text ++ "\n"))

/-- The paths are told even when nothing stands there. -/
def configPathText (environment : Environment) : String :=
  "User config:    " ++ environment.userConfigPath.shown ++ "\n" ++
    "Project config: " ++ environment.projectConfigPath.shown ++ "\n"

def run (world : World) : Command → Except Failure Answer
  | .showConfig => showConfigIn world
  | .showConfigPaths => .ok (.printed (configPathText world.environment))
  | .recommend learner snapshot asJson => recommendFor world learner snapshot asJson
  | .listRules => do return .printed (ruleText (← world.settings).thresholds)
  | .serve host port snapshot => serveFrom world host port snapshot

/-- This is the snapshot that a command reads once the settings are known. -/
def snapshotPath? (world : World) : Command → Option Path
  | .recommend _ snapshot _ | .serve _ _ snapshot =>
      match world.settings with
      | .error _ => none
      | .ok settings => some (snapshot.getD settings.snapshot)
  | _ => none

end Command

/-- A run of the program comes to one of these ends. -/
inductive Outcome where
  | printed (text : String)
  | listening (address : Http.Address) (service : Http.Service)
  | failed (failure : Failure)
  | misused

namespace Outcome

/-- Whoever asks for the version is told the name of the command too. -/
def ofStop : Stop → Outcome
  | .usage => .misused
  | .help topic => .printed topic.helpText
  | .version topic => .printed ("-".intercalate topic.names ++ " " ++ version ++ "\n")

def ofAnswer : Except Failure Answer → Outcome
  | .error failure => .failed failure
  | .ok (.printed text) => .printed text
  | .ok (.listening address service) => .listening address service

/-- This runs the program with its arguments. -/
def ofArguments (world : World) (arguments : List String) : Outcome :=
  match Command.ofArguments arguments with
  | .error stop => ofStop stop
  | .ok command => ofAnswer (command.run world)

/-- A service that listens has no exit code yet. -/
def exitCode? : Outcome → Option UInt32
  | .printed _ => some 0
  | .listening _ _ => none
  | .failed _ => some 1
  | .misused => some 2

/-- A failure is not part of the output. -/
def output : Outcome → String
  | .printed text => text
  | _ => ""

end Outcome

end CourseAdvisor
