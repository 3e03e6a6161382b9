/-
This file is the command line.
-/

import CourseAdvisor.Command.Run

namespace CourseAdvisor

/-- What is there but cannot be read counts as a directory. -/
def stateAt (path : Path) : IO FileState := do
  match path.text? with
  | none => return .missing
  | some name =>
      try
        return .file (← IO.FS.readBinFile name)
      catch
        | .noFileOrDirectory .. => return .missing
        | _ => return .directory

def statesAt (paths : List Path) : IO (List (Path × FileState)) :=
  paths.mapM fun path => do return (path, ← stateAt path)

def environmentOfRun : IO Environment := do
  let bytes (name : String) : IO (Option ByteArray) := do
    return (← IO.getEnv name).map String.toUTF8
  return {
    home := (← bytes "HOME").getD ByteArray.empty
    configHome := ← bytes "XDG_CONFIG_HOME"
    dataHome := ← bytes "XDG_DATA_HOME"
    projectDirectory := ← bytes "COURSEPATH_PROJECT_CONFIG_DIR" }

/-- The network is not within reach of this program. -/
def report (outcome : Outcome) : IO UInt32 := do
  match outcome with
  | .printed text => IO.print text
  | .misused => IO.eprint Topic.program.helpText
  | .failed failure => IO.eprintln ("Error: " ++ failure.message)
  | .listening address _ => IO.eprintln ("Error: cannot listen on " ++ address.text)
  return outcome.exitCode?.getD 1

end CourseAdvisor

open CourseAdvisor in
/-- This runs the program on the files of the machine. -/
def main (arguments : List String) : IO UInt32 := do
  let environment ← environmentOfRun
  let configs ← statesAt [environment.userConfigPath, environment.projectConfigPath]
  let snapshots ← match Command.ofArguments arguments with
    | .error _ => pure []
    | .ok command =>
        statesAt (command.snapshotPath? (World.ofFiles environment configs)).toList
  report (Outcome.ofArguments (World.ofFiles environment (configs ++ snapshots)) arguments)
