/-
This file tells where the program keeps its files.
-/

import CourseAdvisor.Files.Path

namespace CourseAdvisor

/-- Of the variables that the program looks at, only the home directory is always set. -/
structure Environment where
  home : ByteArray
  configHome : Option ByteArray
  dataHome : Option ByteArray
  projectDirectory : Option ByteArray

namespace Environment

/-- A variable that is not text counts as unset. -/
def textual (value : Option ByteArray) : Option Path :=
  (value.bind String.fromUTF8?).map Path.ofText

/-- This is the name of the program's own directories. -/
def directoryName : String := "coursepath"

def configDirectory (environment : Environment) : Path :=
  match textual environment.configHome with
  | some directory => directory.join directoryName
  | none => ((Path.mk environment.home).join ".config").join directoryName

def dataDirectory (environment : Environment) : Path :=
  match textual environment.dataHome with
  | some directory => directory.join directoryName
  | none => ((Path.mk environment.home).join ".local/share").join directoryName

/-- The snapshot is kept here unless the settings name another path. -/
def snapshotPath (environment : Environment) : Path :=
  environment.dataDirectory.join "snapshot.json"

def userConfigPath (environment : Environment) : Path :=
  environment.configDirectory.join "config.toml"

def projectConfigPath (environment : Environment) : Path :=
  match textual environment.projectDirectory with
  | some directory => directory.join "config.toml"
  | none => .ofText ".coursepath/config.toml"

end Environment

end CourseAdvisor
