/-
This file makes settings of layers and shows them.
-/

import CourseAdvisor.Files.FileState
import CourseAdvisor.Http.Service
import CourseAdvisor.Settings.Layer
import CourseAdvisor.Toml.Quoted

namespace CourseAdvisor

structure Settings where
  address : Http.Address
  snapshot : Path
  thresholds : Thresholds
  deriving DecidableEq

/-- A file may be unreadable, or its text may be no layer. -/
inductive SettingsError where
  | reading (path : Path)
  | parsing (path : Path)
  deriving DecidableEq

def SettingsError.message : SettingsError → String
  | .reading path => "reading " ++ path.shown
  | .parsing path => "parsing " ++ path.shown

/-- A missing file sets nothing. -/
def Layer.ofFile (path : Path) (file : FileState) : Except SettingsError Layer :=
  if file.isPresent then
    match file.read with
    | .error _ => .error (.reading path)
    | .ok text =>
        match ofText text with
        | none => .error (.parsing path)
        | some layer => .ok layer
  else .ok .empty

/-- Each file lies over the files before it, and the first bad file ends the loading. -/
def Layer.stack (lower : Layer) : List (Path × FileState) → Except SettingsError Layer
  | [] => .ok lower
  | (path, file) :: rest => do
      let layer ← ofFile path file
      stack (layer.above lower) rest

namespace Settings

/-- What no layer sets has its default. -/
def ofLayer (snapshotPath : Path) (layer : Layer) : Settings where
  address := ⟨layer.host.getD Http.Address.standard.host,
    layer.port.getD Http.Address.standard.port⟩
  snapshot := layer.snapshot.getD snapshotPath
  thresholds := ⟨layer.weakScore.getD Thresholds.standard.weakScore,
    layer.beginnerRatio.getD Thresholds.standard.beginnerRatio⟩

def load (snapshotPath : Path) (files : List (Path × FileState)) :
    Except SettingsError Settings :=
  (Layer.empty.stack files).map (ofLayer snapshotPath)

/-- This is an entry of the written settings. -/
def entry (key : String) (value : List Char) : List Char :=
  key.toList ++ [' ', '=', ' '] ++ value ++ ['\n']

/-- Settings are written as the file that sets all of them; a path must be text for that. -/
def written (settings : Settings) : Option (List Char) := do
  let snapshot ← settings.snapshot.text?
  return "[server]\n".toList ++
    entry "host" (Toml.quoted settings.address.host) ++
    entry "port" (Nat.toDigits 10 settings.address.port.toNat) ++
    "\n[catalog]\n".toList ++
    entry "snapshot" (Toml.quoted snapshot) ++
    "\n[engine]\n".toList ++
    entry "weak_score_threshold" (settings.thresholds.weakScore.written .pointed) ++
    entry "beginner_ratio_threshold" (settings.thresholds.beginnerRatio.written .pointed)

end Settings

end CourseAdvisor
