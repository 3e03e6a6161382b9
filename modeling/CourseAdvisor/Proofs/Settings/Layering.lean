/-
This file proves that the last file that sets a field decides it, each field on its own.
-/

import Mathlib.Data.List.Forall2
import CourseAdvisor.Settings.Basic

namespace CourseAdvisor

namespace Layer

/-- A file stops the loading when it is there and cannot be read, or when its text is no layer. -/
inductive Stops (path : Path) (file : FileState) : SettingsError → Prop where
  | reading {fault : FileFault} (isPresent : file.isPresent = true)
      (unread : file.read = .error fault) : Stops path file (.reading path)
  | parsing {text : String} (read : file.read = .ok text) (noLayer : ofText text = none) :
      Stops path file (.parsing path)

/-- A file sets what its text sets, and nothing when it is missing. -/
inductive Sets : FileState → Layer → Prop where
  | missing : Sets .missing .empty
  | text {file : FileState} {text : String} {layer : Layer} (read : file.read = .ok text)
      (isLayer : ofText text = some layer) : Sets file layer

/-- What can be read is there. -/
theorem isPresent_of_read {file : FileState} {text : String} (read : file.read = .ok text) :
    file.isPresent = true := by
  cases file with
  | missing => cases read
  | directory | file => rfl

theorem ofFile_eq_ok {path : Path} {file : FileState} {layer : Layer} :
    ofFile path file = .ok layer ↔ Sets file layer := by
  constructor
  · intro isOk
    unfold ofFile at isOk
    split at isOk
    case isTrue =>
        split at isOk
        case h_1 => cases isOk
        case h_2 text read =>
            split at isOk
            case h_1 => cases isOk
            case h_2 isLayer => exact .text read (Except.ok.inj isOk ▸ isLayer)
    case isFalse absent =>
        cases file with
        | missing => exact Except.ok.inj isOk ▸ .missing
        | directory | file => exact absurd rfl absent
  · intro sets
    cases sets with
    | missing => rfl
    | text read isLayer =>
        rw [ofFile, if_pos (isPresent_of_read read), read]
        simp only [isLayer]

theorem ofFile_eq_error {path : Path} {file : FileState} {error : SettingsError} :
    ofFile path file = .error error ↔ Stops path file error := by
  constructor
  · intro isError
    unfold ofFile at isError
    split at isError
    case isTrue isPresent =>
        split at isError
        case h_1 unread => exact Except.error.inj isError ▸ .reading isPresent unread
        case h_2 text read =>
            split at isError
            case h_1 noLayer => exact Except.error.inj isError ▸ .parsing read noLayer
            case h_2 => cases isError
    case isFalse => cases isError
  · intro stops
    cases stops with
    | reading isPresent unread => rw [ofFile, if_pos isPresent, unread]
    | parsing read noLayer =>
        rw [ofFile, if_pos (isPresent_of_read read), read]
        simp only [noLayer]

/-- A file that sets something does not stop the loading. -/
theorem not_stops_iff {path : Path} {file : FileState} :
    (∀ error, ¬Stops path file error) ↔ ∃ layer, Sets file layer := by
  simp only [← ofFile_eq_error, ← @ofFile_eq_ok path]
  cases ofFile path file <;> simp

/-- The layers lie over the lower one, the last of them on top. -/
def under (lower : Layer) (layers : List Layer) : Layer :=
  layers.foldl (fun below layer => layer.above below) lower

/-- The files set these layers, each its own. -/
abbrev SetInTurn (files : List (Path × FileState)) (layers : List Layer) : Prop :=
  List.Forall₂ (fun entry layer => Sets entry.2 layer) files layers

/-- A stack goes through when every file sets a layer, and then it lies under these layers. -/
theorem stack_eq_ok {lower result : Layer} {files : List (Path × FileState)} :
    lower.stack files = .ok result ↔
      ∃ layers, SetInTurn files layers ∧ lower.under layers = result := by
  induction files generalizing lower with
  | nil => simp [stack, under]
  | cons entry files ih =>
      obtain ⟨path, file⟩ := entry
      rw [stack]
      cases first : ofFile path file with
      | error error =>
          have stops := ofFile_eq_error.mp first
          refine ⟨nofun, ?_⟩
          rintro ⟨_, _ | ⟨sets, _⟩, _⟩
          rw [← ofFile_eq_ok, first] at sets
          cases sets
      | ok layer =>
          refine ih.trans ?_
          constructor
          · rintro ⟨layers, setLater, isResult⟩
            exact ⟨layer :: layers, .cons (ofFile_eq_ok.mp first) setLater, isResult⟩
          · rintro ⟨_, _ | ⟨sets, setLater⟩, isResult⟩
            rw [← ofFile_eq_ok, first] at sets
            obtain rfl := Except.ok.inj sets
            exact ⟨_, setLater, isResult⟩

/-- The second part of a stack lies over the first part. -/
theorem stack_append (lower : Layer) (earlier later : List (Path × FileState)) :
    lower.stack (earlier ++ later) = lower.stack earlier >>= fun below => below.stack later := by
  induction earlier generalizing lower with
  | nil => rfl
  | cons entry earlier ih =>
      obtain ⟨path, file⟩ := entry
      rw [List.cons_append, stack, stack]
      cases ofFile path file with
      | error => rfl
      | ok layer => exact ih (layer.above lower)

/-- Files that do not stop the loading make a stack. -/
theorem stack_through (lower : Layer) {files : List (Path × FileState)}
    (passed : ∀ entry ∈ files, ∀ error, ¬Stops entry.1 entry.2 error) :
    ∃ result, lower.stack files = .ok result := by
  induction files generalizing lower with
  | nil => exact ⟨lower, rfl⟩
  | cons entry files ih =>
      obtain ⟨first, others⟩ := List.forall_mem_cons.mp passed
      obtain ⟨layer, sets⟩ := not_stops_iff.mp first
      rw [stack, ofFile_eq_ok.mpr sets]
      exact ih _ others

/-- A stack fails at the first file that stops it, with the error of that file. -/
theorem stack_eq_error {lower : Layer} {files : List (Path × FileState)} {error : SettingsError} :
    lower.stack files = .error error ↔
      ∃ earlier path file later, files = earlier ++ (path, file) :: later ∧
        (∀ entry ∈ earlier, ∀ other, ¬Stops entry.1 entry.2 other) ∧ Stops path file error := by
  constructor
  · intro failed
    induction files generalizing lower with
    | nil => cases failed
    | cons entry files ih =>
        obtain ⟨path, file⟩ := entry
        rw [stack] at failed
        cases first : ofFile path file with
        | error fault =>
            rw [first] at failed
            obtain rfl := Except.error.inj failed
            exact ⟨[], path, file, files, rfl, by simp, ofFile_eq_error.mp first⟩
        | ok layer =>
            rw [first] at failed
            obtain ⟨earlier, other, otherFile, later, rfl, passed, stops⟩ := ih failed
            have passes : ∀ other, ¬Stops path file other :=
              not_stops_iff.mpr ⟨layer, ofFile_eq_ok.mp first⟩
            exact ⟨(path, file) :: earlier, other, otherFile, later, rfl,
              List.forall_mem_cons.mpr ⟨passes, passed⟩, stops⟩
  · rintro ⟨earlier, path, file, later, rfl, passed, stops⟩
    obtain ⟨below, through⟩ := stack_through lower passed
    rw [stack_append, through]
    change below.stack ((path, file) :: later) = _
    rw [stack, ofFile_eq_error.mpr stops]
    rfl

/-- A file that sets nothing can be left out. -/
theorem stack_idle (lower : Layer) (earlier later : List (Path × FileState)) (path : Path)
    {file : FileState} (idle : Sets file .empty) :
    lower.stack (earlier ++ (path, file) :: later) = lower.stack (earlier ++ later) := by
  rw [stack_append, stack_append]
  congr 1
  funext below
  rw [stack, ofFile_eq_ok.mpr idle]
  rfl

theorem above_assoc (upper middle lower : Layer) :
    (upper.above middle).above lower = upper.above (middle.above lower) := by
  simp only [above, Option.orElse_eq_orElse, Option.orElse_eq_or, Option.or_assoc]

theorem above_empty (layer : Layer) : layer.above .empty = layer := by
  simp only [above, empty, Option.orElse_eq_orElse, Option.orElse_eq_or, Option.or_none]

theorem empty_above (layer : Layer) : empty.above layer = layer := rfl

variable {α : Type}

/-- This is what the last of the layers that set a field sets it to. -/
def lastSet? (field : Layer → Option α) (layers : List Layer) : Option α :=
  layers.reverse.findSome? field

/-- Under an upper layer a field shows only when the upper layer leaves it open. -/
def Hides (field : Layer → Option α) : Prop :=
  ∀ upper lower, field (upper.above lower) = (field upper).or (field lower)

/-- Under layers a field is what the last of them that sets it sets it to. -/
theorem Hides.under {field : Layer → Option α} (hides : Hides field) (lower : Layer)
    (layers : List Layer) :
    field (lower.under layers) = (lastSet? field layers).or (field lower) := by
  induction layers generalizing lower with
  | nil => rfl
  | cons layer layers ih =>
      have first : lastSet? field (layer :: layers) =
          (lastSet? field layers).or (field layer) := by
        rw [lastSet?, List.reverse_cons, List.findSome?_append, List.findSome?_singleton]
        rfl
      rw [first, Option.or_assoc, ← hides]
      exact ih _

/-- Over nothing a field is what the last layer that sets it sets it to, or has the default. -/
theorem Hides.getD_under {field : Layer → Option α} (hides : Hides field)
    (nothing : field .empty = none) (layers : List Layer) (default : α) :
    (field (empty.under layers)).getD default = (lastSet? field layers).getD default := by
  rw [hides.under, nothing, Option.or_none]

/-- Layers hide each field on its own. -/
theorem above_hides :
    Hides host ∧ Hides port ∧ Hides snapshot ∧ Hides weakScore ∧ Hides beginnerRatio :=
  ⟨fun _ _ => Option.orElse_eq_or, fun _ _ => Option.orElse_eq_or,
    fun _ _ => Option.orElse_eq_or, fun _ _ => Option.orElse_eq_or,
    fun _ _ => Option.orElse_eq_or⟩

end Layer

namespace Settings

/-- Each of the settings, on its own, is what the last layer that sets it sets it to, and has its
default when no layer sets it. -/
structure LastSetBy (settings : Settings) (snapshotPath : Path) (layers : List Layer) : Prop where
  host : settings.address.host =
    (Layer.lastSet? Layer.host layers).getD Http.Address.standard.host
  port : settings.address.port =
    (Layer.lastSet? Layer.port layers).getD Http.Address.standard.port
  snapshot : settings.snapshot = (Layer.lastSet? Layer.snapshot layers).getD snapshotPath
  weakScore : settings.thresholds.weakScore =
    (Layer.lastSet? Layer.weakScore layers).getD Thresholds.standard.weakScore
  beginnerRatio : settings.thresholds.beginnerRatio =
    (Layer.lastSet? Layer.beginnerRatio layers).getD Thresholds.standard.beginnerRatio

/-- Settings of a stack have what its layers set. -/
theorem ofLayer_under (snapshotPath : Path) (layers : List Layer) :
    (ofLayer snapshotPath (Layer.empty.under layers)).LastSetBy snapshotPath layers := by
  obtain ⟨host, port, snapshot, weakScore, beginnerRatio⟩ := Layer.above_hides
  constructor
  · exact host.getD_under rfl layers _
  · exact port.getD_under rfl layers _
  · exact snapshot.getD_under rfl layers _
  · exact weakScore.getD_under rfl layers _
  · exact beginnerRatio.getD_under rfl layers _

/-- Nothing but the layers tells what they set last. -/
theorem LastSetBy.unique {first second : Settings} {snapshotPath : Path} {layers : List Layer}
    (isFirst : first.LastSetBy snapshotPath layers)
    (isSecond : second.LastSetBy snapshotPath layers) : first = second := by
  obtain ⟨⟨_, _⟩, _, ⟨_, _⟩⟩ := first
  obtain ⟨⟨_, _⟩, _, ⟨_, _⟩⟩ := second
  congr
  · exact isFirst.host.trans isSecond.host.symm
  · exact isFirst.port.trans isSecond.port.symm
  · exact isFirst.snapshot.trans isSecond.snapshot.symm
  · exact isFirst.weakScore.trans isSecond.weakScore.symm
  · exact isFirst.beginnerRatio.trans isSecond.beginnerRatio.symm

/-- Loading fails at the first file that stops it, whatever the files after it hold. Otherwise each
of the settings is what the last file that sets it sets it to. Files that set nothing, such as
missing and empty ones, make no difference anywhere, and layers may be put over each other in any
grouping. -/
theorem load_layered (snapshotPath : Path) :
    (∀ files error, load snapshotPath files = .error error ↔
      ∃ earlier path file later, files = earlier ++ (path, file) :: later ∧
        (∀ entry ∈ earlier, ∀ other, ¬Layer.Stops entry.1 entry.2 other) ∧
        Layer.Stops path file error) ∧
      (∀ files settings, load snapshotPath files = .ok settings ↔
        ∃ layers, Layer.SetInTurn files layers ∧ settings.LastSetBy snapshotPath layers) ∧
      (∀ earlier later path file, Layer.Sets file .empty →
        load snapshotPath (earlier ++ (path, file) :: later) =
          load snapshotPath (earlier ++ later)) ∧
      Layer.Sets .missing .empty ∧ Layer.Sets (.file .empty) .empty ∧
      ∀ upper middle lower : Layer,
        (upper.above middle).above lower = upper.above (middle.above lower) ∧
          upper.above .empty = upper ∧ Layer.empty.above upper = upper := by
  refine ⟨fun files error => ?_, fun files settings => ?_,
    fun earlier later path file idle => ?_, .missing, .text rfl rfl, fun upper middle lower => ?_⟩
  · rw [← Layer.stack_eq_error, load]
    cases Layer.empty.stack files <;> simp [Except.map]
  · constructor
    · intro loaded
      cases stacked : Layer.empty.stack files with
      | error error => simp [load, stacked, Except.map] at loaded
      | ok result =>
          obtain ⟨layers, inTurn, rfl⟩ := Layer.stack_eq_ok.mp stacked
          rw [load, stacked] at loaded
          obtain rfl := Except.ok.inj loaded
          exact ⟨layers, inTurn, ofLayer_under snapshotPath layers⟩
    · rintro ⟨layers, inTurn, last⟩
      rw [load, Layer.stack_eq_ok.mpr ⟨layers, inTurn, rfl⟩,
        last.unique (ofLayer_under snapshotPath layers)]
      rfl
  · rw [load, load, Layer.stack_idle Layer.empty earlier later path idle]
  · exact ⟨Layer.above_assoc upper middle lower, Layer.above_empty upper, Layer.empty_above upper⟩

def userText : String :=
  "[server]\nhost = \"0.0.0.0\"\nport = 9000\n[engine]\nweak_score_threshold = 40\n"

def userFile : Path × FileState := (.ofText "user.toml", .file userText.toUTF8)

/-- This file sets one field of the user's file again, and another field for the first time. -/
def projectFile : Path × FileState :=
  (.ofText "project.toml",
    .file "server.port = 9100\n[catalog]\nsnapshot = \"/data/project.json\"\n".toUTF8)

def missingFile : Path × FileState := (.ofText "missing.toml", .missing)

def emptyFile : Path × FileState := (.ofText "empty.toml", .file .empty)

def badFile : Path × FileState := (.ofText "bad.toml", .file "[server\nport = ".toUTF8)

def folder : Path × FileState := (.ofText "folder", .directory)

/-- The port comes from the project, the share from nobody, and the rest from the file that sets
it. -/
def stackedSettings : Settings where
  address := ⟨"0.0.0.0", 9100⟩
  snapshot := .ofText "/data/project.json"
  thresholds := ⟨.ofNat 40, Thresholds.standard.beginnerRatio⟩

/-- A missing and an empty file make no difference, and of two bad files the first one is told. -/
theorem stackedSettings_loaded :
    Layer.Sets missingFile.2 .empty ∧ Layer.Sets emptyFile.2 .empty ∧
      load (.ofText "default.json") [userFile, missingFile, projectFile, emptyFile] =
        .ok stackedSettings ∧
      (∃ layers, Layer.SetInTurn [userFile, projectFile] layers ∧
        stackedSettings.LastSetBy (.ofText "default.json") layers) ∧
      load (.ofText "default.json") [userFile, badFile, folder] =
        .error (.parsing (.ofText "bad.toml")) := by
  obtain ⟨failing, loading, idle, absent, empty, _⟩ := load_layered (.ofText "default.json")
  have loaded : load (.ofText "default.json") [userFile, projectFile] = .ok stackedSettings := by
    decide +kernel
  refine ⟨absent, empty, ?_, (loading _ _).mp loaded, ?_⟩
  · rw [← loaded]
    refine (idle [userFile] [projectFile, emptyFile] missingFile.1 .missing absent).trans ?_
    exact idle [userFile, projectFile] [] emptyFile.1 (.file .empty) empty
  · have user : ∃ layer, Layer.Sets userFile.2 layer :=
      ⟨⟨some "0.0.0.0", some 9000, none, some (.ofNat 40), none⟩,
        .text (by decide +kernel : userFile.2.read = .ok userText) (by decide +kernel)⟩
    refine (failing _ _).mpr ⟨[userFile], badFile.1, badFile.2, [folder], rfl, ?_, ?_⟩
    · rw [List.forall_mem_singleton]
      exact Layer.not_stops_iff.mpr user
    · exact .parsing (by decide +kernel : badFile.2.read = .ok "[server\nport = ")
        (by decide +kernel)

end Settings

end CourseAdvisor
