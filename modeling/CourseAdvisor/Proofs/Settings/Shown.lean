/-
This file proves that shown settings are loaded again as they are and shown again as they were.
-/

import CourseAdvisor.Command.Run
import CourseAdvisor.Proofs.Toml.NumberText
import CourseAdvisor.Proofs.Toml.QuotedText

namespace CourseAdvisor

open Toml

theorem fromUTF8?_toUTF8 (text : String) : String.fromUTF8? text.toUTF8 = some text :=
  dif_pos text.isValidUTF8

namespace Path

theorem text?_ofText (text : String) : (ofText text).text? = some text := fromUTF8?_toUTF8 text

/-- A path that is text is the path of that text. -/
theorem ofText_of_text? {path : Path} {text : String} (isText : path.text? = some text) :
    ofText text = path := by
  obtain ⟨bytes⟩ := path
  unfold text? String.fromUTF8? at isText
  split at isText
  case isTrue => rw [ofText, ← Option.some.inj isText]; rfl
  case isFalse => cases isText

end Path

theorem FileState.read_toUTF8 (text : String) : (FileState.file text.toUTF8).read = .ok text := by
  rw [read, fromUTF8?_toUTF8]

namespace Layer

theorem readPort_toNat (port : UInt16) : readPort (.integer port.toNat) = some port := by
  have small := port.toNat_lt
  rw [readPort, if_pos (by omega), Int.toNat_natCast]
  simp

/-- Sections with all their keys set everything. -/
theorem ofEntries_sections {port : Toml} {number : UInt16} (isNumber : readPort port = some number)
    (host snapshot : String) (weakScore beginnerRatio : Double) :
    ofEntries [
      ("server", .table .header [("host", .string host), ("port", port)]),
      ("catalog", .table .header [("snapshot", .string snapshot)]),
      ("engine", .table .header [("weak_score_threshold", .number weakScore),
        ("beginner_ratio_threshold", .number beginnerRatio)])] =
    some ⟨host, number, Path.ofText snapshot, weakScore, beginnerRatio⟩ := by
  -- The range check of the port stays folded behind this equation.
  have field : Section.field? "port" 1 readPort (.keyed [("host", .string host), ("port", port)]) =
      some (some number) := by
    change (readPort port).map some = _
    rw [isNumber]
    rfl
  change (do
    let port ← Section.field? "port" 1 readPort (.keyed [("host", .string host), ("port", port)])
    return (⟨host, port, Path.ofText snapshot, weakScore, beginnerRatio⟩ : Layer)) = _
  rw [field]
  rfl

/-- A file with the text of a layer sets that layer. -/
theorem ofFile_text {text : String} {layer : Layer} (read : ofText text = some layer)
    (path : Path) : ofFile path (.file text.toUTF8) = .ok layer := by
  have isPresent : (FileState.file text.toUTF8).isPresent = true := rfl
  rw [ofFile, if_pos isPresent, FileState.read_toUTF8]
  dsimp only
  rw [read]

/-- These files set nothing or set the layer. -/
def Settle (layer : Layer) (files : List (Path × FileState)) : Prop :=
  ∀ entry ∈ files, ofFile entry.1 entry.2 = .ok empty ∨ ofFile entry.1 entry.2 = .ok layer

/-- A layer that hides every other stays over the files that set it or nothing. -/
theorem stack_kept {layer : Layer} (full : ∀ lower, layer.above lower = layer)
    {files : List (Path × FileState)} (settle : layer.Settle files) :
    layer.stack files = .ok layer := by
  induction files with
  | nil => rfl
  | cons entry files ih =>
      obtain ⟨first, others⟩ := List.forall_mem_cons.mp settle
      rw [stack]
      rcases first with nothing | set
      · rw [nothing]
        exact ih others
      · rw [set]
        change (layer.above layer).stack files = _
        rw [full]
        exact ih others

/-- One file that sets such a layer is enough. -/
theorem stack_found {layer : Layer} (full : ∀ lower, layer.above lower = layer)
    {files : List (Path × FileState)} (settle : layer.Settle files)
    (found : ∃ entry ∈ files, ofFile entry.1 entry.2 = .ok layer) (lower : Layer) :
    lower.stack files = .ok layer := by
  induction files generalizing lower with
  | nil =>
      obtain ⟨_, member, _⟩ := found
      cases member
  | cons entry files ih =>
      obtain ⟨first, others⟩ := List.forall_mem_cons.mp settle
      rw [stack]
      by_cases set : ofFile entry.1 entry.2 = .ok layer
      case pos =>
          rw [set]
          change (layer.above lower).stack files = _
          rw [full]
          exact stack_kept full others
      case neg =>
          rw [first.resolve_right set]
          refine ih others ?_ lower
          obtain ⟨other, member, sets⟩ := found
          rcases List.mem_cons.mp member with rfl | later
          · exact absurd sets set
          · exact ⟨other, later, sets⟩

end Layer

namespace Settings

/-- This layer sets everything. -/
def layer (settings : Settings) : Layer :=
  ⟨settings.address.host, settings.address.port, settings.snapshot, settings.thresholds.weakScore,
    settings.thresholds.beginnerRatio⟩

theorem layer_above (settings : Settings) (lower : Layer) :
    settings.layer.above lower = settings.layer := rfl

/-- No default is left where everything is set. -/
theorem ofLayer_layer (settings : Settings) (snapshotPath : Path) :
    ofLayer snapshotPath settings.layer = settings := rfl

/-- These statements set everything. -/
def statements (settings : Settings) (snapshot : String) : List Statement := [
  .header ⟨[], "server"⟩,
  .assignment ⟨[], "host"⟩ (.string settings.address.host),
  .assignment ⟨[], "port"⟩ (.integer settings.address.port.toNat),
  .header ⟨[], "catalog"⟩,
  .assignment ⟨[], "snapshot"⟩ (.string snapshot),
  .header ⟨[], "engine"⟩,
  .assignment ⟨[], "weak_score_threshold"⟩ (.number settings.thresholds.weakScore),
  .assignment ⟨[], "beginner_ratio_threshold"⟩ (.number settings.thresholds.beginnerRatio)]

/-- Written settings hold these statements. -/
theorem written_holds {settings : Settings} {snapshot : String}
    (isText : settings.snapshot.text? = some snapshot) :
    ∃ text, settings.written = some text ∧ text.head? = some '[' ∧
      Holds (text ++ ['\n']) (settings.statements snapshot) := by
  have small : settings.address.port.toNat < 0x8000000000000000 :=
    Nat.lt_trans settings.address.port.toNat_lt (by decide)
  have holds : Holds _ (settings.statements snapshot) :=
    .header ⟨by decide, by decide⟩ <|
    .assignment ⟨by decide, by decide⟩ (quoted_denotes settings.address.host) <|
    .assignment ⟨by decide, by decide⟩ (toDigits_denotes small) <| .empty <|
    .header ⟨by decide, by decide⟩ <|
    .assignment ⟨by decide, by decide⟩ (quoted_denotes snapshot) <| .empty <|
    .header ⟨by decide, by decide⟩ <|
    .assignment ⟨by decide, by decide⟩ (written_denotes settings.thresholds.weakScore) <|
    .assignment ⟨by decide, by decide⟩ (written_denotes settings.thresholds.beginnerRatio) <|
    .empty .nil
  rw [written, isText]
  refine ⟨_, rfl, rfl, ?_⟩
  convert holds using 1
  simp [entry]

/-- The statements make one table of each section. -/
theorem statements_entries (settings : Settings) (snapshot : String) :
    (Document.ofStatements (settings.statements snapshot)).map Document.entries = some [
      ("server", .table .header [("host", .string settings.address.host),
        ("port", .integer settings.address.port.toNat)]),
      ("catalog", .table .header [("snapshot", .string snapshot)]),
      ("engine", .table .header [("weak_score_threshold", .number settings.thresholds.weakScore),
        ("beginner_ratio_threshold", .number settings.thresholds.beginnerRatio)])] := rfl

/-- Shown settings are read as the layer that sets everything. -/
theorem ofText_shown {settings : Settings} {snapshot : String}
    (isText : settings.snapshot.text? = some snapshot) :
    ∃ text, settings.written = some text ∧
      Layer.ofText (String.ofList text ++ "\n") = some settings.layer := by
  obtain ⟨text, written, starts, holds⟩ := written_holds isText
  refine ⟨text, written, ?_⟩
  have line : String.ofList text ++ "\n" = String.ofList (text ++ ['\n']) :=
    (String.ofList_append).symm
  have unmarked : (text ++ ['\n']).head? ≠ some '\ufeff' := by
    rw [List.head?_append, starts]
    decide
  rw [line, Layer.ofText, holds.entries unmarked, statements_entries, Option.bind_eq_bind,
    Option.bind_some, Layer.ofEntries_sections (Layer.readPort_toNat settings.address.port),
    Path.ofText_of_text? isText]
  rfl

/-- Files that set all of the settings or nothing are loaded as these settings. -/
theorem load_settled {settings : Settings} {files : List (Path × FileState)}
    (settle : settings.layer.Settle files)
    (found : ∃ entry ∈ files, Layer.ofFile entry.1 entry.2 = .ok settings.layer)
    (snapshotPath : Path) : load snapshotPath files = .ok settings := by
  rw [load, Layer.stack_found settings.layer_above settle found]
  exact congrArg Except.ok (settings.ofLayer_layer snapshotPath)

end Settings

namespace World

/-- These are the paths of the settings files. -/
def settingsPaths (world : World) : List Path :=
  [world.environment.userConfigPath, world.environment.projectConfigPath]

/-- Each settings file of the world is missing or holds the text, and one of them holds it. -/
structure SetBy (world : World) (text : String) : Prop where
  each : ∀ path ∈ world.settingsPaths,
    world.files path = .missing ∨ world.files path = .file text.toUTF8
  one : ∃ path ∈ world.settingsPaths, world.files path = .file text.toUTF8

/-- A world has the settings that its files set. -/
theorem SetBy.settings {world : World} {text : String} (setBy : world.SetBy text)
    {settings : Settings} (read : Layer.ofText text = some settings.layer) :
    world.settings = .ok settings := by
  have sets := Layer.ofFile_text read
  have loaded : Settings.load world.environment.snapshotPath
      (world.settingsPaths.map fun path => (path, world.files path)) = .ok settings := by
    apply Settings.load_settled
    case settle =>
        intro entry member
        obtain ⟨path, listed, rfl⟩ := List.mem_map.mp member
        dsimp only
        rcases setBy.each path listed with missing | holds
        · rw [missing]
          exact .inl rfl
        · rw [holds]
          exact .inr (sets path)
    case found =>
        obtain ⟨path, listed, holds⟩ := setBy.one
        refine ⟨_, List.mem_map.mpr ⟨path, listed, rfl⟩, ?_⟩
        dsimp only
        rw [holds]
        exact sets path
  change (Settings.load world.environment.snapshotPath
    (world.settingsPaths.map fun path => (path, world.files path))).mapError Failure.settings = _
  rw [loaded]
  rfl

end World

namespace Settings

/-- Settings are printed as they are written. -/
theorem showConfig_printed {world : World} {settings : Settings} {text : List Char}
    (loaded : world.settings = .ok settings) (written : settings.written = some text) :
    Outcome.ofArguments world ["config", "show"] = .printed (String.ofList text ++ "\n") := by
  change Outcome.ofAnswer (Command.showConfigIn world) = _
  rw [Command.showConfigIn, loaded]
  dsimp only [bind, Except.bind]
  rw [written]
  rfl

/-- Whatever the defaults are, what is shown is loaded as the settings that it shows, and they are
shown with the same text again. -/
theorem shown_reloaded {settings : Settings} {snapshot : String}
    (isText : settings.snapshot.text? = some snapshot) :
    ∃ text,
      (∀ world : World, world.settings = .ok settings →
        Outcome.ofArguments world ["config", "show"] = .printed text) ∧
      (∀ snapshotPath path, load snapshotPath [(path, .file text.toUTF8)] = .ok settings) ∧
      ∀ later : World, later.SetBy text →
        later.settings = .ok settings ∧
          Outcome.ofArguments later ["config", "show"] = .printed text := by
  obtain ⟨text, written, read⟩ := ofText_shown isText
  have printed (world : World) (loaded : world.settings = .ok settings) :=
    showConfig_printed loaded written
  refine ⟨_, printed, ?_, ?_⟩
  · intro snapshotPath path
    have sets := Layer.ofFile_text read path
    apply load_settled
    case settle =>
        intro entry member
        rw [List.mem_singleton.mp member]
        exact .inr sets
    case found => exact ⟨_, List.mem_cons_self, sets⟩
  · intro later setBy
    have loaded := setBy.settings read
    exact ⟨loaded, printed later loaded⟩

end Settings

/-- The user's file of this world names a strange host, and the project's file sets more. -/
def layeredWorld : World :=
  .ofFiles ⟨"home".toUTF8, none, none, none⟩ [
    (.ofText "home/.config/coursepath/config.toml",
      .file ("server.host = \"\\\"\\\"\\\"\\\\ \'\'\'\\n\\u0001\\t\\u007f\"\n" ++
        "server.port = 0x1F90\n[engine]\n" ++
        "weak_score_threshold = 1e-1\nbeginner_ratio_threshold = 2\n").toUTF8),
    (.ofText ".coursepath/config.toml",
      .file "[engine] # last\r\nbeginner_ratio_threshold = -inf".toUTF8)]

def layeredSettings : Settings where
  address := ⟨"\"\"\"\\ \'\'\'\n\x01\t\x7f", 8080⟩
  snapshot := .ofText "home/.local/share/coursepath/snapshot.json"
  thresholds := ⟨.ofRatio false 1 10 (by decide), .infinite true⟩

/-- This environment has other defaults. -/
def movedEnvironment : Environment := ⟨"other".toUTF8, none, none, some "project".toUTF8⟩

/-- Only the project has a file here. -/
def movedWorld (text : String) : World :=
  .ofFiles movedEnvironment [(.ofText "project/config.toml", .file text.toUTF8)]

theorem movedWorld_setBy (text : String) : (movedWorld text).SetBy text := by
  have user : movedEnvironment.userConfigPath ≠ .ofText "project/config.toml" := by
    decide +kernel
  have project : movedEnvironment.projectConfigPath = .ofText "project/config.toml" := by
    decide +kernel
  have atUser : (movedWorld text).files movedEnvironment.userConfigPath = .missing := by
    simp [movedWorld, World.ofFiles, List.lookup_cons, beq_eq_false_iff_ne.mpr user]
  have atProject : (movedWorld text).files movedEnvironment.projectConfigPath =
      .file text.toUTF8 := by
    simp [movedWorld, World.ofFiles, project]
  constructor
  case each =>
      intro path listed
      rcases List.mem_cons.mp listed with rfl | listed
      · exact .inl atUser
      · rw [List.mem_singleton.mp listed]
        exact .inr atProject
  case one => exact ⟨_, List.mem_cons_of_mem _ List.mem_cons_self, atProject⟩

/-- These settings are shown in one world and loaded in another. -/
theorem layeredSettings_reloaded :
    layeredSettings.snapshot.text? = some "home/.local/share/coursepath/snapshot.json" ∧
      layeredWorld.settings = .ok layeredSettings ∧
      ∃ text, Outcome.ofArguments layeredWorld ["config", "show"] = .printed text ∧
        Settings.load (.ofText "elsewhere") [(.ofText "copy.toml", .file text.toUTF8)] =
          .ok layeredSettings ∧
        (movedWorld text).settings = .ok layeredSettings ∧
        Outcome.ofArguments (movedWorld text) ["config", "show"] = .printed text := by
  have isText := Path.text?_ofText "home/.local/share/coursepath/snapshot.json"
  have loaded : layeredWorld.settings = .ok layeredSettings := by
    have found : layeredWorld.settings.toOption = some layeredSettings := by decide +kernel
    cases settings : layeredWorld.settings with
    | error failure => simp [settings, Except.toOption] at found
    | ok other =>
        rw [settings] at found
        rw [Option.some.inj found]
  obtain ⟨text, printed, reloaded, again⟩ := @Settings.shown_reloaded layeredSettings _ isText
  have moved := again (movedWorld text) (movedWorld_setBy text)
  exact ⟨isText, loaded, text, printed _ loaded, reloaded _ _, moved.1, moved.2⟩

end CourseAdvisor
