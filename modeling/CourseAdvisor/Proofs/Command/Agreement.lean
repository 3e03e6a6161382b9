/-
This file proves that the command line and the service tell the same recommendations.
-/

import CourseAdvisor.Command.Run
import CourseAdvisor.Proofs.Command.RecommendArguments
import CourseAdvisor.Proofs.Http.RecommendationReplies
import CourseAdvisor.Proofs.Json.PrettyText

namespace CourseAdvisor

/-- The id of a learner is plain when it is printable text that has no blank at its ends and does
not start like an option. -/
structure LearnerId.IsPlain (learner : LearnerId) : Prop where
  nonempty : learner.text ≠ ""
  printable : ∀ char ∈ learner.text.toList, 0x20 ≤ char.toNat ∧ char.toNat ≤ 0x7e
  undashed : learner.text.toList.head? ≠ some '-'
  starts : learner.text.toList.head? ≠ some ' '
  ends : learner.text.toList.getLast? ≠ some ' '

namespace Http

/-- This request asks for the recommendations of a learner, whose id is its first identity
header. -/
structure Request.AsksFor (request : Request) (learner : LearnerId) : Prop where
  isGet : request.method = "GET"
  path : request.path = "/api/recommendations"
  identity : request.HasFirst "x-learner-id" learner.text.toUTF8.data.toList

/-- Printable text is encoded byte by byte. -/
theorem utf8_printable {text : String} (low : ∀ char ∈ text.toList, char.toNat ≤ 0x7e) :
    text.toUTF8.data.toList = text.toList.map Char.toUInt8 := by
  have encoded : text.toList.flatMap String.utf8EncodeChar = text.toList.map Char.toUInt8 := by
    rw [List.map_eq_flatMap]
    apply List.flatMap_congr
    intro char member
    have short : char.utf8Size = 1 := by
      rw [Char.utf8Size_eq_one_iff, UInt32.le_iff_toNat_le]
      exact Nat.le_trans (low char member) (by decide)
    exact String.utf8EncodeChar_eq_singleton short
  rw [String.toUTF8, ← String.utf8Encode_toList, List.utf8Encode, List.data_toByteArray,
    encoded]

/-- A printable character has its own code as its byte. -/
theorem toNat_toUInt8 {char : Char} (low : char.toNat ≤ 0x7e) :
    char.toUInt8.toNat = char.toNat := by
  have small : char.val.toNat ≤ 0x7e := low
  change char.val.toUInt8.toNat = char.val.toNat
  rw [UInt32.toNat_toUInt8]
  omega

/-- A byte is padding only when its printable character is a blank. -/
theorem isPadding_toUInt8 {char : Char} (printable : 0x20 ≤ char.toNat ∧ char.toNat ≤ 0x7e)
    (notBlank : char ≠ ' ') : isPadding char.toUInt8 = false := by
  have same := toNat_toUInt8 printable.2
  have code : char.toNat ≠ 0x20 := fun blank => notBlank (Char.toNat_inj.mp blank)
  simp only [isPadding, Bool.or_eq_false_iff, beq_eq_false_iff_ne, ne_eq, ← UInt8.toNat_inj, same]
  constructor
  · have tab : (0x09 : UInt8).toNat = 9 := rfl
    omega
  · exact code

/-- A request that asks for a plain learner carries the id of the learner. -/
theorem Request.AsksFor.carries {request : Request} {learner : LearnerId}
    (asks : request.AsksFor learner) (plain : learner.IsPlain) : request.Carries learner := by
  have low (char : Char) (member : char ∈ learner.text.toList) : char.toNat ≤ 0x7e :=
    (plain.printable char member).2
  have bytes := utf8_printable low
  have core : IsCore (learner.text.toList.map Char.toUInt8)
      (learner.text.toList.map Char.toUInt8) := by
    refine ⟨⟨[], [], by simp⟩, ?_, ?_⟩
    · intro byte isHead
      rw [List.head?_map, Option.mem_def, Option.map_eq_some_iff] at isHead
      obtain ⟨char, first, rfl⟩ := isHead
      refine isPadding_toUInt8 (plain.printable char (List.mem_of_head? first)) ?_
      rintro rfl
      exact plain.starts first
    · intro byte isLast
      rw [List.getLast?_map, Option.mem_def, Option.map_eq_some_iff] at isLast
      obtain ⟨char, last, rfl⟩ := isLast
      refine isPadding_toUInt8 (plain.printable char (List.mem_of_getLast? last)) ?_
      rintro rfl
      exact plain.ends last
  refine ⟨_, _, asks.identity, ?_, bytes ▸ core, ?_, ?_⟩
  · rw [bytes]
    intro byte member
    obtain ⟨char, isChar, rfl⟩ := List.mem_map.mp member
    have same := toNat_toUInt8 (low char isChar)
    have printable := plain.printable char isChar
    right
    rw [UInt8.le_iff_toNat_le, UInt8.le_iff_toNat_le, same]
    exact printable
  · rw [bytes]
    simpa using plain.nonempty
  · rw [bytes, List.map_map]
    have back : learner.text.toList.map
        ((fun byte : UInt8 => Char.ofNat byte.toNat) ∘ Char.toUInt8) = learner.text.toList := by
      conv_rhs => rw [← List.map_id learner.text.toList]
      apply List.map_congr_left
      intro char member
      rw [Function.comp_apply, toNat_toUInt8 (low char member), Char.ofNat_toNat, id]
    rw [back, String.ofList_toList]

/-- The path of the recommendations leads to their route. -/
theorem Request.AsksFor.routed {request : Request} {learner : LearnerId}
    (asks : request.AsksFor learner) : request.route? = some .recommendations := by
  rw [Request.route?, asks.path]
  decide

/-- A service answers a request for a plain learner with the advice to the learner. -/
theorem Service.respond_asked (service : Service) {request : Request} {learner : LearnerId}
    (asks : request.AsksFor learner) (plain : learner.IsPlain) :
    (service.respond request).value.Fits (service.advisor.recommend learner).value := by
  have known := Request.learner?_eq_some.mpr (asks.carries plain)
  rw [service.respond_routed asks.isGet asks.routed,
    service.recommendations_carried asks.isGet known]
  exact recommendationsReply_fits _

end Http

/-- A store of a snapshot never refuses advice. -/
theorem Advisor.recommend_ofSnapshot (snapshot : Snapshot) (rules : RuleSet)
    (learner : LearnerId) :
    ∃ recommendations, (recommend ⟨snapshot.store, rules⟩ learner).value = .ok recommendations :=
  ⟨_, recommend_value (snapshot.store_context learner) rules⟩

namespace Command

variable {world : World} {settings : Settings} {learner : LearnerId} {path : Path}

/-- A snapshot that cannot be loaded ends the command. -/
theorem recommendFor_unloaded (loaded : world.settings = .ok settings) {error : StoreError}
    (refused : Snapshot.ofFile (world.files path) = .error error) (asJson : Bool) :
    recommendFor world learner (some path) asJson = .error (.loading path error) := by
  simp [recommendFor, loaded, World.advisor, refused, bind, Except.bind]

/-- The advice from a snapshot is printed. -/
theorem recommendFor_loaded (loaded : world.settings = .ok settings) {snapshot : Snapshot}
    (opened : Snapshot.ofFile (world.files path) = .ok snapshot)
    {recommendations : List Recommendation}
    (advised : (Advisor.recommend ⟨snapshot.store, .standard settings.thresholds⟩ learner).value =
      .ok recommendations) (asJson : Bool) :
    recommendFor world learner (some path) asJson =
      .ok (.printed (recommendationText learner asJson recommendations)) := by
  simp [recommendFor, loaded, World.advisor, opened, advised, bind, Except.bind]

/-- What is printed as JSON is decoded as the response that holds the recommendations. -/
theorem recommendationText_decoded (learner : LearnerId) (recommendations : List Recommendation) :
    Json.decode Response.format.read (recommendationText learner true recommendations) =
      .ok ⟨"success", recommendations⟩ :=
  (Response.reads _).decoded_pretty (by simp [Json.isBlank])

end Command

/-- This is the end of a run that asks for the recommendations of a learner as JSON. -/
def jsonOutcome (world : World) (learner : LearnerId) (arguments : List String) : Outcome :=
  .ofArguments world ("recommend" :: learner.text :: "--json" :: arguments)

theorem jsonOutcome_eq (world : World) {learner : LearnerId} (plain : learner.IsPlain)
    {arguments : List String} {path : Path} (named : NamesSnapshot arguments path) :
    jsonOutcome world learner arguments =
      .ofAnswer (Command.recommendFor world learner (some path) true) := by
  have command := Command.ofArguments_recommend plain.undashed named
  simp only [jsonOutcome, Outcome.ofArguments, command, Command.run]

/-- When the snapshot is loaded, the command succeeds, and its output is decoded as the same
response as the body of the successful reply to every request for the learner, over the same
snapshot and with the thresholds of the settings. When the snapshot is not loaded, the command
fails and prints nothing. -/
theorem recommend_agrees {world : World} {settings : Settings}
    (loaded : world.settings = .ok settings) {learner : LearnerId} (plain : learner.IsPlain)
    {arguments : List String} {path : Path} (named : NamesSnapshot arguments path) :
    (∀ snapshot, Snapshot.ofFile (world.files path) = .ok snapshot →
      ∃ response,
        (jsonOutcome world learner arguments).exitCode? = some 0 ∧
          Json.decode Response.format.read (jsonOutcome world learner arguments).output =
            .ok response ∧
          ∀ (service : Http.Service) (request : Http.Request),
            service.advisor = ⟨snapshot.store, .standard settings.thresholds⟩ →
            request.AsksFor learner →
              (service.respond request).value.status = 200 ∧
                Json.decode Response.format.read (service.respond request).value.body =
                  .ok response) ∧
    ∀ error, Snapshot.ofFile (world.files path) = .error error →
      (∃ code, (jsonOutcome world learner arguments).exitCode? = some code ∧ code ≠ 0) ∧
        (jsonOutcome world learner arguments).output = "" := by
  rw [jsonOutcome_eq world plain named]
  constructor
  · intro snapshot opened
    obtain ⟨recommendations, advised⟩ :=
      Advisor.recommend_ofSnapshot snapshot (.standard settings.thresholds) learner
    rw [Command.recommendFor_loaded loaded opened advised]
    refine ⟨_, rfl, Command.recommendationText_decoded learner recommendations, ?_⟩
    intro service request answersFrom asks
    have fits := service.respond_asked asks plain
    rw [answersFrom, advised] at fits
    exact fits
  · intro error refused
    rw [Command.recommendFor_unloaded loaded refused]
    exact ⟨⟨1, rfl, by decide⟩, rfl⟩

/-- The settings of this world close the intermediate path, and one snapshot stands in it. -/
def sampleWorld : World :=
  .ofFiles ⟨"home".toUTF8, none, none, none⟩ [
    (.ofText "home/.config/coursepath/config.toml",
      .file "[engine]\nbeginner_ratio_threshold = 2\n".toUTF8),
    (.ofText "snap.json", .file ("\x7b\"courses\":[[\"A\",\"Intro\",\"beginner\"]," ++
      "[\"B\",\"Next\",\"intermediate\",\"A\"]]," ++
      "\"enrollments\":[[\"u 1\",\"A\",true]]\x7d").toUTF8)]

def sampleSettings : Settings where
  address := .standard
  snapshot := .ofText "home/.local/share/coursepath/snapshot.json"
  thresholds := ⟨.ofNat 50, .ofNat 2⟩

def sampleSnapshot : Snapshot where
  courses := [.new ⟨"A"⟩ "Intro" .beginner,
    (Course.new ⟨"B"⟩ "Next" .intermediate).withPrerequisite ⟨"A"⟩]
  enrollments := [⟨⟨"u 1"⟩, ⟨"A"⟩, true⟩]
  challengeResults := []

/-- The id of this request has a blank in it, and another header comes first. -/
def sampleRequest : Http.Request where
  method := "GET"
  target := "/api/recommendations"
  headers := [("accept", [0x2a]), ("X-Learner-Id", [0x75, 0x20, 0x31])]

/-- Both ways lead to the same course in this world, and a missing snapshot leads nowhere. -/
theorem sampleWorld_agrees :
    sampleWorld.settings = .ok sampleSettings ∧ LearnerId.IsPlain ⟨"u 1"⟩ ∧
      NamesSnapshot ["--snapshot", "snap.json"] (.ofText "snap.json") ∧
      NamesSnapshot ["--snapshot=-x"] (.ofText "-x") ∧
      Snapshot.ofFile (sampleWorld.files (.ofText "snap.json")) = .ok sampleSnapshot ∧
      sampleRequest.AsksFor ⟨"u 1"⟩ ∧
      (∃ response,
        (jsonOutcome sampleWorld ⟨"u 1"⟩ ["--snapshot", "snap.json"]).exitCode? = some 0 ∧
          Json.decode Response.format.read
            (jsonOutcome sampleWorld ⟨"u 1"⟩ ["--snapshot", "snap.json"]).output = .ok response ∧
          Json.decode Response.format.read
            ((Http.Service.mk ⟨sampleSnapshot.store, .standard sampleSettings.thresholds⟩ 7).respond
              sampleRequest).value.body = .ok response) ∧
      (jsonOutcome sampleWorld ⟨"u 1"⟩ ["--snapshot=-x"]).output = "" := by
  have loaded : sampleWorld.settings = .ok sampleSettings := by
    have found : sampleWorld.settings.toOption = some sampleSettings := by decide +kernel
    cases settings : sampleWorld.settings with
    | error failure => simp [settings, Except.toOption] at found
    | ok other =>
        rw [settings] at found
        rw [Option.some.inj found]
  have printable : "u 1".toList.all fun char => decide (0x20 ≤ char.toNat ∧ char.toNat ≤ 0x7e) := by
    decide
  have plain : LearnerId.IsPlain ⟨"u 1"⟩ :=
    ⟨by decide, fun char member => of_decide_eq_true (List.all_eq_true.mp printable char member),
      by decide, by decide, by decide⟩
  have separated : NamesSnapshot ["--snapshot", "snap.json"] (.ofText "snap.json") :=
    ⟨"snap.json", by decide, rfl, .inr ⟨rfl, by decide⟩⟩
  have joined : NamesSnapshot ["--snapshot=-x"] (.ofText "-x") :=
    ⟨"-x", by decide, rfl, .inl (by decide)⟩
  have opened : Snapshot.ofFile (sampleWorld.files (.ofText "snap.json")) = .ok sampleSnapshot := by
    decide +kernel
  have missing : Snapshot.ofFile (sampleWorld.files (.ofText "-x")) = .error (.file .notFound) := by
    decide +kernel
  have asks : sampleRequest.AsksFor ⟨"u 1"⟩ :=
    ⟨rfl, by decide +kernel, Http.Request.header?_eq_some.mp (by decide +kernel)⟩
  obtain ⟨response, succeeded, printed, answered⟩ :=
    (recommend_agrees loaded plain separated).1 sampleSnapshot opened
  have replied := answered ⟨⟨sampleSnapshot.store, .standard sampleSettings.thresholds⟩, 7⟩
    sampleRequest rfl asks
  exact ⟨loaded, plain, separated, joined, opened, asks, ⟨response, succeeded, printed, replied.2⟩,
    ((recommend_agrees loaded plain joined).2 _ missing).2⟩

end CourseAdvisor
