/-
This file proves which arguments ask for the recommendations of a learner as JSON.
-/

import CourseAdvisor.Command.Reading

namespace CourseAdvisor

/-- What does not start with a dash is plain. -/
theorem Argument.ofText_plain {text : String} (undashed : text.toList.head? ≠ some '-') :
    ofText text = .plain text := by
  unfold ofText
  split
  case h_1 same => simp [same] at undashed
  case h_2 same => simp [same] at undashed
  case h_3 same => simp [same] at undashed
  case h_4 => rfl

/-- These arguments name a snapshot: the path stands behind an equals sign, or on its own when it
does not start with a dash. -/
def NamesSnapshot (arguments : List String) (path : Path) : Prop :=
  ∃ text, text ≠ "" ∧ path = .ofText text ∧
    (arguments = ["--snapshot=" ++ text] ∨
      arguments = ["--snapshot", text] ∧ text.toList.head? ≠ some '-')

namespace Topic

variable {topic : Topic} {given more : Given} {text name : String}

/-- A plain argument is read before the others. -/
theorem read_plain (plain : Argument.ofText text = .plain text)
    (taken : topic.withPlain given text = .ok more) (rest : List String) :
    topic.read ⟨given, none⟩ (text :: rest) = topic.read ⟨more, none⟩ rest := by
  rw [read, plain]
  simp only [readOne, taken]
  rfl

/-- A switch is read before the other arguments. -/
theorem read_switch {switch : Switch} (long : Argument.ofText text = .long name none)
    (known : topic.flagNamed? name = some (.switch switch))
    (taken : given.withSwitch topic switch = .ok more) (rest : List String) :
    topic.read ⟨given, none⟩ (text :: rest) = topic.read ⟨more, none⟩ rest := by
  rw [read, long]
  simp only [readOne, known, taken]
  rfl

variable {value : String} {parameter : Parameter}

/-- A parameter with its value is read before the other arguments. -/
theorem read_parameter (long : Argument.ofText text = .long name (some value))
    (known : topic.flagNamed? name = some (.parameter parameter))
    (taken : given.withParameter value parameter = .ok more) (rest : List String) :
    topic.read ⟨given, none⟩ (text :: rest) = topic.read ⟨more, none⟩ rest := by
  rw [read, long]
  simp only [readOne, known, taken]
  rfl

/-- A parameter and the argument after it are read before the other arguments. -/
theorem read_separated (long : Argument.ofText text = .long name none)
    (known : topic.flagNamed? name = some (.parameter parameter))
    (plain : Argument.ofText value = .plain value)
    (taken : given.withParameter value parameter = .ok more) (rest : List String) :
    topic.read ⟨given, none⟩ (text :: value :: rest) = topic.read ⟨more, none⟩ rest := by
  rw [read, long]
  simp only [readOne, known]
  change topic.read ⟨given, some parameter⟩ (value :: rest) = _
  rw [read, plain]
  simp only [Argument.isPlain, if_true, taken]
  rfl

/-- The snapshot is the last thing that is read, and it is kept. -/
theorem read_snapshot {arguments : List String} {path : Path}
    (named : NamesSnapshot arguments path) (unnamed : given.snapshot = none) :
    recommend.read ⟨given, none⟩ arguments = .ok { given with snapshot := some path } := by
  obtain ⟨text, nonempty, rfl, form⟩ := named
  have known : recommend.flagNamed? "snapshot" = some (.parameter .snapshot) := by decide
  have taken : given.withParameter text .snapshot =
      .ok { given with snapshot := some (.ofText text) } := by
    simp [Given.withParameter, unnamed, nonempty]
  rcases form with rfl | ⟨rfl, undashed⟩
  · have long : Argument.ofText ("--snapshot=" ++ text) = .long "snapshot" (some text) := by
      simp [Argument.ofText, Argument.ofLong]
    rw [read_parameter long known taken]
    rfl
  · have long : Argument.ofText "--snapshot" = .long "snapshot" none := by decide
    rw [read_separated long known (Argument.ofText_plain undashed) taken]
    rfl

end Topic

/-- A learner, the JSON switch and a snapshot make the command that recommends from the snapshot. -/
theorem Command.ofArguments_recommend {learner : LearnerId}
    (undashed : learner.text.toList.head? ≠ some '-') {arguments : List String} {path : Path}
    (named : NamesSnapshot arguments path) :
    ofArguments ("recommend" :: learner.text :: "--json" :: arguments) =
      .ok (.recommend learner (some path) true) := by
  have chosen (rest : List String) : Topic.program.choice .nothing ("recommend" :: rest) =
      .ok (.recommend, rest) := by
    have plain : Argument.ofText "recommend" = .plain "recommend" := by decide
    have below : Topic.program.below? "recommend" = some .recommend := by decide
    rw [Topic.choice, plain]
    simp only [below]
  have known : Topic.recommend.flagNamed? "json" = some (.switch .json) := by decide
  have long : Argument.ofText "--json" = .long "json" none := by decide
  have given : Topic.recommend.given (learner.text :: "--json" :: arguments) =
      .ok ⟨[.json], none, none, some path, some learner⟩ := by
    rw [Topic.given, Topic.read_plain (Argument.ofText_plain undashed) rfl,
      Topic.read_switch long known rfl, Topic.read_snapshot named rfl]
    rfl
  simp only [ofArguments, chosen, bind, Except.bind, ofTopic, given]
  rfl

end CourseAdvisor
