/-
This file reads commands from arguments.
-/

import CourseAdvisor.Command.Argument

namespace CourseAdvisor

/-- A parameter may still wait for its value. -/
structure Pending where
  given : Given
  parameter : Option Parameter

namespace Topic

/-- A plain argument can only be a learner. -/
def withPlain (topic : Topic) (given : Given) (text : String) : Except Stop Given :=
  if topic = .recommend then given.withLearner text else .error .usage

/-- The letters after that of a parameter are its value, with or without an equals sign. -/
def readLetters (topic : Topic) (given : Given) : List Char → Except Stop Pending
  | [] => .ok ⟨given, none⟩
  | letter :: rest =>
      match topic.flagLettered? letter with
      | none => .error .usage
      | some (.switch switch) => do
          topic.readLetters (← given.withSwitch topic switch) rest
      | some (.parameter parameter) =>
          match rest with
          | [] => .ok ⟨given, some parameter⟩
          | '=' :: value => do
              return ⟨← given.withParameter (String.ofList value) parameter, none⟩
          | value => do return ⟨← given.withParameter (String.ofList value) parameter, none⟩

/-- One argument may leave a parameter that waits for its value. -/
def readOne (topic : Topic) (given : Given) : Argument → Except Stop Pending
  | .separator => .ok ⟨given, none⟩
  | .plain text => do return ⟨← topic.withPlain given text, none⟩
  | .letters letters => topic.readLetters given letters
  | .long name value =>
      match topic.flagNamed? name, value with
      | some (.switch switch), none => do
          return ⟨← given.withSwitch topic switch, none⟩
      | some (.parameter parameter), none => .ok ⟨given, some parameter⟩
      | some (.parameter parameter), some value => do
          return ⟨← given.withParameter value parameter, none⟩
      | _, _ => .error .usage

/-- The value of a parameter may not look like an option, and all is plain after a separator. -/
def read (topic : Topic) : Pending → List String → Except Stop Given
  | ⟨given, none⟩, [] => .ok given
  | ⟨_, some _⟩, [] => .error .usage
  | ⟨given, some parameter⟩, text :: rest =>
      if (Argument.ofText text).isPlain then do
        topic.read ⟨← given.withParameter text parameter, none⟩ rest
      else .error .usage
  | ⟨given, none⟩, text :: rest =>
      match Argument.ofText text with
      | .separator => rest.foldlM topic.withPlain given
      | argument => do topic.read (← topic.readOne given argument) rest

/-- This reads all arguments of a command. -/
def given (topic : Topic) (arguments : List String) : Except Stop Given :=
  topic.read ⟨.nothing, none⟩ arguments

/-- Options may stand before the name of what is below; it comes with the arguments after it. -/
def choice (topic : Topic) (given : Given) : List String → Except Stop (Topic × List String)
  | [] => .error .usage
  | text :: rest =>
      match Argument.ofText text with
      | .separator => .error .usage
      | .plain name =>
          match topic.below? name with
          | some next => .ok (next, rest)
          | none => .error .usage
      | argument => do topic.choice (← topic.readOne given argument).given rest

/-- Help may be asked for on whatever the names lead to. -/
def helpOn (topic : Topic) (names : List String) : Stop :=
  match topic.follow? names with
  | some target => .help target
  | none => .usage

end Topic

namespace Command

/-- The program and the groups alone are no commands. -/
def ofTopic (topic : Topic) (arguments : List String) : Except Stop Command :=
  match topic with
  | .program | .config => .error .usage
  | .help => .error (Topic.program.helpOn arguments)
  | .configHelp => .error (Topic.config.helpOn arguments)
  | .configShow => do
      let _ ← topic.given arguments
      return .showConfig
  | .configPath => do
      let _ ← topic.given arguments
      return .showConfigPaths
  | .rules => do
      let _ ← topic.given arguments
      return .listRules
  | .recommend => do
      let given ← topic.given arguments
      match given.learner with
      | none => .error .usage
      | some learner =>
          return .recommend learner given.snapshot (given.switches.contains .json)
  | .serve => do
      let given ← topic.given arguments
      return .serve given.host given.port given.snapshot

/-- The first thing in the arguments that is not right, or that ends the reading, counts. -/
def ofArguments (arguments : List String) : Except Stop Command := do
  let (topic, rest) ← Topic.program.choice .nothing arguments
  if topic = .config then
    let (next, rest) ← Topic.config.choice .nothing rest
    ofTopic next rest
  else ofTopic topic rest

end Command

end CourseAdvisor
