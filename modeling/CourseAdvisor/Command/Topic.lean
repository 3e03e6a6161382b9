/-
This file names what options and help can be about.
-/

namespace CourseAdvisor

/-- Options and help are about the program, a command or a group of commands. -/
inductive Topic where
  | program
  | config
  | configShow
  | configPath
  | configHelp
  | recommend
  | rules
  | serve
  | help
  deriving DecidableEq

namespace Topic

/-- Each topic has a name among those beside it. -/
def name : Topic → String
  | .program => "coursepath"
  | .config => "config"
  | .configShow => "show"
  | .configPath => "path"
  | .recommend => "recommend"
  | .rules => "rules"
  | .serve => "serve"
  | .configHelp | .help => "help"

/-- The program and the groups have topics below them. -/
def below : Topic → List Topic
  | .program => [.config, .recommend, .rules, .serve, .help]
  | .config => [.configShow, .configPath, .configHelp]
  | _ => []

/-- These are the names that lead to a topic. -/
def names (topic : Topic) : List String :=
  match topic with
  | .program => [name .program]
  | .configShow | .configPath | .configHelp => [name .program, name .config, topic.name]
  | _ => [name .program, topic.name]

/-- A topic is chosen by its name. -/
def below? (topic : Topic) (name : String) : Option Topic :=
  topic.below.find? fun next => next.name == name

/-- Several names lead down step by step. -/
def follow? (topic : Topic) (names : List String) : Option Topic :=
  names.foldlM below? topic

end Topic

end CourseAdvisor
