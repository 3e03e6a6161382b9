/-
This file defines the commands that the program understands.
-/

import CourseAdvisor.Command.Topic
import CourseAdvisor.Files.Path
import CourseAdvisor.Learner.History

namespace CourseAdvisor

/-- What a command leaves out is taken from the settings. -/
inductive Command where
  | showConfig
  | showConfigPaths
  | recommend (learner : LearnerId) (snapshot : Option Path) (asJson : Bool)
  | listRules
  | serve (host : Option String) (port : Option UInt16) (snapshot : Option Path)
  deriving DecidableEq

/-- Arguments may ask for help or for the version instead of a command, or make no sense. -/
inductive Stop where
  | usage
  | help (topic : Topic)
  | version (topic : Topic)
  deriving DecidableEq

end CourseAdvisor
