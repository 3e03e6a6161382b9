/-
This file defines rules and ordered rule sets.
-/

import CourseAdvisor.Learner.Context
import CourseAdvisor.Recommendation.Merge

namespace CourseAdvisor

/-- A rule proposes courses for what it sees. -/
structure Rule where
  name : String
  candidates : Context → List Recommendation

/-- The rules are applied in order. -/
structure RuleSet where
  rules : List Rule

namespace RuleSet

def empty : RuleSet := ⟨[]⟩

def withRule (set : RuleSet) (rule : Rule) : RuleSet := ⟨set.rules ++ [rule]⟩

def size (set : RuleSet) : Nat := set.rules.length

def isEmpty (set : RuleSet) : Bool := set.rules.isEmpty

def names (set : RuleSet) : List String := set.rules.map (·.name)

end RuleSet

end CourseAdvisor
