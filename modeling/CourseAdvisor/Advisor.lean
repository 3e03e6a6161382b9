/-
This file defines advisors, which recommend courses from a store by a rule set.
-/

import CourseAdvisor.Rule.Standard
import CourseAdvisor.Store

namespace CourseAdvisor

/-- An advisor reads its store and applies its rules, which are known by their positions. -/
inductive Event where
  | read (read : StoreRead)
  | applied (position : Nat)
  deriving DecidableEq

/-- A traced value comes with the events that led to it. -/
structure Traced (α : Type) where
  events : List Event
  value : α

namespace Traced

variable {α β : Type}

/-- This is a value that one event yields. -/
def after (event : Event) (value : α) : Traced α := ⟨[event], value⟩

/-- The events of the first step come before those of the second. -/
def andThen (first : Traced α) (next : α → Traced β) : Traced β :=
  ⟨first.events ++ (next first.value).events, (next first.value).value⟩

instance : Monad Traced where
  pure value := ⟨[], value⟩
  bind := andThen

end Traced

/-- The reads come in order, and the first that fails is the last. -/
def Store.context (store : Store) (learner : LearnerId) : Traced (Except StoreError Context) := do
  match ← Traced.after (.read .enrollments) (store.enrollments learner) with
  | .error error => return .error error
  | .ok enrollments =>
      match ← Traced.after (.read .courses) store.courses with
      | .error error => return .error error
      | .ok catalog =>
          match ← Traced.after (.read .results) (store.results learner) with
          | .error error => return .error error
          | .ok results => return .ok (.ofReads enrollments catalog results)

namespace RuleSet

/-- The candidates of all rules stand one after the other. -/
def candidatesFrom (context : Context) : Nat → List Rule → Traced (List Recommendation)
  | _, [] => return []
  | position, rule :: rest => do
      let first ← Traced.after (.applied position) (rule.candidates context)
      let others ← candidatesFrom context (position + 1) rest
      return first ++ others

/-- This applies every rule once and merges the candidates. -/
def evaluate (set : RuleSet) (context : Context) : Traced (List Recommendation) := do
  let candidates ← candidatesFrom context 0 set.rules
  return merge candidates

end RuleSet

/-- An advisor keeps nothing from one learner to the next. -/
structure Advisor where
  store : Store
  rules : RuleSet

namespace Advisor

/-- Without history nothing is recommended and no rule is applied. -/
def recommend (advisor : Advisor) (learner : LearnerId) :
    Traced (Except StoreError (List Recommendation)) := do
  match ← advisor.store.context learner with
  | .error error => return .error error
  | .ok context =>
      if context.hasHistory then
        let recommendations ← advisor.rules.evaluate context
        return .ok recommendations
      else return .ok []

end Advisor

end CourseAdvisor
