/-
This file defines the stores that advice is read from, and why they may fail.
-/

import CourseAdvisor.Snapshot.Validation

namespace CourseAdvisor

/-- This is why a file cannot be read as text. -/
inductive FileFault where
  | notFound
  | isDirectory
  | notText
  | reported (report : String)
  deriving DecidableEq

/-- A read fails for one of four reasons. -/
inductive StoreError where
  | unavailable (report : String)
  | file (fault : FileFault)
  | unreadable (error : Json.ReadError)
  | invalid (defect : Defect)
  deriving DecidableEq

/-- This is the message, except where its wording belongs to the system or to the grammar. -/
def StoreError.message? : StoreError → Option String
  | .unavailable report => some ("store unavailable: " ++ report)
  | .file (.reported report) => some ("io error: " ++ report)
  | .unreadable (.misfit misfit) => some ("serialization error: " ++ misfit.message)
  | .invalid defect => some ("invalid data: " ++ defect.message)
  | _ => none

/-- A store answers three reads. -/
structure Store where
  enrollments : LearnerId → Except StoreError (List Enrollment)
  courses : Except StoreError (List Course)
  results : LearnerId → Except StoreError (List ChallengeResult)

/-- These are the three reads of a store. -/
inductive StoreRead where
  | enrollments
  | courses
  | results
  deriving DecidableEq

/-- One read of this store always fails. -/
def Store.failing (store : Store) (error : StoreError) : StoreRead → Store
  | .enrollments => { store with enrollments := fun _ => .error error }
  | .courses => { store with courses := .error error }
  | .results => { store with results := fun _ => .error error }

namespace Snapshot

def completedEnrollments (snapshot : Snapshot) (learner : LearnerId) : List Enrollment :=
  snapshot.enrollments.filter fun enrollment =>
    enrollment.completed && enrollment.studentId == learner

def publishedCourses (snapshot : Snapshot) : List Course :=
  snapshot.courses.filter (·.isPublished)

def resultsOf (snapshot : Snapshot) (learner : LearnerId) : List ChallengeResult :=
  snapshot.challengeResults.filter (·.userId == learner)

/-- This store never fails and shows each learner only what belongs to that learner. -/
def store (snapshot : Snapshot) : Store where
  enrollments learner := .ok (snapshot.completedEnrollments learner)
  courses := .ok snapshot.publishedCourses
  results learner := .ok (snapshot.resultsOf learner)

/-- This store never fails and shows everything to everyone. -/
def openStore (snapshot : Snapshot) : Store where
  enrollments _ := .ok snapshot.enrollments
  courses := .ok snapshot.courses
  results _ := .ok snapshot.challengeResults

/-- A snapshot text must be readable, and the snapshot must pass its checks. -/
def ofText (text : String) : Except StoreError Snapshot :=
  match Json.decode format.read text with
  | .error error => .error (.unreadable error)
  | .ok snapshot =>
      match snapshot.defect? with
      | some defect => .error (.invalid defect)
      | none => .ok snapshot

end Snapshot

end CourseAdvisor
