/-
This file defines what may be found at a path.
-/

import CourseAdvisor.Files.Path
import CourseAdvisor.Store

namespace CourseAdvisor

inductive FileState where
  | missing
  | directory
  | file (content : ByteArray)

namespace FileState

def isPresent : FileState → Bool
  | .missing => false
  | _ => true

/-- Only a file that holds text can be read. -/
def read : FileState → Except FileFault String
  | .missing => .error .notFound
  | .directory => .error .isDirectory
  | .file content =>
      match String.fromUTF8? content with
      | some text => .ok text
      | none => .error .notText

end FileState

/-- This is the snapshot that a file holds. -/
def Snapshot.ofFile (file : FileState) : Except StoreError Snapshot :=
  match file.read with
  | .error fault => .error (.file fault)
  | .ok text => ofText text

end CourseAdvisor
