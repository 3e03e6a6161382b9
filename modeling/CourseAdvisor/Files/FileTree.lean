/-
This file looks up paths below a working directory.
-/

import CourseAdvisor.Files.FileState

namespace CourseAdvisor

namespace Path

/-- The names of a path stand between its slashes. -/
def namesFrom (name : List UInt8) : List UInt8 → List (List UInt8)
  | [] => [name]
  | byte :: rest =>
      if byte = 0x2f then name :: namesFrom [] rest else namesFrom (name ++ [byte]) rest

def names (path : Path) : List (List UInt8) := namesFrom [] path.bytes.toList

end Path

/-- A tree lists what stands at its paths; the directories in between need no entries. -/
structure FileTree where
  entries : List (Path × FileState)

namespace FileTree

/-- A path that leads on to a present entry is a directory. -/
def leadsTo (names : List (List UInt8)) (entry : Path × FileState) : Bool :=
  names.isPrefixOf entry.1.names && entry.2.isPresent

def atNames (tree : FileTree) (names : List (List UInt8)) : FileState :=
  match tree.entries.find? fun entry => entry.1.names == names with
  | some entry => entry.2
  | none =>
      if names.isEmpty || tree.entries.any (leadsTo names) then .directory else .missing

/-- Only directories have something below them, and nothing above the root can be seen. -/
def walk (tree : FileTree) (names : List (List UInt8)) : List (List UInt8) → FileState
  | [] => tree.atNames names
  | name :: rest =>
      match tree.atNames names with
      | .directory =>
          if name = [] ∨ name = ".".toUTF8.toList then tree.walk names rest
          else if name = "..".toUTF8.toList then
            if names = [] then .missing else tree.walk names.dropLast rest
          else tree.walk (names ++ [name]) rest
      | _ => .missing

/-- The working directory is the root, so absolute paths lead nowhere. -/
def at? (tree : FileTree) (path : Path) : FileState :=
  if path.bytes.isEmpty || path.isAbsolute then .missing else tree.walk [] path.names

end FileTree

end CourseAdvisor
