/-
This file defines arguments and the options that they may give.
-/

import CourseAdvisor.Command.Basic

namespace CourseAdvisor

/-- An argument is known by its first characters. -/
inductive Argument where
  | separator
  | long (name : String) (value : Option String)
  | letters (letters : List Char)
  | plain (text : String)
  deriving DecidableEq

namespace Argument

/-- A long option may carry its value after an equals sign. -/
def ofLong (content : List Char) : Argument :=
  let name := String.ofList (content.takeWhile (· != '='))
  match content.dropWhile (· != '=') with
  | [] => .long name none
  | _ :: value => .long name (some (String.ofList value))

/-- A dash alone is plain. -/
def ofText (text : String) : Argument :=
  match text.toList with
  | ['-', '-'] => .separator
  | '-' :: '-' :: content => ofLong content
  | '-' :: letter :: rest => .letters (letter :: rest)
  | _ => .plain text

def isPlain : Argument → Bool
  | .plain _ => true
  | _ => false

end Argument

/-- These options stand alone. -/
inductive Switch where
  | verbose
  | help
  | version
  | json
  deriving DecidableEq

/-- These options need a value. -/
inductive Parameter where
  | host
  | port
  | snapshot
  deriving DecidableEq

/-- An option is either a switch or a parameter. -/
inductive Flag where
  | switch (switch : Switch)
  | parameter (parameter : Parameter)
  deriving DecidableEq

namespace Flag

def name : Flag → String
  | .switch .verbose => "verbose"
  | .switch .help => "help"
  | .switch .version => "version"
  | .switch .json => "json"
  | .parameter .host => "host"
  | .parameter .port => "port"
  | .parameter .snapshot => "snapshot"

/-- Some options have a letter as well. -/
def letter? : Flag → Option Char
  | .switch .verbose => some 'v'
  | .switch .help => some 'h'
  | .switch .version => some 'V'
  | .parameter .port => some 'p'
  | _ => none

/-- The program and all commands understand these options. -/
def general : List Flag := [.switch .verbose, .switch .help, .switch .version]

end Flag

namespace Topic

/-- What asks for help has no options of its own. -/
def flags : Topic → List Flag
  | .recommend => [.parameter .snapshot, .switch .json] ++ Flag.general
  | .serve => [.parameter .port, .parameter .host, .parameter .snapshot] ++ Flag.general
  | .help | .configHelp => []
  | _ => Flag.general

def flagNamed? (topic : Topic) (name : String) : Option Flag :=
  topic.flags.find? fun flag => flag.name == name

def flagLettered? (topic : Topic) (letter : Char) : Option Flag :=
  topic.flags.find? fun flag => flag.letter? == some letter

end Topic

/-- A number may have a sign and any number of leading zeros. -/
def wholeNumber? (text : String) : Option Int :=
  let unsigned (digits : List Char) : Option Nat :=
    if digits.isEmpty || !digits.all Char.isDigit then none
    else some (digits.foldl (fun number digit => number * 10 + (digit.toNat - 48)) 0)
  match text.toList with
  | '+' :: digits => (unsigned digits).map Int.ofNat
  | '-' :: digits => (unsigned digits).map fun number => -Int.ofNat number
  | digits => (unsigned digits).map Int.ofNat

/-- A port is a number of 16 bits. -/
def port? (text : String) : Option UInt16 :=
  match wholeNumber? text with
  | some number => if 0 ≤ number ∧ number < 65536 then some number.toNat.toUInt16 else none
  | none => none

/-- These are the options and the learner that the arguments have given so far. -/
structure Given where
  switches : List Switch
  host : Option String
  port : Option UInt16
  snapshot : Option Path
  learner : Option LearnerId
  deriving DecidableEq

namespace Given

def nothing : Given := ⟨[], none, none, none, none⟩

/-- Help and version are given at once, and no switch may be repeated. -/
def withSwitch (topic : Topic) (given : Given) : Switch → Except Stop Given
  | .help => .error (.help topic)
  | .version => .error (.version topic)
  | switch =>
      if switch ∈ given.switches then .error .usage
      else .ok { given with switches := given.switches ++ [switch] }

/-- No parameter may be repeated, and its value must be of its kind. -/
def withParameter (value : String) (given : Given) : Parameter → Except Stop Given
  | .host => if given.host.isSome then .error .usage else .ok { given with host := some value }
  | .port =>
      match given.port, port? value with
      | none, some port => .ok { given with port := some port }
      | _, _ => .error .usage
  | .snapshot =>
      if given.snapshot.isSome || value.isEmpty then .error .usage
      else .ok { given with snapshot := some (.ofText value) }

/-- There is at most one learner. -/
def withLearner (given : Given) (name : String) : Except Stop Given :=
  if given.learner.isSome then .error .usage else .ok { given with learner := some ⟨name⟩ }

end Given

end CourseAdvisor
