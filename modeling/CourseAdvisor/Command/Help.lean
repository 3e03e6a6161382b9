/-
This file writes the help on a topic.
-/

import CourseAdvisor.Command.Argument

namespace CourseAdvisor

namespace Flag

/-- An option is shown with its letter, and a parameter with its value. -/
def form (flag : Flag) : String :=
  let letter := match flag.letter? with
    | some letter => String.ofList ['-', letter, ',', ' ']
    | none => "    "
  let value := match flag with
    | .switch _ => ""
    | .parameter _ => " <" ++ flag.name.map Char.toUpper ++ ">"
  letter ++ "--" ++ flag.name ++ value

/-- A snapshot is read once or served. -/
def note (topic : Topic) : Flag → String
  | .switch .verbose => "Verbose output"
  | .switch .help => "Print help"
  | .switch .version => "Print version"
  | .switch .json => "Print the JSON response payload instead of a table"
  | .parameter .host => "Host to bind to (overrides config)"
  | .parameter .port => "Port to listen on (overrides config)"
  | .parameter .snapshot =>
      if topic = .serve then "Catalog snapshot to serve (overrides config)"
      else "Catalog snapshot to read (overrides config)"

end Flag

namespace Topic

/-- One line tells what a topic is for. -/
def purpose : Topic → String
  | .program => "Course recommendations from learner history"
  | .config => "Manage configuration"
  | .configShow => "Show current configuration (merged)"
  | .configPath => "Show configuration file paths"
  | .recommend => "Recommend courses for a learner"
  | .rules => "List the recommendation rules in evaluation order"
  | .serve => "Run the coursepath server"
  | .help | .configHelp => "Print this message or the help of the given subcommand(s)"

/-- These are the plain arguments of a topic, each with a note. -/
def arguments : Topic → List (String × String)
  | .recommend => [("<LEARNER>", "Learner to recommend courses for")]
  | .help | .configHelp => [("[COMMAND]...", "Print help for the subcommand(s)")]
  | _ => []

/-- The names of a topic come before what it takes. -/
def usage (topic : Topic) : String :=
  let options := if topic.flags.isEmpty then [] else ["[OPTIONS]"]
  let command := if topic.below.isEmpty then [] else ["<COMMAND>"]
  " ".intercalate (topic.names ++ options ++ command ++ topic.arguments.map Prod.fst)

/-- The notes stand below each other, two blanks after the longest name. -/
def noteLines (rows : List (String × String)) : String :=
  let width := rows.foldl (fun width (name, _) => max width name.length) 0
  String.join (rows.map fun (name, note) =>
    "  " ++ name.pushn ' ' (width - name.length + 2) ++ note ++ "\n")

/-- A part of the help without lines is left out. -/
def helpPart (title : String) (rows : List (String × String)) : String :=
  if rows.isEmpty then "" else "\n" ++ title ++ ":\n" ++ noteLines rows

/-- Commands come before arguments, and arguments before options. -/
def helpText (topic : Topic) : String :=
  topic.purpose ++ "\n\nUsage: " ++ topic.usage ++ "\n" ++
    helpPart "Commands" (topic.below.map fun next => (next.name, next.purpose)) ++
    helpPart "Arguments" topic.arguments ++
    helpPart "Options" (topic.flags.map fun flag => (flag.form, flag.note topic))

end Topic

end CourseAdvisor
