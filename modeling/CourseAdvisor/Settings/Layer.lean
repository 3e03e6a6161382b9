/-
This file reads the layers that settings are made of.
-/

import CourseAdvisor.Files.Path
import CourseAdvisor.Toml.Reader

namespace CourseAdvisor

/-- A layer sets some of the settings. -/
structure Layer where
  host : Option String
  port : Option UInt16
  snapshot : Option Path
  weakScore : Option Double
  beginnerRatio : Option Double
  deriving DecidableEq

namespace Layer

def empty : Layer := ⟨none, none, none, none, none⟩

/-- What the upper layer sets hides what the lower layer sets. -/
def above (upper lower : Layer) : Layer where
  host := upper.host <|> lower.host
  port := upper.port <|> lower.port
  snapshot := upper.snapshot <|> lower.snapshot
  weakScore := upper.weakScore <|> lower.weakScore
  beginnerRatio := upper.beginnerRatio <|> lower.beginnerRatio

/-- A section is a table that may leave out entries, or a list that gives all of them in order. -/
inductive Section where
  | keyed (entries : Toml.Entries)
  | listed (items : List Toml)

namespace Section

/-- A date or a time counts as a section without entries. -/
def ofToml? : Toml → Option Section
  | .table _ entries => some (.keyed entries)
  | .moment => some (.keyed [])
  | .list items => some (.listed items)
  | .tables items => some (.listed (items.map (Toml.table .header)))
  | _ => none

/-- This is the section with a name, empty when it is missing. -/
def named (name : String) (entries : Toml.Entries) : Option Section :=
  match entries.lookup name with
  | none => some (.keyed [])
  | some value => ofToml? value

/-- A field is looked up by its key or by its place in a list. -/
def field? {α : Type} (key : String) (place : Nat) (read : Toml → Option α) :
    Section → Option (Option α)
  | .keyed entries =>
      match entries.lookup key with
      | none => some none
      | some value => (read value).map some
  | .listed items => do
      let value ← items[place]?
      return some (← read value)

end Section

def readString : Toml → Option String
  | .string content => some content
  | _ => none

def readPath (value : Toml) : Option Path := (readString value).map Path.ofText

/-- A port is a whole number of 16 bits. -/
def readPort : Toml → Option UInt16
  | .integer value =>
      if 0 ≤ value ∧ value < 65536 then some value.toNat.toUInt16 else none
  | _ => none

/-- A threshold may be written without a point. -/
def readDouble : Toml → Option Double
  | .integer value => some (.ofRatio (decide (value < 0)) value.natAbs 1 Nat.one_pos)
  | .number value => some value
  | _ => none

/-- Unknown entries are ignored, and known ones must have values of their kinds. -/
def ofEntries (entries : Toml.Entries) : Option Layer := do
  let server ← Section.named "server" entries
  let catalog ← Section.named "catalog" entries
  let engine ← Section.named "engine" entries
  return {
    host := ← server.field? "host" 0 readString
    port := ← server.field? "port" 1 readPort
    snapshot := ← catalog.field? "snapshot" 0 readPath
    weakScore := ← engine.field? "weak_score_threshold" 0 readDouble
    beginnerRatio := ← engine.field? "beginner_ratio_threshold" 1 readDouble }

/-- This is the layer of a file's text. -/
def ofText (text : String) : Option Layer := do ofEntries (← Toml.entries? text)

end Layer

end CourseAdvisor
