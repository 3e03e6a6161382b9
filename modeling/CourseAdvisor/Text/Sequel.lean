/-
This file follows the emoji sequences and ligatures that several characters make together.
-/

import CourseAdvisor.Text.Emoji
import CourseAdvisor.Text.Ligature

namespace CourseAdvisor.Text

/-- A selector asks for one form of the character before it. -/
inductive Selector where
  | text
  | emoji
  | wide
  deriving DecidableEq

def Selector.ofChar? (char : Char) : Option Selector :=
  if char = '\ufe0e' then some .text
  else if char = '\ufe0f' then some .emoji
  else if char = '\ufe01' then some .wide
  else none

/-- This is what the text after a character begins with.
A joiner counts only before an emoji, and what is joined stands before such a joiner.
The tags of a flag are counted from their end. -/
inductive Sequel where
  | plain
  | emoji
  | skinTone
  | indicator
  | indicators
  | joiner
  | joinedKeycap
  | joinedIndicator
  | joinedFlag
  | joinedFlagAndIndicator
  | joinedTags (letters digits : Nat)
  | ligature (begun : Ligature) (joined : Bool)
  deriving DecidableEq

namespace Sequel

/-- A character that continues nothing begins anew. -/
def ofChar (char : Char) : Sequel :=
  if isRegionalIndicator char then .indicator
  else if isSkinTone char then .skinTone
  else if isEmoji char then .emoji
  else
    match Ligature.endingIn? char with
    | some begun => .ligature begun false
    | none => .plain

/-- Selectors may stand inside most ligatures. -/
def admitsSelectors : Sequel → Bool
  | .ligature begun _ => begun.admitsSelectors
  | _ => false

/-- Outside ligatures only the selector for emoji leaves something joined. -/
def before (selector : Selector) : Sequel → Sequel
  | .joiner => if selector = .emoji then .joiner else .plain
  | .joinedKeycap => if selector = .emoji then .joinedKeycap else .plain
  | _ => .plain

/-- A joiner before an emoji joins it to the character before. -/
def addJoiner? (char : Char) : Option (Int × Sequel) :=
  if char = Text.joiner then some (0, .joiner) else none

/-- Two regional indicators make a flag, and each takes a column.
Before a joiner the flag takes none, which its first half makes up for. -/
def addIndicator? (columns : Int) (next : Sequel) (char : Char) : Option (Int × Sequel) :=
  if isRegionalIndicator char then some (columns, next) else none

/-- An emoji before a joiner takes no columns, and half a flag there waits for its first half. -/
def addJoined? (char : Char) : Option (Int × Sequel) :=
  if char = '\u20e3' then some (0, .joinedKeycap)
  else if isRegionalIndicator char then some (1, .joinedIndicator)
  else if isSkinTone char then some (0, .skinTone)
  else if char.toNat = 0xe007f then some (0, .joinedTags 0 0)
  else if isEmoji char then some (0, .emoji)
  else none

/-- The tags of a flag are three to six letters, or three digits with up to four letters. -/
def addTag? (letters digits : Nat) (char : Char) : Option (Int × Sequel) :=
  if isCodeWithin 0xe0061 0xe007a char then
    if digits = 0 ∧ letters < 6 then some (0, .joinedTags (letters + 1) 0) else none
  else if isCodeWithin 0xe0030 0xe0039 char then
    if digits < 3 ∧ letters ≤ 4 then some (0, .joinedTags letters (digits + 1)) else none
  else if char.toNat = 0x1f3f4 then
    if digits = 3 ∨ (digits = 0 ∧ 3 ≤ letters) then some (0, .emoji) else none
  else none

/-- Joiners and invisible marks are passed over inside a ligature. -/
def addToLigature? (begun : Ligature) (joined : Bool) (char : Char) : Option (Int × Sequel) :=
  if begun.admitsJoiners && char == Text.joiner then some (0, .ligature begun true)
  else if begun.admitsJoiners && isIgnorableMark char then some (0, .ligature begun joined)
  else
    match begun.add? joined char with
    | some (columns, some next) => some (columns, .ligature next false)
    | some (columns, none) => some (columns, .plain)
    | none => none

/-- These are the columns that a character adds when it continues what comes after it. -/
def add? (char : Char) : Sequel → Option (Int × Sequel)
  | .plain | .joinedKeycap => none
  | .emoji => addJoiner? char
  | .skinTone => if isToned char then some (0, .emoji) else addJoiner? char
  | .indicator => addIndicator? 1 .indicators char
  | .indicators => addIndicator? 1 .indicators char <|> addJoiner? char
  | .joiner => addJoined? char
  | .joinedIndicator => addIndicator? (-1) .joinedFlag char
  | .joinedFlag => addIndicator? 3 .joinedFlagAndIndicator char <|> addJoiner? char
  | .joinedFlagAndIndicator => addIndicator? (-1) .joinedFlag char <|> addJoiner? char
  | .joinedTags letters digits => addTag? letters digits char
  | .ligature begun joined => addToLigature? begun joined char

end Sequel

end CourseAdvisor.Text
