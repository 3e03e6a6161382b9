/-
This file tells how many columns text takes on a screen.
-/

import CourseAdvisor.Text.DoubleWidth
import CourseAdvisor.Text.Sequel

namespace CourseAdvisor.Text

/-- Control characters take a column too, and one Khmer sign stands for three. -/
def charWidth (char : Char) : Nat :=
  if isZeroWidth char then 0
  else if isDoubleWidth char then 2
  else if char = '\u17d8' then 3
  else 1

/-- Only the curly quotation marks have a wide form. -/
def hasWideForm (char : Char) : Bool :=
  char == '\u2018' || char == '\u2019' || char == '\u201c' || char == '\u201d'

/-- The text after a character may start with selectors for the character. -/
structure Following where
  selectors : List Selector
  sequel : Sequel
  deriving DecidableEq

namespace Following

/-- Nothing special follows. -/
def plain : Following := ⟨[], .plain⟩

/-- An emoji that is joined to the next one takes no columns of its own. -/
def emojiColumns (following : Following) : Int :=
  match following.sequel with
  | .joiner | .joinedKeycap => 0
  | _ => 2

/-- Before a ligature selectors add up, elsewhere only the last one counts. -/
def select (selector : Selector) (following : Following) : Following :=
  if following.sequel.admitsSelectors then
    ⟨following.selectors.insert selector, following.sequel⟩
  else ⟨[selector], following.sequel.before selector⟩

/-- A selector that finds no form of the character to select is passed over. -/
def without (selector : Selector) (following : Following) : Following :=
  if selector ∉ following.selectors then following
  else if following.sequel.admitsSelectors then
    ⟨following.selectors.erase selector, following.sequel⟩
  else plain

/-- The forms of a character are tried in this order: emoji, text and wide. -/
def selected? (char : Char) (following : Following) : Option (Int × Following) :=
  if .text ∈ following.selectors ∧ hasNarrowForm char then some (1, plain)
  else if .wide ∈ following.selectors ∧ hasWideForm char then some (2, plain)
  else none

/-- A character without a form to select is part of what follows, or begins anew. -/
def settle (char : Char) (following : Following) : Int × Following :=
  let following := (following.without .text).without .wide
  match following.sequel.add? char with
  | some (columns, sequel) => (columns, ⟨[], sequel⟩)
  | none => (charWidth char, ⟨[], .ofChar char⟩)

/-- These are the columns that a character adds before the text that follows. -/
def add (char : Char) (following : Following) : Int × Following :=
  if .emoji ∈ following.selectors ∧ hasTwoForms char then
    (following.emojiColumns, ⟨[], .emoji⟩)
  else if isCodeWithin 0 0xa0 char then (1, plain)
  else
    let following := following.without .emoji
    match Selector.ofChar? char with
    | some selector => (0, following.select selector)
    | none => (following.selected? char).getD (following.settle char)

end Following

/-- Text is measured from its end, because what follows a character may change its width. -/
def measured : List Char → Int × Following
  | [] => (0, .plain)
  | char :: rest =>
      let (columns, following) := measured rest
      let (added, next) := following.add char
      (columns + added, next)

def width (text : List Char) : Nat := (measured text).1.toNat

end CourseAdvisor.Text
