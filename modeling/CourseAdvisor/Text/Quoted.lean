/-
This file writes text between quotes, with every hidden character escaped.
-/

import CourseAdvisor.Text.Printable

namespace CourseAdvisor.Text

/-- Hidden characters without a letter of their own are escaped by their hexadecimal code. -/
def escaped (char : Char) : List Char :=
  if char = '"' then ['\\', '"']
  else if char = '\\' then ['\\', '\\']
  else if char = '\n' then ['\\', 'n']
  else if char = '\r' then ['\\', 'r']
  else if char = '\t' then ['\\', 't']
  else if char.toNat = 0 then ['\\', '0']
  else if isHidden char then
    '\\' :: 'u' :: '\x7b' :: Nat.toDigits 16 char.toNat ++ ['\x7d']
  else [char]

def quoted (content : String) : String :=
  String.ofList ('"' :: content.toList.flatMap escaped ++ ['"'])

/-- A list of texts is written between brackets. -/
def quotedList (contents : List String) : String :=
  "[" ++ String.intercalate ", " (contents.map quoted) ++ "]"

end CourseAdvisor.Text
