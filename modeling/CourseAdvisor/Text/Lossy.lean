/-
This file shows bytes as text, with a mark for every part that is no text.
-/

namespace CourseAdvisor.Text

/-- These are the first and last values of the bytes that may follow a leading byte. -/
def followers? (lead : UInt8) : Option (List (UInt8 × UInt8)) :=
  let any : UInt8 × UInt8 := (0x80, 0xbf)
  if lead ≤ 0x7f then some []
  else if 0xc2 ≤ lead ∧ lead ≤ 0xdf then some [any]
  else if lead = 0xe0 then some [(0xa0, 0xbf), any]
  else if lead = 0xed then some [(0x80, 0x9f), any]
  else if 0xe1 ≤ lead ∧ lead ≤ 0xef then some [any, any]
  else if lead = 0xf0 then some [(0x90, 0xbf), any, any]
  else if 0xf1 ≤ lead ∧ lead ≤ 0xf3 then some [any, any, any]
  else if lead = 0xf4 then some [(0x80, 0x8f), any, any]
  else none

/-- This counts the bytes that stand in their ranges, up to the first that does not. -/
def matching : List (UInt8 × UInt8) → List UInt8 → Nat
  | range :: ranges, byte :: bytes =>
      if range.1 ≤ byte ∧ byte ≤ range.2 then matching ranges bytes + 1 else 0
  | _, _ => 0

/-- Each following byte adds six bits. -/
def codePoint (lead : UInt8) (tail : List UInt8) : Nat :=
  let kept := match tail.length with
    | 0 => lead.toNat
    | 1 => lead.toNat % 32
    | 2 => lead.toNat % 16
    | _ => lead.toNat % 8
  tail.foldl (fun code byte => code * 64 + byte.toNat % 64) kept

/-- A character that breaks off gives one mark; each step takes a byte. -/
def shownWithin : Nat → List UInt8 → List Char
  | 0, _ => []
  | _, [] => []
  | fuel + 1, lead :: rest =>
      match followers? lead with
      | none => '\ufffd' :: shownWithin fuel rest
      | some ranges =>
          let count := matching ranges rest
          let char := if count = ranges.length then Char.ofNat (codePoint lead (rest.take count))
            else '\ufffd'
          char :: shownWithin fuel (rest.drop count)

/-- Text is shown as it is. -/
def shown (bytes : ByteArray) : String :=
  match String.fromUTF8? bytes with
  | some text => text
  | none => String.ofList (shownWithin bytes.size bytes.toList)

end CourseAdvisor.Text
