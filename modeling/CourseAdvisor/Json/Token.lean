/-
This file cuts JSON text into tokens.
-/

import CourseAdvisor.Json.Numeral

namespace CourseAdvisor.Json

/-- Text is no JSON because it ends too early or because a character is out of place. -/
inductive Fault where
  | ended
  | malformed
  deriving DecidableEq

/-- Text content is absent when its escapes name half of a character. -/
inductive Token where
  | null
  | boolean (value : Bool)
  | number (numeral : Numeral)
  | text (content : Option String)
  | openList
  | closeList
  | openObject
  | closeObject
  | comma
  | colon
  deriving DecidableEq

/-- A tape is the tokens of a text up to its end or to the first broken token.
A broken token has one fault where it is decoded and one where it is skipped. -/
inductive Tape where
  | finished
  | broken (decoding skipping : Fault)
  | brokenText (decoding skipping : Fault)
  | token (head : Token) (rest : Tape)
  deriving DecidableEq

def Tape.length : Tape → Nat
  | .token _ rest => rest.length + 1
  | _ => 0

/-- Blanks separate tokens. -/
def isBlank (char : Char) : Bool :=
  char == ' ' || char == '\t' || char == '\n' || char == '\r'

/-- A fault where more is needed depends on whether any text is left. -/
def missing : List Char → Fault
  | [] => .ended
  | _ => .malformed

/-- Nothing but the letters of the word may come. -/
def scanWord : List Char → List Char → Except Fault (List Char)
  | [], text => .ok text
  | _ :: _, [] => .error .ended
  | letter :: word, char :: text =>
      if char = letter then scanWord word text else .error .malformed

/-- Four hex digits give a code unit. -/
def codeUnit? (first second third fourth : Char) : Option Nat := do
  let first ← hexValue? first
  let second ← hexValue? second
  let third ← hexValue? third
  let fourth ← hexValue? fourth
  return ((first * 16 + second) * 16 + third) * 16 + fourth

/-- A code unit that is no four digits is cut off when fewer than four bytes are left. -/
def codeUnitFault (text : List Char) : Fault :=
  if (String.ofList (text.take 4)).utf8ByteSize < 4 then .ended else .malformed

def isHighSurrogate (unit : Nat) : Bool := decide (0xd800 ≤ unit) && decide (unit ≤ 0xdbff)

def isLowSurrogate (unit : Nat) : Bool := decide (0xdc00 ≤ unit) && decide (unit ≤ 0xdfff)

/-- Two surrogates name one character. -/
def pairedChar (high low : Nat) : Char :=
  Char.ofNat (0x10000 + (high - 0xd800) * 0x400 + (low - 0xdc00))

/-- This is the character of an escape with one letter. -/
def escape? (letter : Char) : Option Char :=
  if letter = '"' ∨ letter = '\\' ∨ letter = '/' then some letter
  else if letter = 'b' then some '\x08'
  else if letter = 'f' then some '\x0c'
  else if letter = 'n' then some '\n'
  else if letter = 'r' then some '\r'
  else if letter = 't' then some '\t'
  else none

/-- Text closes at a quote or breaks, and content that cannot be decoded is absent. -/
inductive TextScan where
  | closed (content : Option (List Char)) (rest : List Char)
  | broken (decoding skipping : Fault)

namespace TextScan

def push (char : Char) : TextScan → TextScan
  | .closed content rest => .closed (content.map (char :: ·)) rest
  | scan => scan

/-- A lone surrogate spoils the content for decoding and nothing for skipping. -/
def spoil : TextScan → TextScan
  | .closed _ rest => .closed none rest
  | .broken _ skipping => .broken .malformed skipping

def spoilIf (spoiled : Bool) (scan : TextScan) : TextScan := if spoiled then scan.spoil else scan

end TextScan

/-- This scans the text after an opening quote.
A high surrogate waits for the low surrogate that must follow it. -/
def scanText (waiting : Option Nat) : List Char → TextScan
  | [] => .broken .ended .ended
  | char :: rest =>
      if char = '"' then .closed (if waiting.isSome then none else some []) rest
      else if char = '\\' then
        match rest with
        | [] => .broken .ended .ended
        | letter :: rest =>
            if letter = 'u' then
              match rest with
              | first :: second :: third :: fourth :: beyond =>
                  match codeUnit? first second third fourth, waiting with
                  | none, _ =>
                      let fault := codeUnitFault (first :: second :: third :: fourth :: beyond)
                      .broken fault fault
                  | some unit, some high =>
                      if isLowSurrogate unit then
                        (scanText none beyond).push (pairedChar high unit)
                      else (scanText none beyond).spoil
                  | some unit, none =>
                      if isHighSurrogate unit then scanText (some unit) beyond
                      else if isLowSurrogate unit then (scanText none beyond).spoil
                      else (scanText none beyond).push (Char.ofNat unit)
              | short =>
                  let fault := codeUnitFault short
                  .broken fault fault
            else
              match escape? letter with
              | some escaped => ((scanText none rest).push escaped).spoilIf waiting.isSome
              | none => .broken .malformed .malformed
      else if char.toNat < 32 then .broken .malformed .malformed
      else ((scanText none rest).push char).spoilIf waiting.isSome

/-- This scans the digits after a point; without a point there are none. -/
def scanFraction : List Char → Except Fault (List Char × List Char)
  | '.' :: rest =>
      match rest.takeWhile Char.isDigit with
      | [] => .error (missing rest)
      | digits => .ok (digits, rest.dropWhile Char.isDigit)
  | text => .ok ([], text)

/-- This scans an exponent, when there is one. -/
def scanExponent : List Char → Except Fault (Option Int × List Char)
  | [] => .ok (none, [])
  | char :: rest =>
      if char = 'e' ∨ char = 'E' then
        let (negative, unsigned) := match rest with
          | '-' :: unsigned => (true, unsigned)
          | '+' :: unsigned => (false, unsigned)
          | unsigned => (false, unsigned)
        match unsigned.takeWhile Char.isDigit with
        | [] => .error (missing unsigned)
        | digits =>
            let value : Int := digitsValue digits
            .ok (some (if negative then -value else value), unsigned.dropWhile Char.isDigit)
      else .ok (none, char :: rest)

/-- This scans a numeral without its sign; only zero itself starts with a zero. -/
def scanUnsigned (negative : Bool) (text : List Char) : Except Fault (Numeral × List Char) :=
  match text.takeWhile Char.isDigit with
  | [] => .error (missing text)
  | '0' :: _ :: _ => .error .malformed
  | whole => do
      let (fraction, rest) ← scanFraction (text.dropWhile Char.isDigit)
      let (exponent, rest) ← scanExponent rest
      return (⟨negative, whole, fraction, exponent⟩, rest)

/-- The first character that is no blank decides which token comes. -/
inductive Scan where
  | finished
  | broken (decoding skipping : Fault)
  | brokenText (decoding skipping : Fault)
  | token (head : Token) (rest : List Char)

namespace Scan

def ofWord (token : Token) (result : Except Fault (List Char)) : Scan :=
  match result with
  | .ok rest => .token token rest
  | .error fault => .broken fault fault

/-- A numeral that is skipped is malformed wherever it breaks. -/
def ofNumeral (result : Except Fault (Numeral × List Char)) : Scan :=
  match result with
  | .ok (numeral, rest) => .token (.number numeral) rest
  | .error fault => .broken fault .malformed

def ofText : TextScan → Scan
  | .closed content rest => .token (.text (content.map String.ofList)) rest
  | .broken decoding skipping => .brokenText decoding skipping

end Scan

/-- This scans one token that starts with the character. -/
def scanFrom (char : Char) (rest : List Char) : Scan :=
  match char with
  | '\x7b' => .token .openObject rest
  | '\x7d' => .token .closeObject rest
  | '[' => .token .openList rest
  | ']' => .token .closeList rest
  | ',' => .token .comma rest
  | ':' => .token .colon rest
  | 'n' => .ofWord .null (scanWord ['u', 'l', 'l'] rest)
  | 't' => .ofWord (.boolean true) (scanWord ['r', 'u', 'e'] rest)
  | 'f' => .ofWord (.boolean false) (scanWord ['a', 'l', 's', 'e'] rest)
  | '"' => .ofText (scanText none rest)
  | '-' => .ofNumeral (scanUnsigned true rest)
  | char =>
      if char.isDigit then .ofNumeral (scanUnsigned false (char :: rest))
      else .broken .malformed .malformed

def scanOne (text : List Char) : Scan :=
  match text.dropWhile isBlank with
  | [] => .finished
  | char :: rest => scanFrom char rest

/-- Every token takes at least one character, so the length of the text is fuel enough. -/
def scanWithin : Nat → List Char → Tape
  | 0, _ => .finished
  | fuel + 1, text =>
      match scanOne text with
      | .finished => .finished
      | .broken decoding skipping => .broken decoding skipping
      | .brokenText decoding skipping => .brokenText decoding skipping
      | .token head rest => .token head (scanWithin fuel rest)

/-- This is the tape of a whole text. -/
def scan (text : List Char) : Tape := scanWithin (text.length + 1) text

end CourseAdvisor.Json
