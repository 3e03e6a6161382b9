/-
This file describes the ligatures, whose letters take fewer columns together than alone.
-/

import CourseAdvisor.Text.ZeroWidth

namespace CourseAdvisor.Text

/-- This character joins the characters on its two sides. -/
def joiner : Char := '\u200d'

/-- Text is measured from its end, so a ligature is known by what has been met of it so far. -/
inductive Ligature where
  | arabicAlef
  | hebrewLamed
  | khmerLetter
  | bugineseYa
  | bugineseVowel
  | tifinaghConsonant
  | tifinaghJoiner
  | lisuTone
  | turkicI
  | kiratRaiE
  | kiratRaiAi
  deriving DecidableEq

/-- Every form of the letter lam ends one of the forms of the letter alef. -/
def isArabicLam (char : Char) : Bool :=
  CodeRanges.contains
    [(0x644, 0x644), (0x6b5, 0x6b8), (0x76a, 0x76a), (0x8a6, 0x8a6), (0x8c7, 0x8c7)] char

def isArabicAlef (char : Char) : Bool :=
  CodeRanges.contains
    [(0x622, 0x623), (0x625, 0x625), (0x627, 0x627), (0x671, 0x673), (0x675, 0x675),
     (0x773, 0x774), (0x870, 0x882)] char

/-- These letters have a form below the letter before them. -/
def isKhmerLetter (char : Char) : Bool :=
  CodeRanges.contains
    [(0x1780, 0x1782), (0x1784, 0x1787), (0x1789, 0x178c), (0x178e, 0x1793), (0x1795, 0x1798),
     (0x179b, 0x179d), (0x17a0, 0x17a0), (0x17a2, 0x17a2), (0x17a7, 0x17a7), (0x17ab, 0x17ac),
     (0x17af, 0x17af)] char

def isTifinaghConsonant (char : Char) : Bool :=
  CodeRanges.contains [(0x2d31, 0x2d65), (0x2d6f, 0x2d6f)] char

/-- These invisible marks may stand inside most ligatures. -/
def isIgnorableMark (char : Char) : Bool :=
  CodeRanges.contains
    [(0x34f, 0x34f), (0x17b4, 0x17b5), (0x180b, 0x180d), (0x180f, 0x180f), (0xfe00, 0xfe0f),
     (0xe0100, 0xe01ef)] char

namespace Ligature

/-- A ligature is met first at the character that ends it. -/
def endingIn? (char : Char) : Option Ligature :=
  if isArabicAlef char then some .arabicAlef
  else if char = '\u05dc' then some .hebrewLamed
  else if isKhmerLetter char then some .khmerLetter
  else if char = '\u1a10' then some .bugineseYa
  else if isTifinaghConsonant char then some .tifinaghConsonant
  else if isCodeWithin 0xa4fc 0xa4fd char then some .lisuTone
  else if char.toNat = 0x10c03 then some .turkicI
  else if char.toNat = 0x16d67 then some .kiratRaiE
  else if char.toNat = 0x16d68 then some .kiratRaiAi
  else none

/-- Selectors may stand inside all ligatures but those of Kirat Rai. -/
def admitsSelectors : Ligature → Bool
  | .kiratRaiE | .kiratRaiAi => false
  | _ => true

/-- Joiners and invisible marks may stand inside these ligatures. -/
def admitsJoiners : Ligature → Bool
  | .arabicAlef | .kiratRaiE | .kiratRaiAi => false
  | _ => true

/-- These are the columns that a character of the ligature adds, and what the ligature goes on
with; some ligatures need a joiner. -/
def add? (ligature : Ligature) (joined : Bool) (char : Char) : Option (Int × Option Ligature) :=
  match ligature with
  | .arabicAlef =>
      if isArabicLam char then some (0, none)
      else if isTransparent char then some (0, some .arabicAlef)
      else none
  | .hebrewLamed => if joined ∧ char = '\u05d0' then some (0, none) else none
  | .khmerLetter => if char = '\u17d2' then some (-1, none) else none
  | .bugineseYa => if joined ∧ char = '\u1a17' then some (0, some .bugineseVowel) else none
  | .bugineseVowel => if char = '\u1a15' then some (0, none) else none
  | .tifinaghConsonant =>
      if char = '\u2d7f' then some (1, some .tifinaghJoiner)
      else if joined ∧ isTifinaghConsonant char then some (0, none)
      else none
  | .tifinaghJoiner => if isTifinaghConsonant char then some (-1, none) else none
  | .lisuTone => if isCodeWithin 0xa4f8 0xa4fb char then some (0, none) else none
  | .turkicI => if joined ∧ char.toNat = 0x10c32 then some (0, none) else none
  | .kiratRaiE =>
      if char.toNat = 0x16d63 ∨ char.toNat = 0x16d69 then some (0, none)
      else if char.toNat = 0x16d67 then some (0, some .kiratRaiAi)
      else if char.toNat = 0x16d68 then some (1, some .kiratRaiE)
      else none
  | .kiratRaiAi => if char.toNat = 0x16d63 then some (0, none) else none

end Ligature

end CourseAdvisor.Text
