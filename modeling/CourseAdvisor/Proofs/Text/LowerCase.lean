/-
This file defines the lower case of text for all characters, and proves where small letters of
ASCII come from.
-/

import Mathlib.Data.List.Forall2
import CourseAdvisor.Catalog.Level

namespace CourseAdvisor.Text

/-- These capitals stand at equal steps from the first to the last, and so do their small letters
from the first of them on. -/
structure CapitalRun where
  first : Nat
  last : Nat
  step : Nat
  small : Nat
  deriving DecidableEq

namespace CapitalRun

def contains (run : CapitalRun) (char : Char) : Bool :=
  decide (run.first ≤ char.toNat) && decide (char.toNat ≤ run.last) &&
    decide ((char.toNat - run.first) % run.step = 0)

def smallLetter (run : CapitalRun) (char : Char) : Char :=
  Char.ofNat (run.small + (char.toNat - run.first))

end CapitalRun

/-- These are all the capitals whose lower case is one character. -/
def capitalRuns : List CapitalRun :=
  [⟨0x41, 0x5a, 1, 0x61⟩, ⟨0xc0, 0xd6, 1, 0xe0⟩, ⟨0xd8, 0xde, 1, 0xf8⟩, ⟨0x100, 0x12e, 2, 0x101⟩,
   ⟨0x132, 0x136, 2, 0x133⟩, ⟨0x139, 0x147, 2, 0x13a⟩, ⟨0x14a, 0x176, 2, 0x14b⟩,
   ⟨0x178, 0x178, 1, 0xff⟩, ⟨0x179, 0x17d, 2, 0x17a⟩, ⟨0x181, 0x181, 1, 0x253⟩,
   ⟨0x182, 0x184, 2, 0x183⟩, ⟨0x186, 0x186, 1, 0x254⟩, ⟨0x187, 0x187, 1, 0x188⟩,
   ⟨0x189, 0x18a, 1, 0x256⟩, ⟨0x18b, 0x18b, 1, 0x18c⟩, ⟨0x18e, 0x18e, 1, 0x1dd⟩,
   ⟨0x18f, 0x18f, 1, 0x259⟩, ⟨0x190, 0x190, 1, 0x25b⟩, ⟨0x191, 0x191, 1, 0x192⟩,
   ⟨0x193, 0x193, 1, 0x260⟩, ⟨0x194, 0x194, 1, 0x263⟩, ⟨0x196, 0x196, 1, 0x269⟩,
   ⟨0x197, 0x197, 1, 0x268⟩, ⟨0x198, 0x198, 1, 0x199⟩, ⟨0x19c, 0x19c, 1, 0x26f⟩,
   ⟨0x19d, 0x19d, 1, 0x272⟩, ⟨0x19f, 0x19f, 1, 0x275⟩, ⟨0x1a0, 0x1a4, 2, 0x1a1⟩,
   ⟨0x1a6, 0x1a6, 1, 0x280⟩, ⟨0x1a7, 0x1a7, 1, 0x1a8⟩, ⟨0x1a9, 0x1a9, 1, 0x283⟩,
   ⟨0x1ac, 0x1ac, 1, 0x1ad⟩, ⟨0x1ae, 0x1ae, 1, 0x288⟩, ⟨0x1af, 0x1af, 1, 0x1b0⟩,
   ⟨0x1b1, 0x1b2, 1, 0x28a⟩, ⟨0x1b3, 0x1b5, 2, 0x1b4⟩, ⟨0x1b7, 0x1b7, 1, 0x292⟩,
   ⟨0x1b8, 0x1b8, 1, 0x1b9⟩, ⟨0x1bc, 0x1bc, 1, 0x1bd⟩, ⟨0x1c4, 0x1c4, 1, 0x1c6⟩,
   ⟨0x1c5, 0x1c5, 1, 0x1c6⟩, ⟨0x1c7, 0x1c7, 1, 0x1c9⟩, ⟨0x1c8, 0x1c8, 1, 0x1c9⟩,
   ⟨0x1ca, 0x1ca, 1, 0x1cc⟩, ⟨0x1cb, 0x1db, 2, 0x1cc⟩, ⟨0x1de, 0x1ee, 2, 0x1df⟩,
   ⟨0x1f1, 0x1f1, 1, 0x1f3⟩, ⟨0x1f2, 0x1f4, 2, 0x1f3⟩, ⟨0x1f6, 0x1f6, 1, 0x195⟩,
   ⟨0x1f7, 0x1f7, 1, 0x1bf⟩, ⟨0x1f8, 0x21e, 2, 0x1f9⟩, ⟨0x220, 0x220, 1, 0x19e⟩,
   ⟨0x222, 0x232, 2, 0x223⟩, ⟨0x23a, 0x23a, 1, 0x2c65⟩, ⟨0x23b, 0x23b, 1, 0x23c⟩,
   ⟨0x23d, 0x23d, 1, 0x19a⟩, ⟨0x23e, 0x23e, 1, 0x2c66⟩, ⟨0x241, 0x241, 1, 0x242⟩,
   ⟨0x243, 0x243, 1, 0x180⟩, ⟨0x244, 0x244, 1, 0x289⟩, ⟨0x245, 0x245, 1, 0x28c⟩,
   ⟨0x246, 0x24e, 2, 0x247⟩, ⟨0x370, 0x372, 2, 0x371⟩, ⟨0x376, 0x376, 1, 0x377⟩,
   ⟨0x37f, 0x37f, 1, 0x3f3⟩, ⟨0x386, 0x386, 1, 0x3ac⟩, ⟨0x388, 0x38a, 1, 0x3ad⟩,
   ⟨0x38c, 0x38c, 1, 0x3cc⟩, ⟨0x38e, 0x38f, 1, 0x3cd⟩, ⟨0x391, 0x3a1, 1, 0x3b1⟩,
   ⟨0x3a3, 0x3ab, 1, 0x3c3⟩, ⟨0x3cf, 0x3cf, 1, 0x3d7⟩, ⟨0x3d8, 0x3ee, 2, 0x3d9⟩,
   ⟨0x3f4, 0x3f4, 1, 0x3b8⟩, ⟨0x3f7, 0x3f7, 1, 0x3f8⟩, ⟨0x3f9, 0x3f9, 1, 0x3f2⟩,
   ⟨0x3fa, 0x3fa, 1, 0x3fb⟩, ⟨0x3fd, 0x3ff, 1, 0x37b⟩, ⟨0x400, 0x40f, 1, 0x450⟩,
   ⟨0x410, 0x42f, 1, 0x430⟩, ⟨0x460, 0x480, 2, 0x461⟩, ⟨0x48a, 0x4be, 2, 0x48b⟩,
   ⟨0x4c0, 0x4c0, 1, 0x4cf⟩, ⟨0x4c1, 0x4cd, 2, 0x4c2⟩, ⟨0x4d0, 0x52e, 2, 0x4d1⟩,
   ⟨0x531, 0x556, 1, 0x561⟩, ⟨0x10a0, 0x10c5, 1, 0x2d00⟩, ⟨0x10c7, 0x10c7, 1, 0x2d27⟩,
   ⟨0x10cd, 0x10cd, 1, 0x2d2d⟩, ⟨0x13a0, 0x13ef, 1, 0xab70⟩, ⟨0x13f0, 0x13f5, 1, 0x13f8⟩,
   ⟨0x1c89, 0x1c89, 1, 0x1c8a⟩, ⟨0x1c90, 0x1cba, 1, 0x10d0⟩, ⟨0x1cbd, 0x1cbf, 1, 0x10fd⟩,
   ⟨0x1e00, 0x1e94, 2, 0x1e01⟩, ⟨0x1e9e, 0x1e9e, 1, 0xdf⟩, ⟨0x1ea0, 0x1efe, 2, 0x1ea1⟩,
   ⟨0x1f08, 0x1f0f, 1, 0x1f00⟩, ⟨0x1f18, 0x1f1d, 1, 0x1f10⟩, ⟨0x1f28, 0x1f2f, 1, 0x1f20⟩,
   ⟨0x1f38, 0x1f3f, 1, 0x1f30⟩, ⟨0x1f48, 0x1f4d, 1, 0x1f40⟩, ⟨0x1f59, 0x1f5f, 2, 0x1f51⟩,
   ⟨0x1f68, 0x1f6f, 1, 0x1f60⟩, ⟨0x1f88, 0x1f8f, 1, 0x1f80⟩, ⟨0x1f98, 0x1f9f, 1, 0x1f90⟩,
   ⟨0x1fa8, 0x1faf, 1, 0x1fa0⟩, ⟨0x1fb8, 0x1fb9, 1, 0x1fb0⟩, ⟨0x1fba, 0x1fbb, 1, 0x1f70⟩,
   ⟨0x1fbc, 0x1fbc, 1, 0x1fb3⟩, ⟨0x1fc8, 0x1fcb, 1, 0x1f72⟩, ⟨0x1fcc, 0x1fcc, 1, 0x1fc3⟩,
   ⟨0x1fd8, 0x1fd9, 1, 0x1fd0⟩, ⟨0x1fda, 0x1fdb, 1, 0x1f76⟩, ⟨0x1fe8, 0x1fe9, 1, 0x1fe0⟩,
   ⟨0x1fea, 0x1feb, 1, 0x1f7a⟩, ⟨0x1fec, 0x1fec, 1, 0x1fe5⟩, ⟨0x1ff8, 0x1ff9, 1, 0x1f78⟩,
   ⟨0x1ffa, 0x1ffb, 1, 0x1f7c⟩, ⟨0x1ffc, 0x1ffc, 1, 0x1ff3⟩, ⟨0x2126, 0x2126, 1, 0x3c9⟩,
   ⟨0x212a, 0x212a, 1, 0x6b⟩, ⟨0x212b, 0x212b, 1, 0xe5⟩, ⟨0x2132, 0x2132, 1, 0x214e⟩,
   ⟨0x2160, 0x216f, 1, 0x2170⟩, ⟨0x2183, 0x2183, 1, 0x2184⟩, ⟨0x24b6, 0x24cf, 1, 0x24d0⟩,
   ⟨0x2c00, 0x2c2f, 1, 0x2c30⟩, ⟨0x2c60, 0x2c60, 1, 0x2c61⟩, ⟨0x2c62, 0x2c62, 1, 0x26b⟩,
   ⟨0x2c63, 0x2c63, 1, 0x1d7d⟩, ⟨0x2c64, 0x2c64, 1, 0x27d⟩, ⟨0x2c67, 0x2c6b, 2, 0x2c68⟩,
   ⟨0x2c6d, 0x2c6d, 1, 0x251⟩, ⟨0x2c6e, 0x2c6e, 1, 0x271⟩, ⟨0x2c6f, 0x2c6f, 1, 0x250⟩,
   ⟨0x2c70, 0x2c70, 1, 0x252⟩, ⟨0x2c72, 0x2c72, 1, 0x2c73⟩, ⟨0x2c75, 0x2c75, 1, 0x2c76⟩,
   ⟨0x2c7e, 0x2c7f, 1, 0x23f⟩, ⟨0x2c80, 0x2ce2, 2, 0x2c81⟩, ⟨0x2ceb, 0x2ced, 2, 0x2cec⟩,
   ⟨0x2cf2, 0x2cf2, 1, 0x2cf3⟩, ⟨0xa640, 0xa66c, 2, 0xa641⟩, ⟨0xa680, 0xa69a, 2, 0xa681⟩,
   ⟨0xa722, 0xa72e, 2, 0xa723⟩, ⟨0xa732, 0xa76e, 2, 0xa733⟩, ⟨0xa779, 0xa77b, 2, 0xa77a⟩,
   ⟨0xa77d, 0xa77d, 1, 0x1d79⟩, ⟨0xa77e, 0xa786, 2, 0xa77f⟩, ⟨0xa78b, 0xa78b, 1, 0xa78c⟩,
   ⟨0xa78d, 0xa78d, 1, 0x265⟩, ⟨0xa790, 0xa792, 2, 0xa791⟩, ⟨0xa796, 0xa7a8, 2, 0xa797⟩,
   ⟨0xa7aa, 0xa7aa, 1, 0x266⟩, ⟨0xa7ab, 0xa7ab, 1, 0x25c⟩, ⟨0xa7ac, 0xa7ac, 1, 0x261⟩,
   ⟨0xa7ad, 0xa7ad, 1, 0x26c⟩, ⟨0xa7ae, 0xa7ae, 1, 0x26a⟩, ⟨0xa7b0, 0xa7b0, 1, 0x29e⟩,
   ⟨0xa7b1, 0xa7b1, 1, 0x287⟩, ⟨0xa7b2, 0xa7b2, 1, 0x29d⟩, ⟨0xa7b3, 0xa7b3, 1, 0xab53⟩,
   ⟨0xa7b4, 0xa7c2, 2, 0xa7b5⟩, ⟨0xa7c4, 0xa7c4, 1, 0xa794⟩, ⟨0xa7c5, 0xa7c5, 1, 0x282⟩,
   ⟨0xa7c6, 0xa7c6, 1, 0x1d8e⟩, ⟨0xa7c7, 0xa7c9, 2, 0xa7c8⟩, ⟨0xa7cb, 0xa7cb, 1, 0x264⟩,
   ⟨0xa7cc, 0xa7da, 2, 0xa7cd⟩, ⟨0xa7dc, 0xa7dc, 1, 0x19b⟩, ⟨0xa7f5, 0xa7f5, 1, 0xa7f6⟩,
   ⟨0xff21, 0xff3a, 1, 0xff41⟩, ⟨0x10400, 0x10427, 1, 0x10428⟩, ⟨0x104b0, 0x104d3, 1, 0x104d8⟩,
   ⟨0x10570, 0x1057a, 1, 0x10597⟩, ⟨0x1057c, 0x1058a, 1, 0x105a3⟩, ⟨0x1058c, 0x10592, 1, 0x105b3⟩,
   ⟨0x10594, 0x10595, 1, 0x105bb⟩, ⟨0x10c80, 0x10cb2, 1, 0x10cc0⟩, ⟨0x10d50, 0x10d65, 1, 0x10d70⟩,
   ⟨0x118a0, 0x118bf, 1, 0x118c0⟩, ⟨0x16e40, 0x16e5f, 1, 0x16e60⟩, ⟨0x16ea0, 0x16eb8, 1, 0x16ebb⟩,
   ⟨0x1e900, 0x1e921, 1, 0x1e922⟩]

/-- This is the lower case of a character by itself; that of the dotted capital I is two
characters. -/
def smallLetters (char : Char) : List Char :=
  if char = '\u0130' then ['i', '\u0307']
  else
    match capitalRuns.find? (·.contains char) with
    | some run => [run.smallLetter char]
    | none => [char]

/-- A capital sigma has another small letter where it ends a word. Whether it does is told by a
rule from the text before it, with the nearest character first, and the text after it. -/
def lowerCaseFrom (endsWord : List Char → List Char → Bool) (before : List Char) :
    List Char → List Char
  | [] => []
  | char :: rest =>
      (if char = '\u03a3' ∧ endsWord before rest = true then ['\u03c2'] else smallLetters char) ++
        lowerCaseFrom endsWord (char :: before) rest

/-- This is the lower case of a text. -/
def lowerCase (endsWord : List Char → List Char → Bool) (text : String) : String :=
  String.ofList (lowerCaseFrom endsWord [] text.toList)

/-- A letter of ASCII is written small or as a capital. -/
def IsCaseOf (small char : Char) : Prop := char = small ∨ char = small.toUpper

instance (small char : Char) : Decidable (IsCaseOf small char) :=
  inferInstanceAs (Decidable (char = small ∨ char = small.toUpper))

/-- These are the small letters of ASCII but the one that the Kelvin sign has too. -/
def ownLetters : List Char := "abcdefghijlmnopqrstuvwxyz".toList

/-- The only characters of this lower case that are letters are those of the letters in either
case. -/
def Lowers (char : Char) (piece : List Char) : Prop :=
  (∃ low, piece = [low] ∧ ∀ small ∈ ownLetters, low = small ↔ IsCaseOf small char) ∨
    ∃ foreign ∈ piece, foreign ∉ ownLetters ∧ ∀ small ∈ ownLetters, ¬IsCaseOf small char

/-- A character beyond ASCII is no case of a letter. -/
theorem not_isCaseOf {char : Char} (beyond : 128 ≤ char.toNat) :
    ∀ small ∈ ownLetters, small ≠ char ∧ ¬IsCaseOf small char := by
  have checked : (ownLetters.all fun small =>
      decide (small.toNat < 128 ∧ small.toUpper.toNat < 128)) = true := by decide
  have ascii : ∀ small ∈ ownLetters, small.toNat < 128 ∧ small.toUpper.toNat < 128 := by
    simpa only [List.all_eq_true, decide_eq_true_eq] using checked
  intro small isLetter
  obtain ⟨low, high⟩ := ascii small isLetter
  have different : small ≠ char := by
    intro same
    rw [same] at low
    omega
  apply And.intro different
  intro isCase
  cases isCase with
  | inl same => exact different same.symm
  | inr same =>
      rw [← same] at high
      omega

/-- In ASCII, the lower case of a character is a letter when the character is a case of it. -/
theorem toLower_eq_iff {char : Char} (ascii : char.toNat < 128) :
    ∀ small ∈ ownLetters, char.toLower = small ↔ IsCaseOf small char := by
  have checked : ∀ code < 128, (ownLetters.all fun small =>
      decide ((Char.ofNat code).toLower = small ↔ IsCaseOf small (Char.ofNat code))) = true := by
    decide +kernel
  have letters := checked char.toNat ascii
  simpa only [List.all_eq_true, decide_eq_true_eq, Char.ofNat_toNat] using letters

/-- A character that is no letter is a lower case of any character beyond ASCII. -/
theorem Lowers.single {char low : Char} (beyond : 128 ≤ char.toNat)
    (foreign : low ∉ ownLetters) : Lowers char [low] := by
  refine .inl ⟨low, rfl, fun small isLetter => ?_⟩
  have noCase := (not_isCaseOf beyond small isLetter).2
  simp only [noCase, iff_false]
  intro same
  exact foreign (same ▸ isLetter)

/-- Apart from the capitals of ASCII and the Kelvin sign, no capital has a small letter in ASCII. -/
theorem capitalRuns_images : ∀ run ∈ capitalRuns,
    run = ⟨0x41, 0x5a, 1, 0x61⟩ ∨ run = ⟨0x212a, 0x212a, 1, 0x6b⟩ ∨
      128 ≤ run.small ∧ (run.small + (run.last - run.first) < 0xd800 ∨
        0xe000 ≤ run.small ∧ run.small + (run.last - run.first) < 0x110000) := by
  decide +kernel

/-- The small letter of a capital beyond ASCII is not in ASCII, or it is that of the Kelvin sign. -/
theorem smallLetter_foreign {run : CapitalRun} (isRun : run ∈ capitalRuns) {char : Char}
    (contained : run.contains char = true) (beyond : 128 ≤ char.toNat) :
    run.smallLetter char ∉ ownLetters := by
  simp only [CapitalRun.contains, Bool.and_eq_true, decide_eq_true_eq] at contained
  obtain ⟨⟨first, last⟩, -⟩ := contained
  obtain rfl | rfl | ⟨high, valid⟩ := capitalRuns_images run isRun
  case inl =>
      have within : char.toNat ≤ 0x5a := last
      omega
  case inr.inl =>
      have kelvin : char.toNat = 0x212a := Nat.le_antisymm last first
      rw [CapitalRun.smallLetter, kelvin]
      decide
  case inr.inr =>
      have isValid : (run.small + (char.toNat - run.first)).isValidChar := by
        unfold Nat.isValidChar
        omega
      have code : (run.smallLetter char).toNat = run.small + (char.toNat - run.first) := by
        rw [CapitalRun.smallLetter, Char.ofNat, dif_pos isValid]
        rfl
      intro isLetter
      exact (not_isCaseOf (by omega) _ isLetter).1 rfl

/-- The lower case of a character has a letter only when the character is a case of it. -/
theorem smallLetters_lowers (char : Char) : Lowers char (smallLetters char) := by
  by_cases ascii : char.toNat < 128
  case pos =>
      have codes : ∀ code < 128,
          smallLetters (Char.ofNat code) = [(Char.ofNat code).toLower] := by
        decide +kernel
      have single : smallLetters char = [char.toLower] := by
        simpa only [Char.ofNat_toNat] using codes char.toNat ascii
      exact .inl ⟨char.toLower, single, toLower_eq_iff ascii⟩
  case neg =>
      have beyond : 128 ≤ char.toNat := Nat.le_of_not_lt ascii
      unfold smallLetters
      split
      case isTrue =>
          refine .inr ⟨'\u0307', by simp, by decide, fun small isLetter => ?_⟩
          exact (not_isCaseOf beyond small isLetter).2
      case isFalse =>
          split
          case h_1 run found =>
              apply Lowers.single beyond
              have contained : run.contains char = true := by simpa using List.find?_some found
              exact smallLetter_foreign (List.mem_of_find?_eq_some found) contained beyond
          case h_2 =>
              apply Lowers.single beyond
              intro isLetter
              exact (not_isCaseOf beyond char isLetter).1 rfl

/-- Pieces of lower case spell a name exactly when the characters are cases of its letters. -/
theorem flatten_eq_iff {chars : List Char} {pieces : List (List Char)}
    (lowers : List.Forall₂ Lowers chars pieces) {name : List Char}
    (own : ∀ small ∈ name, small ∈ ownLetters) :
    pieces.flatten = name ↔ List.Forall₂ IsCaseOf name chars := by
  induction lowers generalizing name with
  | nil => cases name <;> simp
  | @cons char piece chars pieces first others ih =>
      cases name with
      | nil =>
          simp only [List.flatten_cons, List.append_eq_nil_iff, List.forall₂_nil_left_iff,
            reduceCtorEq, iff_false]
          intro empty
          rw [empty.1] at first
          simp [Lowers] at first
      | cons small name =>
          rw [List.forall_mem_cons] at own
          obtain ⟨isLetter, own⟩ := own
          rw [List.flatten_cons, List.forall₂_cons, ← ih own]
          obtain ⟨low, rfl, cases⟩ | ⟨foreign, inPiece, notLetter, noCase⟩ := first
          · rw [List.singleton_append, List.cons.injEq, cases small isLetter]
          · simp only [noCase small isLetter, false_and, iff_false]
            intro spelled
            have inName : foreign ∈ small :: name := by
              rw [← spelled]
              exact List.mem_append_left _ inPiece
            rw [List.mem_cons] at inName
            cases inName with
            | inl same => exact notLetter (same ▸ isLetter)
            | inr later => exact notLetter (own foreign later)

/-- The lower case of a text is made of that of its characters, whatever the rule for sigma is. -/
theorem lowerCaseFrom_pieces (endsWord : List Char → List Char → Bool)
    (before text : List Char) :
    ∃ pieces, lowerCaseFrom endsWord before text = pieces.flatten ∧
      List.Forall₂ Lowers text pieces := by
  induction text generalizing before with
  | nil => exact ⟨[], rfl, .nil⟩
  | cons char rest ih =>
      obtain ⟨pieces, spelled, lowers⟩ := ih (char :: before)
      rw [lowerCaseFrom, spelled]
      split
      case isTrue sigma =>
          have first : Lowers char ['\u03c2'] := by
            rw [sigma.1]
            exact .single (by decide) (by decide)
          exact ⟨['\u03c2'] :: pieces, rfl, .cons first lowers⟩
      case isFalse =>
          exact ⟨smallLetters char :: pieces, rfl, .cons (smallLetters_lowers char) lowers⟩

/-- The lower case of a text is a name exactly when the text is the name in some letter case. -/
theorem lowerCase_eq_iff (endsWord : List Char → List Char → Bool) (text : String) {name : String}
    (own : ∀ small ∈ name.toList, small ∈ ownLetters) :
    lowerCase endsWord text = name ↔ List.Forall₂ IsCaseOf name.toList text.toList := by
  obtain ⟨pieces, spelled, lowers⟩ := lowerCaseFrom_pieces endsWord [] text.toList
  rw [← flatten_eq_iff lowers own, lowerCase, spelled, ← String.toList_inj, String.toList_ofList]

end CourseAdvisor.Text
