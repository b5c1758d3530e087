import OciCompose.Text.Composite
import OciCompose.Text.Mark

/-
  The composed form of texts: characters that look the same in any order of their marks, or with a
  mark of their own, become one.
  A text is taken apart, its marks are put in the order of their classes, and it is composed again.
-/

namespace OciCompose.Text

/-! ## Hangul syllables -/

namespace Hangul

/-- A leading consonant, a vowel and maybe a trailing consonant make a syllable. Syllables are in the
    order of their parts. -/
def firstSyllable : Nat := 0xAC00

def firstLead : Nat := 0x1100

def firstVowel : Nat := 0x1161

/-- The code point before that of the first trailing consonant. -/
def noTrail : Nat := 0x11A7

def leads : Nat := 19

def vowels : Nat := 21

/-- The number of trailing consonants and of none. -/
def trails : Nat := 28

def isSyllable (n : Nat) : Bool :=
  firstSyllable ≤ n && n < firstSyllable + leads * vowels * trails

/-- The parts of a syllable. -/
def parts (n : Nat) : List Nat :=
  let i := n - firstSyllable
  [firstLead + i / (vowels * trails), firstVowel + i / trails % vowels] ++
    if i % trails = 0 then [] else [noTrail + i % trails]

/-- The syllable of a lead and a vowel, or of a syllable without trail and one. -/
def compose? (a b : Nat) : Option Nat :=
  if firstLead ≤ a && a < firstLead + leads && firstVowel ≤ b && b < firstVowel + vowels then
    some (firstSyllable + ((a - firstLead) * vowels + (b - firstVowel)) * trails)
  else if isSyllable a && (a - firstSyllable) % trails == 0 && noTrail < b && b < noTrail + trails then
    some (a + (b - noTrail))
  else none

end Hangul

/-! ## Taking apart -/

/-- The parts of a character, which may be composite themselves `depth` times. -/
def partsOf : Nat → Char → List Char
  | 0, c => [c]
  | depth + 1, c =>
    match composites.find? fun x => x.whole == c with
    | some x => partsOf depth x.first ++ [x.second]
    | none => [c]

/-- All parts of a character. No composite has more than four. -/
def decompose (c : Char) : List Char :=
  if c.toNat < 0x80 then [c]
  else if Hangul.isSyllable c.toNat then (Hangul.parts c.toNat).map Char.ofNat
  else partsOf 3 c

/-- Puts a mark before marks in order; one of a higher class stays behind those of a lower one. -/
def placeMark (c : Char) : List Char → List Char
  | [] => [c]
  | d :: ds =>
    if combiningClass d ≠ 0 ∧ combiningClass d < combiningClass c then d :: placeMark c ds
    else c :: d :: ds

/-- Puts all marks in the order of their classes. -/
def orderMarks : List Char → List Char
  | [] => []
  | c :: cs => placeMark c (orderMarks cs)

/-! ## Composing -/

/-- The composite of two characters. Nothing below U+0300 combines with a character before it. -/
def compose? (a b : Char) : Option Char :=
  if b.toNat < 0x300 then none
  else
    match Hangul.compose? a.toNat b.toNat with
    | some n => some (Char.ofNat n)
    | none => (composites.find? fun x => x.first == a && x.second == b).map Composite.whole

/-- Composes what follows a character and the marks that stay behind it. A mark combines unless
    another one of its class or a higher one stands between. -/
def composeBehind (start : Char) (marks : List Char) : List Char → List Char
  | [] => start :: marks
  | c :: cs =>
    let free := marks.getLast?.all fun m => combiningClass m < combiningClass c
    match if free then compose? start c else none with
    | some whole => composeBehind whole marks cs
    | none =>
      if combiningClass c = 0 then start :: marks ++ composeBehind c [] cs
      else composeBehind start (marks ++ [c]) cs

/-- Composes an ordered text. -/
def compose : List Char → List Char
  | [] => []
  | c :: cs => if combiningClass c = 0 then composeBehind c [] cs else c :: compose cs

/-- The composed form of a text. -/
def composed (s : List Char) : List Char := compose (orderMarks (s.flatMap decompose))

end OciCompose.Text
