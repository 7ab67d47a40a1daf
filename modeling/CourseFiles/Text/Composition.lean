import CourseFiles.Text.CompositionTables

namespace CourseFiles
namespace Text

-- The class of a mark; zero for all that is not one.
def markClass (c : Char) : Nat :=
  ((markClasses.find? fun r => r.1 ≤ c.toNat && c.toNat ≤ r.2.1).map fun r => r.2.2).getD 0

-- Korean syllables are made of two or three parts by arithmetic.

def firstSyllable : Nat := 0xAC00
def firstLead : Nat := 0x1100
def firstVowel : Nat := 0x1161
-- the number before that of the first tail
def beforeTails : Nat := 0x11A7
def vowelCount : Nat := 21
def tailCount : Nat := 28
def leadCount : Nat := 19

def syllable? (a b : Nat) : Option Nat :=
  if firstLead ≤ a && a < firstLead + leadCount && firstVowel ≤ b && b < firstVowel + vowelCount then
    some (firstSyllable + ((a - firstLead) * vowelCount + (b - firstVowel)) * tailCount)
  else if firstSyllable ≤ a && a < firstSyllable + leadCount * vowelCount * tailCount
      && (a - firstSyllable) % tailCount = 0 && beforeTails < b && b < beforeTails + tailCount then
    some (a + (b - beforeTails))
  else none

def partsOfSyllable? (n : Nat) : Option (Nat × Nat) :=
  if firstSyllable ≤ n && n < firstSyllable + leadCount * vowelCount * tailCount then
    let i := n - firstSyllable
    if i % tailCount = 0 then some (firstLead + i / tailCount / vowelCount, firstVowel + i / tailCount % vowelCount)
    else some (n - i % tailCount, beforeTails + i % tailCount)
  else none

def composed? (a b : Char) : Option Char :=
  match syllable? a.toNat b.toNat with
  | some n => some (Char.ofNat n)
  | none =>
    (composedPairs.find? fun p => p.1 = a.toNat && p.2.1 = b.toNat).map fun p => Char.ofNat p.2.2

def parts? (c : Char) : Option (Char × Char) :=
  match partsOfSyllable? c.toNat with
  | some (a, b) => some (Char.ofNat a, Char.ofNat b)
  | none =>
    (composedPairs.find? fun p => p.2.2 = c.toNat).map fun p => (Char.ofNat p.1, Char.ofNat p.2.1)

-- Takes a character apart; no character hides more parts than the given depth.
def apart : Nat → Char → List Char
  | 0, c => [c]
  | depth + 1, c =>
    match parts? c with
    | some (a, b) => apart depth a ++ [b]
    | none => [c]

def deepestParts : Nat := 4

-- Puts a mark behind those of its class and of lower classes.
def placeMark (c : Char) : List Char → List Char
  | [] => [c]
  | d :: rest => if markClass c < markClass d then c :: d :: rest else d :: placeMark c rest

-- Marks in the order of their classes; only marks that follow each other change places.
def ordered : List Char → List Char → List Char
  | marks, [] => marks
  | marks, c :: rest =>
    if markClass c = 0 then marks ++ c :: ordered [] rest else ordered (placeMark c marks) rest

-- Puts a character together with those after it. `marks` holds, last first, what stands between and did
-- not join; the class of the last of them hides others of that class.
def joined (c : Char) (marks : List Char) : List Char → List Char
  | [] => c :: marks.reverse
  | d :: rest =>
    let hidden := marks.head?.any fun m => markClass d ≤ markClass m
    match (if hidden then none else composed? c d) with
    | some e => joined e marks rest
    | none =>
      if markClass d = 0 then c :: marks.reverse ++ joined d [] rest else joined c (d :: marks) rest

def composed (s : List Char) : List Char :=
  let s := ordered [] (s.flatMap (apart deepestParts))
  s.takeWhile (markClass · != 0)
    ++ match s.dropWhile (markClass · != 0) with
      | [] => []
      | c :: rest => joined c [] rest

end Text
end CourseFiles
