import CourseFiles.Text.Composition
import CourseFiles.Url.DomainClasses
import CourseFiles.Url.DomainTables
import CourseFiles.Url.Form
import CourseFiles.Url.Punycode

namespace CourseFiles
namespace Domain

-- Characters that no host name holds, once it has been mapped.
def isForbidden (c : Char) : Bool :=
  c.toNat ≤ 32 || c.toNat = 127 || "%#/:<>?@[\\]^|".toList.contains c

def within (ranges : List (Nat × Nat)) (c : Char) : Bool :=
  ranges.any fun r => r.1 ≤ c.toNat && c.toNat ≤ r.2

def shifted? (c : Char) : Option Char :=
  (shiftedRanges.find? fun (low, high, step, _) =>
    low ≤ c.toNat && c.toNat ≤ high && (c.toNat - low) % step = 0).map
      fun (low, _, _, target) => Char.ofNat (target + (c.toNat - low))

def replacement? (c : Char) : Option (List Char) :=
  replacedWords.findSome? fun line =>
    (Form.split ' ' line.toList).findSome? fun word => if word.head? = some c then some word.tail else none

-- What a character becomes; none if it may not stand in a name.
def mapped? (c : Char) : Option (List Char) :=
  match shifted? c with
  | some d => some [d]
  | none =>
    if Punycode.isAscii c then some [c]
    else if within droppedRanges c then some []
    else if within refusedRanges c then none
    else some ((replacement? c).getD [c])

def isKept (c : Char) : Bool := mapped? c == some [c]

-- The rule for the two invisible joiners, given what stands before, nearest first, and after.

def virama : Nat := 9

def afterVirama (before : List Char) : Bool := before.head?.any fun c => Text.markClass c = virama

def joinsAcross (before after : List Char) : Bool :=
  let left := (before.dropWhile (within marks)).head?
  let right := (after.dropWhile (within marks)).head?
  left.any (fun c => within joinsBoth c || within joinsLeft c)
    && right.any fun c => within joinsBoth c || within joinsRight c

def joinersFit (before : List Char) : List Char → Bool
  | [] => true
  | c :: after =>
    (if c = '\u200C' then afterVirama before || joinsAcross before after
      else if c = '\u200D' then afterVirama before
      else true)
    && joinersFit (c :: before) after

def isMark (c : Char) : Bool := within marks c || within spacingMarks c

-- What a label may hold: nothing that would have been mapped, no mark at the front, no stray joiner.
def isLabel (s : List Char) : Bool :=
  s.all isKept && !s.head?.any isMark && joinersFit [] s

-- Names with letters from right to left keep to one direction in each label.

def isRightward (c : Char) : Bool :=
  !(within rightToLeft c || within arabicNumbers c || within europeanNumbers c || within nearNumbers c
    || within neutral c || within marks c)

def isBetween (c : Char) : Bool := within nearNumbers c || within neutral c || within marks c

def lastOf (s : List Char) : Option Char := (s.reverse.dropWhile (within marks)).head?

def isLeftwardLabel (s : List Char) : Bool :=
  s.all (fun c => within rightToLeft c || within arabicNumbers c || within europeanNumbers c || isBetween c)
    && (lastOf s).any (fun c => within rightToLeft c || within arabicNumbers c || within europeanNumbers c)
    && !(s.any (within arabicNumbers) && s.any (within europeanNumbers))

def isRightwardLabel (s : List Char) : Bool :=
  s.all (fun c => isRightward c || within europeanNumbers c || isBetween c)
    && (lastOf s).any fun c => isRightward c || within europeanNumbers c

def keepsDirection (s : List Char) : Bool :=
  match s.head? with
  | none => true
  | some c => if within rightToLeft c then isLeftwardLabel s else isRightward c && isRightwardLabel s

def hasLeftward (s : List Char) : Bool := s.any fun c => within rightToLeft c || within arabicNumbers c

-- A label, in what it shows and in what is written.
structure Label where
  shown : List Char
  written : List Char

def mark : List Char := ['x', 'n', '-', '-']

def label? (s : List Char) : Option Label :=
  if mark.isPrefixOf s then do
    let shown ← Punycode.decode? (s.drop mark.length)
    if !shown.all Punycode.isAscii && isLabel shown && Text.composed shown == shown then some ⟨shown, s⟩
    else none
  else if s.all Punycode.isAscii then some ⟨s, s⟩
  else if isLabel s then some ⟨s, mark ++ Punycode.encode s⟩
  else none

-- The name that is used on the wire; none for bytes that are no name.
def toAscii? (bytes : List UInt8) : Option (List Char) := do
  let parts ← (← Utf8.decode? bytes).mapM mapped?
  let name := Text.composed parts.flatten
  if name.any isForbidden then none
  else
    let labels ← (Form.split '.' name).mapM label?
    if labels.any (fun l => hasLeftward l.shown) && !labels.all (fun l => keepsDirection l.shown) then none
    else some (['.'].intercalate (labels.map (·.written)))

end Domain
end CourseFiles
