namespace CourseFiles
namespace Punycode

def radix : Nat := 36
def firstBias : Nat := 72
def firstCode : Nat := 128

-- At which digits a distance ends: those below the threshold of their place.
def threshold (bias place : Nat) : Nat := max 1 (min 26 (place - bias))

def digit (n : Nat) : Char := if n < 26 then Char.ofNat (97 + n) else Char.ofNat (22 + n)

def value? (c : Char) : Option Nat :=
  if 'a' ≤ c && c ≤ 'z' then some (c.toNat - 97)
  else if c.isDigit then some (c.toNat - 22)
  else none

def scale (distance place : Nat) : Nat × Nat :=
  if 455 < distance then scale (distance / 35) (place + radix) else (distance, place)
termination_by distance
decreasing_by exact Nat.div_lt_self (by omega) (by omega)

-- The bias after a distance, `count` characters being there now.
def adapt (distance count : Nat) (first : Bool) : Nat :=
  let damped := if first then distance / 700 else distance / 2
  let (d, place) := scale (damped + damped / count) 0
  place + radix * d / (d + 38)

-- A distance in digits, the least place first.
def digits (bias place distance : Nat) : List Char :=
  let t := threshold bias place
  if distance < t then [digit distance]
  else
    digit (t + (distance - t) % (radix - t))
      :: digits bias (place + radix) ((distance - t) / (radix - t))
termination_by distance
decreasing_by
  have positive : 1 ≤ threshold bias place := Nat.le_max_left _ _
  exact Nat.lt_of_le_of_lt (Nat.div_le_self _ _) (by omega)

-- What has been written, the distance since then, the bias, and how many characters are done.
structure Written where
  text : List Char
  distance : Nat
  bias : Nat
  count : Nat

-- Passes one character of the text while those of one code are written.
def pass (ascii code : Nat) (w : Written) (c : Char) : Written :=
  if c.toNat < code then { w with distance := w.distance + 1 }
  else if c.toNat = code then
    { text := w.text ++ digits w.bias radix w.distance
      distance := 0
      bias := adapt w.distance (w.count + 1) (w.count == ascii)
      count := w.count + 1 }
  else w

-- Writes the characters of each code, the codes in increasing order.
def writeCodes (s : List Char) (ascii : Nat) : List Nat → Nat → Written → Written
  | [], _, w => w
  | code :: rest, next, w =>
    let w := s.foldl (pass ascii code) { w with distance := w.distance + (code - next) * (w.count + 1) }
    writeCodes s ascii rest (code + 1) { w with distance := w.distance + 1 }

def insertCode (n : Nat) : List Nat → List Nat
  | [] => [n]
  | m :: rest => if n < m then n :: m :: rest else if n = m then m :: rest else m :: insertCode n rest

def isAscii (c : Char) : Bool := c.toNat < firstCode

def encode (s : List Char) : List Char :=
  let ascii := s.filter isAscii
  let codes := (s.filter (!isAscii ·)).foldr (fun c codes => insertCode c.toNat codes) []
  let w := writeCodes s ascii.length codes firstCode ⟨[], 0, firstBias, ascii.length⟩
  (if ascii.isEmpty then [] else ascii ++ ['-']) ++ w.text

-- Reads a distance, and gives what follows it.
def readDistance (bias : Nat) : Nat → Nat → Nat → List Char → Option (Nat × List Char)
  | _, _, _, [] => none
  | place, weight, sum, c :: rest => do
    let d ← value? c
    let t := threshold bias place
    if d < t then some (sum + d * weight, rest)
    else readDistance bias (place + radix) (weight * (radix - t)) (sum + d * weight) rest

-- Puts in one character for each distance. Every round reads at least one digit.
def insertAll : Nat → List Char → Nat → Nat → Nat → Bool → List Char → Option (List Char)
  | _, text, _, _, _, _, [] => some text
  | 0, _, _, _, _, _, _ => none
  | rounds + 1, text, code, place, bias, first, s => do
    let (distance, rest) ← readDistance bias radix 1 0 s
    let count := text.length + 1
    let code := code + (place + distance) / count
    let place := (place + distance) % count
    if code.isValidChar then
      insertAll rounds (text.take place ++ Char.ofNat code :: text.drop place) code (place + 1)
        (adapt distance count first) false rest
    else none

-- The part before the last hyphen and the part after it. A hyphen at the front ends nothing.
def halves (s : List Char) : List Char × List Char :=
  let tail := (s.reverse.takeWhile (· != '-')).reverse
  let front := s.take (s.length - tail.length - 1)
  if front.isEmpty then ([], s) else (front, tail)

def decode? (s : List Char) : Option (List Char) :=
  let (ascii, rest) := halves s
  if s.all isAscii then insertAll rest.length ascii firstCode 0 firstBias true rest else none

end Punycode
end CourseFiles
