import CourseFiles.Json.Reader

namespace CourseFiles
namespace Reader

def greatestWord : Nat := Nat.pow 2 64 - 1

-- Exponents are counted up to this; beyond it a number is too large or zero.
def greatestScale : Nat := Nat.pow 2 31 - 1

-- Appends digits while the number fits a word: the number, how many were taken, how many were not.
def gather (most : Nat) : Nat → List Nat → Nat × Nat × Nat
  | n, [] => (n, 0, 0)
  | n, d :: ds =>
    if most < n * 10 + d then (n, 0, ds.length + 1)
    else
      let (m, taken, left) := gather most (n * 10 + d) ds
      (m, taken + 1, left)

def signed (negative : Bool) (x : Binary64) : Binary64 := if negative then x.negate else x

-- `significand · 10 ^ scale` as a float.
def floatOf (negative : Bool) (significand : Nat) (scale : Int) : Reader Binary64 := do
  match (Binary64.ofNat significand).bind (·.scaleByTen scale) with
  | some x => return signed negative x
  | none => fail .numberTooLarge

-- A scale too long to count: zero stays zero, a negative scale makes zero, all else is too large.
def endlessScale (negative zero down : Bool) (left : Nat) : Reader Binary64 := do
  if !zero && !down then
    -- the digit that was one too many is the last one read
    throw ⟨.grammar .numberTooLarge, some ((← place).offset - (left - 1))⟩
  else return Binary64.zero negative

def exponentPart (negative : Bool) (significand : Nat) (scale : Int) : Reader Binary64 := do
  advance
  let mark ← peek
  if mark = some '+' || mark = some '-' then advance
  let down := mark = some '-'
  match ← peek with
  | none => fail .endInValue
  | some _ => do
    let run ← digitRun
    if run.isEmpty then
      advance
      fail .badNumber
    else
      let (e, _, left) := gather greatestScale 0 run
      if left = 0 then floatOf negative significand (if down then scale - e else scale + e)
      else endlessScale negative (significand == 0) down left

def isExponentMark (c : Option Char) : Bool := c = some 'e' || c = some 'E'

def decimalPart (negative : Bool) (significand : Nat) (scale : Int) : Reader Binary64 := do
  advance
  let run ← digitRun
  if run.isEmpty then
    match ← peek with
    | some _ => failNext .badNumber
    | none => failNext .endInValue
  else
    let (m, taken, _) := gather greatestWord significand run
    if isExponentMark (← peek) then exponentPart negative m (scale - taken)
    else floatOf negative m (scale - taken)

-- A numeral whose sign has been read.
def numeral (negative : Bool) : Reader Number := do
  let first ← peek
  let run ← digitRun
  match first, run with
  | none, _ => fail .endInValue
  | some _, [] => do
    advance
    fail .badNumber
  | some _, 0 :: _ :: _ => do
    -- a leading zero stands alone: back to the second digit
    throw ⟨.grammar .badNumber, some ((← place).offset - run.length + 2)⟩
  | some _, run => do
    let (n, _, left) := gather greatestWord 0 run
    match ← peek with
    | some '.' => return .float (← decimalPart negative n left)
    | c =>
      if isExponentMark c then return .float (← exponentPart negative n left)
      else if left ≠ 0 then return .float (← floatOf negative n left)
      else if !negative then return .whole n
      else if n = 0 || Nat.pow 2 63 < n then return .float (← floatOf true n 0)
      else return .whole (-(n : Int))

def skipExponent : Reader Unit := do
  advance
  let mark ← peek
  if mark = some '+' || mark = some '-' then advance
  let run ← digitRun
  if run.isEmpty then
    advance
    fail .badNumber

def skipDecimal : Reader Unit := do
  advance
  let run ← digitRun
  if run.isEmpty then failNext .badNumber
  if isExponentMark (← peek) then skipExponent

def skipNumeral : Reader Unit := do
  let run ← digitRun
  match run with
  | [] => do
    advance
    fail .badNumber
  | 0 :: _ :: _ => throw ⟨.grammar .badNumber, some ((← place).offset - run.length + 2)⟩
  | _ => do
    match ← peek with
    | some '.' => skipDecimal
    | c => if isExponentMark c then skipExponent

end Reader
end CourseFiles
