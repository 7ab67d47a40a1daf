import CourseFiles.Decimal.Binary64

namespace CourseFiles
namespace Decimal

-- Decimal digits of a whole number, most significant first.
def digits (n : Nat) : List Char := Nat.toDigits 10 n

-- The exponent `k` with `10 ^ k ≤ num / den < 10 ^ (k + 1)`, for numbers that are not zero.
def exponent (num den : Nat) : Int :=
  if den ≤ num then ((digits (num / den)).length : Int) - 1
  else
    let count := (digits (den / num)).length
    if num * Nat.pow 10 (count - 1) = den then 1 - (count : Int) else -(count : Int)

-- The ratios between which every number rounds to `x`, and whether the ends do too.
structure Interval where
  low : Nat × Nat
  high : Nat × Nat
  closed : Bool

-- The gap below a power of two is half the gap above it.
def interval (x : Binary64) : Interval :=
  let unit := fun (n : Nat) (e : Int) => Binary64.ratio ⟨false, n, e⟩
  let narrow := x.significand = Nat.pow 2 (Binary64.precision - 1) ∧ Binary64.leastExponent < x.exponent
  { low := if narrow then unit (4 * x.significand - 1) (x.exponent - 2)
           else unit (2 * x.significand - 1) (x.exponent - 1)
    high := unit (2 * x.significand + 1) (x.exponent - 1)
    closed := x.significand % 2 = 0 }

-- `c · 10 ^ u` as a ratio.
def gridPoint (c : Nat) (u : Int) : Nat × Nat :=
  if u < 0 then (c, Nat.pow 10 u.natAbs) else (c * Nat.pow 10 u.natAbs, 1)

def Interval.holds (i : Interval) (p : Nat × Nat) : Bool :=
  let below := i.low.1 * p.2
  let mine := p.1 * i.low.2
  let mine2 := p.1 * i.high.2
  let above := i.high.1 * p.2
  if i.closed then below ≤ mine && mine2 ≤ above else below < mine && mine2 < above

-- Twice the value against the sum of the two neighbours decides which is nearer.
def nearer (v : Nat × Nat) (c : Nat) (u : Int) : Nat :=
  let middle := gridPoint (2 * c + 1) u
  let mine := 2 * v.1 * middle.2
  let sum := middle.1 * v.2
  if mine < sum then c else if sum < mine then c + 1 else if c % 2 = 0 then c else c + 1

-- The point of the grid of `n` digits that reads back, if there is one.
def onGrid (i : Interval) (v : Nat × Nat) (k : Int) (n : Nat) : Option (Nat × Int) :=
  let u := k - (n : Int) + 1
  let unit := gridPoint 1 u
  let c := v.1 * unit.2 / (v.2 * unit.1)
  match i.holds (gridPoint c u), i.holds (gridPoint (c + 1) u) with
  | true, true => some (nearer v c u, u)
  | true, false => some (c, u)
  | false, true => some (c + 1, u)
  | false, false => none

-- Digits and exponent of the first digit, by the shortest grid that holds a point.
def shortest (x : Binary64) : List Char × Int :=
  let v := x.ratio
  let k := exponent v.1 v.2
  let i := interval x
  let found := (List.range 17).findSome? fun n => onGrid i v k (n + 1)
  let point := found.getD (0, 0)
  let ds := digits point.1
  ((ds.reverse.dropWhile (· == '0')).reverse, point.2 + (ds.length : Int) - 1)

-- How a decimal is laid out: exponents from `least` to `greatest` are written positionally, with at
-- least one digit after the point; others with a signed exponent of at least `width` digits.
structure Layout where
  least : Int
  greatest : Int
  width : Nat

def zeros (n : Nat) : List Char := List.replicate n '0'

def Layout.write (l : Layout) (ds : List Char) (k : Int) : List Char :=
  if 0 ≤ k && k ≤ l.greatest then
    let whole := k.natAbs + 1
    let front := ds.take whole
    let back := ds.drop whole
    front ++ zeros (whole - front.length) ++ '.' :: (if back.isEmpty then ['0'] else back)
  else if l.least ≤ k && k < 0 then
    '0' :: '.' :: zeros (k.natAbs - 1) ++ ds
  else
    let rest := ds.drop 1
    let mantissa := ds.take 1 ++ (if rest.isEmpty then [] else '.' :: rest)
    let e := digits k.natAbs
    mantissa ++ 'e' :: (if 0 ≤ k then '+' else '-') :: zeros (l.width - e.length) ++ e

end Decimal

-- Numbers from `1e-5` up to `1e16` are written positionally.
def Binary64.layout : Decimal.Layout := ⟨-5, 15, 2⟩

def Binary64.text (x : Binary64) : List Char :=
  let body :=
    if x.isZero then ['0', '.', '0']
    else
      let d := Decimal.shortest x
      Binary64.layout.write d.1 d.2
  if x.negative then '-' :: body else body

end CourseFiles
