namespace CourseFiles

-- The number `±significand · 2 ^ exponent`.
structure Binary64 where
  negative : Bool
  significand : Nat
  exponent : Int
deriving DecidableEq

namespace Binary64

-- The exponents of the smallest and of the largest step between neighbours.
def leastExponent : Int := -1074
def greatestExponent : Int := 971
def precision : Nat := 53

def zero (negative : Bool) : Binary64 := ⟨negative, 0, leastExponent⟩

def isZero (x : Binary64) : Bool := x.significand == 0

def negate (x : Binary64) : Binary64 := { x with negative := !x.negative }

-- Both zeros are one number; all else is equal when its three parts are.
def same (x y : Binary64) : Bool := x == y || (x.isZero && y.isZero)

-- A quotient rounded to the nearest whole number, a tie to the even one.
def roundQuotient (num den : Nat) : Nat :=
  let q := num / den
  let twice := 2 * (num % den)
  if den < twice || (den == twice && q % 2 == 1) then q + 1 else q

-- `num · 2 ^ (-e) / den` as a pair, with no negative power left.
def shifted (num den : Nat) (e : Int) : Nat × Nat :=
  if e < 0 then (num * Nat.pow 2 e.natAbs, den) else (num, den * Nat.pow 2 e.natAbs)

-- The power of two just below or at `num / den`, for two numbers that are not zero.
def magnitude (num den : Nat) : Int :=
  let guess : Int := (num.log2 : Int) - (den.log2 : Int)
  let scaled := shifted num den guess
  if scaled.1 < scaled.2 then guess - 1 else guess

-- The number nearest to `num / den`; none when it is beyond the largest.
def ofRatio (negative : Bool) (num den : Nat) : Option Binary64 :=
  if num = 0 then some (zero negative)
  else
    let e := max (magnitude num den - (precision - 1 : Nat)) leastExponent
    let scaled := shifted num den e
    let s := roundQuotient scaled.1 scaled.2
    let rounded : Nat × Int := if s = Nat.pow 2 precision then (Nat.pow 2 (precision - 1), e + 1) else (s, e)
    if rounded.2 > greatestExponent then none else some ⟨negative, rounded.1, rounded.2⟩

def ratio (x : Binary64) : Nat × Nat :=
  if x.exponent < 0 then (x.significand, Nat.pow 2 x.exponent.natAbs)
  else (x.significand * Nat.pow 2 x.exponent.natAbs, 1)

def mul (x y : Binary64) : Option Binary64 :=
  let a := x.ratio
  let b := y.ratio
  ofRatio (x.negative != y.negative) (a.1 * b.1) (a.2 * b.2)

def div (x y : Binary64) : Option Binary64 :=
  let a := x.ratio
  let b := y.ratio
  ofRatio (x.negative != y.negative) (a.1 * b.2) (a.2 * b.1)

def ofNat (n : Nat) : Option Binary64 := ofRatio false n 1

def powerOfTen (n : Nat) : Binary64 := (ofRatio false (Nat.pow 10 n) 1).getD (zero false)

-- `x · 10 ^ e` by one multiplication or division with a rounded power of ten, after as many divisions
-- by `10 ^ (top + 1)` as it takes to bring the exponent to at most `top + 1`.
def scaleWithin (top : Nat) (x : Binary64) (e : Int) : Option Binary64 :=
  if e.natAbs ≤ top + 1 then
    if 0 ≤ e then x.mul (powerOfTen e.natAbs) else x.div (powerOfTen e.natAbs)
  else if x.isZero then some x
  else if 0 ≤ e then none
  else
    match x.div (powerOfTen (top + 1)) with
    | some y => scaleWithin top y (e + (top + 1 : Nat))
    | none => none
termination_by e.natAbs
decreasing_by omega

-- The largest power of ten that is a finite number has exponent 308.
def scaleByTen (x : Binary64) (e : Int) : Option Binary64 := scaleWithin 307 x e

end Binary64
end CourseFiles
