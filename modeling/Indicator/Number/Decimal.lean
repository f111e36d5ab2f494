import Indicator.Number.Binary64

/-!
# Decimal text of doubles

A double is written with the fewest decimal digits that read back as the same double, or with six
significant digits. The digits are found in exact arithmetic; where they are laid out as a plain
number and where with an exponent is a record.
-/

namespace Indicator.Number

/-- The number `digits · 10 ^ scale`, whose last digit is not zero unless it is zero. -/
structure Decimal where
  digits : Nat
  scale : Int
deriving DecidableEq, Repr

def digitCount (n : Nat) : Nat := (Nat.toDigits 10 n).length

/-- A decimal without zeros at the end of its digits. The fuel bounds the count of zeros. -/
def dropZeros : Nat → Nat → Int → Decimal
  | 0, digits, scale => ⟨digits, scale⟩
  | fuel + 1, digits, scale =>
    if digits ≠ 0 ∧ digits % 10 = 0 then dropZeros fuel (digits / 10) (scale + 1)
    else ⟨digits, scale⟩

/-- The least `j` with `n ≤ 10 ^ j`, for `n` above zero. -/
def powerAbove (n : Nat) : Nat :=
  if n ≤ 1 then 0 else digitCount (n - 1)

/-- The `e` with `10 ^ e ≤ num / den < 10 ^ (e + 1)`. -/
def leadingPower (num den : Nat) : Int :=
  if den ≤ num then digitCount (num / den) - 1
  else -(powerAbove ((den + num - 1) / num) : Int)

/-- `num / den` in units of `10 ^ scale`, as a numerator and a denominator. -/
def inUnits (num den : Nat) (scale : Int) : Nat × Nat :=
  if 0 ≤ scale then (num, den * Nat.pow 10 scale.toNat) else (num * Nat.pow 10 (-scale).toNat, den)

/-! ### The fewest digits that read back -/

/-- The reals that round to one double, in quarters of its last place: the value is `4 m`, the
ends belong to it iff `m` is even, and the lower end is nearer where `m` is a power of two. -/
structure Rounding where
  m : Nat
  q : Int

def Rounding.lower (r : Rounding) : Nat :=
  if r.m = Nat.pow 2 52 ∧ r.q ≠ -1074 then 4 * r.m - 1 else 4 * r.m - 2

def Rounding.upper (r : Rounding) : Nat := 4 * r.m + 2

/-- Whether `digits · 10 ^ scale` rounds to the double. -/
def Rounding.holds (r : Rounding) (digits : Nat) (scale : Int) : Bool :=
  let (unitNum, unitDen) := ratioOf 1 (r.q - 2)
  let (num, den) :=
    if 0 ≤ scale then (digits * Nat.pow 10 scale.toNat, 1)
    else (digits, Nat.pow 10 (-scale).toNat)
  let place := num * unitDen
  let low := r.lower * unitNum * den
  let high := r.upper * unitNum * den
  if r.m % 2 = 0 then low ≤ place && place ≤ high else low < place && place < high

/-- The nearest decimal of `count` digits that reads back, if there is one. -/
def Rounding.withDigits? (r : Rounding) (count : Nat) : Option (Nat × Int) :=
  let (num, den) := ratioOf r.m r.q
  let scale := leadingPower num den - (count - 1)
  let (n, d) := inUnits num den scale
  let below := n / d
  let fits := r.holds below scale
  let aboveFits := r.holds (below + 1) scale
  let aboveNearer := 2 * (n % d) > d || (2 * (n % d) = d && below % 2 = 1)
  if fits && !(aboveFits && aboveNearer) then some (below, scale)
  else if aboveFits then some (below + 1, scale)
  else none

/-- The decimal with the fewest digits that reads back. -/
def shortest (m : Nat) (q : Int) : Decimal :=
  if m = 0 then ⟨0, 0⟩
  else match (List.range 17).findSome? fun i => Rounding.withDigits? ⟨m, q⟩ (i + 1) with
    | some (digits, scale) => dropZeros 20 digits scale
    | none => ⟨m, q⟩

/-! ### A fixed count of significant digits -/

/-- The decimal of `count` digits nearest to `m · 2 ^ q`; a half goes to the even neighbour. -/
def significant (count m : Nat) (q : Int) : Decimal :=
  if m = 0 then ⟨0, 0⟩
  else
    let (num, den) := ratioOf m q
    let scale := leadingPower num den - (count - 1)
    let (n, d) := inUnits num den scale
    let below := n / d
    let up := 2 * (n % d) > d || (2 * (n % d) = d && below % 2 = 1)
    dropZeros (count + 1) (if up then below + 1 else below) scale

/-! ### Layout -/

/-- Where a decimal is written with an exponent: outside of the powers from `lowestPlain` up to,
not including, `plainBelow`. With `keepsFraction`, a plain whole number ends in `.0`. -/
structure Layout where
  lowestPlain : Int
  plainBelow : Int
  keepsFraction : Bool

/-- Doubles as they stand in data: plain from `1e-4` up to `1e16`, and never without a fraction. -/
def Layout.data : Layout := ⟨-4, 16, true⟩

/-- Doubles in six significant digits: plain from `1e-4` up to `1e6`. -/
def Layout.brief : Layout := ⟨-4, 6, false⟩

/-- An exponent with its sign and at least two digits. -/
def exponentText (power : Int) : String :=
  let digits := (Nat.toDigits 10 power.natAbs)
  (if power < 0 then "e-" else "e+") ++
    String.ofList (if digits.length < 2 then '0' :: digits else digits)

/-- A decimal without its sign. -/
def Layout.write (layout : Layout) (x : Decimal) : String :=
  let digits := Nat.toDigits 10 x.digits
  let power : Int := x.scale + (digits.length - 1)
  if layout.lowestPlain ≤ power ∧ power < layout.plainBelow then
    if 0 ≤ x.scale then
      String.ofList (digits ++ List.replicate x.scale.toNat '0') ++
        (if layout.keepsFraction then ".0" else "")
    else if 0 ≤ power then
      String.ofList (digits.take (power.toNat + 1) ++ '.' :: digits.drop (power.toNat + 1))
    else
      String.ofList ('0' :: '.' :: List.replicate ((-power).toNat - 1) '0' ++ digits)
  else
    match digits with
    | [] => ""
    | first :: [] => String.ofList [first] ++ exponentText power
    | first :: rest => String.ofList (first :: '.' :: rest) ++ exponentText power

/-- A double through a choice of its digits. -/
def Layout.floatText (layout : Layout) (digitsOf : Nat → Int → Decimal) (x : Float) : String :=
  match Binary64.ofFloat x with
  | .nan => "nan"
  | .infinite negative => if negative then "-inf" else "inf"
  | .finite negative m q => (if negative then "-" else "") ++ layout.write (digitsOf m q)

/-- The shortest text that reads back as the double. -/
def floatText (x : Float) : String := Layout.data.floatText shortest x

/-- A double in at most six significant digits. -/
def briefText (x : Float) : String := Layout.brief.floatText (significant 6) x

/-! ### Reading -/

/-- The double nearest to `digits · 10 ^ scale`. Scales far outside of the range of doubles are
settled without computing the power. -/
def nearestFloat (digits : Nat) (scale : Int) : Float :=
  let power : Int := scale + digitCount digits
  if digits = 0 ∨ power < -400 then 0.0
  else if power > 400 then 1.0 / 0.0
  else if 0 ≤ scale then Float.ofScientific digits false scale.toNat
  else Float.ofScientific digits true (-scale).toNat

/-- The double nearest to an integer, if it is in the range of doubles. -/
def floatOfInt? (n : Int) : Option Float :=
  let x := nearestFloat n.natAbs 0
  if x.isInf then none else some (if n < 0 then -x else x)

end Indicator.Number
