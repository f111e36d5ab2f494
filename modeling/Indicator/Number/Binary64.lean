/-!
# The value of a double

A finite double is `m · 2 ^ q` with natural `m`, up to its sign. The parts are read from the bit
pattern, so all else about the value is arithmetic of natural numbers.
-/

namespace Indicator.Number

/-- What a bit pattern stands for. -/
inductive Binary64
  | nan
  | infinite (negative : Bool)
  | finite (negative : Bool) (m : Nat) (q : Int)

/-- The parts of a double. -/
def Binary64.ofFloat (x : Float) : Binary64 :=
  let bits := x.toBits.toNat
  let negative : Bool := bits / Nat.pow 2 63 = 1
  let exponent : Nat := bits / Nat.pow 2 52 % 2048
  let fraction : Nat := bits % Nat.pow 2 52
  if exponent = 2047 then if fraction = 0 then .infinite negative else .nan
  else if exponent = 0 then .finite negative fraction (-1074)
  else .finite negative (Nat.pow 2 52 + fraction) (exponent - 1075)

/-- Numerator and denominator of `m · 2 ^ q`. -/
def ratioOf (m : Nat) (q : Int) : Nat × Nat :=
  if 0 ≤ q then (m * Nat.pow 2 q.toNat, 1) else (m, Nat.pow 2 (-q).toNat)

/-- A double as an integer and a flag that says whether it has a fraction as well; the integer is
the value cut off toward zero. -/
def truncated? (x : Float) : Option (Int × Bool) :=
  match Binary64.ofFloat x with
  | .finite negative m q =>
    let (num, den) := ratioOf m q
    let whole : Int := num / den
    some (if negative then -whole else whole, num % den ≠ 0)
  | _ => none

end Indicator.Number
