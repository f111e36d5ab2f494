import Indicator.Text.Surrogate

/-!
# UTF-7

ASCII in which a plus sign starts sixteen-bit units in base 64, up to the first octet that is no
digit of it. A hyphen that ends them is left out.
-/

namespace Indicator.Text.Charset

/-- The value of a digit of base 64. -/
def base64Value? (b : UInt8) : Option Nat :=
  let n := b.toNat
  if 0x41 ≤ n ∧ n ≤ 0x5A then some (n - 0x41)
  else if 0x61 ≤ n ∧ n ≤ 0x7A then some (n - 0x61 + 26)
  else if 0x30 ≤ n ∧ n ≤ 0x39 then some (n - 0x30 + 52)
  else if n = 0x2B then some 62
  else if n = 0x2F then some 63
  else none

/-- Units in base 64 that have begun: the bits that do not make a unit yet, their count, and a unit
that waits for the second half of its pair. -/
structure Shift where
  value : Nat
  bits : Nat
  high : Option Nat

namespace Shift

def start : Shift := ⟨0, 0, none⟩

/-- What one more digit completes. -/
def add (shift : Shift) (digit : Nat) : List Char × Shift :=
  let value := shift.value * 64 + digit
  let bits := shift.bits + 6
  if bits < 16 then ([], ⟨value, bits, shift.high⟩)
  else
    let rest := Nat.pow 2 (bits - 16)
    let unit := value / rest
    let left (high : Option Nat) : Shift := ⟨value % rest, bits - 16, high⟩
    match shift.high with
    | some high =>
      if isLowSurrogate unit then ([charOfCode (joinSurrogates high unit)], left none)
      else if isHighSurrogate unit then ([charOfCode high], left (some unit))
      else ([charOfCode high, charOfCode unit], left none)
    | none => if isHighSurrogate unit then ([], left (some unit)) else ([charOfCode unit], left none)

/-- Whether the bits that are left are a digit or more, or not all zero. -/
def isRagged (shift : Shift) : Bool := 6 ≤ shift.bits || shift.value ≠ 0

end Shift

/-- An octet that stands for itself. -/
def directChar (b : UInt8) : Char := if b < 0x80 then charOfCode b.toNat else replacement

/-- The characters of octets, after units that have begun if there are any. -/
def readUtf7 : Option Shift → List UInt8 → List Char
  | none, [] => []
  | some shift, [] => if shift.high.isSome || shift.isRagged then [replacement] else []
  | none, b :: rest =>
    if b = 0x2B then
      match rest with
      | [] => []
      | c :: more =>
        if c = 0x2D then '+' :: readUtf7 none more
        else match base64Value? c with
          | none => replacement :: readUtf7 none more
          | some digit =>
            let (text, shift) := Shift.start.add digit
            text ++ readUtf7 (some shift) more
    else directChar b :: readUtf7 none rest
  | some shift, b :: rest =>
    match base64Value? b with
    | some digit =>
      let (text, shift) := shift.add digit
      text ++ readUtf7 (some shift) rest
    | none =>
      if shift.isRagged then replacement :: readUtf7 none rest
      else
        let waiting :=
          match shift.high with
          | some high => if b < 0x80 then [charOfCode high] else []
          | none => []
        waiting ++ (if b = 0x2D then [] else [directChar b]) ++ readUtf7 none rest

end Indicator.Text.Charset
