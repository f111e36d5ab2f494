import Indicator.Text.Surrogate

/-!
# Sets of one octet

Character sets in which every octet is a character by itself. A set is written as the characters
of its octets in order, with U+FFFD for an octet that stands for nothing.
-/

namespace Indicator.Text.Charset

/-- A set, with its name and other names for it. -/
structure Single where
  names : List String
  chars : Array Char

/-- The code points from `first` on, as many as `count`. -/
def codesFrom (first count : Nat) : List Char :=
  (List.range count).map fun i => charOfCode (first + i)

namespace Single

/-- A set by the characters of all octets. -/
def full (names : List String) (text : String) : Single := ⟨names, text.toList.toArray⟩

/-- A set that has ASCII as its lower half. -/
def half (names : List String) (text : String) : Single :=
  ⟨names, (codesFrom 0 0x80 ++ text.toList).toArray⟩

/-- A set that agrees with the code points up to the octet A0. -/
def upper (names : List String) (text : String) : Single :=
  ⟨names, (codesFrom 0 0xA0 ++ text.toList).toArray⟩

/-- The characters of octets. -/
def read (set : Single) (octets : List UInt8) : List Char :=
  octets.map fun b => set.chars.getD b.toNat replacement

end Single

end Indicator.Text.Charset
