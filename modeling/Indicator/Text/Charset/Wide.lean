import Indicator.Text.Encoding

/-!
# Wide encodings, read leniently

Sixteen-bit and thirty-two-bit units in which each ill-formed piece is one mark.
-/

namespace Indicator.Text.Charset

/-- A text of sixteen-bit units. A unit that begins a pair at the end is one mark together with
what is left. -/
def readUnits16 (bigEndian : Bool) : List UInt8 → List Char
  | [] => []
  | [_] => [replacement]
  | a :: b :: rest =>
    let unit (x y : UInt8) := if bigEndian then 256 * x.toNat + y.toNat else 256 * y.toNat + x.toNat
    let first := unit a b
    if isHighSurrogate first then
      match rest with
      | c :: d :: more =>
        if isLowSurrogate (unit c d) then
          charOfCode (joinSurrogates first (unit c d)) :: readUnits16 bigEndian more
        else replacement :: readUnits16 bigEndian (c :: d :: more)
      | _ => [replacement]
    else if isLowSurrogate first then replacement :: readUnits16 bigEndian rest
    else charOfCode first :: readUnits16 bigEndian rest

/-- A text of thirty-two-bit units. -/
def readUnits32 (bigEndian : Bool) : List UInt8 → List Char
  | [] => []
  | a :: b :: c :: d :: rest =>
    let code := unit32 bigEndian a b c d
    (if isSurrogate code then replacement else charOfCode code) :: readUnits32 bigEndian rest
  | _ => [replacement]

/-- A text after a byte order mark, or the number of bits in a unit where the mark is missing. Too
few octets for a unit are one mark. -/
def readMarked16 : List UInt8 → Except Nat (List Char)
  | 0xFF :: 0xFE :: rest => .ok (readUnits16 false rest)
  | 0xFE :: 0xFF :: rest => .ok (readUnits16 true rest)
  | [_] => .ok [replacement]
  | _ => .error 16

def readMarked32 : List UInt8 → Except Nat (List Char)
  | 0xFF :: 0xFE :: 0x00 :: 0x00 :: rest => .ok (readUnits32 false rest)
  | 0x00 :: 0x00 :: 0xFE :: 0xFF :: rest => .ok (readUnits32 true rest)
  | _ :: _ :: _ :: _ :: _ => .error 32
  | _ => .ok [replacement]

end Indicator.Text.Charset
