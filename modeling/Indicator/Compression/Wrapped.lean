import Indicator.Compression.Checksum
import Indicator.Compression.Inflate

/-!
# Wrapped compressed data

Compressed data between a header and a checksum, in the two forms in which they are sent. Data that
end too soon give the octets up to there.
-/

namespace Indicator.Compression

/-- The octets of data that are complete or cut short. -/
def octetsOf : Progress → Except Flaw (List UInt8)
  | (_, .error (.flawed flaw)) => .error flaw
  | (out, _) => .ok out.toList

/-- Compressed data by themselves. -/
def inflateBare (octets : List UInt8) : Except Flaw (List UInt8) := octetsOf (inflate (bitsOf octets))

/-- A number of four octets, the highest first. -/
def reverseOctets (n : Nat) : Nat :=
  (((n % 256) * 256 + n / 256 % 256) * 256 + n / 65536 % 256) * 256 + n / 16777216 % 256

/-- What follows a header, with the checks of the octets at its end. -/
def inflateChecked (check : List UInt8 → Bits → Except Halt Unit) (header : Except Halt Bits) :
    Except Flaw (List UInt8) :=
  match header with
  | .error .short => .ok []
  | .error (.flawed flaw) => .error flaw
  | .ok bits =>
    match inflate bits with
    | (out, .ok bits) =>
      match check out.toList (alignBits bits) with
      | .error (.flawed flaw) => .error flaw
      | _ => .ok out.toList
    | progress => octetsOf progress

/-! ### The short form -/

/-- The header of two octets. Data that need a dictionary are refused. -/
def shortHeader (bits : Bits) : Except Halt Bits := do
  let (head, bits) ← takeBits 16 bits
  if (head % 256 * 256 + head / 256) % 31 ≠ 0 then .error (.flawed .header)
  else if head % 16 ≠ 8 then .error (.flawed .method)
  else if 7 < head / 16 % 16 then .error (.flawed .window)
  else if (head / 256).testBit 5 then .error (.flawed .header)
  else return bits

def shortCheck (out : List UInt8) (bits : Bits) : Except Halt Unit := do
  let (sum, _) ← takeBits 32 bits
  if reverseOctets sum = adler32 out then return else .error (.flawed .dataCheck)

def inflateShort (octets : List UInt8) : Except Flaw (List UInt8) :=
  inflateChecked shortCheck (shortHeader (bitsOf octets))

/-! ### The long form -/

/-- Passes over octets up to a zero. -/
def skipText : Nat → Bits → Except Halt Bits
  | 0, _ => .error .short
  | steps + 1, bits => do
    let (octet, bits) ← takeBits 8 bits
    if octet = 0 then return bits else skipText steps bits

/-- The header of ten octets and the parts that its flags tell of. -/
def longHeader (octets : List UInt8) : Except Halt Bits := do
  let all := bitsOf octets
  let (magic, bits) ← takeBits 16 all
  if magic ≠ 0x8B1F then .error (.flawed .header)
  let (kind, bits) ← takeBits 16 bits
  let flags := kind / 256
  if kind % 256 ≠ 8 then .error (.flawed .method)
  if 32 ≤ flags then .error (.flawed .flags)
  let (_, bits) ← takeBits 48 bits
  let bits ←
    if flags.testBit 2 then do
      let (length, bits) ← takeBits 16 bits
      let (_, bits) ← takeBits (8 * length) bits
      pure bits
    else pure bits
  let bits ← if flags.testBit 3 then skipText bits.length bits else pure bits
  let bits ← if flags.testBit 4 then skipText bits.length bits else pure bits
  if flags.testBit 1 then
    let read := octets.take (octets.length - bits.length / 8)
    let (sum, bits) ← takeBits 16 bits
    if sum = crc32 read % 65536 then return bits else .error (.flawed .headerCheck)
  else return bits

def longCheck (out : List UInt8) (bits : Bits) : Except Halt Unit := do
  let (sum, bits) ← takeBits 32 bits
  if sum ≠ crc32 out then .error (.flawed .dataCheck)
  let (length, _) ← takeBits 32 bits
  if length ≠ out.length % Nat.pow 2 32 then .error (.flawed .lengthCheck)

def inflateLong (octets : List UInt8) : Except Flaw (List UInt8) :=
  inflateChecked longCheck (longHeader octets)

/-! ### Either form or none -/

/-- Data in the short form, or by themselves if they are not well formed. -/
def inflateEither (octets : List UInt8) : Except Flaw (List UInt8) :=
  match inflateShort octets with
  | .ok out => .ok out
  | .error _ => inflateBare octets

end Indicator.Compression
