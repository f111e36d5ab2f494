/-!
# Checksums

The two checksums that compressed data carry: a pair of sums modulo a prime, and the remainder of
a division of polynomials over two elements.
-/

namespace Indicator.Compression

/-- The largest prime below `2 ^ 16`. -/
def adlerPrime : Nat := 65521

/-- The sum of all octets plus one, and the sum of all such sums on the way. -/
def adler32 (octets : List UInt8) : Nat :=
  let (low, high) := octets.foldl
    (fun (low, high) b =>
      let low := (low + b.toNat) % adlerPrime
      (low, (high + low) % adlerPrime))
    (1, 0)
  65536 * high + low

/-- The divisor, its coefficients in reverse. -/
def crcDivisor : UInt32 := 0xEDB88320

/-- One step of the division. -/
def crcStep (rest : UInt32) : UInt32 :=
  if rest &&& 1 = 1 then (rest >>> 1) ^^^ crcDivisor else rest >>> 1

/-- The remainder after one more octet. -/
def crcOctet (rest : UInt32) (b : UInt8) : UInt32 :=
  (List.range 8).foldl (fun rest _ => crcStep rest) (rest ^^^ b.toUInt32)

/-- The remainder of octets, all bits of which are inverted at both ends. -/
def crc32 (octets : List UInt8) : Nat :=
  (octets.foldl crcOctet 0xFFFFFFFF ^^^ 0xFFFFFFFF).toNat

end Indicator.Compression
