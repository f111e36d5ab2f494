/-!
# Inflating

Blocks of compressed octets. A block holds octets as they are, or symbols in a prefix code that
is fixed or described in front of them; a symbol is an octet, or a length that is followed by a
distance and repeats octets from so far back. What ends too soon gives the octets up to there.
-/

namespace Indicator.Compression

/-- Why data cannot be inflated. -/
inductive Flaw
  | header
  | method
  | window
  | flags
  | headerCheck
  | blockType
  | storedLength
  | symbolCount
  | codeLengths
  | bitLengthRepeat
  | noEndOfBlock
  | literalLengths
  | distanceLengths
  | literalCode
  | distanceCode
  | distance
  | dataCheck
  | lengthCheck
deriving DecidableEq, Repr

def Flaw.reason : Flaw → String
  | header => "incorrect header check"
  | method => "unknown compression method"
  | window => "invalid window size"
  | flags => "unknown header flags set"
  | headerCheck => "header crc mismatch"
  | blockType => "invalid block type"
  | storedLength => "invalid stored block lengths"
  | symbolCount => "too many length or distance symbols"
  | codeLengths => "invalid code lengths set"
  | bitLengthRepeat => "invalid bit length repeat"
  | noEndOfBlock => "invalid code -- missing end-of-block"
  | literalLengths => "invalid literal/lengths set"
  | distanceLengths => "invalid distances set"
  | literalCode => "invalid literal/length code"
  | distanceCode => "invalid distance code"
  | distance => "invalid distance too far back"
  | dataCheck => "incorrect data check"
  | lengthCheck => "incorrect length check"

def Flaw.message (flaw : Flaw) : String := "Error -3 while decompressing data: " ++ flaw.reason

/-- Why the reading of compressed data stops. -/
inductive Halt
  /-- The data end. -/
  | short
  | flawed (flaw : Flaw)
deriving DecidableEq, Repr

/-! ### Bits -/

/-- Bits in the order in which they are read, the lowest of an octet first. -/
abbrev Bits := List Bool

def bitsOf (octets : List UInt8) : Bits :=
  octets.flatMap fun b => (List.range 8).map fun i => b.toNat.testBit i

/-- The number of bits, the lowest first. -/
def bitsValue : Bits → Nat
  | [] => 0
  | bit :: rest => bit.toNat + 2 * bitsValue rest

/-- A number of `count` bits, and what follows it. -/
def takeBits (count : Nat) (bits : Bits) : Except Halt (Nat × Bits) :=
  let taken := bits.take count
  if taken.length < count then .error .short else .ok (bitsValue taken, bits.drop count)

/-- The bits from the next octet on; their count tells how many are left of the current one. -/
def alignBits (bits : Bits) : Bits := bits.drop (bits.length % 8)

/-! ### Prefix codes -/

/-- A prefix code: for each length the count of its code words, and the symbols in the order of
their code words. -/
structure PrefixCode where
  counts : List Nat
  symbols : Array Nat

/-- The longest code word. -/
def maxCodeLength : Nat := 15

/-- The code in which each symbol has a word of a given length, or none for the length zero. -/
def PrefixCode.ofLengths (lengths : List Nat) : PrefixCode :=
  let ofLength (n : Nat) : List Nat :=
    (lengths.zipIdx.filter fun entry => entry.1 = n).map Prod.snd
  let groups := (List.range maxCodeLength).map fun i => ofLength (i + 1)
  ⟨groups.map List.length, groups.flatten.toArray⟩

/-- The code words of the longest length that are left over; none are left over below zero. -/
def PrefixCode.room (code : PrefixCode) : Int :=
  code.counts.foldl (fun (left : Int) (count : Nat) => 2 * left - (count : Int)) 1

/-- Whether more code words are called for than there are. -/
def overfull (left : Int) : List Nat → Bool
  | [] => false
  | count :: rest => decide (2 * left < (count : Int)) || overfull (2 * left - count) rest

/-- Whether the only code words have one bit, so that one of the two may be missing. -/
def PrefixCode.isTrivial (code : PrefixCode) : Bool := (code.counts.drop 1).all (· = 0)

/-- A code that can be used: all words are given out, save where none or one of one bit is. -/
def PrefixCode.isSound (code : PrefixCode) (allowsGaps : Bool) : Bool :=
  !overfull 1 code.counts && (code.room = 0 || (allowsGaps && code.isTrivial) || code.symbols.isEmpty)

/-- The symbol of a code word whose bits so far make the number `word`, where the words of the
length so far start with `first` and their symbols with `index`. `none` is a word that was not
given out. -/
def readSymbol (symbols : Array Nat) (word first index : Nat) :
    List Nat → Bits → Except Halt (Option Nat × Bits)
  | [], bits => .ok (none, bits)
  | _ :: _, [] => .error .short
  | count :: counts, bit :: bits =>
    let word := 2 * word + bit.toNat
    if word < first + count then .ok (symbols[index + (word - first)]?, bits)
    else readSymbol symbols word (2 * (first + count)) (index + count) counts bits

/-- The symbol at the start of some bits. A code with gaps knows only words of one bit. -/
def PrefixCode.read (code : PrefixCode) (bits : Bits) : Except Halt (Option Nat × Bits) :=
  if code.isTrivial then readSymbol code.symbols 0 0 0 (code.counts.take 1) bits
  else readSymbol code.symbols 0 0 0 code.counts bits

/-! ### Symbols -/

/-- The least value and the count of further bits of each symbol in a scale whose steps double
after each group of symbols. -/
def scaleOf (group : Nat) : Nat → Nat → Nat → List (Nat × Nat)
  | _, _, 0 => []
  | index, base, count + 1 =>
    let extra := index / group - 1
    (base, extra) :: scaleOf group (index + 1) (base + Nat.pow 2 extra) count

/-- The lengths of the symbols from 257 on. -/
def lengthScale : List (Nat × Nat) := (scaleOf 4 0 3 28) ++ [(258, 0)]

/-- The distances. -/
def distanceScale : List (Nat × Nat) := scaleOf 2 0 1 30

/-- The octets so far, and how the reading goes on. -/
abbrev Progress := Array UInt8 × Except Halt Bits

/-- Repeats `count` octets from `back` octets back on. -/
def repeatFrom (back : Nat) : Nat → Array UInt8 → Array UInt8
  | 0, out => out
  | count + 1, out => repeatFrom back count (out.push (out.getD (out.size - back) 0))

/-- The distance of a repetition. -/
def readDistance (distances : PrefixCode) (bits : Bits) : Except Halt (Nat × Bits) := do
  let (symbol, bits) ← distances.read bits
  match symbol.bind (distanceScale[·]?) with
  | none => .error (.flawed .distanceCode)
  | some (base, extra) =>
    let (more, bits) ← takeBits extra bits
    return (base + more, bits)

/-- A repetition, after its symbol. -/
def readRepetition (distances : PrefixCode) (symbol : Nat) (bits : Bits) :
    Except Halt (Nat × Nat × Bits) := do
  match lengthScale[symbol - 257]? with
  | none => .error (.flawed .literalCode)
  | some (base, extra) =>
    let (more, bits) ← takeBits extra bits
    let (distance, bits) ← readDistance distances bits
    return (base + more, distance, bits)

/-- The symbols of a block up to its end. A symbol takes a bit at least, so their count bounds the
steps. -/
def readSymbols (literals distances : PrefixCode) : Nat → Array UInt8 → Bits → Progress
  | 0, out, _ => (out, .error .short)
  | steps + 1, out, bits =>
    match literals.read bits with
    | .error halt => (out, .error halt)
    | .ok (none, _) => (out, .error (.flawed .literalCode))
    | .ok (some symbol, bits) =>
      if symbol < 256 then readSymbols literals distances steps (out.push symbol.toUInt8) bits
      else if symbol = 256 then (out, .ok bits)
      else match readRepetition distances symbol bits with
        | .error halt => (out, .error halt)
        | .ok (length, distance, bits) =>
          if out.size < distance then (out, .error (.flawed .distance))
          else readSymbols literals distances steps (repeatFrom distance length out) bits

/-! ### Codes of a block -/

def fixedLiterals : PrefixCode :=
  .ofLengths (List.replicate 144 8 ++ List.replicate 112 9 ++ List.replicate 24 7 ++
    List.replicate 8 8)

def fixedDistances : PrefixCode := .ofLengths (List.replicate 32 5)

/-- The order in which the lengths of the code for lengths are written. -/
def lengthOrder : List Nat :=
  [16, 17, 18, 0, 8, 7, 9, 6, 10, 5, 11, 4, 12, 3, 13, 2, 14, 1, 15]

/-- Numbers of three bits, `count` of them. -/
def takeTriples : Nat → Bits → Except Halt (List Nat × Bits)
  | 0, bits => .ok ([], bits)
  | count + 1, bits => do
    let (first, bits) ← takeBits 3 bits
    let (rest, bits) ← takeTriples count bits
    return (first :: rest, bits)

/-- Code lengths after those in `soFar`, which are in reverse, until there are `count`. Some symbols
repeat the last length or the length zero. -/
def readLengths (code : PrefixCode) (count : Nat) : Nat → List Nat → Bits →
    Except Halt (List Nat × Bits)
  | 0, _, _ => .error .short
  | steps + 1, soFar, bits => do
    if count ≤ soFar.length then return (soFar.reverse, bits)
    let (symbol?, bits) ← code.read bits
    let symbol := symbol?.getD 0
    if symbol < 16 then readLengths code count steps (symbol :: soFar) bits
    else if symbol = 16 ∧ soFar.isEmpty then
      let (_, _) ← takeBits 2 bits
      .error (.flawed .bitLengthRepeat)
    else
      let (base, extra) := if symbol = 16 then (3, 2) else if symbol = 17 then (3, 3) else (11, 7)
      let (more, bits) ← takeBits extra bits
      let length := if symbol = 16 then soFar.headD 0 else 0
      if count < soFar.length + base + more then .error (.flawed .bitLengthRepeat)
      else readLengths code count steps (List.replicate (base + more) length ++ soFar) bits

/-- The codes of a block that describes them. -/
def readCodes (bits : Bits) : Except Halt (PrefixCode × PrefixCode × Bits) := do
  let (counts, bits) ← takeBits 14 bits
  let literals := counts % 32 + 257
  let distances := counts / 32 % 32 + 1
  let lengths := counts / 1024 + 4
  if 286 < literals ∨ 30 < distances then .error (.flawed .symbolCount)
  else
    let (triples, bits) ← takeTriples lengths bits
    let ordered := lengthOrder.zip triples
    let code := PrefixCode.ofLengths ((List.range 19).map fun i => (ordered.lookup i).getD 0)
    if !code.isSound false then .error (.flawed .codeLengths)
    else
      let count := literals + distances
      let (found, bits) ← readLengths code count (count + 1) [] bits
      let literalCode := PrefixCode.ofLengths (found.take literals)
      let distanceCode := PrefixCode.ofLengths (found.drop literals)
      if found[256]? = some 0 then .error (.flawed .noEndOfBlock)
      else if !literalCode.isSound true then .error (.flawed .literalLengths)
      else if !distanceCode.isSound true then .error (.flawed .distanceLengths)
      else return (literalCode, distanceCode, bits)

/-! ### Blocks -/

/-- Octets as they are, `count` of them or all that are there. -/
def copyOctets : Nat → Array UInt8 → Bits → Progress
  | 0, out, bits => (out, .ok bits)
  | count + 1, out, bits =>
    match takeBits 8 bits with
    | .error halt => (out, .error halt)
    | .ok (octet, bits) => copyOctets count (out.push octet.toUInt8) bits

/-- A block of octets as they are. Their count is written twice, the second time inverted. -/
def readStored (out : Array UInt8) (bits : Bits) : Progress :=
  match takeBits 32 (alignBits bits) with
  | .error halt => (out, .error halt)
  | .ok (counts, bits) =>
    if counts % 65536 + counts / 65536 = 65535 ∧ (counts % 65536) &&& (counts / 65536) = 0 then
      copyOctets (counts % 65536) out bits
    else (out, .error (.flawed .storedLength))

/-- A block of a kind. -/
def readBlock (kind : Nat) (out : Array UInt8) (bits : Bits) : Progress :=
  match kind with
  | 0 => readStored out bits
  | 1 => readSymbols fixedLiterals fixedDistances (bits.length + 1) out bits
  | 2 =>
    match readCodes bits with
    | .error halt => (out, .error halt)
    | .ok (literals, distances, bits) =>
      readSymbols literals distances (bits.length + 1) out bits
  | _ => (out, .error (.flawed .blockType))

/-- Blocks up to the one that is marked as the last. A block takes three bits at least. -/
def readBlocks : Nat → Array UInt8 → Bits → Progress
  | 0, out, _ => (out, .error .short)
  | steps + 1, out, bits =>
    match takeBits 3 bits with
    | .error halt => (out, .error halt)
    | .ok (head, bits) =>
      match readBlock (head / 2) out bits with
      | (out, .error halt) => (out, .error halt)
      | (out, .ok bits) => if head % 2 = 1 then (out, .ok bits) else readBlocks steps out bits

/-- The octets that compressed bits stand for. -/
def inflate (bits : Bits) : Progress := readBlocks (bits.length + 1) #[] bits

end Indicator.Compression
