import Indicator.Text.Surrogate

/-!
# Punycode

A text of any characters in the letters and digits of ASCII: its ASCII characters first, then the
others, each as a number that tells how many places and code points it lies after the one before.
A number is written in digits whose range depends on their place and on the numbers before it.
-/

namespace Indicator.Text.Punycode

def radix : Nat := 36

/-- The value of a digit, a letter of either case coming before the decimal digits. -/
def digit? (b : UInt8) : Option Nat :=
  let n := b.toNat
  if 0x41 ≤ n ∧ n ≤ 0x5A then some (n - 0x41)
  else if 0x61 ≤ n ∧ n ≤ 0x7A then some (n - 0x61)
  else if 0x30 ≤ n ∧ n ≤ 0x39 then some (n - 0x30 + 26)
  else none

/-- The digit of a value. -/
def digitChar (n : Nat) : Char := Char.ofNat (if n < 26 then 0x61 + n else 0x30 + (n - 26))

/-- The least value in a place that goes on to the next one. -/
def threshold (place bias : Nat) : Nat := min 26 (max 1 (radix * (place + 1) - bias))

/-- The number at the start of some octets, of the digits after those read so far, and what follows
it. -/
def readNumber? (bias place weight soFar : Nat) : List UInt8 → Option (Nat × List UInt8)
  | [] => none
  | b :: rest => do
    let digit ← digit? b
    let limit := threshold place bias
    let value := soFar + digit * weight
    if digit < limit then return (value, rest)
    else readNumber? bias (place + 1) (weight * (radix - limit)) value rest

theorem length_of_readNumber? {bias place weight soFar n : Nat} {octets rest : List UInt8}
    (h : readNumber? bias place weight soFar octets = some (n, rest)) :
    rest.length < octets.length := by
  induction octets generalizing place weight soFar with
  | nil => simp [readNumber?] at h
  | cons b tail ih =>
    simp only [readNumber?, Option.bind_eq_bind, Option.bind_eq_some_iff] at h
    obtain ⟨digit, -, h⟩ := h
    split at h
    · simp only [Option.pure_def, Option.some.injEq, Prod.mk.injEq] at h
      simp [← h.2]
    · have := ih h
      simp only [List.length_cons]
      omega

/-- Halves a number until it is small; how often, in steps of `radix`. -/
def shrink (steps : Nat) (delta : Nat) : Nat × Nat :=
  if 455 < delta then shrink (steps + radix) (delta / 35) else (steps, delta)
termination_by delta
decreasing_by omega

/-- The bias for the next number, after `delta` of a text that has `count` characters by now. -/
def adapt (delta : Nat) (isFirst : Bool) (count : Nat) : Nat :=
  let delta := if isFirst then delta / 700 else delta / 2
  let (steps, delta) := shrink 0 (delta + delta / count)
  steps + radix * delta / (delta + 38)

/-- How a text goes on that is being put together. -/
structure Progress where
  chars : List Char
  code : Nat
  place : Nat
  bias : Nat
  isFirst : Bool

/-- What a number adds to a text. A number that leads beyond the last code point adds a question
mark. -/
def Progress.insert (p : Progress) (delta : Nat) : Progress :=
  let count := p.chars.length + 1
  let reached := p.code + (p.place + delta) / count
  let code := if reached < 0x110000 then reached else 0x3F
  let place := (p.place + delta) % count
  { chars := p.chars.take place ++ charOfCode code :: p.chars.drop place
    code
    place := place + 1
    bias := adapt delta p.isFirst count
    isFirst := false }

/-- Whether a number leads to a code point. -/
def Progress.reaches (p : Progress) (delta : Nat) : Bool :=
  p.code + (p.place + delta) / (p.chars.length + 1) < 0x110000

/-- The text with all numbers added, and whether all of them could be read. What cannot be read
ends the text. -/
def insertAll (p : Progress) (octets : List UInt8) : List Char × Bool :=
  if octets.isEmpty then (p.chars, true)
  else match _h : readNumber? p.bias 0 1 0 octets with
    | none => (p.chars, false)
    | some (delta, rest) =>
      let (chars, sound) := insertAll (p.insert delta) rest
      (chars, sound && p.reaches delta)
termination_by octets.length
decreasing_by exact length_of_readNumber? (by assumption)

/-- The start of a text with the characters in `ascii`. -/
def Progress.start (ascii : List Char) : Progress := ⟨ascii, 0x80, 0, 72, true⟩

/-- The octets before and after the last hyphen; without one, all come after it. -/
def split (octets : List UInt8) : List UInt8 × List UInt8 :=
  let after := (octets.reverse.takeWhile (· ≠ 0x2D)).reverse
  ((octets.take (octets.length - after.length)).dropLast, after)

/-- The text that octets write, if each part of them is well formed. -/
def decode? (octets : List UInt8) : Option (List Char) :=
  let (plain, numbers) := split octets
  if octets.all (· < 0x80) then
    match insertAll (.start (plain.map fun b => charOfCode b.toNat)) numbers with
    | (chars, true) => some chars
    | (_, false) => none
  else none

/-- The text that octets write, up to the first part that is not well formed. An octet above
ASCII before the last hyphen is one mark; the first one after it is refused, with its place. -/
def decodeLenient (octets : List UInt8) : Except (UInt8 × Nat) (List Char) :=
  let (plain, numbers) := split octets
  match numbers.dropWhile (· < 0x80) with
  | b :: rest => .error (b, numbers.length - rest.length - 1)
  | [] =>
    let read (b : UInt8) := if b < 0x80 then charOfCode b.toNat else replacement
    .ok (insertAll (.start (plain.map read)) numbers).1

/-! ### Writing -/

theorem one_le_threshold (place bias : Nat) : 1 ≤ threshold place bias := by
  unfold threshold
  omega

/-- The digits of a number, from the place `place` on. -/
def writeNumber (bias place n : Nat) : List Char :=
  let limit := threshold place bias
  if n < limit then [digitChar n]
  else
    digitChar (limit + (n - limit) % (radix - limit)) ::
      writeNumber bias (place + 1) ((n - limit) / (radix - limit))
termination_by n
decreasing_by
  have := one_le_threshold place bias
  have := Nat.div_le_self (n - threshold place bias) (radix - threshold place bias)
  omega

/-- How the writing of a text goes on: the code point that comes next, the places passed since the
last number, and the count of characters written. -/
structure Writer where
  code : Nat
  passed : Nat
  bias : Nat
  count : Nat
  isFirst : Bool
  digits : List Char

/-- Passes a character, or writes it if it is the next one. -/
def Writer.pass (w : Writer) (c : Char) : Writer :=
  if c.toNat < w.code then { w with passed := w.passed + 1 }
  else if c.toNat = w.code then
    { w with
      passed := 0
      bias := adapt w.passed w.isFirst (w.count + 1)
      count := w.count + 1
      isFirst := false
      digits := w.digits ++ writeNumber w.bias 0 w.passed }
  else w

/-- Writes all characters of a text that have one code point, `w` being ready for any code point
from `w.code` on. -/
def Writer.write (text : List Char) (w : Writer) (code : Nat) : Writer :=
  let ready := { w with code, passed := w.passed + (code - w.code) * (w.count + 1) }
  let done := text.foldl Writer.pass ready
  { done with code := code + 1, passed := done.passed + 1 }

/-- A text in letters and digits. -/
def encode (text : List Char) : List Char :=
  let ascii := text.filter (·.toNat < 0x80)
  let codes := ((text.map Char.toNat).filter (0x80 ≤ ·)).eraseDups.mergeSort
  let written := codes.foldl (Writer.write text) ⟨0x80, 0, 72, ascii.length, true, []⟩
  (if ascii.isEmpty then [] else ascii ++ ['-']) ++ written.digits

end Indicator.Text.Punycode
