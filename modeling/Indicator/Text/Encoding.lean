import Indicator.Text.Surrogate

/-!
# Encodings

Texts as octets and back. The reader of UTF-8 takes one octet at a time and marks each ill-formed
piece, so one reader serves both the strict reading, which refuses any mark, and the lenient one,
which writes U+FFFD for each. Two more readers serve the wide encodings that a JSON text may be
sent in. Where `surrogates` is set, a surrogate written as a character of its own is let through
as a lone one.
-/

namespace Indicator.Text

/-- The octets of a text in UTF-8. -/
def encodeUtf8 (text : String) : List UInt8 := text.toUTF8.toList

/-! ### Reading UTF-8 -/

/-- A character begun: its bits so far, the octets still to come after the next one, and the
bounds of the next one. -/
structure Pending where
  value : Nat
  more : Nat
  lowest : UInt8
  highest : UInt8

/-- What an octet starts. -/
inductive Lead
  | char (c : Char)
  | pending (state : Pending)
  | bad

/-- What an octet starts that follows a complete character. -/
def Lead.of (surrogates : Bool) (b : UInt8) : Lead :=
  let n := b.toNat
  if n < 0x80 then .char (charOfCode n)
  else if n < 0xC2 then .bad
  else if n < 0xE0 then .pending ⟨n - 0xC0, 0, 0x80, 0xBF⟩
  else if n = 0xE0 then .pending ⟨0, 1, 0xA0, 0xBF⟩
  else if n = 0xED then .pending ⟨0xD, 1, 0x80, if surrogates then 0xBF else 0x9F⟩
  else if n < 0xF0 then .pending ⟨n - 0xE0, 1, 0x80, 0xBF⟩
  else if n = 0xF0 then .pending ⟨0, 2, 0x90, 0xBF⟩
  else if n < 0xF4 then .pending ⟨n - 0xF0, 2, 0x80, 0xBF⟩
  else if n = 0xF4 then .pending ⟨4, 2, 0x80, 0x8F⟩
  else .bad

/-- What an octet makes of a character begun. -/
def Pending.next (state : Pending) (b : UInt8) : Lead :=
  if state.lowest ≤ b ∧ b ≤ state.highest then
    let value := 64 * state.value + (b.toNat - 0x80)
    match state.more with
    | 0 => .char (charOfCode value)
    | more + 1 => .pending ⟨value, more, 0x80, 0xBF⟩
  else .bad

/-- The characters of a text in UTF-8, `none` standing for each ill-formed piece. A piece ends
before the first octet that cannot continue it, and that octet is read afresh. -/
def readUtf8 (surrogates : Bool) : Option Pending → List UInt8 → List (Option Char)
  | none, [] => []
  | some _, [] => [none]
  | none, b :: rest =>
    match Lead.of surrogates b with
    | .char c => some c :: readUtf8 surrogates none rest
    | .pending state => readUtf8 surrogates (some state) rest
    | .bad => none :: readUtf8 surrogates none rest
  | some state, b :: rest =>
    match state.next b with
    | .char c => some c :: readUtf8 surrogates none rest
    | .pending state => readUtf8 surrogates (some state) rest
    | .bad =>
      none :: match Lead.of surrogates b with
        | .char c => some c :: readUtf8 surrogates none rest
        | .pending state => readUtf8 surrogates (some state) rest
        | .bad => none :: readUtf8 surrogates none rest

/-- All characters, if each piece is well formed. -/
def allRead : List (Option Char) → Option (List Char)
  | [] => some []
  | none :: _ => none
  | some c :: rest => (allRead rest).map (c :: ·)

/-- A text in UTF-8, if it is well formed. -/
def decodeUtf8? (surrogates : Bool) (octets : List UInt8) : Option (List Char) :=
  allRead (readUtf8 surrogates none octets)

/-- A text in UTF-8 with `replacement` for each ill-formed piece. -/
def decodeUtf8Lenient (octets : List UInt8) : List Char :=
  (readUtf8 false none octets).map (·.getD replacement)

/-! ### Wide encodings -/

/-- The sixteen-bit units of octets; a last octet alone has none. -/
def units16? (bigEndian : Bool) : List UInt8 → Option (List Nat)
  | [] => some []
  | [_] => none
  | a :: b :: rest =>
    let unit := if bigEndian then 256 * a.toNat + b.toNat else 256 * b.toNat + a.toNat
    (units16? bigEndian rest).map (unit :: ·)

/-- The thirty-two-bit unit of four octets. -/
def unit32 (bigEndian : Bool) (a b c d : UInt8) : Nat :=
  let join (w x y z : UInt8) := ((w.toNat * 256 + x.toNat) * 256 + y.toNat) * 256 + z.toNat
  if bigEndian then join a b c d else join d c b a

/-- The characters of thirty-two-bit units; octets left over or a number that is no code point
have none. -/
def decodeUtf32? (bigEndian : Bool) : List UInt8 → Option (List Char)
  | [] => some []
  | a :: b :: c :: d :: rest =>
    let code := unit32 bigEndian a b c d
    if code < 0x110000 then (decodeUtf32? bigEndian rest).map (charOfCode code :: ·) else none
  | _ => none

def decodeUtf16? (bigEndian : Bool) (octets : List UInt8) : Option (List Char) :=
  (units16? bigEndian octets).map charsOfUnits

/-- A JSON text from its octets. A byte order mark decides the encoding and is dropped; without
one, the place of the zeros among the first octets tells it, since a JSON text starts with ASCII. -/
def decodeJson? (octets : List UInt8) : Option (List Char) :=
  match octets with
  | 0x00 :: 0x00 :: 0xFE :: 0xFF :: rest => decodeUtf32? true rest
  | 0xFF :: 0xFE :: 0x00 :: 0x00 :: rest => decodeUtf32? false rest
  | 0xFE :: 0xFF :: rest => decodeUtf16? true rest
  | 0xFF :: 0xFE :: rest => decodeUtf16? false rest
  | 0xEF :: 0xBB :: 0xBF :: rest => decodeUtf8? true rest
  | 0x00 :: b :: _ :: _ :: _ => if b = 0 then decodeUtf32? true octets else decodeUtf16? true octets
  | _ :: 0x00 :: c :: d :: _ =>
    if c = 0 ∧ d = 0 then decodeUtf32? false octets else decodeUtf16? false octets
  | [0x00, _] => decodeUtf16? true octets
  | [_, 0x00] => decodeUtf16? false octets
  | _ => decodeUtf8? true octets

end Indicator.Text
