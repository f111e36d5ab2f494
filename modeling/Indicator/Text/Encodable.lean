import Indicator.Text.Quoted

/-!
# Texts that cannot be encoded

ASCII holds the first 128 characters, UTF-8 all but lone surrogates. A text that does not fit is
described by the first run of characters that an encoding does not hold.
-/

namespace Indicator.Text

/-- An encoding that does not hold every text. -/
inductive Encoding
  | ascii
  | utf8
deriving DecidableEq, Repr

namespace Encoding

def name : Encoding → String
  | ascii => "ascii"
  | utf8 => "utf-8"

/-- Whether a character can be written. -/
def holds : Encoding → Char → Bool
  | ascii, c => c.toNat < 0x80
  | utf8, c => isScalar c

/-- Why a character cannot be written. -/
def limit : Encoding → String
  | ascii => "ordinal not in range(128)"
  | utf8 => "surrogates not allowed"

end Encoding

/-- A text and an encoding that does not hold it. -/
structure Unencodable where
  encoding : Encoding
  text : String
deriving DecidableEq, Repr

namespace Unencodable

/-- The place of the first run of characters that cannot be written, and the run. -/
def run (what : Unencodable) : Nat × List Char :=
  let plain := what.encoding.holds
  let text := what.text.toList
  ((text.takeWhile plain).length, (text.dropWhile plain).takeWhile (!plain ·))

def message (what : Unencodable) : String :=
  let place :=
    match what.run with
    | (start, [c]) =>
      "character '" ++ String.ofList (escapeCode c) ++ "' in position " ++ toString start
    | (start, run) =>
      "characters in position " ++ toString start ++ "-" ++ toString (start + run.length - 1)
  "'" ++ what.encoding.name ++ "' codec can't encode " ++ place ++ ": " ++ what.encoding.limit

end Unencodable

/-- A text, unless an encoding does not hold it. -/
def Encoding.check (encoding : Encoding) (text : String) : Except Unencodable String :=
  if text.toList.all encoding.holds then .ok text else .error ⟨encoding, text⟩

end Indicator.Text
