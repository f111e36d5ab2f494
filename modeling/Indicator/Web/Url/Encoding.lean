import Indicator.Text.Encodable
import Indicator.Text.Encoding
import Indicator.Text.Hex

/-!
# Percent encoding

The characters that the parts of an address hold as they are, and all others by their octets.
-/

namespace Indicator.Web

/-- The characters of ASCII that are seen. -/
def isVisible (c : Char) : Bool := 0x20 < c.toNat && c.toNat < 0x7F

/-- The characters that a query holds as they are. -/
def isQuerySafe (c : Char) : Bool := isVisible c && !(['"', '#', '<', '>'].contains c)

/-- The characters that a path holds as they are. -/
def isPathSafe (c : Char) : Bool := isQuerySafe c && !(['?', '`', '\x7B', '\x7D'].contains c)

/-- The characters that a name and a password hold as they are. -/
def isUserSafe (c : Char) : Bool :=
  isPathSafe c && !(['/', ';', '=', '@', '[', '\\', ']', '^', '|'].contains c)

/-- The characters that a host holds as they are. -/
def isHostSafe (c : Char) : Bool :=
  isVisible c && !(['#', '/', ':', '<', '>', '?', '@', '[', ']', '^'].contains c)

/-- The characters that a fragment holds as they are. -/
def isFragmentSafe (c : Char) : Bool := isVisible c && !(['"', '<', '>', '`'].contains c)

/-- A character by its octets. -/
def percentEncode (c : Char) : Except Text.Unencodable (List Char) := do
  let text ← Text.Encoding.utf8.check (String.ofList [c])
  return (Text.encodeUtf8 text).flatMap fun b => '%' :: Text.hexDigitsUpper 2 b.toNat

/-- A text in which all characters that are not safe stand by their octets. -/
def encodeWith (safe : Char → Bool) (text : List Char) : Except Text.Unencodable (List Char) :=
  return (← text.mapM fun c => if safe c then .ok [c] else percentEncode c).flatten

/-- The octets of a text in which a percent sign may stand before two hexadecimal digits. -/
def percentDecode : List Char → List UInt8
  | [] => []
  | '%' :: a :: b :: rest =>
    match Text.hexValue? a, Text.hexValue? b with
    | some high, some low => UInt8.ofNat (16 * high + low) :: percentDecode rest
    | _, _ => 37 :: percentDecode (a :: b :: rest)
  | c :: rest => Text.encodeUtf8 (String.ofList [c]) ++ percentDecode rest

end Indicator.Web
