import Indicator.Web.Url

/-!
# Credentials in addresses

An address may hold a name and a password in front of its host. A request to such an address
carries them as its credential, in base 64, and no other credential.
-/

namespace Indicator.Web

/-! ### Base 64 -/

/-- The digits of base 64, in the order of their values. -/
def base64Alphabet : List Char :=
  "ABCDEFGHIJKLMNOPQRSTUVWXYZabcdefghijklmnopqrstuvwxyz0123456789+/".toList

def base64Digit (n : Nat) : Char := base64Alphabet.getD (n % 64) '='

/-- Octets in base 64: four digits for three octets, and two or three digits, filled up with equals
signs, for a group that is cut short. -/
def base64 : List UInt8 → List Char
  | [] => []
  | [a] =>
    let n := a.toNat
    [base64Digit (n / 4), base64Digit (n * 16), '=', '=']
  | [a, b] =>
    let n := a.toNat * 256 + b.toNat
    [base64Digit (n / 1024), base64Digit (n / 16), base64Digit (n * 4), '=']
  | a :: b :: c :: rest =>
    let n := (a.toNat * 256 + b.toNat) * 256 + c.toNat
    base64Digit (n / 262144) :: base64Digit (n / 4096) :: base64Digit (n / 64) ::
      base64Digit n :: base64 rest

/-! ### Names and passwords -/

/-- A name or a password as it is meant. -/
def readUserPart (text : List Char) : List UInt8 :=
  Text.encodeUtf8 (String.ofList (Text.decodeUtf8Lenient (percentDecode text)))

/-- The credential of an address that holds a name or a password. -/
def Url.credential? (url : Url) : Option String :=
  let name := url.user.toList.takeWhile (· ≠ ':')
  let password := url.user.toList.drop (name.length + 1)
  if name.isEmpty && password.isEmpty then none
  else
    let octets := readUserPart name ++ Text.encodeUtf8 ":" ++ readUserPart password
    some ("Basic " ++ String.ofList (base64 octets))

end Indicator.Web
