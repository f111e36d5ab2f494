import Indicator.Text.Case
import Indicator.Text.Encodable

/-!
# Headers

The headers of a message, in order. Names are compared in lower case, and both names and values are
in ASCII.
-/

namespace Indicator.Web

abbrev Headers := List (String × String)

/-- The values of all headers of a name. -/
def headerValues (headers : Headers) (name : String) : List String :=
  (headers.filter fun header => Text.lowerAscii header.1 = name).map Prod.snd

/-- The value of the first header of a name. -/
def header? (headers : Headers) (name : String) : Option String := (headerValues headers name).head?

/-- The values of all headers of a name, as one list. -/
def headerList? (headers : Headers) (name : String) : Option String :=
  match headerValues headers name with
  | [] => none
  | values => some (", ".intercalate values)

/-- Checks that headers can be written. -/
def checkHeaders : Headers → Except Text.Unencodable Unit
  | [] => .ok ()
  | (name, value) :: rest => do
    let _ ← Text.Encoding.ascii.check name
    let _ ← Text.Encoding.ascii.check value
    checkHeaders rest

end Indicator.Web
