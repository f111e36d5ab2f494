import Indicator.Json.Reader
import Indicator.Number.Amount
import Indicator.Text.Charset
import Indicator.Web.ContentType

/-!
# Faults

What can go wrong around a statement that the engine does not classify: a fault raised while a
request is under way, an address that cannot be built, a text that cannot be written or read, a
setting that is no number. A fault passes through the engine as it is.
-/

namespace Indicator

inductive Fault
  /-- Raised in the course of a request, with its name and message. -/
  | raised (name message : String)
  | badUrl (what : Web.UrlFault)
  | unencodable (what : Text.Unencodable)
  | badType (what : Web.ContentType.Flaw)
  | unreadable (what : Text.Charset.Fault)
  /-- A document is nested too deep to be read. -/
  | tooDeep (what : Json.Container)
  /-- A document holds a double that has no form in JSON. -/
  | notFinite
  | badAmount (what : Number.AmountFault)
deriving DecidableEq, Repr

def Fault.message : Fault → String
  | raised _ message => message
  | badUrl what => what.message
  | unencodable what => what.message
  | badType what => what.message
  | unreadable what => what.message
  | tooDeep what =>
    "maximum recursion depth exceeded while decoding a " ++ what.name ++ " from a unicode string"
  | notFinite => "Out of range float values are not JSON compliant"
  | badAmount what => what.message

end Indicator
