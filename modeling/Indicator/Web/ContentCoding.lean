import Indicator.Compression.Wrapped
import Indicator.Text.Blank
import Indicator.Web.Header
import Indicator.Web.Url.Host

/-!
# Content codings

The content of a message may be compressed, also more than once. A header names the codings in the
order in which they were applied, so the last one is undone first. A coding that is not known is
passed over.
-/

namespace Indicator.Web

open Compression (Flaw)

/-- The codings that a header names. -/
def codingNames (headers : Headers) : List String :=
  (headerValues headers "content-encoding").flatMap fun value =>
    (splitAt ',' value.toList).map fun name =>
      Text.lower (String.ofList (Text.trimBy Text.isBlank name))

/-- Undoes one coding. -/
def undoCoding (name : String) (octets : List UInt8) : Except Flaw (List UInt8) :=
  if name = "gzip" then Compression.inflateLong octets
  else if name = "deflate" then Compression.inflateEither octets
  else .ok octets

/-- The content under the codings that headers name. Without octets there is nothing to undo. -/
def plainContent (headers : Headers) (octets : List UInt8) : Except Flaw (List UInt8) :=
  if octets.isEmpty then .ok []
  else (codingNames headers).foldr (fun name found => found >>= undoCoding name) (.ok octets)

end Indicator.Web
