import Indicator.Fault
import Indicator.Json.Writing
import Indicator.Web.ContentType
import Indicator.Web.Header

/-!
# Messages

Requests that come in over the web and the responses to them.
-/

namespace Indicator.Web

open Json (Document)

/-- What a message carries. -/
inductive Content
  | empty
  | document (value : Document)
  | octets (octets : List UInt8)

structure Incoming where
  method : String
  target : String
  headers : Headers
  content : Content

/-- What a response shows. -/
inductive Page
  | empty
  | text (value : String)
  | html
  | document (value : Document)

structure Outgoing where
  status : Nat
  headers : Headers
  page : Page

namespace Outgoing

/-- Sets a header, in place of one of the same name. -/
def setHeader (response : Outgoing) (name value : String) : Outgoing :=
  { response with headers := (response.headers.filter (·.1 ≠ name)) ++ [(name, value)] }

/-- Sets a header that is not there yet. -/
def addHeader (response : Outgoing) (name value : String) : Outgoing :=
  if (header? response.headers name).isSome then response else response.setHeader name value

/-- A document. A double that is not finite has no form in JSON and is left out as `null`. -/
def ofDocument (status : Nat) (value : Document) : Outgoing :=
  ⟨status, [("content-type", "application/json")], .document value.finite⟩

/-- Whether all texts of the document of a response are whole, as `Text.isWhole` has it. -/
def isWhole (response : Outgoing) : Bool :=
  match response.page with
  | .document value => value.texts.all Text.isWhole
  | _ => true

def ofText (status : Nat) (value : String) : Outgoing :=
  ⟨status, [("content-type", "text/plain; charset=utf-8")], .text value⟩

/-- A short note on why a request was not served. -/
def detail (status : Nat) (text : String) : Outgoing :=
  ofDocument status (.object [("detail", .str text)])

end Outgoing

/-! ### Payloads -/

/-- Why a request carries no payload that can be used. -/
inductive PayloadRefusal
  /-- The text of the document is wrong at a position. -/
  | malformed (position : Nat)
  | unreadable
  | notObject

/-- The payload that a document is; `null` is none. -/
def payloadOf : Document → Except PayloadRefusal (Option Json.Members)
  | .null => .ok none
  | .object members => .ok (some members)
  | _ => .error .notObject

/-- Whether a header declares the content to be JSON, or `standard` where none tells its type. -/
def Incoming.declaresJson (request : Incoming) (standard : Bool) : Bool :=
  ((header? request.headers "content-type").map fun value =>
    (ContentType.parse value).isJson).getD standard

/-- The payload that octets hold. -/
def payloadOfOctets (octets : List UInt8) : Except PayloadRefusal (Option Json.Members) :=
  match Document.ofOctets octets with
  | .error (.malformed position) => .error (.malformed position)
  | .error _ => .error .unreadable
  | .ok value => payloadOf value

/-- The payload of a request. A document declares itself, octets are read only where a header
declares them to be JSON. -/
def Incoming.payload (request : Incoming) : Except PayloadRefusal (Option Json.Members) :=
  match request.content with
  | .empty | .octets [] => .ok none
  | .document value =>
    if request.declaresJson true then payloadOf value else .error .notObject
  | .octets octets =>
    if request.declaresJson false then payloadOfOctets octets else .error .notObject

end Indicator.Web
