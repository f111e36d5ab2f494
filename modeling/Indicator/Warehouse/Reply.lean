import Indicator.Fault
import Indicator.Json.Writing
import Indicator.Web.ContentCoding
import Indicator.Web.ContentType

/-!
# Replies

What comes back for a request: a response with a status, headers and a body, or the fault that
broke the exchange. A body can be read as a document and as a text.
-/

namespace Indicator.Warehouse

open Json (Document)
open Web (Headers)

/-- The two readings of a body. -/
structure Body where
  document : Except Json.Refusal Document
  text : Except Fault String

namespace Body

/-- A body that was made from a document. -/
def ofDocument (document : Document) : Body := ⟨.ok document, .ok ""⟩

/-- The character set that headers declare, UTF-8 if they declare none. -/
def charset (headers : Headers) : Except Web.ContentType.Flaw String :=
  match Web.headerList? headers "content-type" with
  | some value => (Web.ContentType.parse value).charset.map (·.getD "utf-8")
  | none => .ok "utf-8"

/-- The text of octets under the headers that come with them. No octets are no text under any. -/
def textOf (headers : Headers) (octets : List UInt8) : Except Fault String :=
  if octets.isEmpty then .ok ""
  else do
    let name ← (charset headers).mapError .badType
    return String.ofList (← (Text.Charset.decode name octets).mapError .unreadable)

/-- A body of octets under the headers that come with them. -/
def ofOctets (headers : Headers) (octets : List UInt8) : Body :=
  ⟨Document.ofOctets octets, textOf headers octets⟩

end Body

structure Response where
  status : Int
  /-- The address that a response leads on to. -/
  location : Option String
  body : Body

/-- The most characters of a text that are repeated in a message. -/
def maxEcho : Nat := 500

/-- What a document says went wrong. -/
def messageOf : Document → String
  | .object members =>
    let message := Document.member members "message"
    let code := Document.member members "error_code"
    if message.truthy then message.text
    else if code.truthy then code.text
    else (Document.object members).text
  | other => other.text

/-- What a response says went wrong. A text that is no document is cut. -/
def Response.message (response : Response) : Except Fault String :=
  match response.body.document with
  | .ok document => .ok (messageOf document)
  | .error (.tooDeep what) => .error (.tooDeep what)
  | .error _ =>
    match response.body.text with
    | .error fault => .error fault
    | .ok "" => .ok "no response body"
    | .ok text => .ok (String.ofList (text.toList.take maxEcho))

/-- How an exchange ends that is answered in time. -/
inductive Reply
  | response (response : Response)
  /-- The connection failed, for a reason with a name, of which more may be told. -/
  | broken (reason detail : String)
  | fault (fault : Fault)

/-! ### Making replies -/

/-- What a response carries. -/
inductive Payload
  | document (value : Document)
  | text (value : String)
  | octets (value : List UInt8)

/-- The type of a text that declares none. -/
def textType : String × String := ("content-type", "text/plain; charset=utf-8")

/-- The headers of a response, which declares the type of a text. -/
def Payload.complete (headers : Headers) : Payload → Headers
  | .text _ =>
    if (Web.header? headers "content-type").isSome then headers else headers ++ [textType]
  | _ => headers

/-- The body that a payload makes, in the codings that headers name. -/
def Payload.body (headers : Headers) (payload : Payload) : Except Compression.Flaw Body :=
  let read (octets : List UInt8) := (Web.plainContent headers octets).map (Body.ofOctets headers)
  match payload with
  | .document value =>
    if (Web.codingNames headers).isEmpty then .ok (.ofDocument value)
    else read (Text.encodeUtf8 value.write)
  | .text value => read (Text.encodeUtf8 value)
  | .octets value => read value

/-- The reply that is a response. A payload whose codings cannot be undone breaks the exchange. -/
def Reply.ofResponse (status : Int) (headers : Headers) (payload : Payload) : Reply :=
  match Web.checkHeaders headers with
  | .error what => .fault (.unencodable what)
  | .ok () =>
    match payload.body (payload.complete headers) with
    | .error flaw => .broken "DecodingError" flaw.message
    | .ok body => .response ⟨status, Web.headerList? headers "location", body⟩

/-- The answer to a request that nothing was prepared for. -/
def Reply.notFound : Reply :=
  .response ⟨404, none, .ofDocument (.object [("message", .str "not found")])⟩

end Indicator.Warehouse
