import Telemetry.Gzip
import Telemetry.Json.Writer
import Telemetry.Text.Case

/-!
# Requests and responses

A request has a method, a decoded path, headers and a body; a response has a status, headers
and a body.  Names of headers are compared without regard to case.
-/

namespace Telemetry.Http

/-- Names and values of headers, in order. -/
abbrev Headers := List (String × String)

/-- The first value of a header. -/
def Headers.value? (headers : Headers) (name : String) : Option String :=
  (headers.find? fun h => Text.lower h.1 = Text.lower name).map (·.2)

/-- The content of a body, which may be compressed. -/
def content? (headers : Headers) (body : Bytes) : Option Bytes :=
  if headers.value? "content-encoding" = some "gzip" then Gzip.decompress? body else some body

/-- A request. -/
structure Request where
  method : String
  path : String
  headers : Headers
  body : Bytes
  /-- The host that the request was sent to. -/
  host : String

/-- A response. -/
structure Response where
  status : Nat
  headers : Headers
  body : Bytes
  deriving DecidableEq

/-- Whether a text holds a word. -/
def holds (word s : String) : Bool :=
  (List.range (s.toList.length + 1)).any fun n => word.toList.isPrefixOf (s.toList.drop n)

namespace Response

/-- The text of a response.  It is taken for UTF-8, and where it is none a replacement character is
read; a body that does not decompress has no text. -/
def text (r : Response) : String := Utf8.decodeLossy ((content? r.headers r.body).getD [])

def ofText (status : Nat) (type body : String) : Response :=
  ⟨status, [("content-type", type)], Utf8.encode body⟩

def plain (status : Nat) (body : String) : Response :=
  ofText status "text/plain; charset=utf-8" body

def html (body : String) : Response := ofText 200 "text/html; charset=utf-8" body

def json (status : Nat) (body : Json) : Response :=
  ofText status "application/json" (body.toText .compact)

/-- A response that says what is wrong. -/
def detail (status : Nat) (text : String) : Response :=
  json status (.object [("detail", .string text)])

def withHeader (r : Response) (name value : String) : Response :=
  { r with headers := r.headers ++ [(name, value)] }

/-- The response as it is sent for a request: compressed if the request accepts that. -/
def encoded (r : Response) (request : Request) : Response :=
  let r := r.withHeader "vary" "Accept-Encoding"
  if holds "gzip" ((request.headers.value? "accept-encoding").getD "") then
    { r.withHeader "content-encoding" "gzip" with body := Gzip.compress r.body }
  else r

end Response
end Telemetry.Http
