import OciCompose.Url

/-
  HTTP requests and responses, and transports that exchange them.
-/

namespace OciCompose.Http

inductive Method where
  | get
  | head
  | post
  | put
deriving DecidableEq

def Method.name : Method → String
  | get => "GET"
  | head => "HEAD"
  | post => "POST"
  | put => "PUT"

/-- A request. Names of headers are in lower case. -/
structure Request where
  method : Method
  url : Url
  headers : List (String × String) := []
  body : Bytes := []
deriving DecidableEq

structure Response where
  status : Nat
  headers : List (String × String) := []
  body : Bytes := []
deriving DecidableEq

/-- A text that may be sent as a header: no control characters but tabs. -/
def isHeaderText (s : String) : Bool :=
  s.toList.all fun c => c == '\t' || (0x20 ≤ c.toNat && c.toNat != 0x7F)

/-- Whether all headers may be sent. -/
def Request.isSendable (r : Request) : Bool := r.headers.all fun h => isHeaderText h.2

namespace Response

def isSuccess (r : Response) : Bool := 200 ≤ r.status && r.status < 300

/-- The first header of a name that is given in lower case, if it is visible ASCII, spaces and tabs
    only. -/
def header? (r : Response) (name : String) : Option String :=
  ((r.headers.find? fun h => h.1.toLower == name).map Prod.snd).filter fun s =>
    s.toList.all fun c => c == '\t' || (0x20 ≤ c.toNat && c.toNat < 0x7F)

end Response

/-- What a status is called. -/
def reason? : Nat → Option String
  | 100 => "Continue"
  | 101 => "Switching Protocols"
  | 102 => "Processing"
  | 103 => "Early Hints"
  | 200 => "OK"
  | 201 => "Created"
  | 202 => "Accepted"
  | 203 => "Non Authoritative Information"
  | 204 => "No Content"
  | 205 => "Reset Content"
  | 206 => "Partial Content"
  | 207 => "Multi-Status"
  | 208 => "Already Reported"
  | 226 => "IM Used"
  | 300 => "Multiple Choices"
  | 301 => "Moved Permanently"
  | 302 => "Found"
  | 303 => "See Other"
  | 304 => "Not Modified"
  | 305 => "Use Proxy"
  | 307 => "Temporary Redirect"
  | 308 => "Permanent Redirect"
  | 400 => "Bad Request"
  | 401 => "Unauthorized"
  | 402 => "Payment Required"
  | 403 => "Forbidden"
  | 404 => "Not Found"
  | 405 => "Method Not Allowed"
  | 406 => "Not Acceptable"
  | 407 => "Proxy Authentication Required"
  | 408 => "Request Timeout"
  | 409 => "Conflict"
  | 410 => "Gone"
  | 411 => "Length Required"
  | 412 => "Precondition Failed"
  | 413 => "Payload Too Large"
  | 414 => "URI Too Long"
  | 415 => "Unsupported Media Type"
  | 416 => "Range Not Satisfiable"
  | 417 => "Expectation Failed"
  | 418 => "I'm a teapot"
  | 421 => "Misdirected Request"
  | 422 => "Unprocessable Entity"
  | 423 => "Locked"
  | 424 => "Failed Dependency"
  | 425 => "Too Early"
  | 426 => "Upgrade Required"
  | 428 => "Precondition Required"
  | 429 => "Too Many Requests"
  | 431 => "Request Header Fields Too Large"
  | 451 => "Unavailable For Legal Reasons"
  | 500 => "Internal Server Error"
  | 501 => "Not Implemented"
  | 502 => "Bad Gateway"
  | 503 => "Service Unavailable"
  | 504 => "Gateway Timeout"
  | 505 => "HTTP Version Not Supported"
  | 506 => "Variant Also Negotiates"
  | 507 => "Insufficient Storage"
  | 508 => "Loop Detected"
  | 510 => "Not Extended"
  | 511 => "Network Authentication Required"
  | _ => none

/-- A status as a text. -/
def statusText (status : Nat) : String :=
  status.repr ++ " " ++ (reason? status).getD "<unknown status code>"

/-- A way to exchange requests for responses, with a state. No response means that no connection was
    made. -/
structure Transport (τ : Type) where
  exchange : Request → StateM τ (Option Response)

/-- No connection succeeds. -/
def Transport.unreachable : Transport τ := ⟨fun _ => pure none⟩

/-- Responses to come, and the requests they were asked for. -/
structure Script where
  responses : List Response
  requests : List Request := []

/-- Drops spaces and tabs at both ends. -/
def trimBlanks (s : String) : String :=
  let blank (c : Char) : Bool := c == ' ' || c == '\t'
  String.ofList ((s.toList.dropWhile blank).reverse.dropWhile blank).reverse

/-- A response as it arrives: header values trimmed, and no body where none is allowed. -/
def Response.received (r : Response) (m : Method) : Response where
  status := r.status
  headers := r.headers.map fun h => (h.1, trimBlanks h.2)
  body := if m = .head ∨ r.status = 204 then [] else r.body

/-- Gives the responses of a script in order, after the last one 500. -/
def Transport.scripted : Transport Script where
  exchange request := fun s =>
    let (response, rest) :=
      match s.responses with
      | r :: rs => (r, rs)
      | [] => (⟨500, [], []⟩, [])
    (some (response.received request.method), ⟨rest, s.requests ++ [request]⟩)

end OciCompose.Http
