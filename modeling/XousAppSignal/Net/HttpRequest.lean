import XousAppSignal.Net.Http

/-! The HTTP client of the network bridge, up to the reading of the response: which bytes a
request becomes, in which order its parts are checked, and what is on the wire when one of
them fails.
-/

namespace XousAppSignal.Net.Http

-----------------------------------------------------------------------------------------
-- The types of the libraries
-----------------------------------------------------------------------------------------

/-- Printable ASCII without the blank. -/
def Visible (c : Char) : Prop := 0x21 ≤ c.toNat ∧ c.toNat ≤ 0x7e

instance (c : Char) : Decidable (Visible c) := inferInstanceAs (Decidable (_ ∧ _))

/-- `http::Method`. -/
structure Method where
  name : String
  visible : ∀ c ∈ name.toList, Visible c

/-- `http::HeaderName`, in lower case. -/
structure HeaderName where
  name : String
  visible : ∀ c ∈ name.toList, Visible c ∧ c ≠ ':'
  lower : lowerCase name = name

/-- `http::HeaderValue`: bytes without control characters but the tab. -/
structure HeaderValue where
  bytes : List UInt8
  legal : ∀ byte ∈ bytes, byte = 9 ∨ (32 ≤ byte ∧ byte ≠ 127)

/-- `HeaderValue::to_str`, which refuses all but visible ASCII, blanks and tabs. -/
def HeaderValue.toStr (value : HeaderValue) : Option String :=
  if value.bytes.all (fun byte => byte = 9 ∨ (32 ≤ byte ∧ byte < 127)) then
    some (String.ofList (value.bytes.map (fun byte => Char.ofNat byte.toNat)))
  else none

/-- A parsed `url::Url`, as far as requests read it. With a host it holds no blank and no
control character, and its path no question mark.
-/
structure Url where
  host : Option String
  portOrKnownDefault : Option Nat
  path : String
  query : Option String
  visible
    : ∀ name, host = some name
      → (∀ c ∈ name.toList, Visible c)
        ∧ (∀ c ∈ path.toList, Visible c ∧ c ≠ '?')
        ∧ ∀ text, query = some text → ∀ c ∈ text.toList, Visible c

structure BasicAuth where
  username : String
  password : String

/-- The headers are listed as the header map yields them. -/
structure HttpRequest where
  method : Method
  url : Url
  headers : List (HeaderName × HeaderValue) := []
  auth : Option BasicAuth := none
  body : Option (List UInt8) := none

/-- The caller's error of a whole request. -/
inductive ExecuteError where
  | invalidUrl (message : String)
  | encode (message : String)
  | http (error : HttpError)
  deriving DecidableEq

-----------------------------------------------------------------------------------------
-- The bytes of a request
-----------------------------------------------------------------------------------------

/-- What follows the host in the request line. -/
def HttpRequest.target (req : HttpRequest) : String :=
  match req.url.query with
  | some q => req.url.path ++ "?" ++ q
  | none => req.url.path

/-- The credentials as they are encoded. -/
def BasicAuth.creds (auth : BasicAuth) : String := auth.username ++ ":" ++ auth.password

/-- The credentials as a line of their own. The encoder is the `base64` library's. -/
def writeAuthorization (base64 : List UInt8 → String) : Option BasicAuth → String
  | some auth => "Authorization: Basic " ++ base64 (asBytes auth.creds) ++ "\r\n"
  | none => ""

/-- One line for each header; the first one that is no text ends the request. -/
def writeHeaders : List (HeaderName × HeaderValue) → Except ExecuteError String
  | [] => .ok ""
  | (name, value) :: rest =>
      match value.toStr with
      | none => .error (.encode "header value not ASCII")
      | some v =>
          (writeHeaders rest).map (fun later => name.name ++ ": " ++ v ++ "\r\n" ++ later)

/-- The request to this host. -/
def writeRequest (base64 : List UInt8 → String) (userAgent host : String) (req : HttpRequest)
    : Except ExecuteError (List UInt8) :=
  let start :=
    req.method.name ++ " " ++ req.target ++ " HTTP/1.1\r\n"
      ++ "Host: " ++ host ++ "\r\n"
      ++ "User-Agent: " ++ userAgent ++ "\r\n"
      ++ "Connection: close\r\n"
      ++ "Accept: */*\r\n"
  match writeHeaders req.headers with
  | .error error => .error error
  | .ok headers =>
      let body := req.body.getD []
      .ok (asBytes (start ++ writeAuthorization base64 req.auth ++ headers
          ++ "Content-Length: " ++ body.length.repr ++ "\r\n" ++ "\r\n") ++ body)

-----------------------------------------------------------------------------------------
-- One request and its response
-----------------------------------------------------------------------------------------

/-- What the network does: connecting, taking all bytes of a request, flushing it, and the
bytes that come back for it until the peer closes.
-/
structure Network where
  connect : String → Nat → Except String Unit
  writeAll : List UInt8 → Except String Unit
  flush : List UInt8 → Except String Unit
  readToEnd : List UInt8 → Except String (List UInt8)

/-- A request with what was handed to the connection. -/
structure Executed where
  result : Except ExecuteError HttpResponse
  written : Option (List UInt8) := none

/-- `sync_execute`. Nothing is written before the whole request is there. -/
def syncExecute (http : HeaderSyntax) (base64 : List UInt8 → String) (userAgent : String)
    (network : Network) (req : HttpRequest)
    : Executed :=
  match req.url.host with
  | none => { result := .error (.invalidUrl "missing host") }
  | some host =>
      match network.connect host (req.url.portOrKnownDefault.getD 443) with
      | .error e => { result := .error (.http (.network ("tls connect: " ++ e))) }
      | .ok () =>
          match writeRequest base64 userAgent host req with
          | .error error => { result := .error error }
          | .ok request =>
              match network.writeAll request with
              | .error e =>
                  { result := .error (.http (.network ("write: " ++ e)))
                    written := some request }
              | .ok () =>
                  match network.flush request with
                  | .error e =>
                      { result := .error (.http (.network ("flush: " ++ e)))
                        written := some request }
                  | .ok () =>
                      { result :=
                          (readResponse http (network.readToEnd request)).mapError .http
                        written := some request }

end XousAppSignal.Net.Http
