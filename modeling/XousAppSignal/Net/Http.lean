import XousAppSignal.Library.Delimiters
import XousAppSignal.Library.FiniteMap
import XousAppSignal.Text

/-! The HTTP client of the network bridge, from the reading of the response on: the response
bytes are cut at the first empty line, the header block is read line by line, and everything
behind it is the body. What the HTTP library accepts as a header is a parameter.
-/

namespace XousAppSignal.Net.Http

-----------------------------------------------------------------------------------------
-- Texts
-----------------------------------------------------------------------------------------

/-- `str::split` with a text pattern. -/
def splitText (pattern text : String) : List String :=
  (Delimiters.split pattern.toList text.toList).map String.ofList

/-- `str::splitn`. -/
def splitnText (count : Nat) (pattern text : String) : List String :=
  (Delimiters.splitn count pattern.toList text.toList).map String.ofList

/-- `str::split_once`. -/
def splitOnceText (pattern text : String) : Option (String × String) :=
  (Delimiters.splitOnce pattern.toList text.toList).map
    (fun parts => (String.ofList parts.1, String.ofList parts.2))

/-- The display text of the error with which `str::parse::<u16>` rejects this text. -/
def parseU16Error (text : String) : String :=
  let digits :=
    match text.toList with
    | '+' :: rest => rest
    | chars => chars
  let read : Nat :=
    (digits.takeWhile Char.isDigit).foldl (fun acc c => acc * 10 + (c.toNat - '0'.toNat)) 0
  if text.isEmpty then "cannot parse integer from empty string"
  else if read < 2 ^ 16 then "invalid digit found in string"
  else "number too large to fit in target type"

/-- `str::parse::<u16>`. -/
def parseU16 (text : String) : Except String Nat :=
  match fromStrRadix 16 10 text with
  | some n => .ok n
  | none => .error (parseU16Error text)

-----------------------------------------------------------------------------------------
-- The types of the HTTP library
-----------------------------------------------------------------------------------------

/-- A status code of three digits. -/
structure StatusCode where
  code : Nat
  valid : 100 ≤ code ∧ code < 1000

/-- `http::StatusCode::from_u16`. -/
def StatusCode.fromU16 (code : Nat) : Except String StatusCode :=
  if valid : 100 ≤ code ∧ code < 1000 then .ok ⟨code, valid⟩
  else .error "invalid status code"

/-- The texts from which the HTTP library makes header names and header values. -/
structure HeaderSyntax where
  validName : String → Bool
  validValue : String → Bool

/-- A header name without regard to case. -/
def lowerCase (name : String) : String := name.map Char.toLower

/-- `http::HeaderName::try_from`. -/
def HeaderSyntax.headerName (http : HeaderSyntax) (text : String) : Option String :=
  if http.validName text then some (lowerCase text) else none

/-- `http::HeaderValue::try_from`; a value is the text it was made from. -/
def HeaderSyntax.headerValue (http : HeaderSyntax) (text : String) : Option String :=
  if http.validValue text then some text else none

/-- `http::HeaderMap`, from lower-cased names to values. -/
abbrev HeaderMap := FiniteMap String String

structure HttpResponse where
  status : StatusCode
  headers : HeaderMap
  body : List UInt8

/-- The caller's error, as far as the reading of a response builds it. -/
inductive HttpError where
  | network (message : String)
  | decode (message : String)
  deriving DecidableEq

-----------------------------------------------------------------------------------------
-- Reading a response
-----------------------------------------------------------------------------------------

/-- The empty line behind the header block. -/
def headerTerminator : List UInt8 := [13, 10, 13, 10]

def findHeaderEnd (raw : List UInt8) : Option Nat := Delimiters.position headerTerminator raw

/-- One turn of the loop over the header lines. -/
def readHeaderLine (http : HeaderSyntax) (headers : HeaderMap) (line : String) : HeaderMap :=
  if line.isEmpty then headers
  else
    match splitOnceText ":" line with
    | none => headers
    | some (name, value) =>
        match http.headerName (trim name), http.headerValue (trim value) with
        | some n, some v => headers.insert n v
        | _, _ => headers

/-- The status and the headers of a header block. -/
def readHeaderBlock (http : HeaderSyntax) (headerBlock : List UInt8)
    : Except HttpError (StatusCode × HeaderMap) :=
  match fromUtf8 headerBlock with
  | none => .error (.decode "non-UTF-8 header")
  | some headerText =>
      match splitText "\r\n" headerText with
      | [] => .error (.decode "missing status line")
      | statusLine :: lines =>
          match splitnText 3 " " statusLine with
          | _ :: statusCode :: _ =>
              match (parseU16 statusCode).bind StatusCode.fromU16 with
              | .error text => .error (.decode text)
              | .ok status => .ok (status, lines.foldl (readHeaderLine http) ∅)
          | _ => .error (.decode "missing status code")

def parseHttpResponse (http : HeaderSyntax) (raw : List UInt8)
    : Except HttpError HttpResponse :=
  match findHeaderEnd raw with
  | none => .error (.decode "no header terminator")
  | some headerEnd =>
      match readHeaderBlock http (raw.take headerEnd) with
      | .error error => .error error
      | .ok (status, headers) => .ok ⟨status, headers, raw.drop (headerEnd + 4)⟩

/-- `sync_execute` behind the write of the request; `raw` is what the read to the end of the
stream returned.
-/
def readResponse (http : HeaderSyntax) (raw : Except String (List UInt8))
    : Except HttpError HttpResponse :=
  match raw with
  | .error e => .error (.network ("read: " ++ e))
  | .ok raw => parseHttpResponse http raw

end XousAppSignal.Net.Http
