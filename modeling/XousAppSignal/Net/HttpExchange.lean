import XousAppSignal.Net.RequestFraming

/-! A whole exchange: the client's request reaches a server, the server answers it, and the
client reads the answer. What is lost on the way: a request that contradicts its own framing,
and all but the last of the response fields that share a name.
-/

namespace XousAppSignal.Net.Http

variable {base64 : List UInt8 → String} {userAgent host : String} {req : HttpRequest}

-----------------------------------------------------------------------------------------
-- The server
-----------------------------------------------------------------------------------------

/-- A response that a server can render; its fields may share names. -/
structure Answer (http : HeaderSyntax) where
  status : StatusCode
  reason : String
  fields : List (String × String)
  body : List UInt8
  writable : http.Writable fields
  line : OneLine reason

/-- What a server answers to bytes that are not one request. -/
def badRequest (http : HeaderSyntax) : Answer http where
  status := ⟨400, by decide⟩
  reason := "Bad Request"
  fields := []
  body := []
  writable := fun _ listed => nomatch listed
  line := ⟨by decide, by decide⟩

/-- The answer to what came on a connection. -/
def answerTo {http : HeaderSyntax} (handler : Asked → Answer http) (raw : List UInt8)
    : Answer http :=
  match readRequest raw with
  | some (asked, []) => handler asked
  | _ => badRequest http

/-- A server that answers one request on a connection and closes it. -/
def serve {http : HeaderSyntax} (handler : Asked → Answer http) (raw : List UInt8) : List UInt8 :=
  let answer := answerTo handler raw
  render answer.status answer.reason answer.fields answer.body

/-- A network that reaches this server. -/
def Network.reaching {http : HeaderSyntax} (handler : Asked → Answer http) : Network where
  connect _ _ := .ok ()
  writeAll _ := .ok ()
  flush _ := .ok ()
  readToEnd raw := .ok (serve handler raw)

-----------------------------------------------------------------------------------------
-- The exchange
-----------------------------------------------------------------------------------------

/-- The caller gets this answer: its status, its body, and for each name, in lower case, the
last of its fields.
-/
structure Answer.Received {http : HeaderSyntax} (answer : Answer http) (response : HttpResponse)
    : Prop where
  status : response.status = answer.status
  headers (name : String) : response.headers.lookup name = (valuesOf name answer.fields).getLast?
  body : response.body = answer.body

theorem lookup_fieldMap (fields : List (String × String)) (name : String)
    : (fieldMap fields).lookup name = (valuesOf name fields).getLast? := by
  rw [fieldMap, FiniteMap.lookup_insertAll, AList.lookup_empty, Option.or_none, List.filter_map,
    List.map_map, valuesOf]
  rfl

/-- A rendered answer is received. -/
theorem Answer.parse_render {http : HeaderSyntax} (documented : http.Documented)
    (answer : Answer http)
    : ∃ response,
      parseHttpResponse http (render answer.status answer.reason answer.fields answer.body)
        = .ok response
      ∧ answer.Received response :=
  ⟨_, parseHttpResponse_render documented answer.writable answer.status answer.line answer.body,
    rfl, lookup_fieldMap answer.fields, rfl⟩

/-- All headers of the caller are texts. -/
def HttpRequest.TextHeaders (req : HttpRequest) : Prop :=
  ∀ header ∈ req.headers, header.2.toStr.isSome = true

theorem writeHeaders_ok {headers : List (HeaderName × HeaderValue)}
    (texts : ∀ header ∈ headers, header.2.toStr.isSome = true)
    : ∃ text, writeHeaders headers = .ok text := by
  induction headers with
  | nil => exact ⟨"", rfl⟩
  | cons header rest ih =>
      obtain ⟨here, later⟩ := List.forall_mem_cons.mp texts
      obtain ⟨more, written⟩ := ih later
      obtain ⟨v, found⟩ := Option.isSome_iff_exists.mp here
      exact ⟨_, by rw [writeHeaders, found, written]; rfl⟩

theorem writeHeaders_error {headers : List (HeaderName × HeaderValue)}
    (other : ¬ ∀ header ∈ headers, header.2.toStr.isSome = true)
    : writeHeaders headers = .error (.encode "header value not ASCII") := by
  induction headers with
  | nil => exact absurd (fun _ listed => nomatch listed) other
  | cons header rest ih =>
      rw [writeHeaders]
      cases found : header.2.toStr with
      | none => rfl
      | some v =>
          have later : ¬ ∀ header ∈ rest, header.2.toStr.isSome = true := fun texts =>
            other (List.forall_mem_cons.mpr ⟨by rw [found]; rfl, texts⟩)
          simp only [ih later]
          rfl

/-- Text headers: the caller gets what the server answers to the written bytes. -/
theorem HttpRequest.TextHeaders.exchanged {http : HeaderSyntax} (documented : http.Documented)
    (base64 : List UInt8 → String) (userAgent : String) (texts : req.TextHeaders)
    (handler : Asked → Answer http) (found : req.url.host = some host)
    : ∃ bytes response, writeRequest base64 userAgent host req = .ok bytes
      ∧ (syncExecute http base64 userAgent (.reaching handler) req).result = .ok response
      ∧ (answerTo handler bytes).Received response := by
  obtain ⟨headers, wrote⟩ := writeHeaders_ok texts
  obtain ⟨bytes, written⟩ : ∃ bytes, writeRequest base64 userAgent host req = .ok bytes := by
    unfold writeRequest
    rw [wrote]
    exact ⟨_, rfl⟩
  obtain ⟨response, read, received⟩ := (answerTo handler bytes).parse_render documented
  refine ⟨bytes, response, written, ?_, received⟩
  simp only [syncExecute, found, Network.reaching, written, readResponse, serve, read]
  rfl

/-- A request goes to a server and its response comes back, for every handler of the server.
Consistent headers: the caller gets what the handler makes of the request the caller meant.
Headers that contradict the client's own: the caller gets the server's refusal. A header that is
no text: an error, and nothing is asked.
-/
theorem exchange_returns_answer {http : HeaderSyntax} (documented : http.Documented)
    (clean : Clean base64 userAgent) (handler : Asked → Answer http)
    (found : req.url.host = some host)
    : (req.TextHeaders → req.Consistent
        → ∃ response,
          (syncExecute http base64 userAgent (.reaching handler) req).result = .ok response
          ∧ (handler (req.asked base64 userAgent host)).Received response)
      ∧ (req.TextHeaders → ¬ req.Consistent
        → ∃ response,
          (syncExecute http base64 userAgent (.reaching handler) req).result = .ok response
          ∧ (badRequest http).Received response)
      ∧ (¬ req.TextHeaders
        → syncExecute http base64 userAgent (.reaching handler) req
          = { result := .error (.encode "header value not ASCII"), written := none }) := by
  refine ⟨fun texts consistent => ?_, fun texts contradicts => ?_, fun other => ?_⟩
  · obtain ⟨bytes, response, written, result, received⟩ :=
      texts.exchanged documented base64 userAgent handler found
    have read := consistent.read clean found written []
    rw [List.append_nil] at read
    rw [answerTo, read] at received
    exact ⟨response, result, received⟩
  · obtain ⟨bytes, response, written, result, received⟩ :=
      texts.exchanged documented base64 userAgent handler found
    refine ⟨response, result, ?_⟩
    unfold answerTo at received
    split at received
    · next asked read =>
        rw [← List.append_nil bytes] at read
        exact absurd (HttpRequest.consistent_of_read clean found written read) contradicts
    · exact received
  · simp only [syncExecute, found, Network.reaching, writeRequest, writeHeaders_error other]

/-- A server that sends the body back, with two fields of one name. -/
def echo (asked : Asked) : Answer tokenSyntax where
  status := ⟨200, by decide⟩
  reason := "OK"
  fields := [("Set-Cookie", "a"), ("Set-Cookie", "b")]
  body := asked.body
  writable := by
    unfold HeaderSyntax.Writable
    decide
  line := ⟨by decide, by decide⟩

/-- Only the second cookie arrives. -/
theorem exchange_returns_answer_echo
    : ∃ response,
      (syncExecute tokenSyntax standardBase64 "xas" (.reaching echo) putProfile).result
        = .ok response
      ∧ response.body = [13, 10, 13, 10]
      ∧ response.headers.lookup "set-cookie" = some "b" := by
  have texts : putProfile.TextHeaders := by
    unfold HttpRequest.TextHeaders
    decide
  have consistent : putProfile.Consistent := by
    intro header listed
    obtain rfl := List.mem_singleton.mp listed
    decide
  obtain ⟨response, result, received⟩ :=
    (exchange_returns_answer tokenSyntax_documented
      (@standardBase64_clean "xas" ⟨by decide, by decide⟩) echo rfl).1 texts consistent
  refine ⟨response, result, received.body, (received.headers "set-cookie").trans ?_⟩
  decide +kernel

end XousAppSignal.Net.Http
