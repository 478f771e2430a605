import XousAppSignal.Library.Base64
import XousAppSignal.Net.HttpRequest
import XousAppSignal.Net.HttpRoundTrip

/-! Where a written request begins and ends for the server that reads it. Caller's headers,
credentials and body are arbitrary within their types; still the server reads the method, the
target, the fields and the body the caller meant, and nothing more, unless a header of the
caller contradicts a field the client writes itself.
-/

namespace XousAppSignal.Net.Http

-----------------------------------------------------------------------------------------
-- The server
-----------------------------------------------------------------------------------------

/-- A request as a server reads it. -/
structure Asked where
  method : String
  target : String
  fields : List (String × String)
  body : List UInt8

/-- The values of the fields with this name, which is in lower case. -/
def valuesOf (name : String) (fields : List (String × String)) : List String :=
  (fields.filter (fun field => lowerCase field.1 = name)).map Prod.snd

def readField (line : String) : Option (String × String) :=
  (splitOnceText ":" line).map (fun parts => (parts.1, trim parts.2))

/-- A number in decimal digits. -/
def readDecimal (text : String) : Option Nat :=
  if text ≠ "" ∧ text.toList.all Char.isDigit then some (Nat.ofDigitChars 10 text.toList 0)
  else none

/-- The length of the body: no other coding, and every Content-Length says the same. -/
def bodyLength (fields : List (String × String)) : Option Nat :=
  if valuesOf "transfer-encoding" fields ≠ [] then none
  else
    match (valuesOf "content-length" fields).map readDecimal with
    | [] => some 0
    | first :: rest => if ∀ other ∈ rest, other = first then first else none

/-- The first request of some bytes and what is left of them. A request names one host. -/
def readRequest (raw : List UInt8) : Option (Asked × List UInt8) :=
  (findHeaderEnd raw).bind (fun headerEnd =>
    (fromUtf8 (raw.take headerEnd)).bind (fun text =>
      match splitText "\r\n" text with
      | [] => none
      | requestLine :: lines =>
          match splitText " " requestLine, lines.mapM readField with
          | [method, target, version], some fields =>
              (bodyLength fields).bind (fun length =>
                let rest := raw.drop (headerEnd + 4)
                if version = "HTTP/1.1" ∧ (valuesOf "host" fields).length = 1
                    ∧ length ≤ rest.length then
                  some (⟨method, target, fields, rest.take length⟩, rest.drop length)
                else none)
          | _, _ => none))

-----------------------------------------------------------------------------------------
-- What the caller means
-----------------------------------------------------------------------------------------

def HeaderValue.text (value : HeaderValue) : String :=
  String.ofList (value.bytes.map (fun byte => Char.ofNat byte.toNat))

namespace HttpRequest

variable (base64 : List UInt8 → String) (userAgent host : String) (req : HttpRequest)

def contentLength : Nat := (req.body.getD []).length

/-- The fields of the request, from top to bottom. -/
def fields : List (String × String) :=
  [("Host", host), ("User-Agent", userAgent), ("Connection", "close"), ("Accept", "*/*")]
    ++ req.auth.toList.map (fun auth =>
      ("Authorization", "Basic " ++ base64 (asBytes auth.creds)))
    ++ req.headers.map (fun header => (header.1.name, header.2.text))
    ++ [("Content-Length", req.contentLength.repr)]

/-- The request the caller means, with the values as a server sees them. -/
def asked : Asked where
  method := req.method.name
  target := req.target
  fields := (req.fields base64 userAgent host).map (fun field => (field.1, trim field.2))
  body := req.body.getD []

/-- No header of the caller contradicts a field that the client writes. -/
def Consistent : Prop :=
  ∀ header ∈ req.headers,
    header.1.name ≠ "host" ∧ header.1.name ≠ "transfer-encoding"
    ∧ (header.1.name = "content-length"
      → readDecimal (trim header.2.text) = some req.contentLength)

end HttpRequest

-----------------------------------------------------------------------------------------
-- The lines of a request
-----------------------------------------------------------------------------------------

variable {base64 : List UInt8 → String} {userAgent host : String} {req : HttpRequest}

/-- The request line. -/
def HttpRequest.line (req : HttpRequest) : String :=
  req.method.name ++ " " ++ req.target ++ " HTTP/1.1"

theorem HeaderValue.toStr_eq {value : HeaderValue} {text : String}
    (found : value.toStr = some text)
    : text = value.text := by
  unfold toStr at found
  split at found
  · cases found
    rfl
  · cases found

/-- A header holds no control character but the tab. -/
theorem HeaderValue.control_notMem (value : HeaderValue) {c : Char} (control : c.toNat < 0x20)
    (other : c ≠ '\t')
    : c ∉ value.text.toList := by
  intro listed
  rw [text, String.toList_ofList] at listed
  obtain ⟨byte, member, rfl⟩ := List.mem_map.mp listed
  have code : (Char.ofNat byte.toNat).toNat = byte.toNat := by
    have small := byte.toNat_lt
    rw [Char.ofNat, dif_pos (.inl (by omega))]
    rfl
  rw [code] at control
  rcases value.legal byte member with rfl | ⟨printable, -⟩
  · exact other rfl
  · have bound : 32 ≤ byte.toNat := printable
    omega

/-- The header lines are the rendered headers, each with its line end. -/
theorem writeHeaders_eq {headers : List (HeaderName × HeaderValue)} {text : String}
    (written : writeHeaders headers = .ok text)
    : text
      = String.join (headers.map (fun header =>
          renderField (header.1.name, header.2.text) ++ "\r\n")) := by
  induction headers generalizing text with
  | nil =>
      cases written
      rfl
  | cons header rest ih =>
      obtain ⟨name, value⟩ := header
      rw [writeHeaders] at written
      split at written
      · cases written
      · next v found =>
          obtain ⟨more, later, rfl⟩ : ∃ more, writeHeaders rest = .ok more
              ∧ name.name ++ ": " ++ v ++ "\r\n" ++ more = text := by
            cases later : writeHeaders rest with
            | error error => simp [later, Except.map] at written
            | ok more =>
                rw [later] at written
                exact ⟨more, rfl, by cases written; rfl⟩
          rw [ih later, HeaderValue.toStr_eq found]
          simp [renderField]

theorem writeAuthorization_eq (base64 : List UInt8 → String) (auth : Option BasicAuth)
    : writeAuthorization base64 auth
      = String.join (auth.toList.map (fun auth =>
          renderField ("Authorization", "Basic " ++ base64 (asBytes auth.creds)) ++ "\r\n")) := by
  cases auth with
  | none =>
      change "" = String.join []
      simp
  | some auth =>
      refine String.toList_inj.mp ?_
      change ("Authorization: Basic " ++ base64 (asBytes auth.creds) ++ "\r\n").toList = _
      simp [renderField]

/-- A written request is its lines, the empty line and the body. -/
theorem writeRequest_eq {bytes : List UInt8}
    (written : writeRequest base64 userAgent host req = .ok bytes)
    : bytes
      = asBytes (joinLines (req.line :: (req.fields base64 userAgent host).map renderField))
        ++ (headerTerminator ++ req.body.getD []) := by
  rw [writeRequest] at written
  split at written
  · cases written
  · next headers found =>
      rw [← Except.ok.inj written]
      have block := lines_eq req.line (req.fields base64 userAgent host)
      have text : req.method.name ++ " " ++ req.target ++ " HTTP/1.1\r\n"
            ++ "Host: " ++ host ++ "\r\n" ++ "User-Agent: " ++ userAgent ++ "\r\n"
            ++ "Connection: close\r\n" ++ "Accept: */*\r\n"
            ++ writeAuthorization base64 req.auth ++ headers
            ++ "Content-Length: " ++ (req.body.getD []).length.repr ++ "\r\n"
          = req.line ++ "\r\n"
            ++ String.join ((req.fields base64 userAgent host).map (fun field =>
              renderField field ++ "\r\n")) := by
        clear block written
        refine String.toList_inj.mp ?_
        simp [writeHeaders_eq found, writeAuthorization_eq, HttpRequest.fields, HttpRequest.line,
          renderField, HttpRequest.contentLength, Function.comp_def, String.toList_append]
      rw [text, block, asBytes_append, asBytes_append, asBytes_lineEnd]
      simp [headerTerminator]

-----------------------------------------------------------------------------------------
-- Reading the lines back
-----------------------------------------------------------------------------------------

theorem oneLine_append {left right : String} (first : OneLine left) (second : OneLine right)
    : OneLine (left ++ right) := by
  simp only [OneLine, String.toList_append, List.mem_append, not_or]
  exact ⟨⟨first.1, second.1⟩, first.2, second.2⟩

theorem oneLine_of_visible {text : String} (visible : ∀ c ∈ text.toList, Visible c)
    : OneLine text :=
  ⟨fun listed => absurd (visible _ listed) (by decide),
    fun listed => absurd (visible _ listed) (by decide)⟩

theorem blank_notMem {text : String} (visible : ∀ c ∈ text.toList, Visible c)
    : ' ' ∉ text.toList :=
  fun listed => absurd (visible _ listed) (by decide)

theorem HeaderValue.oneLine (value : HeaderValue) : OneLine value.text :=
  ⟨value.control_notMem (by decide) (by decide), value.control_notMem (by decide) (by decide)⟩

theorem oneLine_repr (n : Nat) : OneLine n.repr :=
  ⟨notMem_repr (by decide) n, notMem_repr (by decide) n⟩

/-- The name of the host and the target are visible. -/
theorem HttpRequest.target_visible (found : req.url.host = some host)
    : (∀ c ∈ host.toList, Visible c) ∧ ∀ c ∈ req.target.toList, Visible c := by
  obtain ⟨name, path, query⟩ := req.url.visible host found
  refine ⟨name, fun c listed => ?_⟩
  unfold target at listed
  split at listed
  · next q asked =>
      simp only [String.toList_append, List.mem_append] at listed
      rcases listed with (inPath | mark) | inQuery
      · exact (path c inPath).1
      · have literal : ∀ c ∈ "?".toList, Visible c :=
          List.all_iff_forall_prop.mp (by decide)
        exact literal c mark
      · exact query q asked c inQuery
  · exact (path c listed).1

/-- The request line has three parts. -/
theorem splitText_line (found : req.url.host = some host)
    : splitText " " req.line = [req.method.name, req.target, "HTTP/1.1"] := by
  have blank : " ".toList = [' '] := rfl
  have version : " HTTP/1.1".toList = ' ' :: "HTTP/1.1".toList := rfl
  have chars : req.line.toList
      = List.intercalate [' '] [req.method.name.toList, req.target.toList, "HTTP/1.1".toList] := by
    simp [HttpRequest.line, String.toList_append, List.intercalate_cons_cons]
  rw [splitText, chars, blank, Delimiters.split_intercalate (List.cons_ne_nil _ _)]
  · simp only [List.map_cons, List.map_nil, String.ofList_toList]
  · intro piece listed
    simp only [List.mem_cons, List.not_mem_nil, or_false] at listed
    rcases listed with rfl | rfl | rfl
    · exact blank_notMem req.method.visible
    · exact blank_notMem (HttpRequest.target_visible found).2
    · decide

/-- What the texts around a request are made of. -/
structure Clean (base64 : List UInt8 → String) (userAgent : String) : Prop where
  agent : OneLine userAgent
  documented : ∀ bytes, Base64.decode (base64 bytes).toList = some bytes

/-- No field breaks its line, and each name ends at its colon. -/
theorem HttpRequest.fields_clean (clean : Clean base64 userAgent)
    (found : req.url.host = some host)
    : ∀ field ∈ req.fields base64 userAgent host,
        (∀ c ∈ field.1.toList, Visible c ∧ c ≠ ':') ∧ OneLine field.2 := by
  have literal (name : String) (visible : name.toList.all (fun c => Visible c ∧ c ≠ ':') = true)
      : ∀ c ∈ name.toList, Visible c ∧ c ≠ ':' :=
    fun c listed => of_decide_eq_true (List.all_eq_true.mp visible c listed)
  have credentials (bytes : List UInt8) : OneLine (base64 bytes) :=
    oneLine_of_visible (Base64.visible_of_decode (clean.documented bytes))
  intro field listed
  simp only [fields, List.mem_append, List.mem_cons, List.not_mem_nil, or_false, List.mem_map]
    at listed
  rcases listed with (((rfl | rfl | rfl | rfl) | ⟨auth, -, rfl⟩) | ⟨header, -, rfl⟩) | rfl
  · exact ⟨literal "Host" (by decide), oneLine_of_visible (target_visible found).1⟩
  · exact ⟨literal "User-Agent" (by decide), clean.agent⟩
  · exact ⟨literal "Connection" (by decide), by decide, by decide⟩
  · exact ⟨literal "Accept" (by decide), by decide, by decide⟩
  · refine ⟨literal "Authorization" (by decide), ?_⟩
    exact oneLine_append ⟨by decide, by decide⟩ (credentials _)
  · exact ⟨header.1.visible, header.2.oneLine⟩
  · exact ⟨literal "Content-Length" (by decide), oneLine_repr _⟩

theorem HttpRequest.line_single (found : req.url.host = some host)
    : req.line ≠ "" ∧ OneLine req.line := by
  constructor
  · intro empty
    have chars := congrArg String.toList empty
    simp [line, String.toList_append] at chars
  · exact oneLine_append (oneLine_append (oneLine_append (oneLine_of_visible req.method.visible)
      ⟨by decide, by decide⟩) (oneLine_of_visible (target_visible found).2)) ⟨by decide, by decide⟩

/-- The lines of a request are nonempty single lines. -/
theorem HttpRequest.lines_single (clean : Clean base64 userAgent)
    (found : req.url.host = some host)
    : ∀ text ∈ req.line :: (req.fields base64 userAgent host).map renderField,
        text ≠ "" ∧ OneLine text := by
  intro text listed
  rcases List.mem_cons.mp listed with rfl | listed
  · exact line_single found
  · obtain ⟨field, member, rfl⟩ := List.mem_map.mp listed
    obtain ⟨name, value⟩ := fields_clean clean found field member
    refine ⟨renderField_ne_empty field, oneLine_append (oneLine_append ?_ ?_) value⟩
    · exact oneLine_of_visible fun c inName => (name c inName).1
    · exact ⟨by decide, by decide⟩

theorem mapM_readField {fields : List (String × String)}
    (clean : ∀ field ∈ fields, ':' ∉ field.1.toList)
    : (fields.map renderField).mapM readField
      = some (fields.map (fun field => (field.1, trim field.2))) := by
  induction fields with
  | nil => rfl
  | cons field rest ih =>
      obtain ⟨first, later⟩ := List.forall_mem_cons.mp clean
      have here : readField (renderField field) = some (field.1, trim field.2) := by
        rw [readField, splitOnceText_renderField first, Option.map_some, trim_space_append]
      rw [List.map_cons, List.mapM_cons, here, ih later]
      rfl

/-- What a server makes of a written request, whatever follows it. -/
theorem readRequest_written (clean : Clean base64 userAgent) (found : req.url.host = some host)
    {bytes : List UInt8} (written : writeRequest base64 userAgent host req = .ok bytes)
    (more : List UInt8)
    : readRequest (bytes ++ more)
      = (bodyLength (req.asked base64 userAgent host).fields).bind (fun length =>
          let rest := req.body.getD [] ++ more
          if (valuesOf "host" (req.asked base64 userAgent host).fields).length = 1
              ∧ length ≤ rest.length then
            some ({ req.asked base64 userAgent host with body := rest.take length },
              rest.drop length)
          else none) := by
  have single := HttpRequest.lines_single clean found
  have cut := findHeaderEnd_joinLines single (req.body.getD [] ++ more)
  have whole : bytes ++ more
      = asBytes (joinLines (req.line :: (req.fields base64 userAgent host).map renderField))
        ++ (headerTerminator ++ (req.body.getD [] ++ more)) := by
    rw [writeRequest_eq written, List.append_assoc, List.append_assoc]
  have names : ∀ field ∈ req.fields base64 userAgent host, ':' ∉ field.1.toList :=
    fun field member listed =>
      ((HttpRequest.fields_clean clean found field member).1 ':' listed).2 rfl
  have lines := splitText_joinLines (List.cons_ne_nil _ _) fun text listed => (single text listed).2
  have rest (tail : List UInt8) : (headerTerminator ++ tail).drop 4 = tail := rfl
  rw [whole, readRequest, cut, Option.bind_some, List.take_left, fromUtf8_asBytes,
    Option.bind_some, lines]
  simp only [splitText_line found, mapM_readField names, ← List.drop_drop, List.drop_left, rest,
    true_and]
  rfl

-----------------------------------------------------------------------------------------
-- Fields by name
-----------------------------------------------------------------------------------------

/-- The values of the caller's headers with this name. -/
def HttpRequest.headerValues (req : HttpRequest) (name : String) : List String :=
  (req.headers.filter (fun header => header.1.name = name)).map (fun header =>
    trim header.2.text)

theorem valuesOf_append (name : String) (left right : List (String × String))
    : valuesOf name (left ++ right) = valuesOf name left ++ valuesOf name right := by
  rw [valuesOf, List.filter_append, List.map_append, valuesOf, valuesOf]

/-- The fields by name: the client's own first, then the caller's, then the length. -/
theorem valuesOf_asked (name : String) (other : name ≠ "authorization")
    : valuesOf name (req.asked base64 userAgent host).fields
      = valuesOf name [("Host", trim host), ("User-Agent", trim userAgent),
          ("Connection", trim "close"), ("Accept", trim "*/*")]
        ++ req.headerValues name
        ++ valuesOf name [("Content-Length", trim req.contentLength.repr)] := by
  have none : valuesOf name ((req.auth.toList.map (fun auth =>
      (("Authorization", "Basic " ++ base64 (asBytes auth.creds)) : String × String))).map
        (fun field => (field.1, trim field.2))) = [] := by
    have lower : lowerCase "Authorization" = "authorization" := by decide +kernel
    simp [valuesOf, lower, Ne.symm other]
  have own : valuesOf name ((req.headers.map (fun header => (header.1.name, header.2.text))).map
      (fun field => (field.1, trim field.2))) = req.headerValues name := by
    simp only [valuesOf, HttpRequest.headerValues, List.map_map, List.filter_map, Function.comp_def,
      HeaderName.lower]
  simp only [HttpRequest.asked, HttpRequest.fields, List.map_append, valuesOf_append, none, own,
    List.append_nil]
  rfl

theorem readDecimal_repr (n : Nat) : readDecimal n.repr = some n := by
  have digits : n.repr.toList.all Char.isDigit = true :=
    List.all_eq_true.mpr fun c listed => digits_repr listed
  have filled : n.repr ≠ "" := by
    intro empty
    have chars := congrArg String.toList empty
    rw [Nat.toList_repr] at chars
    exact Nat.toDigits_ne_nil chars
  rw [readDecimal, if_pos ⟨filled, digits⟩, Nat.toList_repr, Nat.ofDigitChars_ten_toDigits]

theorem trim_repr (n : Nat) : trim n.repr = n.repr := by
  refine trim_of_visible fun c listed => ?_
  have digit := digits_repr listed
  simp only [Char.isDigit, Bool.and_eq_true, decide_eq_true_eq] at digit
  have low : 48 ≤ c.toNat := digit.1
  have high : c.toNat ≤ 57 := digit.2
  simp [isWhitespace]
  omega

/-- Where one field says how long the body is, all others have to agree. -/
theorem bodyLength_of_stated {fields : List (String × String)} {n : Nat}
    (stated : some n ∈ (valuesOf "content-length" fields).map readDecimal)
    : bodyLength fields
      = if valuesOf "transfer-encoding" fields = []
            ∧ ∀ value ∈ valuesOf "content-length" fields, readDecimal value = some n then
          some n
        else none := by
  rw [bodyLength]
  by_cases coded : valuesOf "transfer-encoding" fields = []
  · simp only [coded, ne_eq, not_true_eq_false, if_false, true_and]
    have all : (∀ value ∈ valuesOf "content-length" fields, readDecimal value = some n)
        ↔ ∀ read ∈ (valuesOf "content-length" fields).map readDecimal, read = some n := by
      simp
    simp only [all]
    generalize (valuesOf "content-length" fields).map readDecimal = reads at stated
    rcases reads with _ | ⟨first, later⟩
    · cases stated
    · by_cases agree : ∀ other ∈ later, other = first
      · have same : first = some n := by
          rcases List.mem_cons.mp stated with here | there
          · exact here.symm
          · exact (agree _ there).symm
        subst same
        simp only [if_pos agree, List.forall_mem_cons, true_and]
      · simp only [if_neg agree, List.forall_mem_cons]
        refine (if_neg ?_).symm
        rintro ⟨rfl, same⟩
        exact agree same
  · rw [if_pos coded, if_neg fun both => coded both.1]

-----------------------------------------------------------------------------------------
-- Framing
-----------------------------------------------------------------------------------------

theorem HttpRequest.headerValues_eq_nil {name : String}
    : req.headerValues name = [] ↔ ∀ header ∈ req.headers, header.1.name ≠ name := by
  simp [headerValues]

/-- The client's own fields leave the caller's headers as the only ones that can contradict. -/
theorem HttpRequest.consistent_iff
    : req.Consistent
      ↔ (valuesOf "host" (req.asked base64 userAgent host).fields).length = 1
        ∧ bodyLength (req.asked base64 userAgent host).fields = some req.contentLength := by
  have lower : lowerCase "Host" = "host" ∧ lowerCase "User-Agent" = "user-agent"
      ∧ lowerCase "Connection" = "connection" ∧ lowerCase "Accept" = "accept"
      ∧ lowerCase "Content-Length" = "content-length" := by decide +kernel
  obtain ⟨host', agent, connection, accept, length⟩ := lower
  have hosts : valuesOf "host" (req.asked base64 userAgent host).fields
      = trim host :: req.headerValues "host" := by
    rw [valuesOf_asked _ (by decide)]
    simp [valuesOf, host', agent, connection, accept, length]
  have codings : valuesOf "transfer-encoding" (req.asked base64 userAgent host).fields
      = req.headerValues "transfer-encoding" := by
    rw [valuesOf_asked _ (by decide)]
    simp [valuesOf, host', agent, connection, accept, length]
  have lengths : valuesOf "content-length" (req.asked base64 userAgent host).fields
      = req.headerValues "content-length" ++ [req.contentLength.repr] := by
    rw [valuesOf_asked _ (by decide)]
    simp [valuesOf, host', agent, connection, accept, length, trim_repr]
  have stated : some req.contentLength
      ∈ (valuesOf "content-length" (req.asked base64 userAgent host).fields).map readDecimal := by
    rw [lengths]
    simp [readDecimal_repr]
  rw [bodyLength_of_stated stated, hosts, codings, lengths]
  have agree : (∀ value ∈ req.headerValues "content-length" ++ [req.contentLength.repr],
      readDecimal value = some req.contentLength)
      ↔ ∀ header ∈ req.headers, header.1.name = "content-length"
        → readDecimal (trim header.2.text) = some req.contentLength := by
    rw [List.forall_mem_append, List.forall_mem_singleton, headerValues, List.forall_mem_map]
    simp [readDecimal_repr]
  simp only [agree, headerValues_eq_nil, List.length_cons, Nat.add_eq_right, List.length_eq_zero_iff,
    Consistent]
  constructor
  · intro consistent
    refine ⟨fun header listed => (consistent header listed).1, if_pos ⟨?_, ?_⟩⟩
    · exact fun header listed => (consistent header listed).2.1
    · exact fun header listed => (consistent header listed).2.2
  · rintro ⟨hosts, framed⟩ header listed
    split at framed
    · next both => exact ⟨hosts header listed, both.1 header listed, both.2 header listed⟩
    · cases framed

/-- What is handed to a connection is a whole written request, for the host of the URL. -/
theorem written_eq {http : HeaderSyntax} {network : Network} {bytes : List UInt8}
    (written : (syncExecute http base64 userAgent network req).written = some bytes)
    : ∃ host, req.url.host = some host ∧ writeRequest base64 userAgent host req = .ok bytes := by
  unfold syncExecute at written
  split at written
  · cases written
  · next host found =>
      split at written
      · cases written
      · split at written
        · cases written
        · next request rendered =>
            refine ⟨host, found, rendered.trans (congrArg _ ?_)⟩
            split at written
            · exact Option.some.inj written
            · split at written <;> exact Option.some.inj written

/-- Consistent headers: the request is read as it was meant, and up to its end only. -/
theorem HttpRequest.Consistent.read (consistent : req.Consistent)
    (clean : Clean base64 userAgent) (found : req.url.host = some host) {bytes : List UInt8}
    (written : writeRequest base64 userAgent host req = .ok bytes) (more : List UInt8)
    : readRequest (bytes ++ more) = some (req.asked base64 userAgent host, more) := by
  obtain ⟨single, stated⟩ := (@consistent_iff base64 userAgent host req).mp consistent
  rw [readRequest_written clean found written more, stated, Option.bind_some]
  dsimp only
  rw [if_pos ⟨single, by simp [contentLength]⟩, contentLength, List.take_left, List.drop_left]
  rfl

/-- A server that leaves exactly what follows a request has read it by consistent headers. -/
theorem HttpRequest.consistent_of_read (clean : Clean base64 userAgent)
    (found : req.url.host = some host) {bytes : List UInt8}
    (written : writeRequest base64 userAgent host req = .ok bytes) {more : List UInt8}
    {asked : Asked} (read : readRequest (bytes ++ more) = some (asked, more))
    : req.Consistent := by
  rw [readRequest_written clean found written more] at read
  obtain ⟨length, stated, read⟩ := Option.bind_eq_some_iff.mp read
  dsimp only at read
  split at read
  · next both =>
      have left := congrArg List.length (congrArg Prod.snd (Option.some.inj read))
      have enough := both.2
      simp only [List.length_drop, List.length_append] at left enough
      have same : length = req.contentLength := by
        unfold HttpRequest.contentLength
        omega
      exact HttpRequest.consistent_iff.mpr ⟨both.1, same ▸ stated⟩
  · cases read

/-- Whatever the client hands to a connection, a server reads as the request the caller meant,
and what follows on the connection is left as it is, exactly if no header of the caller
contradicts a field that the client writes itself. The host is the client's own line, the one of
the URL without a port, and the target is empty for a URL without a path.
-/
theorem request_framed_iff {http : HeaderSyntax} {network : Network}
    (clean : Clean base64 userAgent) {bytes : List UInt8}
    (written : (syncExecute http base64 userAgent network req).written = some bytes)
    (more : List UInt8)
    : (∃ host, req.url.host = some host
        ∧ readRequest (bytes ++ more) = some (req.asked base64 userAgent host, more))
      ↔ req.Consistent := by
  obtain ⟨host, found, rendered⟩ := written_eq written
  constructor
  · rintro ⟨host', found', asked⟩
    obtain rfl : host = host' := Option.some.inj (found.symm.trans found')
    exact HttpRequest.consistent_of_read clean found rendered asked
  · intro consistent
    exact ⟨host, found, consistent.read clean found rendered more⟩

/-- Credentials by the standard encoding. -/
def standardBase64 (bytes : List UInt8) : String := String.ofList (Base64.encode bytes)

theorem standardBase64_clean {userAgent : String} (agent : OneLine userAgent)
    : Clean standardBase64 userAgent where
  agent := agent
  documented bytes := by rw [standardBase64, String.toList_ofList, Base64.decode_encode]

/-- A request with credentials, a header, a query and a body. -/
def putProfile : HttpRequest where
  method := ⟨"PUT", List.all_iff_forall_prop.mp (by decide)⟩
  url :=
    { host := some "chat"
      portOrKnownDefault := some 443
      path := "/v1/profile"
      query := some "version=1"
      visible := by
        rintro name ⟨⟩
        refine ⟨List.all_iff_forall_prop.mp (by decide),
          List.all_iff_forall_prop.mp (by decide), ?_⟩
        rintro text ⟨⟩
        exact List.all_iff_forall_prop.mp (by decide) }
  headers :=
    [(⟨"content-type", List.all_iff_forall_prop.mp (by decide), by decide +kernel⟩,
      ⟨[0x74, 0x2f, 0x74], List.all_iff_forall_prop.mp (by decide)⟩)]
  auth := some ⟨"aci", "pass"⟩
  body := some [13, 10, 13, 10]

/-- The body of this request is an empty line, which does not end it. -/
theorem request_framed_iff_put
    : let network : Network :=
        { connect := fun _ _ => .ok (), writeAll := fun _ => .ok (), flush := fun _ => .ok ()
          readToEnd := fun _ => .ok [] }
      ∃ bytes,
        (syncExecute tokenSyntax standardBase64 "xas" network putProfile).written = some bytes
        ∧ ∃ host, putProfile.url.host = some host
          ∧ readRequest (bytes ++ [1]) = some (putProfile.asked standardBase64 "xas" host, [1]) := by
  intro network
  have written : ∃ bytes,
      (syncExecute tokenSyntax standardBase64 "xas" network putProfile).written = some bytes :=
    ⟨_, rfl⟩
  obtain ⟨bytes, written⟩ := written
  refine ⟨bytes, written, ?_⟩
  refine (request_framed_iff (standardBase64_clean ⟨by decide, by decide⟩) written [1]).mpr ?_
  intro header listed
  obtain rfl := List.mem_singleton.mp listed
  decide

end XousAppSignal.Net.Http
