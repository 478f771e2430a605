import XousAppSignal.Net.Http

/-! What the HTTP client reads from a rendered response: the status, every header and the
whole body, whatever bytes the body holds; and what a Content-Length header changes, which
is nothing.
-/

namespace XousAppSignal.Net.Http

-----------------------------------------------------------------------------------------
-- Rendering
-----------------------------------------------------------------------------------------

/-- What the HTTP library documents about the texts it accepts: names are visible ASCII without
a colon, and values have no control character but the tab.
-/
structure HeaderSyntax.Documented (http : HeaderSyntax) : Prop where
  name {text : String} (valid : http.validName text = true) {c : Char} (listed : c ∈ text.toList)
    : 0x21 ≤ c.toNat ∧ c.toNat ≤ 0x7e ∧ c ≠ ':'
  value {text : String} (valid : http.validValue text = true) {c : Char}
    (listed : c ∈ text.toList)
    : c = '\t' ∨ 0x20 ≤ c.toNat

/-- Header fields that can be written: valid, and values without outer blanks. -/
def HeaderSyntax.Writable (http : HeaderSyntax) (fields : List (String × String)) : Prop :=
  ∀ field ∈ fields,
    http.validName field.1 = true ∧ http.validValue field.2 = true ∧ trim field.2 = field.2

/-- Header fields as they are written: valid, different in name, values without outer blanks. -/
structure HeaderSyntax.Fields (http : HeaderSyntax) (fields : List (String × String)) : Prop where
  names : ∀ field ∈ fields, http.validName field.1 = true
  values : ∀ field ∈ fields, http.validValue field.2 = true ∧ trim field.2 = field.2
  different : (fields.map (fun field => lowerCase field.1)).Nodup

/-- A text of one line. -/
def OneLine (text : String) : Prop := '\r' ∉ text.toList ∧ '\n' ∉ text.toList

def renderStatusLine (status : StatusCode) (reason : String) : String :=
  "HTTP/1.1 " ++ status.code.repr ++ " " ++ reason

def renderField (field : String × String) : String := field.1 ++ ": " ++ field.2

/-- The standard rendering of a response. -/
def render (status : StatusCode) (reason : String) (fields : List (String × String))
    (body : List UInt8) : List UInt8 :=
  asBytes (renderStatusLine status reason ++ "\r\n"
    ++ String.join (fields.map (fun field => renderField field ++ "\r\n")) ++ "\r\n") ++ body

-----------------------------------------------------------------------------------------
-- Trimmed texts
-----------------------------------------------------------------------------------------

/-- A text without white space is left as it is. -/
theorem trim_of_visible {text : String} (visible : ∀ c ∈ text.toList, isWhitespace c = false)
    : trim text = text := by
  have kept (chars : List Char) (visible : ∀ c ∈ chars, isWhitespace c = false)
      : chars.dropWhile isWhitespace = chars := by
    cases chars with
    | nil => rfl
    | cons c rest => rw [List.dropWhile_cons_of_neg (by simp [visible c List.mem_cons_self])]
  have backwards : ∀ c ∈ text.toList.reverse, isWhitespace c = false :=
    fun c listed => visible c (List.mem_reverse.mp listed)
  rw [trim, kept _ visible, kept _ backwards, List.reverse_reverse, String.ofList_toList]

theorem trim_space_append (text : String) : trim (" " ++ text) = trim text := by
  rw [trim, String.toList_append]
  rfl

-----------------------------------------------------------------------------------------
-- The lines of a rendered header block
-----------------------------------------------------------------------------------------

theorem HeaderSyntax.Documented.trim_name {http : HeaderSyntax} (documented : http.Documented)
    {name : String} (valid : http.validName name = true)
    : trim name = name := by
  refine trim_of_visible fun c listed => ?_
  obtain ⟨low, high, -⟩ := documented.name valid listed
  simp [isWhitespace]
  omega

theorem HeaderSyntax.Documented.colon_notMem {http : HeaderSyntax} (documented : http.Documented)
    {name : String} (valid : http.validName name = true)
    : ':' ∉ name.toList :=
  fun listed => (documented.name valid listed).2.2 rfl

/-- A control character other than the tab stands in no field. -/
theorem HeaderSyntax.Documented.control_notMem {http : HeaderSyntax}
    (documented : http.Documented) {field : String × String}
    (validName : http.validName field.1 = true) (validValue : http.validValue field.2 = true)
    {c : Char} (control : c.toNat < 0x20) (other : c ≠ '\t')
    : c ∉ (renderField field).toList := by
  intro listed
  simp only [renderField, String.toList_append, List.mem_append] at listed
  rcases listed with (inName | inColon) | inValue
  · have visible := (documented.name validName inName).1
    omega
  · have plain : ∀ c ∈ (": ".toList), 0x20 ≤ c.toNat := by simp
    have visible := plain c inColon
    omega
  · rcases documented.value validValue inValue with tab | visible
    · exact other tab
    · omega

theorem HeaderSyntax.Documented.oneLine_renderField {http : HeaderSyntax}
    (documented : http.Documented) {field : String × String}
    (validName : http.validName field.1 = true) (validValue : http.validValue field.2 = true)
    : OneLine (renderField field) :=
  ⟨documented.control_notMem validName validValue (by decide) (by decide),
    documented.control_notMem validName validValue (by decide) (by decide)⟩

theorem digits_repr {n : Nat} {c : Char} (listed : c ∈ n.repr.toList) : c.isDigit = true := by
  rw [Nat.toList_repr] at listed
  exact Nat.isDigit_of_mem_toDigits (by decide) (by decide) listed

/-- A character that is no digit does not stand in a decimal text. -/
theorem notMem_repr {c : Char} (other : c.isDigit = false) (n : Nat) : c ∉ n.repr.toList := by
  intro listed
  rw [digits_repr listed] at other
  cases other

theorem oneLine_renderStatusLine (status : StatusCode) {reason : String} (line : OneLine reason)
    : OneLine (renderStatusLine status reason) := by
  simp only [OneLine, renderStatusLine, String.toList_append, List.mem_append, not_or]
  exact ⟨⟨⟨⟨by decide, notMem_repr (by decide) _⟩, by decide⟩, line.1⟩,
    ⟨⟨⟨by decide, notMem_repr (by decide) _⟩, by decide⟩, line.2⟩⟩

-----------------------------------------------------------------------------------------
-- Reading the lines back
-----------------------------------------------------------------------------------------

theorem splitnText_renderStatusLine (status : StatusCode) (reason : String)
    : splitnText 3 " " (renderStatusLine status reason)
      = ["HTTP/1.1", status.code.repr, reason] := by
  have version : ' ' ∉ "HTTP/1.1".toList := by decide
  have code : ' ' ∉ status.code.repr.toList := notMem_repr (by decide) _
  have chars : (renderStatusLine status reason).toList
      = "HTTP/1.1".toList ++ ([' '] ++ (status.code.repr.toList ++ ([' '] ++ reason.toList))) := by
    simp [renderStatusLine, String.toList_append]
  have blank : " ".toList = [' '] := rfl
  simp only [splitnText, chars, blank, Delimiters.splitn, Delimiters.splitOnce_of_clean version,
    Delimiters.splitOnce_of_clean code, List.map_cons, List.map_nil, String.ofList_toList]

theorem parseU16_repr {n : Nat} (fits : n < 2 ^ 16) : parseU16 n.repr = .ok n := by
  rw [parseU16, fromStrRadix_repr fits]

theorem StatusCode.fromU16_code (status : StatusCode) : fromU16 status.code = .ok status :=
  dif_pos status.valid

/-- A rendered field is cut behind its name. -/
theorem splitOnceText_renderField {field : String × String} (clean : ':' ∉ field.1.toList)
    : splitOnceText ":" (renderField field) = some (field.1, " " ++ field.2) := by
  have chars : (renderField field).toList
      = field.1.toList ++ ([':'] ++ (" " ++ field.2).toList) := by
    simp [renderField, String.toList_append]
  have colon : ":".toList = [':'] := rfl
  rw [splitOnceText, chars, colon, Delimiters.splitOnce_of_clean clean]
  simp only [Option.map_some, String.ofList_toList]

theorem renderField_ne_empty (field : String × String) : renderField field ≠ "" := by
  intro empty
  have chars := congrArg String.toList empty
  simp [renderField, String.toList_append] at chars

theorem readHeaderLine_renderField {http : HeaderSyntax} (documented : http.Documented)
    {field : String × String} (validName : http.validName field.1 = true)
    (validValue : http.validValue field.2 = true) (trimmed : trim field.2 = field.2)
    (headers : HeaderMap)
    : readHeaderLine http headers (renderField field)
      = headers.insert (lowerCase field.1) field.2 := by
  have filled : (renderField field).isEmpty = false := by
    rw [Bool.eq_false_iff, ne_eq, String.isEmpty_iff]
    exact renderField_ne_empty field
  have parts := splitOnceText_renderField (documented.colon_notMem validName)
  simp only [readHeaderLine, filled, Bool.false_eq_true, if_false, parts, trim_space_append,
    trimmed, documented.trim_name validName, HeaderSyntax.headerName, HeaderSyntax.headerValue,
    validName, validValue, if_true]

/-- The rendered fields are inserted from top to bottom, by induction on the fields. -/
theorem foldl_readHeaderLine {http : HeaderSyntax} (documented : http.Documented)
    {fields : List (String × String)} (valid : http.Writable fields) (headers : HeaderMap)
    : (fields.map renderField).foldl (readHeaderLine http) headers
      = headers.insertAll (fields.map (fun field => (lowerCase field.1, field.2))) := by
  induction fields generalizing headers with
  | nil => rfl
  | cons field rest ih =>
      obtain ⟨validName, validValue, trimmed⟩ := valid field List.mem_cons_self
      rw [List.map_cons, List.foldl_cons,
        readHeaderLine_renderField documented validName validValue trimmed,
        ih fun other listed => valid other (List.mem_cons_of_mem field listed)]
      rfl

-----------------------------------------------------------------------------------------
-- The header block as bytes
-----------------------------------------------------------------------------------------

/-- Lines with the line ends between them. -/
def joinLines (lines : List String) : String :=
  String.ofList (List.intercalate ['\r', '\n'] (lines.map String.toList))

theorem toList_joinLines (lines : List String)
    : (joinLines lines).toList = List.intercalate ['\r', '\n'] (lines.map String.toList) :=
  String.toList_ofList

theorem asBytes_lineEnd : asBytes "\r\n" = [13, 10] := by
  rw [asBytes_eq_flatMap]
  decide

theorem flatMap_lineEnd : ['\r', '\n'].flatMap String.utf8EncodeChar = [13, 10] := by
  decide

theorem asBytes_joinLines (lines : List String)
    : asBytes (joinLines lines) = List.intercalate [13, 10] (lines.map asBytes) := by
  rw [asBytes_eq_flatMap, toList_joinLines, Delimiters.flatMap_intercalate, flatMap_lineEnd,
    List.map_map]
  exact congrArg _ (List.map_congr_left fun line _ => (asBytes_eq_flatMap line).symm)

theorem splitText_joinLines {lines : List String} (some_line : lines ≠ [])
    (single : ∀ line ∈ lines, OneLine line)
    : splitText "\r\n" (joinLines lines) = lines := by
  have clean : ∀ chars ∈ lines.map String.toList, '\r' ∉ chars := by
    intro chars listed
    obtain ⟨line, member, rfl⟩ := List.mem_map.mp listed
    exact (single line member).1
  have lineEnd : "\r\n".toList = ['\r', '\n'] := rfl
  rw [splitText, toList_joinLines, lineEnd,
    Delimiters.split_intercalate (by simpa using some_line) clean, List.map_map]
  simp [Function.comp_def]

/-- A first line and fields, each with its line end, are joined lines. -/
theorem lines_eq (first : String) (fields : List (String × String))
    : first ++ "\r\n" ++ String.join (fields.map (fun field => renderField field ++ "\r\n"))
      = joinLines (first :: fields.map renderField) ++ "\r\n" := by
  have lines := Delimiters.append_flatMap_eq ['\r', '\n']
    first.toList (fields.map (fun field => (renderField field).toList))
  rw [← String.toList_inj, String.toList_append (s := joinLines _), toList_joinLines,
    List.map_cons, List.map_map, Function.comp_def]
  refine Eq.trans ?_ lines
  simp [String.toList_join, List.flatMap_map, String.toList_append]

/-- A rendered response is its joined lines, the empty line and the body. -/
theorem render_eq (status : StatusCode) (reason : String) (fields : List (String × String))
    (body : List UInt8)
    : render status reason fields body
      = asBytes (joinLines (renderStatusLine status reason :: fields.map renderField))
        ++ (headerTerminator ++ body) := by
  rw [render, lines_eq, asBytes_append, asBytes_append, asBytes_lineEnd]
  simp [headerTerminator]

/-- The first empty line is the one behind the header block, whatever the body holds. -/
theorem findHeaderEnd_joinLines {lines : List String}
    (single : ∀ line ∈ lines, line ≠ "" ∧ OneLine line) (body : List UInt8)
    : findHeaderEnd (asBytes (joinLines lines) ++ (headerTerminator ++ body))
      = some (asBytes (joinLines lines)).length := by
  have clean : ∀ piece ∈ lines.map asBytes, piece ≠ [] ∧ 13 ∉ piece := by
    intro piece listed
    obtain ⟨line, member, rfl⟩ := List.mem_map.mp listed
    obtain ⟨filled, single⟩ := single line member
    refine ⟨?_, notMem_asBytes (c := '\r') (by decide) single.1⟩
    rw [← List.length_pos_iff, length_asBytes]
    exact Nat.pos_of_ne_zero fun size => filled (String.utf8ByteSize_eq_zero_iff.mp size)
  rw [asBytes_joinLines]
  exact Delimiters.position_doubled [10] (by decide) clean body

-----------------------------------------------------------------------------------------
-- The round trip
-----------------------------------------------------------------------------------------

/-- The map of the fields, by lower-cased name. -/
def fieldMap (fields : List (String × String)) : HeaderMap :=
  (∅ : HeaderMap).insertAll (fields.map (fun field => (lowerCase field.1, field.2)))

theorem HeaderSyntax.Fields.valid {http : HeaderSyntax} {fields : List (String × String)}
    (wellFormed : http.Fields fields)
    : http.Writable fields :=
  fun field listed => ⟨wellFormed.names field listed, wellFormed.values field listed⟩

/-- The lines of a rendered header block are nonempty single lines. -/
theorem HeaderSyntax.Writable.lines {http : HeaderSyntax} (documented : http.Documented)
    {fields : List (String × String)} (writable : http.Writable fields) (status : StatusCode)
    {reason : String} (line : OneLine reason)
    : ∀ line ∈ renderStatusLine status reason :: fields.map renderField,
      line ≠ "" ∧ OneLine line := by
  intro text listed
  rcases List.mem_cons.mp listed with rfl | listed
  · refine ⟨fun empty => ?_, oneLine_renderStatusLine status line⟩
    have chars := congrArg String.toList empty
    simp [renderStatusLine, String.toList_append] at chars
  · obtain ⟨field, member, rfl⟩ := List.mem_map.mp listed
    obtain ⟨validName, validValue, -⟩ := writable field member
    exact ⟨renderField_ne_empty field, documented.oneLine_renderField validName validValue⟩

theorem readHeaderBlock_render {http : HeaderSyntax} (documented : http.Documented)
    {fields : List (String × String)} (writable : http.Writable fields) (status : StatusCode)
    {reason : String} (line : OneLine reason)
    : readHeaderBlock http
        (asBytes (joinLines (renderStatusLine status reason :: fields.map renderField)))
      = .ok (status, fieldMap fields) := by
  have single := fun text listed => (writable.lines documented status line text listed).2
  have small : status.code < 2 ^ 16 := Nat.lt_trans status.valid.2 (by decide)
  have code : (parseU16 status.code.repr).bind StatusCode.fromU16 = .ok status := by
    rw [parseU16_repr small]
    exact status.fromU16_code
  simp only [readHeaderBlock, fromUtf8_asBytes,
    splitText_joinLines (List.cons_ne_nil _ _) single, splitnText_renderStatusLine, code,
    foldl_readHeaderLine documented writable, fieldMap]

/-- Where a rendered response is cut, and the header block it has there. -/
theorem findHeaderEnd_render {http : HeaderSyntax} (documented : http.Documented)
    {fields : List (String × String)} (writable : http.Writable fields) (status : StatusCode)
    {reason : String} (line : OneLine reason) (body : List UInt8)
    : ∃ headerEnd, findHeaderEnd (render status reason fields body) = some headerEnd
      ∧ readHeaderBlock http ((render status reason fields body).take headerEnd)
        = .ok (status, fieldMap fields)
      ∧ (render status reason fields body).drop (headerEnd + 4) = body := by
  rw [render_eq]
  refine ⟨_, findHeaderEnd_joinLines (writable.lines documented status line) body, ?_, ?_⟩
  · rw [List.take_left]
    exact readHeaderBlock_render documented writable status line
  · rw [← List.drop_drop, List.drop_left]
    rfl

/-- The response holds exactly this status, these fields and this body. -/
structure HttpResponse.Holds (response : HttpResponse) (status : StatusCode)
    (fields : List (String × String)) (body : List UInt8) : Prop where
  status : response.status = status
  headers (name value : String)
    : response.headers.lookup name = some value
      ↔ ∃ field ∈ fields, lowerCase field.1 = name ∧ field.2 = value
  body : response.body = body

theorem parseHttpResponse_render {http : HeaderSyntax} (documented : http.Documented)
    {fields : List (String × String)} (writable : http.Writable fields) (status : StatusCode)
    {reason : String} (line : OneLine reason) (body : List UInt8)
    : parseHttpResponse http (render status reason fields body)
      = .ok ⟨status, fieldMap fields, body⟩ := by
  obtain ⟨headerEnd, found, block, rest⟩ :=
    findHeaderEnd_render documented writable status line body
  simp only [parseHttpResponse, found, block, rest]

/-- A rendered response is read back as it was, and bytes without an empty line are refused. -/
theorem response_roundTrip {http : HeaderSyntax} (documented : http.Documented)
    : (∀ status reason fields body, OneLine reason → http.Fields fields
        → ∃ response, parseHttpResponse http (render status reason fields body) = .ok response
          ∧ response.Holds status fields body)
      ∧ ∀ raw, ¬ headerTerminator <:+: raw
        → ∃ error, parseHttpResponse http raw = .error error := by
  refine ⟨fun status reason fields body line wellFormed => ?_, fun raw absent => ?_⟩
  · refine ⟨_, parseHttpResponse_render documented wellFormed.valid status line body, rfl, ?_, rfl⟩
    intro name value
    have unique : ((fields.map (fun field => (lowerCase field.1, field.2))).map
        Prod.fst).Nodup := by
      rw [List.map_map]
      exact wellFormed.different
    rw [fieldMap, FiniteMap.lookup_insertAll_empty unique]
    simp only [List.mem_map, Prod.mk.injEq]
  · have none_found : findHeaderEnd raw = none := by
      cases found : findHeaderEnd raw with
      | none => rfl
      | some index => exact absurd (Delimiters.infix_of_position found) absent
    exact ⟨.decode "no header terminator", by rw [parseHttpResponse, none_found]⟩

/-- Header texts as the HTTP library accepts them: names are tokens, values are texts without
control characters.
-/
def tokenSyntax : HeaderSyntax where
  validName text :=
    !text.isEmpty && text.toList.all (fun c =>
      let n := c.toNat
      (48 ≤ n && n ≤ 57) || (65 ≤ n && n ≤ 90) || (97 ≤ n && n ≤ 122)
        || "!#$%&'*+-.^_`|~".toList.contains c)
  validValue text :=
    text.toList.all (fun c => c == '\t' || (0x20 ≤ c.toNat && c.toNat != 0x7f))

theorem tokenSyntax_documented : tokenSyntax.Documented where
  name {text} valid {c} listed := by
    have marks : ∀ c ∈ "!#$%&'*+-.^_`|~".toList,
        0x21 ≤ c.toNat ∧ c.toNat ≤ 0x7e ∧ c ≠ ':' := by
      simp
    have every := (Bool.and_eq_true_iff.mp valid).2
    rcases Bool.or_eq_true_iff.mp (List.all_eq_true.mp every c listed) with range | mark
    · have colon : ':'.toNat = 58 := rfl
      simp only [Bool.or_eq_true, Bool.and_eq_true, decide_eq_true_eq] at range
      refine ⟨by omega, by omega, ?_⟩
      rintro rfl
      omega
    · exact marks c (List.contains_iff_mem.mp mark)
  value {text} valid {c} listed := by
    have one := List.all_eq_true.mp valid c listed
    simp only [Bool.or_eq_true, Bool.and_eq_true, beq_iff_eq, decide_eq_true_eq] at one
    exact one.imp id And.left

/-- Witness: a value with a colon, an empty value, and a body that holds an empty line and is
no text.
-/
theorem response_roundTrip_binary
    : ∃ response, parseHttpResponse tokenSyntax
        (render ⟨200, by decide⟩ "OK" [("Content-Type", "a/b; c:d"), ("X-Empty", "")]
          [13, 10, 13, 10, 255])
        = .ok response
      ∧ response.Holds ⟨200, by decide⟩ [("Content-Type", "a/b; c:d"), ("X-Empty", "")]
        [13, 10, 13, 10, 255] := by
  refine (response_roundTrip tokenSyntax_documented).1 _ _ _ _ ⟨by decide, by decide⟩ ⟨?_, ?_, ?_⟩
  · decide
  · decide
  · decide +kernel

-----------------------------------------------------------------------------------------
-- Content-Length
-----------------------------------------------------------------------------------------

/-- The number that a text of decimal digits states. -/
def decimalValue (text : String) : Option Nat :=
  if text.isEmpty then none
  else if text.toList.all Char.isDigit then some (Nat.ofDigitChars 10 text.toList 0)
  else none

/-- The length that the headers state. -/
def contentLength (headers : HeaderMap) : Option Nat :=
  (headers.lookup "content-length").bind decimalValue

/-- A response whose Content-Length is `n` and behind whose header block `rest` follows: too
few bytes are an error, and surplus bytes are no part of the body.
-/
def BoundedBy (n : Nat) (rest : List UInt8) (result : Except HttpError HttpResponse) : Prop :=
  (rest.length < n → ∃ error, result = .error error)
    ∧ (n < rest.length → ∃ response, result = .ok response ∧ response.body = rest.take n)

/-- All that follows the header block becomes the body. -/
theorem readResponse_of_block {http : HeaderSyntax} {raw : List UInt8} {headerEnd : Nat}
    {status : StatusCode} {headers : HeaderMap} (found : findHeaderEnd raw = some headerEnd)
    (block : readHeaderBlock http (raw.take headerEnd) = .ok (status, headers))
    : readResponse http (.ok raw) = .ok ⟨status, headers, raw.drop (headerEnd + 4)⟩ := by
  simp only [readResponse, parseHttpResponse, found, block]

/-- The Content-Length bounds the body exactly when the bytes behind the header block are as
many as it states.
-/
theorem boundedBy_contentLength_iff {http : HeaderSyntax} {raw : List UInt8} {headerEnd : Nat}
    {status : StatusCode} {headers : HeaderMap} {n : Nat}
    (found : findHeaderEnd raw = some headerEnd)
    (block : readHeaderBlock http (raw.take headerEnd) = .ok (status, headers))
    (stated : contentLength headers = some n)
    : BoundedBy n (raw.drop (headerEnd + 4)) (readResponse http (.ok raw))
      ↔ (raw.drop (headerEnd + 4)).length = n := by
  rw [readResponse_of_block found block]
  generalize raw.drop (headerEnd + 4) = rest
  constructor
  · rintro ⟨short, long⟩
    rcases Nat.lt_trichotomy rest.length n with less | same | more
    · obtain ⟨error, failed⟩ := short less
      cases failed
    · exact same
    · obtain ⟨response, read, cut⟩ := long more
      cases read
      have lengths := congrArg List.length cut
      rw [List.length_take_of_le (Nat.le_of_lt more)] at lengths
      exact lengths
  · rintro rfl
    exact ⟨fun less => absurd less (Nat.lt_irrefl _), fun more => absurd more (Nat.lt_irrefl _)⟩

/-- A rendered response with this Content-Length is cut behind its header block. -/
theorem findHeaderEnd_lengthResponse (text : String)
    (valid : tokenSyntax.validValue text = true) (trimmed : trim text = text) (body : List UInt8)
    : ∃ headerEnd,
      findHeaderEnd (render ⟨200, by decide⟩ "OK" [("Content-Length", text)] body)
        = some headerEnd
      ∧ readHeaderBlock tokenSyntax
          ((render ⟨200, by decide⟩ "OK" [("Content-Length", text)] body).take headerEnd)
        = .ok (⟨200, by decide⟩, fieldMap [("Content-Length", text)])
      ∧ (render ⟨200, by decide⟩ "OK" [("Content-Length", text)] body).drop (headerEnd + 4)
        = body := by
  have name : tokenSyntax.validName "Content-Length" = true := by decide
  have writable : tokenSyntax.Writable [("Content-Length", text)] := by
    intro field listed
    obtain rfl := List.mem_singleton.mp listed
    exact ⟨name, valid, trimmed⟩
  exact findHeaderEnd_render tokenSyntax_documented writable _ ⟨by decide, by decide⟩ body

/-- Witness: three bytes behind a Content-Length of three. -/
theorem boundedBy_contentLength_three
    : ∃ headerEnd rest,
      findHeaderEnd (render ⟨200, by decide⟩ "OK" [("Content-Length", "3")] [1, 2, 3])
        = some headerEnd
      ∧ rest = (render ⟨200, by decide⟩ "OK" [("Content-Length", "3")] [1, 2, 3]).drop
        (headerEnd + 4)
      ∧ (BoundedBy 3 rest (readResponse tokenSyntax
          (.ok (render ⟨200, by decide⟩ "OK" [("Content-Length", "3")] [1, 2, 3])))
        ↔ rest.length = 3) := by
  obtain ⟨headerEnd, found, block, -⟩ :=
    findHeaderEnd_lengthResponse "3" (by decide) (by decide) [1, 2, 3]
  exact ⟨headerEnd, _, found, rfl, boundedBy_contentLength_iff found block (by decide +kernel)⟩

/-- Counterexample: three bytes behind a Content-Length of five are returned as the body. -/
theorem contentLength_truncated
    : ∃ headerEnd headers,
      findHeaderEnd (render ⟨200, by decide⟩ "OK" [("Content-Length", "5")] [1, 2, 3])
        = some headerEnd
      ∧ contentLength headers = some 5
      ∧ readResponse tokenSyntax
          (.ok (render ⟨200, by decide⟩ "OK" [("Content-Length", "5")] [1, 2, 3]))
        = .ok ⟨⟨200, by decide⟩, headers, [1, 2, 3]⟩
      ∧ ¬ BoundedBy 5
          ((render ⟨200, by decide⟩ "OK" [("Content-Length", "5")] [1, 2, 3]).drop (headerEnd + 4))
          (readResponse tokenSyntax
            (.ok (render ⟨200, by decide⟩ "OK" [("Content-Length", "5")] [1, 2, 3]))) := by
  obtain ⟨headerEnd, found, block, rest⟩ :=
    findHeaderEnd_lengthResponse "5" (by decide) (by decide) [1, 2, 3]
  have read := readResponse_of_block found block
  rw [rest] at read
  refine ⟨headerEnd, _, found, ?_, read, ?_⟩
  · decide +kernel
  · rw [rest, read]
    rintro ⟨short, -⟩
    obtain ⟨error, failed⟩ := short (by decide)
    cases failed

end XousAppSignal.Net.Http
