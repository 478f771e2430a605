import XousAppSignal.Store.Backend

/-! The hand-rolled PDDB client: opening and deleting a key, and streaming bytes into and out
of an open one, a page at a time. The server at the other end is a parameter.
-/

namespace XousAppSignal.Store.Pddb

/-- Three words that name an open key; only the server knows what they mean. -/
abbrev ApiToken := UInt32 × UInt32 × UInt32

def dictNameLen : Nat := 111

def keyNameLen : Nat := 95

/-- The payload of one page on the streaming path. -/
def pddbBufDataLen : Nat := 4072

inductive PddbRequestCode where
  | create
  | «open»
  | close
  | delete
  | noErr
  | notMounted
  | noFreeSpace
  | notFound
  | internalError
  | accessDenied
  | uninit
  | duplicateEntry
  | bulkRead
  deriving DecidableEq

def PddbRequestCode.debug : PddbRequestCode → String
  | .create => "Create"
  | .open => "Open"
  | .close => "Close"
  | .delete => "Delete"
  | .noErr => "NoErr"
  | .notMounted => "NotMounted"
  | .noFreeSpace => "NoFreeSpace"
  | .notFound => "NotFound"
  | .internalError => "InternalError"
  | .accessDenied => "AccessDenied"
  | .uninit => "Uninit"
  | .duplicateEntry => "DuplicateEntry"
  | .bulkRead => "BulkRead"

inductive PddbRetcode where
  | uninit
  | ok
  | basisLost
  | accessDenied
  | unexpectedEof
  | internalError
  | diskFull
  deriving DecidableEq

def PddbRetcode.debug : PddbRetcode → String
  | .uninit => "Uninit"
  | .ok => "Ok"
  | .basisLost => "BasisLost"
  | .accessDenied => "AccessDenied"
  | .unexpectedEof => "UnexpectedEof"
  | .internalError => "InternalError"
  | .diskFull => "DiskFull"

inductive ErrorKind where
  | notMounted
  | notFound
  | accessDenied
  | invalidInput
  | noFreeSpace
  | internal
  | ipc
  deriving DecidableEq

structure IpcError where
  kind : ErrorKind
  msg : String

inductive IoErrorKind where
  | other
  | brokenPipe
  | permissionDenied
  | outOfMemory
  | writeZero
  deriving DecidableEq

/-- The error of a stream call; what it displays is its text. -/
structure IoError where
  kind : IoErrorKind
  text : String

structure OpenOptions where
  createDict : Bool := false
  createKey : Bool := false

def OpenOptions.createAll : OpenOptions where
  createDict := true
  createKey := true

structure OpenReply where
  result : PddbRequestCode
  token : Option ApiToken

/-- A page as the server leaves it after a read. -/
structure ReadReply where
  retcode : PddbRetcode
  len : Nat
  data : Bytes
  whole : data.length = pddbBufDataLen

structure WriteReply where
  retcode : PddbRetcode
  len : Nat

/-- The server behind the client's connection, by its handlers; a reply is missing where
lending the page fails.
-/
structure Server (σ : Type) where
  keyRequest : String → String → OpenOptions → σ → Option OpenReply × σ
  deleteKey : String → String → σ → Option PddbRequestCode × σ
  readKey : ApiToken → Nat → Nat → σ → Option ReadReply × σ
  writeKey : ApiToken → Nat → Bytes → σ → Option WriteReply × σ
  keyDrop : ApiToken → σ → σ

/-- An open key and how far its bytes have been streamed. -/
structure KeyHandle where
  token : ApiToken
  pos : Nat := 0

variable {σ : Type}

/-- `PddbClient::open`. -/
def openKey (server : Server σ) (dict key : String) (opts : OpenOptions) (state : σ)
    : Except IpcError KeyHandle × σ :=
  if dictNameLen - 1 < dict.utf8ByteSize then
    (.error ⟨.invalidInput, "dictionary name too long"⟩, state)
  else if keyNameLen - 1 < key.utf8ByteSize then
    (.error ⟨.invalidInput, "key name too long"⟩, state)
  else
    match server.keyRequest dict key opts state with
    | (none, state) => (.error ⟨.ipc, "lend_mut KeyRequest"⟩, state)
    | (some reply, state) =>
        match reply.result with
        | .noErr =>
            match reply.token with
            | none => (.error ⟨.internal, "server returned no token"⟩, state)
            | some token => (.ok { token }, state)
        | .accessDenied => (.error ⟨.accessDenied, "dict/key access denied"⟩, state)
        | .notMounted => (.error ⟨.notMounted, "PDDB not mounted"⟩, state)
        | .noFreeSpace => (.error ⟨.noFreeSpace, "out of space"⟩, state)
        | .notFound => (.error ⟨.notFound, "dict/key not found"⟩, state)
        | other => (.error ⟨.internal, "KeyRequest: " ++ other.debug⟩, state)

/-- `PddbClient::delete_key`; unlike `open` it leaves the length of the names to the server. -/
def deleteKey (server : Server σ) (dict key : String) (state : σ)
    : Except IpcError Unit × σ :=
  match server.deleteKey dict key state with
  | (none, state) => (.error ⟨.ipc, "lend_mut DeleteKey"⟩, state)
  | (some .noErr, state) => (.ok (), state)
  | (some .notFound, state) => (.error ⟨.notFound, "key not found"⟩, state)
  | (some .notMounted, state) => (.error ⟨.notMounted, "PDDB not mounted"⟩, state)
  | (some other, state) => (.error ⟨.internal, "DeleteKey: " ++ other.debug⟩, state)

namespace KeyHandle

/-- Read into a buffer of `size` bytes: one page at most, the bytes it was filled with. -/
def read (server : Server σ) (size : Nat) (handle : KeyHandle) (state : σ)
    : Except IoError Bytes × KeyHandle × σ :=
  if size = 0 then (.ok [], handle, state)
  else
    let readlen := if size ≤ pddbBufDataLen then size else pddbBufDataLen
    match server.readKey handle.token handle.pos readlen state with
    | (none, state) => (.error ⟨.other, "lend_mut ReadKey"⟩, handle, state)
    | (some reply, state) =>
        match reply.retcode with
        | .ok =>
            if readlen < reply.len then
              (.error ⟨.other, "server returned more data than requested"⟩, handle, state)
            else
              (.ok (reply.data.take reply.len), { handle with pos := handle.pos + reply.len },
                state)
        | .unexpectedEof => (.ok [], handle, state)
        | .basisLost => (.error ⟨.brokenPipe, "basis lost"⟩, handle, state)
        | .accessDenied => (.error ⟨.permissionDenied, "access denied"⟩, handle, state)
        | other => (.error ⟨.other, "ReadKey retcode " ++ other.debug⟩, handle, state)

/-- Write from the front of `buf`: one page at most, the number of bytes accepted. -/
def write (server : Server σ) (buf : Bytes) (handle : KeyHandle) (state : σ)
    : Except IoError Nat × KeyHandle × σ :=
  if buf.isEmpty then (.ok 0, handle, state)
  else
    let writelen := if buf.length ≤ pddbBufDataLen then buf.length else pddbBufDataLen
    match server.writeKey handle.token handle.pos (buf.take writelen) state with
    | (none, state) => (.error ⟨.other, "lend_mut WriteKey"⟩, handle, state)
    | (some reply, state) =>
        match reply.retcode with
        | .ok =>
            if writelen < reply.len then
              (.error ⟨.other, "server reported writing more than supplied"⟩, handle, state)
            else (.ok reply.len, { handle with pos := handle.pos + reply.len }, state)
        | .diskFull => (.error ⟨.outOfMemory, "disk full"⟩, handle, state)
        | .basisLost => (.error ⟨.brokenPipe, "basis lost"⟩, handle, state)
        | .accessDenied => (.error ⟨.permissionDenied, "access denied"⟩, handle, state)
        | other => (.error ⟨.other, "WriteKey retcode " ++ other.debug⟩, handle, state)

/-- `std::io::Write::write_all`: write until nothing is left, or nothing is accepted. -/
def writeAll (server : Server σ) (buf : Bytes) (handle : KeyHandle) (state : σ)
    : Except IoError Unit × KeyHandle × σ :=
  match buf with
  | [] => (.ok (), handle, state)
  | byte :: rest =>
      match handle.write server (byte :: rest) state with
      | (.error e, handle, state) => (.error e, handle, state)
      | (.ok 0, handle, state) =>
          (.error ⟨.writeZero, "failed to write whole buffer"⟩, handle, state)
      | (.ok (count + 1), handle, state) => writeAll server (rest.drop count) handle state
termination_by buf.length
decreasing_by
  simp only [List.length_cons, List.length_drop]
  omega

end KeyHandle

end XousAppSignal.Store.Pddb
