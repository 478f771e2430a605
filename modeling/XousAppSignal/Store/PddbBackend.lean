import XousAppSignal.Store.PddbClient

/-! The backend over the PDDB client. A write deletes the key first, since the server's write
opcode keeps what a longer old value had beyond the new one.
-/

namespace XousAppSignal.Store.Pddb

variable {σ : Type}

/-- The read loop's buffer. -/
def readChunkLen : Nat := 4096

def mapIpcErr (e : IpcError) (ctx : String) : Error :=
  match e.kind with
  | .notMounted => .backend (ctx ++ ": PDDB not mounted")
  | .accessDenied => .backend (ctx ++ ": access denied")
  | .noFreeSpace => .backend (ctx ++ ": out of space")
  | .invalidInput => .backend (ctx ++ ": invalid input (" ++ e.msg ++ ")")
  | .notFound => .backend (ctx ++ ": not found")
  | .internal => .backend (ctx ++ ": " ++ e.msg)
  | .ipc => .backend (ctx ++ ": " ++ e.msg)

/-- Read until a read returns nothing; `none` where the rounds run out before that. -/
def readAll (server : Server σ)
    : Nat → KeyHandle → Bytes → σ → Option (Except IoError Bytes × KeyHandle × σ)
  | 0, _, _, _ => none
  | rounds + 1, handle, out, state =>
      match handle.read server readChunkLen state with
      | (.error e, handle, state) => some (.error e, handle, state)
      | (.ok [], handle, state) => some (.ok out, handle, state)
      | (.ok chunk, handle, state) => readAll server rounds handle (out ++ chunk) state

/-- `PddbBackend::get`; the handle is released when it goes out of scope. -/
def get (server : Server σ) (rounds : Nat) (dict key : String) (state : σ)
    : Option (Except Error (Option Bytes) × σ) :=
  match openKey server dict key {} state with
  | (.error e, state) =>
      if e.kind = .notFound then some (.ok none, state)
      else some (.error (mapIpcErr e "open for read"), state)
  | (.ok handle, state) =>
      (readAll server rounds handle [] state).map fun (result, handle, state) =>
        let state := server.keyDrop handle.token state
        match result with
        | .error e => (.error (.backend ("read: " ++ e.text)), state)
        | .ok bytes => (.ok (some bytes), state)

/-- `PddbBackend::put`. -/
def put (server : Server σ) (dict key : String) (value : Bytes) : Call σ Unit := fun state =>
  match deleteKey server dict key state with
  | (.error e, state) =>
      if e.kind = .notFound then write state
      else (.error (mapIpcErr e "put: pre-delete"), state)
  | (.ok (), state) => write state
where
  /-- The part after the pre-delete. -/
  write (state : σ) : Except Error Unit × σ :=
    match openKey server dict key .createAll state with
    | (.error e, state) => (.error (mapIpcErr e "open for write"), state)
    | (.ok handle, state) =>
        match handle.writeAll server value state with
        | (.error e, handle, state) =>
            (.error (.backend ("write: " ++ e.text)), server.keyDrop handle.token state)
        | (.ok (), handle, state) => (.ok (), server.keyDrop handle.token state)

end XousAppSignal.Store.Pddb
