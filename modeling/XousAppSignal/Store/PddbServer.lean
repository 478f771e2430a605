import XousAppSignal.Store.PddbBackend
import XousAppSignal.Store.PddbBatch
import XousAppSignal.Store.PddbListing

/-! The whole backend over the PDDB client: all its calls, on a server with all the handlers
they reach. A loop is given the rounds it may take; the calls that have none never run out.
-/

namespace XousAppSignal.Store.Pddb

variable {σ : Type}

/-- The server behind the client's connection with all its handlers, and the four words the
kernel hands out next for a listing.
-/
structure PddbServer (σ : Type) extends Server σ, ListServer σ where
  deleteDict : String → σ → Option PddbRequestCode × σ
  writeKeyBatch : PddbWriteBatch → σ → Option PddbRetcode × σ
  randomToken4 : σ → ListToken

/-- `PddbClient::delete_dict`; a dictionary that does not exist is deleted already. -/
def deleteDict (server : PddbServer σ) (dict : String) (state : σ) : Except IpcError Unit × σ :=
  match server.deleteDict dict state with
  | (none, state) => (.error ⟨.ipc, "lend_mut DeleteDict"⟩, state)
  | (some .noErr, state) => (.ok (), state)
  | (some .notFound, state) => (.ok (), state)
  | (some .notMounted, state) => (.error ⟨.notMounted, "PDDB not mounted"⟩, state)
  | (some other, state) => (.error ⟨.internal, "DeleteDict: " ++ other.debug⟩, state)

/-- The backend's state is that of the server it talks to; `rounds` is how often a loop may go
round that starts in a state.
-/
structure PddbBackend (server : PddbServer σ) (rounds : σ → Nat) where
  state : σ

namespace PddbBackend

variable {server : PddbServer σ} {rounds : σ → Nat} {α : Type}

/-- A call's outcome; the error is one that the code does not have, for a loop that was cut
short or an index outside its page.
-/
def outcome (self : PddbBackend server rounds) (ended : Option (Except Error α × σ))
    : Except Error α × PddbBackend server rounds :=
  match ended with
  | some (result, state) => (result, ⟨state⟩)
  | none => (.error (.backend "did not return"), self)

/-- `PddbBackend::put_batch`. -/
def putBatch (server : PddbServer σ) (entries : List BatchEntry) (state : σ)
    : Option (Except Error Unit × σ) :=
  if entries.isEmpty then some (.ok (), state)
  else
    (writeBatch server.writeKeyBatch entries state).map fun (result, state) =>
      (result.mapError (mapIpcErr · "write_batch"), state)

/-- `PddbBackend::delete`; a key that does not exist is deleted already. -/
def delete (server : PddbServer σ) (dict key : String) : Call σ Unit := fun state =>
  match deleteKey server.toServer dict key state with
  | (.ok (), state) => (.ok (), state)
  | (.error e, state) =>
      if e.kind = .notFound then (.ok (), state)
      else (.error (mapIpcErr e "delete_key"), state)

/-- `PddbBackend::delete_dict`. -/
def deleteDict (server : PddbServer σ) (dict : String) : Call σ Unit := fun state =>
  let (result, state) := Pddb.deleteDict server dict state
  (result.mapError (mapIpcErr · "delete_dict"), state)

/-- `PddbBackend::list_keys`; a dictionary that does not exist has no keys. -/
def listKeys (server : PddbServer σ) (rounds : Nat) (dict : String) (state : σ)
    : Option (Except Error (List String) × σ) :=
  match Pddb.listKeys server.toListServer rounds (server.randomToken4 state) dict state with
  | .returned (.ok keys, state) => some (.ok keys, state)
  | .returned (.error e, state) =>
      if e.kind = .notFound then some (.ok [], state)
      else some (.error (mapIpcErr e "list_keys"), state)
  | .panicked => none
  | .unfinished => none

instance : KvBackend (PddbBackend server rounds) where
  get dict key self :=
    self.outcome (Pddb.get server.toServer (rounds self.state) dict key self.state)
  put dict key value self :=
    self.outcome (some (Pddb.put server.toServer dict key value self.state))
  putBatch entries self := self.outcome (putBatch server entries self.state)
  delete dict key self := self.outcome (some (delete server dict key self.state))
  deleteDict dict self := self.outcome (some (deleteDict server dict self.state))
  listKeys dict self := self.outcome (listKeys server (rounds self.state) dict self.state)

end PddbBackend

end XousAppSignal.Store.Pddb
