import Mathlib.Data.Finset.Sort
import Mathlib.Data.String.Basic
import XousAppSignal.Store.Backend

/-! The write-deferring wrapper: between `beginBatch` and `commit` every write stays in an
in-memory buffer that reads consult first; dropping the guard without `commit` aborts.
-/

namespace XousAppSignal.Store

/-- One entry of the per-batch buffer. -/
inductive BufferEntry where
  | put (bytes : Bytes)
  | delete
  deriving DecidableEq, Repr

/-- What a read of a buffered key returns. -/
def BufferEntry.value : BufferEntry → Option Bytes
  | .put bytes => some bytes
  | .delete => none

structure BufferingBackend (β : Type) where
  inner : β
  batching : Bool := false
  buffer : FiniteMap (String × String) BufferEntry := ∅

namespace BufferingBackend

variable {β : Type}

/-- Wrap an inner backend; the wrapper starts without a batch. -/
def new (inner : β) : BufferingBackend β := { inner }

def isBatching (self : BufferingBackend β) : Bool := self.batching

/-- Number of buffered entries, puts and deletes. -/
def bufferedLen (self : BufferingBackend β) : Nat := self.buffer.entries.length

/-- Open a batch scope; only one can be in flight. The buffer is not touched. -/
def beginBatch : Call (BufferingBackend β) Unit := fun self =>
  match self.batching with
  | false => (.ok (), { self with batching := true })
  | true => (.error (.backend "batch already in flight on this backend"), self)

/-- Discard the buffer and clear the flag: the guard was dropped without a commit. -/
def abortInternal (self : BufferingBackend β) : BufferingBackend β :=
  { self with buffer := ∅, batching := false }

/-- Lift a call on the inner backend to the wrapper. -/
def forward {α : Type} (call : Call β α) : Call (BufferingBackend β) α := fun self =>
  ((call self.inner).1, { self with inner := (call self.inner).2 })

variable [KvBackend β]

def get (dict key : String) : Call (BufferingBackend β) (Option Bytes) := fun self =>
  match self.isBatching, self.buffer.lookup (dict, key) with
  | true, some entry => (.ok entry.value, self)
  | _, _ => forward (KvBackend.get dict key) self

def put (dict key : String) (value : Bytes) : Call (BufferingBackend β) Unit := fun self =>
  match self.isBatching with
  | true => (.ok (), { self with buffer := self.buffer.insert (dict, key) (.put value) })
  | false => forward (KvBackend.put dict key value) self

def delete (dict key : String) : Call (BufferingBackend β) Unit := fun self =>
  match self.isBatching with
  | true => (.ok (), { self with buffer := self.buffer.insert (dict, key) .delete })
  | false => forward (KvBackend.delete dict key) self

/-- A whole-dictionary delete bypasses the buffer: the dictionary's buffered entries are
popped before the inner call, whether or not that call then succeeds.
-/
def deleteDict (dict : String) : Call (BufferingBackend β) Unit := fun self =>
  match self.isBatching with
  | true =>
      forward (KvBackend.deleteDict dict)
        { self with buffer := FiniteMap.retain (fun slot => slot.1 ≠ dict) self.buffer }
  | false => forward (KvBackend.deleteDict dict) self

/-- One buffered entry laid over the ordered key set of `dict`. -/
def overlayKey (dict : String) (keys : Finset String)
    (item : (String × String) × BufferEntry)
    : Finset String :=
  if item.1.1 ≠ dict then keys
  else
    match item.2 with
    | .put _ => insert item.1.2 keys
    | .delete => keys.erase item.1.2

def listKeys (dict : String) : Call (BufferingBackend β) (List String) := fun self =>
  match forward (KvBackend.listKeys dict) self with
  | (.error e, self) => (.error e, self)
  | (.ok innerKeys, self) =>
      match self.isBatching with
      | false => (.ok innerKeys, self)
      | true =>
          let keys := (FiniteMap.pairs self.buffer).foldl (overlayKey dict) innerKeys.toFinset
          (.ok (keys.sort (· ≤ ·)), self)

/-- The wrapper leaves `putBatch` at the trait's default loop over `put`. -/
instance : KvBackend (BufferingBackend β) where
  get := get
  put := put
  delete := delete
  deleteDict := deleteDict
  listKeys := listKeys

-----------------------------------------------------------------------------------------
-- Commit: replay the drained buffer
-----------------------------------------------------------------------------------------

/-- The buffered puts among drained entries, as bulk-write entries. -/
def putsOf (entries : List ((String × String) × BufferEntry))
    : List (String × String × Bytes) :=
  entries.filterMap (fun item =>
    match item.2 with
    | .put bytes => some (item.1.1, item.1.2, bytes)
    | .delete => none)

/-- The buffered tombstones among drained entries. -/
def deletesOf (entries : List ((String × String) × BufferEntry)) : List (String × String) :=
  entries.filterMap (fun item =>
    match item.2 with
    | .put _ => none
    | .delete => some item.1)

/-- Keep the first error of a sequence of calls that are all attempted. -/
def firstError {α : Type} (firstErr : Option Error) : Except Error α → Option Error
  | .ok _ => firstErr
  | .error e => some (firstErr.getD e)

/-- The per-entry fallback: every put is attempted, the first error is remembered. -/
def fallbackPuts : List (String × String × Bytes) → Option Error → β → Option Error × β
  | [], firstErr, inner => (firstErr, inner)
  | (dict, key, value) :: rest, firstErr, inner =>
      let (result, inner) := KvBackend.put dict key value inner
      fallbackPuts rest (firstError firstErr result) inner

/-- Puts go through the bulk path; if it fails, the fallback replays every one of them
and the bulk error itself is not surfaced.
-/
def replayPuts (puts : List (String × String × Bytes)) (inner : β) : Option Error × β :=
  if puts.isEmpty then (none, inner)
  else
    match KvBackend.putBatch puts inner with
    | (.ok (), inner) => (none, inner)
    | (.error _, inner) => fallbackPuts puts none inner

/-- Tombstones are replayed one by one; every delete is attempted. -/
def replayDeletes : List (String × String) → Option Error → β → Option Error × β
  | [], firstErr, inner => (firstErr, inner)
  | (dict, key) :: rest, firstErr, inner =>
      let (result, inner) := KvBackend.delete dict key inner
      replayDeletes rest (firstError firstErr result) inner

/-- Drain the buffer and replay it to the inner backend, in the order in which the hash
map happens to yield its entries. The flag is cleared whatever the replay did.
-/
def commitInternal (order : HashOrder) : Call (BufferingBackend β) Nat := fun self =>
  let entries := order.arrange (FiniteMap.pairs self.buffer)
  let totalCount := entries.length
  let (firstErr, inner) := replayPuts (putsOf entries) self.inner
  let (firstErr, inner) := replayDeletes (deletesOf entries) firstErr inner
  let closed : BufferingBackend β := { inner, batching := false, buffer := ∅ }
  match firstErr with
  | none => (.ok totalCount, closed)
  | some e => (.error e, closed)

end BufferingBackend

end XousAppSignal.Store
