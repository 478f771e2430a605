import XousAppSignal.Library.DecimalKeys
import XousAppSignal.Store.KeyDerivations

/-! The history of a thread: what a range query returns after any saves, deletions and clears,
over a backend that does not fail.
-/

namespace XousAppSignal.Store

/-- The lower bound of a range, as a set of timestamps. -/
def Contents.Bound.above : Contents.Bound → Set UInt64
  | .included limit => {timestamp | limit ≤ timestamp}
  | .excluded limit => {timestamp | limit < timestamp}
  | .unbounded => Set.univ

def Contents.Bound.below : Contents.Bound → Set UInt64
  | .included limit => {timestamp | timestamp ≤ limit}
  | .excluded limit => {timestamp | timestamp < limit}
  | .unbounded => Set.univ

/-- The timestamps of a range. -/
def Contents.TimestampRange.toSet (range : Contents.TimestampRange) : Set UInt64 :=
  range.start.above ∩ range.end_.below

theorem Contents.rangeContainsU64_iff {range : Contents.TimestampRange} {timestamp : UInt64}
    : Contents.rangeContainsU64 range timestamp = true ↔ timestamp ∈ range.toSet := by
  rcases range with ⟨start, stop⟩
  simp only [Contents.rangeContainsU64, Bool.and_eq_true, Contents.TimestampRange.toSet,
    Set.mem_inter_iff]
  apply and_congr
  · cases start <;> simp [Contents.Bound.above]
  · cases stop <;> simp [Contents.Bound.below]

variable {presage : Presage}

/-- The serializers give this message back: JSON its record, protobuf its body, and the texts
of its ids the ids.
-/
structure Presage.Restores (presage : Presage) (content : MessageContent presage.ContentBody)
    : Prop where
  json
    : ∃ bytes, presage.storedMessage.toVec (Contents.fromContent presage content) = .ok bytes
        ∧ presage.storedMessage.fromSlice bytes = .ok (Contents.fromContent presage content)
  proto
    : ∃ proto, presage.decodeProto (presage.encodeBody content.body) = .ok proto
        ∧ presage.fromProto proto content.metadata = .ok content
  sender
    : presage.parseServiceId content.metadata.sender.serviceIdString
      = some content.metadata.sender
  destination
    : presage.parseServiceId content.metadata.destination.serviceIdString
      = some content.metadata.destination
  serverGuid
    : ∀ uuid ∈ content.metadata.serverGuid, presage.parseUuid uuid.toString = some uuid

theorem DeviceId.tryFrom_id (device : DeviceId) : DeviceId.tryFrom device.id = some device := by
  rw [tryFrom, dif_pos device.valid]

/-- A restored message comes back out of its record. -/
theorem intoContent_fromContent {content : MessageContent presage.ContentBody}
    (restores : presage.Restores content)
    : Contents.intoContent presage (Contents.fromContent presage content) = .ok content := by
  obtain ⟨proto, decoded, rebuilt⟩ := restores.proto
  have guid : (content.metadata.serverGuid.map Uuid.toString).bind presage.parseUuid
      = content.metadata.serverGuid := by
    cases same : content.metadata.serverGuid with
    | none => rfl
    | some uuid => exact restores.serverGuid uuid same
  have sender : Contents.intoContent.serviceId presage "invalid sender service id: "
      content.metadata.sender.serviceIdString = .ok content.metadata.sender := by
    rw [Contents.intoContent.serviceId, restores.sender]
  have destination : Contents.intoContent.serviceId presage "invalid destination service id: "
      content.metadata.destination.serviceIdString = .ok content.metadata.destination := by
    rw [Contents.intoContent.serviceId, restores.destination]
  simp only [Contents.intoContent, Contents.fromContent, decoded, sender, destination, guid,
    DeviceId.tryFrom_id, rebuilt, Except.mapError, bind, Except.bind]

/-- What changes the messages of the store. -/
inductive MessageOp (presage : Presage) where
  | save (thread : Thread) (message : MessageContent presage.ContentBody)
  | delete (thread : Thread) (timestamp : UInt64)
  | clear (thread : Thread)

namespace MessageOp

def thread : MessageOp presage → Thread
  | .save thread _ => thread
  | .delete thread _ => thread
  | .clear thread => thread

def perform {β : Type} [KvBackend β] : MessageOp presage → Call β Unit
  | .save thread message => Contents.saveMessage presage thread message
  | .delete thread timestamp =>
      Attempt.map (fun _ => ()) (Contents.deleteMessage presage thread timestamp)
  | .clear thread => Contents.clearThread presage thread

/-- The message the op leaves at a place, given the one that was there. -/
def leaves (thread : Thread) (timestamp : UInt64)
    (prior : Option (MessageContent presage.ContentBody)) (op : MessageOp presage)
    : Option (MessageContent presage.ContentBody) :=
  match op with
  | .save target message =>
      if target = thread ∧ message.metadata.timestamp = timestamp then some message else prior
  | .delete target deleted => if target = thread ∧ deleted = timestamp then none else prior
  | .clear target => if target = thread then none else prior

/-- The messages that an op saves can be restored. -/
def Restorable : MessageOp presage → Prop
  | .save _ message => presage.Restores message
  | _ => True

end MessageOp

/-- What the last op on a place saved there, if it was a save. -/
def lastSaved (ops : List (MessageOp presage)) (thread : Thread) (timestamp : UInt64)
    : Option (MessageContent presage.ContentBody) :=
  ops.foldl (MessageOp.leaves thread timestamp) none

@[simp]
theorem lastSaved_nil (thread : Thread) (timestamp : UInt64)
    : lastSaved ([] : List (MessageOp presage)) thread timestamp = none :=
  rfl

theorem lastSaved_concat (ops : List (MessageOp presage)) (op : MessageOp presage)
    (thread : Thread) (timestamp : UInt64)
    : lastSaved (ops ++ [op]) thread timestamp
      = op.leaves thread timestamp (lastSaved ops thread timestamp) := by
  simp [lastSaved]

/-- A thread's messages are the business of the ops on it alone. -/
theorem leaves_other {op : MessageOp presage} {thread : Thread} (other : op.thread ≠ thread)
    (timestamp : UInt64) (prior : Option (MessageContent presage.ContentBody))
    : op.leaves thread timestamp prior = prior := by
  cases op with
  | save target message => exact if_neg fun same => other same.1
  | delete target deleted => exact if_neg fun same => other same.1
  | clear target => exact if_neg other

theorem lastSaved_filter (ops : List (MessageOp presage)) (thread : Thread)
    (timestamp : UInt64)
    : lastSaved (ops.filter (·.thread = thread)) thread timestamp
      = lastSaved ops thread timestamp := by
  induction ops using List.reverseRecOn with
  | nil => rfl
  | append_singleton ops op ih =>
      rw [List.filter_append, lastSaved_concat]
      by_cases own : op.thread = thread
      · have kept : [op].filter (·.thread = thread) = [op] := by simp [own]
        rw [kept, lastSaved_concat, ih]
      · have dropped : [op].filter (·.thread = thread) = [] := by simp [own]
        rw [dropped, List.append_nil, ih, leaves_other own]

/-- What was last saved at a place has that timestamp, and can be restored. -/
theorem lastSaved_some {ops : List (MessageOp presage)}
    (restorable : ∀ op ∈ ops, op.Restorable) {thread : Thread} {timestamp : UInt64}
    {content : MessageContent presage.ContentBody}
    (saved : lastSaved ops thread timestamp = some content)
    : content.metadata.timestamp = timestamp ∧ presage.Restores content := by
  induction ops using List.reverseRecOn with
  | nil => cases saved
  | append_singleton ops op ih =>
      have earlier := ih fun op listed => restorable op (List.mem_append_left _ listed)
      have last := restorable op (by simp)
      rw [lastSaved_concat] at saved
      cases op with
      | save target message =>
          simp only [MessageOp.leaves] at saved
          split at saved
          · next here =>
              cases saved
              exact ⟨here.2, last⟩
          · exact earlier saved
      | delete target deleted =>
          simp only [MessageOp.leaves] at saved
          split at saved
          · cases saved
          · exact earlier saved
      | clear target =>
          simp only [MessageOp.leaves] at saved
          split at saved
          · cases saved
          · exact earlier saved

-----------------------------------------------------------------------------------------
-- A thread's dictionary
-----------------------------------------------------------------------------------------

/-- A row of the dictionary holds this message, or there is neither. -/
inductive Row (presage : Presage)
    : Option Bytes → Option (MessageContent presage.ContentBody) → Prop where
  | absent : Row presage none none
  | present {bytes : Bytes} {content : MessageContent presage.ContentBody}
      (restores : presage.Restores content)
      (stored
        : presage.storedMessage.fromSlice bytes = .ok (Contents.fromContent presage content))
      : Row presage (some bytes) (some content)

theorem Row.isSome_eq {value : Option Bytes}
    {content : Option (MessageContent presage.ContentBody)} (row : Row presage value content)
    : value.isSome = content.isSome := by
  cases row <;> rfl

/-- A dictionary holds exactly these messages, each under its timestamp. -/
structure Holds (view : View) (thread : Thread)
    (last : UInt64 → Option (MessageContent presage.ContentBody))
    : Prop where
  rows
    : ∀ timestamp,
        Row presage
          (view (Contents.threadDictName presage thread, Contents.messageKey timestamp))
          (last timestamp)
  keys
    : ∀ key, (view (Contents.threadDictName presage thread, key)).isSome = true
        → ∃ timestamp, key = Contents.messageKey timestamp

section Steps

variable {view : View} {thread target : Thread}
  {last : UInt64 → Option (MessageContent presage.ContentBody)}

/-- Writing or deleting one row. -/
theorem Holds.set (holds : Holds view thread last) (apart : presage.Apart target thread)
    (timestamp : UInt64) {value : Option Bytes}
    {content : Option (MessageContent presage.ContentBody)} (row : Row presage value content)
    : Holds
        (Function.update view
          (Contents.threadDictName presage target, Contents.messageKey timestamp) value)
        thread (fun other => if target = thread ∧ timestamp = other then content else last other)
    where
  rows other := by
    by_cases here : target = thread ∧ timestamp = other
    · obtain ⟨rfl, rfl⟩ := here
      simpa using row
    · have elsewhere
          : (Contents.threadDictName presage thread, Contents.messageKey other)
            ≠ (Contents.threadDictName presage target, Contents.messageKey timestamp) := by
        intro same
        obtain ⟨dict, key⟩ := Prod.mk.inj same
        exact here ⟨((threadDictName_inj apart).mp dict.symm),
          (Contents.messageKey_injective key).symm⟩
      rw [Function.update_of_ne elsewhere, if_neg here]
      exact holds.rows other
  keys key present := by
    by_cases here
        : (Contents.threadDictName presage thread, key)
          = (Contents.threadDictName presage target, Contents.messageKey timestamp)
    · exact ⟨timestamp, (Prod.mk.inj here).2⟩
    · rw [Function.update_of_ne here] at present
      exact holds.keys key present

/-- Dropping a dictionary. -/
theorem Holds.clear (holds : Holds view thread last) (apart : presage.Apart target thread)
    : Holds (view.clearDict (Contents.threadDictName presage target)) thread
        (fun other => if target = thread then none else last other) where
  rows other := by
    by_cases own : target = thread
    · subst own
      simpa [View.clearDict] using Row.absent
    · have elsewhere : Contents.threadDictName presage thread
          ≠ Contents.threadDictName presage target := fun same =>
        own ((threadDictName_inj apart).mp same.symm)
      rw [View.clearDict, if_neg elsewhere, if_neg own]
      exact holds.rows other
  keys key present := by
    simp only [View.clearDict] at present
    split at present
    · cases present
    · exact holds.keys key present

end Steps

section Runs

variable {β : Type} [KvBackend β] {contract : KvContract β} {backend : β} {thread : Thread}
  {last : UInt64 → Option (MessageContent presage.ContentBody)}

/-- A usable backend whose dictionary for the thread holds exactly these messages. -/
structure Records (contract : KvContract β) (backend : β) (thread : Thread)
    (last : UInt64 → Option (MessageContent presage.ContentBody))
    : Prop where
  ready : contract.Ready backend
  holds : Holds (contract.view backend) thread last

/-- A deletion, with what it found. -/
theorem deleteMessage_returns (ready : contract.Ready backend) (target : Thread)
    (timestamp : UInt64)
    : Returns contract.Ready contract.view
        (Contents.deleteMessage presage target timestamp backend)
        (contract.view backend
          (Contents.threadDictName presage target, Contents.messageKey timestamp)).isSome
        (Function.update (contract.view backend)
          (Contents.threadDictName presage target, Contents.messageKey timestamp) none) := by
  have found := contract.get ready (Contents.threadDictName presage target)
    (Contents.messageKey timestamp)
  rcases got : KvBackend.get (Contents.threadDictName presage target)
    (Contents.messageKey timestamp) backend with ⟨result, next⟩
  rw [got] at found
  have gone := contract.delete found.ready (Contents.threadDictName presage target)
    (Contents.messageKey timestamp)
  obtain rfl : result = .ok _ := found.result
  simp only [Contents.deleteMessage, Contents.deleteExisting, Attempt.andThen, got, Attempt.map]
  refine ⟨by rw [gone.result]; rfl, gone.ready, ?_⟩
  rw [gone.view, found.view]

/-- One op, on this thread or another. -/
theorem Records.perform (records : Records contract backend thread last)
    {op : MessageOp presage} (restorable : op.Restorable)
    (apart : presage.Apart op.thread thread)
    : Records contract (op.perform backend).2 thread
        (fun timestamp => op.leaves thread timestamp (last timestamp)) := by
  cases op with
  | save target message =>
      obtain ⟨bytes, encoded, decoded⟩ := restorable.json
      have stored := contract.put records.ready (Contents.threadDictName presage target)
        (Contents.messageKey message.metadata.timestamp) bytes
      have performed : (MessageOp.save target message).perform backend
          = KvBackend.put (Contents.threadDictName presage target)
              (Contents.messageKey message.metadata.timestamp) bytes backend := by
        simp only [MessageOp.perform, Contents.saveMessage, backendPutJson, Attempt.andThen,
          Attempt.lift, encoded, Except.mapError]
      rw [performed]
      refine ⟨stored.ready, ?_⟩
      rw [stored.view]
      exact records.holds.set apart _ (.present restorable decoded)
  | delete target timestamp =>
      have gone := @deleteMessage_returns presage _ _ _ _ records.ready target timestamp
      refine ⟨gone.ready, ?_⟩
      change Holds (contract.view (Contents.deleteMessage presage target timestamp backend).2) _ _
      rw [gone.view]
      exact records.holds.set apart timestamp .absent
  | clear target =>
      have dropped := contract.deleteDict records.ready (Contents.threadDictName presage target)
      refine ⟨dropped.ready, ?_⟩
      change Holds (contract.view (KvBackend.deleteDict
        (Contents.threadDictName presage target) backend).2) _ _
      rw [dropped.view]
      exact records.holds.clear apart

/-- The store after some message operations. -/
def afterOps (ops : List (MessageOp presage)) (backend : β) : β :=
  Runs.run (fun backend op => (op.perform backend).2) backend ops

/-- A whole run, by induction on its ops. -/
theorem Records.run {ops : List (MessageOp presage)}
    (records : Records contract backend thread (lastSaved ([] : List (MessageOp presage)) thread))
    (restorable : ∀ op ∈ ops, op.Restorable) (apart : ∀ op ∈ ops, presage.Apart op.thread thread)
    : Records contract (afterOps ops backend) thread (lastSaved ops thread) := by
  induction ops using List.reverseRecOn with
  | nil => exact records
  | append_singleton ops op ih =>
      have before := ih (fun op listed => restorable op (List.mem_append_left _ listed))
        (fun op listed => apart op (List.mem_append_left _ listed))
      have after := before.perform (restorable op (by simp)) (apart op (by simp))
      have last : (fun timestamp => op.leaves thread timestamp (lastSaved ops thread timestamp))
          = lastSaved (ops ++ [op]) thread := by
        funext timestamp
        rw [lastSaved_concat]
      rw [last] at after
      simpa [afterOps, Runs.run_append] using after

-----------------------------------------------------------------------------------------
-- Queries
-----------------------------------------------------------------------------------------

/-- A single message. -/
theorem Records.message (records : Records contract backend thread last) (timestamp : UInt64)
    : (Contents.message presage thread timestamp backend).1 = .ok (last timestamp) := by
  have found := contract.get records.ready (Contents.threadDictName presage thread)
    (Contents.messageKey timestamp)
  have row := records.holds.rows timestamp
  rcases got : KvBackend.get (Contents.threadDictName presage thread)
    (Contents.messageKey timestamp) backend with ⟨result, next⟩
  rw [got] at found
  obtain rfl : result = .ok _ := found.result
  simp only [Contents.message, backendGetJson, Attempt.andThen, got]
  generalize contract.view backend
    (Contents.threadDictName presage thread, Contents.messageKey timestamp) = value at row ⊢
  generalize last timestamp = content at row ⊢
  cases row with
  | absent => rfl
  | present restores stored =>
      simp only [Attempt.lift, stored, Except.map, Except.mapError,
        intoContent_fromContent restores]

/-- One row of a query. -/
def loadMessage (presage : Presage) (thread : Thread) (timestamp : UInt64)
    : Call β (MessageContent presage.ContentBody) :=
  Attempt.andThen
    (backendGetJsonRequired presage.storedMessage (Contents.threadDictName presage thread)
      (Contents.messageKey timestamp)
      ("message disappeared: " ++ Contents.messageKey timestamp))
    (fun stored => Attempt.lift (Contents.intoContent presage stored))

theorem Records.load (records : Records contract backend thread last) {timestamp : UInt64}
    {content : MessageContent presage.ContentBody} (present : last timestamp = some content)
    : (loadMessage presage thread timestamp backend).1 = .ok content
      ∧ Records contract (loadMessage presage thread timestamp backend).2 thread last := by
  have found := contract.get records.ready (Contents.threadDictName presage thread)
    (Contents.messageKey timestamp)
  have row := records.holds.rows timestamp
  rcases got : KvBackend.get (Contents.threadDictName presage thread)
    (Contents.messageKey timestamp) backend with ⟨result, next⟩
  rw [got] at found
  obtain rfl : result = .ok _ := found.result
  have kept : Records contract next thread last := ⟨found.ready, found.view ▸ records.holds⟩
  simp only [loadMessage, backendGetJsonRequired, Attempt.andThen, got]
  generalize contract.view backend
    (Contents.threadDictName presage thread, Contents.messageKey timestamp) = value at row ⊢
  rw [present] at row
  cases row with
  | present restores stored =>
      simp only [Attempt.lift, stored, Except.mapError, intoContent_fromContent restores]
      exact ⟨trivial, kept⟩

/-- The rows of a query in turn, by induction on the timestamps. -/
theorem Records.each (records : Records contract backend thread last)
    {timestamps : List UInt64}
    (present : ∀ timestamp ∈ timestamps, (last timestamp).isSome = true)
    : List.Forall₂ (fun timestamp item => ∃ content, last timestamp = some content
          ∧ item = .ok content)
        timestamps (Attempt.each (loadMessage presage thread) timestamps backend).1 := by
  induction timestamps generalizing backend with
  | nil => exact .nil
  | cons timestamp rest ih =>
      obtain ⟨content, here⟩ := Option.isSome_iff_exists.mp (present timestamp List.mem_cons_self)
      obtain ⟨loaded, kept⟩ := records.load here
      have later := ih kept fun other listed => present other (List.mem_cons_of_mem _ listed)
      simp only [Attempt.each]
      exact .cons ⟨content, here, loaded⟩ later

/-- The timestamps of a dictionary's keys within a range: in order, each one once. -/
theorem listedTimestamps_spec (range : Contents.TimestampRange) {keys : List String}
    {view : View} (holds : Holds view thread last) (once : keys.Nodup)
    (listed
      : ∀ key, key ∈ keys
          ↔ (view (Contents.threadDictName presage thread, key)).isSome = true)
    : (Contents.listedTimestamps range keys).Pairwise (· < ·)
      ∧ ∀ timestamp, timestamp ∈ Contents.listedTimestamps range keys
        ↔ timestamp ∈ range.toSet ∧ (last timestamp).isSome = true := by
  have named := @DecimalKeys.map_parsed _
    (fun key => (fromStrRadix 64 16 key).map UInt64.ofNat) Contents.messageKey
    (fun timestamp => by simp [Contents.fromStrRadix_messageKey]) keys
    fun key there => holds.keys key ((listed key).mp there)
  unfold Contents.listedTimestamps
  generalize keys.filterMap (fun key => (fromStrRadix 64 16 key).map UInt64.ofNat) = parsed
    at named ⊢
  have present (timestamp : UInt64) : timestamp ∈ parsed ↔ (last timestamp).isSome = true := by
    rw [← (holds.rows timestamp).isSome_eq, ← listed, ← named, List.mem_map]
    refine ⟨fun there => ⟨timestamp, there, rfl⟩, ?_⟩
    rintro ⟨other, there, same⟩
    exact Contents.messageKey_injective same ▸ there
  have distinct : parsed.Nodup := List.Nodup.of_map _ (named ▸ once)
  generalize kept : parsed.filter (Contents.rangeContainsU64 range) = selected
  have perm := List.mergeSort_perm selected (fun a b => decide (a ≤ b))
  refine ⟨?_, fun timestamp => ?_⟩
  · have sorted : (selected.mergeSort (fun a b => decide (a ≤ b))).Pairwise
        (fun a b => decide (a ≤ b) = true) :=
      List.pairwise_mergeSort (by simpa using fun a b c => UInt64.le_trans)
        (by simpa using UInt64.le_total) selected
    have unique : (selected.mergeSort (fun a b => decide (a ≤ b))).Nodup :=
      perm.nodup_iff.mpr (kept ▸ distinct.filter _)
    refine (sorted.and unique).imp fun {a b} both => ?_
    exact UInt64.lt_of_le_of_ne (by simpa using both.1) both.2
  · rw [perm.mem_iff, ← kept, List.mem_filter, present, Contents.rangeContainsU64_iff, and_comm]

/-- A query returns the messages of its range in order. -/
theorem Records.messages (records : Records contract backend thread last)
    (range : Contents.TimestampRange)
    : ∃ timestamps items,
        (Contents.messages presage thread range backend).1 = .ok items
        ∧ timestamps.Pairwise (· < ·)
        ∧ (∀ timestamp, timestamp ∈ timestamps
            ↔ timestamp ∈ range.toSet ∧ (last timestamp).isSome = true)
        ∧ List.Forall₂ (fun timestamp item => ∃ content, last timestamp = some content
            ∧ item = .ok content) timestamps items := by
  obtain ⟨keys, returns, once, listed⟩ :=
    contract.listKeys records.ready (Contents.threadDictName presage thread)
  rcases answered : KvBackend.listKeys (Contents.threadDictName presage thread) backend
    with ⟨result, next⟩
  rw [answered] at returns
  obtain rfl : result = .ok keys := returns.result
  have kept : Records contract next thread last := ⟨returns.ready, returns.view ▸ records.holds⟩
  obtain ⟨sorted, members⟩ := listedTimestamps_spec range records.holds once listed
  have rows := kept.each fun timestamp there => ((members timestamp).mp there).2
  refine ⟨_, _, ?_, sorted, members, rows⟩
  simp only [Contents.messages, Attempt.andThen, answered]
  rfl

/-- What the queries return is determined by the messages last saved. -/
theorem Records.messages_congr {other : β} (records : Records contract backend thread last)
    (records' : Records contract other thread last) (range : Contents.TimestampRange)
    : (Contents.messages presage thread range backend).1
      = (Contents.messages presage thread range other).1 := by
  obtain ⟨timestamps, items, answered, sorted, members, rows⟩ := records.messages range
  obtain ⟨timestamps', items', answered', sorted', members', rows'⟩ := records'.messages range
  have distinct {listed : List UInt64} (increasing : listed.Pairwise (· < ·)) : listed.Nodup :=
    increasing.imp fun {a b} (less : a < b) (same : a = b) =>
      UInt64.lt_irrefl a (by rwa [← same] at less)
  have perm : timestamps.Perm timestamps' :=
    (List.perm_ext_iff_of_nodup (distinct sorted) (distinct sorted')).mpr
      fun timestamp => by rw [members, members']
  obtain rfl : timestamps = timestamps' :=
    perm.eq_of_pairwise (fun a b _ _ less more => absurd more (UInt64.lt_asymm less)) sorted
      sorted'
  have unique : Relator.RightUnique (fun timestamp
      (item : Except Error (MessageContent presage.ContentBody)) =>
        ∃ content, last timestamp = some content ∧ item = .ok content) := by
    rintro timestamp _ _ ⟨content, here, rfl⟩ ⟨content', here', rfl⟩
    rw [here] at here'
    rw [Option.some.inj here']
  rw [answered, answered', List.right_unique_forall₂' unique rows rows']

/-- A store that does not fail and starts with an empty thread, whose messages the
serializers restore and whose threads the hash tells apart from this one. After any saves,
deletions and clears of any threads, a query of this thread returns one item for each
timestamp of its range whose last op is a save, in increasing order: the message last saved,
which is also what a single lookup returns; a deletion answers whether there was one; and the
ops on other threads make no difference.
-/
theorem message_history {backend : β} (ready : contract.Ready backend) (thread : Thread)
    (empty
      : ∀ key, contract.view backend (Contents.threadDictName presage thread, key) = none)
    (ops : List (MessageOp presage)) (restorable : ∀ op ∈ ops, op.Restorable)
    (apart : ∀ op ∈ ops, presage.Apart op.thread thread) (range : Contents.TimestampRange)
    : (∃ timestamps items,
        (Contents.messages presage thread range (afterOps ops backend)).1 = .ok items
        ∧ timestamps.Pairwise (· < ·)
        ∧ (∀ timestamp, timestamp ∈ timestamps
            ↔ timestamp ∈ range.toSet ∧ (lastSaved ops thread timestamp).isSome = true)
        ∧ List.Forall₂ (fun timestamp item => ∃ content,
            lastSaved ops thread timestamp = some content ∧ item = .ok content
            ∧ content.metadata.timestamp = timestamp
            ∧ (Contents.message presage thread timestamp (afterOps ops backend)).1
              = .ok (some content)) timestamps items)
      ∧ (∀ timestamp,
          (Contents.message presage thread timestamp (afterOps ops backend)).1
            = .ok (lastSaved ops thread timestamp)
          ∧ (Contents.deleteMessage presage thread timestamp (afterOps ops backend)).1
            = .ok (lastSaved ops thread timestamp).isSome)
      ∧ (Contents.messages presage thread range (afterOps ops backend)).1
        = (Contents.messages presage thread range
            (afterOps (ops.filter (·.thread = thread)) backend)).1 := by
  have start : Records contract backend thread
      (lastSaved ([] : List (MessageOp presage)) thread) := by
    refine ⟨ready, fun timestamp => ?_, fun key present => ?_⟩
    · rw [empty]
      exact .absent
    · rw [empty] at present
      cases present
  have records := start.run restorable apart
  have alone := start.run
    (fun op (listed : op ∈ ops.filter (·.thread = thread)) =>
      restorable op (List.mem_of_mem_filter listed))
    (fun op listed => apart op (List.mem_of_mem_filter listed))
  rw [show lastSaved (ops.filter (·.thread = thread)) thread = lastSaved ops thread from
    funext fun timestamp => lastSaved_filter ops thread timestamp] at alone
  refine ⟨?_, fun timestamp => ⟨records.message timestamp, ?_⟩,
    records.messages_congr alone range⟩
  · obtain ⟨timestamps, items, answered, sorted, members, rows⟩ := records.messages range
    refine ⟨timestamps, items, answered, sorted, members, rows.imp ?_⟩
    rintro timestamp item ⟨content, saved, rfl⟩
    refine ⟨content, saved, rfl, (lastSaved_some restorable saved).1, ?_⟩
    rw [records.message, saved]
  · have deleted := @deleteMessage_returns presage _ _ _ _ records.ready thread timestamp
    rw [deleted.result, (records.holds.rows timestamp).isSome_eq]

end Runs

/-- A message between two accounts, to run the store on. -/
def sampleMessage (timestamp : UInt64) (body : Bytes) : MessageContent Bytes where
  metadata :=
    { sender := .aci ⟨1⟩
      destination := .aci ⟨2⟩
      senderDevice := defaultDeviceId
      serverGuid := none
      timestamp
      needsReceipt := false
      unidentifiedSender := false
      wasPlaintext := false }
  body

/-- Serializers that keep the timestamp's low byte and the body of a message between these
accounts.
-/
def Presage.terse : Presage where
  __ := Presage.plain
  storedMessage :=
    { toVec := fun stored => .ok (stored.timestamp.toUInt8 :: stored.bodyProto)
      fromSlice := fun bytes =>
        match bytes with
        | [] => .error "EOF while parsing a value"
        | timestamp :: body =>
            .ok
              { sender := (ServiceId.aci ⟨1⟩).serviceIdString
                destination := (ServiceId.aci ⟨2⟩).serviceIdString
                senderDevice := 1
                serverGuid := none
                timestamp := timestamp.toUInt64
                needsReceipt := false
                unidentifiedSender := false
                wasPlaintext := false
                bodyProto := body } }
  parseServiceId text := [.aci ⟨1⟩, .aci ⟨2⟩].find? (·.serviceIdString = text)

theorem terse_restores (timestamp : UInt8) (body : Bytes)
    : Presage.terse.Restores (sampleMessage timestamp.toUInt64 body) where
  json := by
    refine ⟨timestamp :: body, ?_, rfl⟩
    change Except.ok (timestamp.toUInt64.toUInt8 :: body) = _
    rw [UInt8.toUInt8_toUInt64]
  proto := ⟨body, rfl, rfl⟩
  sender := by
    change Presage.terse.parseServiceId (ServiceId.aci ⟨1⟩).serviceIdString = some (.aci ⟨1⟩)
    decide
  destination := by
    change Presage.terse.parseServiceId (ServiceId.aci ⟨2⟩).serviceIdString = some (.aci ⟨2⟩)
    decide
  serverGuid := by simp [sampleMessage]

/-- Three messages are saved out of order and one is deleted again: a query above 2 returns
those left in order, and a second deletion finds nothing.
-/
theorem message_history_deleted
    : let thread : Thread := .contact (.aci ⟨1⟩)
      let ops : List (MessageOp Presage.terse) :=
        [.save thread (sampleMessage 9 [1]), .save thread (sampleMessage 5 [2]),
          .save thread (sampleMessage 3 [3]), .delete thread 9]
      let store : InnerBackend := afterOps ops { map := ∅ }
      ∃ (timestamps : List UInt64)
          (items : List (Except Error (MessageContent Presage.terse.ContentBody))),
        (Contents.messages Presage.terse thread { start := .excluded 2 } store).1 = .ok items
        ∧ timestamps.Pairwise (· < ·) ∧ 3 ∈ timestamps ∧ 5 ∈ timestamps ∧ 9 ∉ timestamps
        ∧ (Contents.deleteMessage Presage.terse thread 9 store).1 = .ok false := by
  intro thread ops store
  have restorable : ∀ op ∈ ops, op.Restorable := by
    intro op listed
    simp only [ops, List.mem_cons, List.not_mem_nil, or_false] at listed
    rcases listed with rfl | rfl | rfl | rfl
    · exact terse_restores 9 [1]
    · exact terse_restores 5 [2]
    · exact terse_restores 3 [3]
    · trivial
  have apart : ∀ op ∈ ops, Presage.terse.Apart op.thread thread := by
    intro op listed
    simp only [ops, List.mem_cons, List.not_mem_nil, or_false] at listed
    rcases listed with rfl | rfl | rfl | rfl <;> exact fun _ => rfl
  have ready : InnerBackend.contract.Ready { map := ∅ } := FaultPlan.onlyBulk_default
  obtain ⟨⟨timestamps, items, answered, sorted, members, -⟩, single, -⟩ :=
    message_history ready thread (fun _ => rfl) ops
      restorable apart { start := .excluded 2 }
  refine ⟨timestamps, items, answered, sorted, (members 3).mpr ?_, (members 5).mpr ?_, ?_, ?_⟩
  · exact ⟨by simp [Contents.TimestampRange.toSet, Contents.Bound.above, Contents.Bound.below], rfl⟩
  · exact ⟨by simp [Contents.TimestampRange.toSet, Contents.Bound.above, Contents.Bound.below], rfl⟩
  · intro there
    have present := ((members 9).mp there).2
    cases present
  · rw [(single 9).2]
    rfl

end XousAppSignal.Store
