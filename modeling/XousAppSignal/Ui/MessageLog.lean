import XousAppSignal.Library.Runs
import XousAppSignal.Ui.MessageStore
import Mathlib.Data.List.DropRight

/-! The message store as a window on an unbounded log. The log keeps every message pushed
since the last clear and takes the same marks; the rows are the newest part of it that fits
the capacity, and the summaries and the unread count follow from the rows.
-/

namespace XousAppSignal.Ui

/-- A mutation of the store, with the hash order its rebuild sees. -/
inductive StoreCall where
  | pushIncoming (order : HashOrder) (uuid : Uuid) (authorLabel body : String)
      (timestamp : UInt64) (group : Bool)
  | pushOutgoingPending (order : HashOrder) (uuid : Uuid) (body : String) (timestamp : UInt64)
  | markSendDelivered (order : HashOrder) (timestamp : UInt64)
  | markSendFailed (order : HashOrder) (timestamp : UInt64)
  | markThreadRead (order : HashOrder) (uuid : Uuid)
  | resolveAuthorLabels (order : HashOrder) (uuid : Uuid) (name : String)
  | clear

namespace StoreCall

/-- The answer of a mutation that has one, and the store after it. -/
def perform (store : MessageStore) : StoreCall → Option Bool × MessageStore
  | .pushIncoming order uuid authorLabel body timestamp group =>
      (none, store.pushIncoming order uuid authorLabel body timestamp group)
  | .pushOutgoingPending order uuid body timestamp =>
      (none, store.pushOutgoingPending order uuid body timestamp)
  | .markSendDelivered order timestamp =>
      let (found, store) := store.markSendDelivered order timestamp
      (some found, store)
  | .markSendFailed order timestamp =>
      let (found, store) := store.markSendFailed order timestamp
      (some found, store)
  | .markThreadRead order uuid => (none, store.markThreadRead order uuid)
  | .resolveAuthorLabels order uuid name =>
      let (touched, store) := store.resolveAuthorLabels order uuid name
      (some touched, store)
  | .clear => (none, store.clear)

def step (store : MessageStore) (call : StoreCall) : MessageStore := (call.perform store).2

/-- The row a push adds. -/
def row : StoreCall → Option ThreadMessage
  | .pushIncoming _ uuid authorLabel body timestamp group =>
      some ⟨uuid, authorLabel, body, timestamp, false, .sent, false, group⟩
  | .pushOutgoingPending _ uuid body timestamp =>
      some ⟨uuid, "You", body, timestamp, true, .pending, true, false⟩
  | _ => none

/-- The rows a mark or a resolve is about. -/
def targets : StoreCall → ThreadMessage → Bool
  | .markSendDelivered _ timestamp, m => m.outgoing && m.timestamp == timestamp
  | .markSendFailed _ timestamp, m => m.outgoing && m.timestamp == timestamp
  | .markThreadRead _ uuid, m => m.uuid = uuid && !m.read
  | .resolveAuthorLabels _ uuid _, m => m.uuid = uuid && looksLikeRawUuid m.authorLabel
  | _, _ => false

/-- The answer tells whether a row matched. -/
def answers : StoreCall → Bool
  | .markSendDelivered .. => true
  | .markSendFailed .. => true
  | .resolveAuthorLabels .. => true
  | _ => false

-----------------------------------------------------------------------------------------
-- The log
-----------------------------------------------------------------------------------------

/-- The newest entry that matches is updated. -/
def updateNewest (matched : ThreadMessage → Bool) (update : ThreadMessage → ThreadMessage)
    (log : List ThreadMessage)
    : List ThreadMessage :=
  ((MessageStore.updateFirst matched update log.reverse).getD log.reverse).reverse

/-- Every entry that matches is updated. -/
def updateAll (matched : ThreadMessage → Bool) (update : ThreadMessage → ThreadMessage)
    (log : List ThreadMessage)
    : List ThreadMessage :=
  log.map (fun m => if matched m then update m else m)

/-- The log after a mutation: nothing is ever evicted from it. -/
def record (log : List ThreadMessage) (call : StoreCall) : List ThreadMessage :=
  match call with
  | .markSendDelivered _ _ =>
      updateNewest call.targets (fun m => { m with status := .delivered }) log
  | .markSendFailed _ _ =>
      updateNewest call.targets (fun m => { m with status := .failed }) log
  | .markThreadRead _ _ => updateAll call.targets (fun m => { m with read := true }) log
  | .resolveAuthorLabels _ _ name =>
      updateAll call.targets (fun m => { m with authorLabel := name }) log
  | .clear => []
  | _ => log ++ call.row.toList

/-- The messages pushed since the last clear, as they were pushed. -/
def pushed (history : List ThreadMessage) (call : StoreCall) : List ThreadMessage :=
  match call with
  | .clear => []
  | _ => history ++ call.row.toList

end StoreCall

namespace ThreadMessage

/-- What no mark changes: conversation, body, timestamp, direction and group tag. -/
def fixed (m : ThreadMessage) : Uuid × String × UInt64 × Bool × Bool :=
  (m.uuid, m.body, m.timestamp, m.outgoing, m.group)

end ThreadMessage

namespace MessageStore

/-- The first match of the front of a list is updated as in the whole list, by induction. -/
theorem updateFirst_take (matched : ThreadMessage → Bool)
    (update : ThreadMessage → ThreadMessage) (rows : List ThreadMessage) (count : Nat)
    : (updateFirst matched update (rows.take count)).getD (rows.take count)
      = ((updateFirst matched update rows).getD rows).take count := by
  induction rows generalizing count with
  | nil => simp [updateFirst]
  | cons m rest ih =>
      cases count with
      | zero => simp [updateFirst]
      | succ count =>
          rw [List.take_succ_cons, updateFirst, updateFirst]
          split
          · simp
          · have tail := ih count
            cases whole : updateFirst matched update rest <;>
              cases front : updateFirst matched update (rest.take count) <;>
              simp [whole, front] at tail ⊢ <;> exact tail

theorem updateFirst_isSome (matched : ThreadMessage → Bool)
    (update : ThreadMessage → ThreadMessage) (rows : List ThreadMessage)
    : (updateFirst matched update rows).isSome = rows.any matched := by
  induction rows with
  | nil => rfl
  | cons m rest ih =>
      unfold updateFirst
      split
      · next hit => simp [hit]
      · next miss => simp [miss, ih]

/-- An updated list holds old rows and updates of matching ones. -/
theorem mem_updateFirst {matched : ThreadMessage → Bool}
    {update : ThreadMessage → ThreadMessage} {messages rows : List ThreadMessage}
    (updated : updateFirst matched update messages = some rows) {m : ThreadMessage}
    (listed : m ∈ rows)
    : m ∈ messages ∨ ∃ old ∈ messages, matched old = true ∧ m = update old := by
  induction messages generalizing rows with
  | nil => cases updated
  | cons first rest ih =>
      unfold updateFirst at updated
      split at updated
      · next hit =>
          cases updated
          rcases List.mem_cons.mp listed with rfl | later
          · exact .inr ⟨first, by simp, hit, rfl⟩
          · exact .inl (List.mem_cons_of_mem _ later)
      · obtain ⟨tail, found, rfl⟩ := Option.map_eq_some_iff.mp updated
        rcases List.mem_cons.mp listed with rfl | later
        · exact .inl (by simp)
        · rcases ih found later with kept | ⟨old, listed, hit, same⟩
          · exact .inl (List.mem_cons_of_mem _ kept)
          · exact .inr ⟨old, List.mem_cons_of_mem _ listed, hit, same⟩

end MessageStore

-----------------------------------------------------------------------------------------
-- The newest rows of the log
-----------------------------------------------------------------------------------------

theorem rtake_map {α β : Type} (f : α → β) (items : List α) (count : Nat)
    : (items.map f).rtake count = (items.rtake count).map f := by
  simp [List.rtake, List.map_drop]

theorem rtake_updateNewest (matched : ThreadMessage → Bool)
    (update : ThreadMessage → ThreadMessage) (log : List ThreadMessage) (count : Nat)
    : (StoreCall.updateNewest matched update log).rtake count
      = StoreCall.updateNewest matched update (log.rtake count) := by
  simp only [StoreCall.updateNewest, List.rtake_eq_reverse_take_reverse, List.reverse_reverse,
    MessageStore.updateFirst_take]

/-- Eviction makes room for one more of the newest rows. -/
theorem evict_rtake {store : MessageStore} {log : List ThreadMessage} {room : Nat}
    (capacity : store.capacity = room + 1) (rows : store.messages = log.rtake (room + 1))
    : store.evictIfFull.messages = log.rtake room := by
  have length : store.messages.length = log.length - (log.length - (room + 1)) := by
    rw [rows, List.rtake, List.length_drop]
  unfold MessageStore.evictIfFull
  rw [length, capacity]
  by_cases full : room + 1 ≤ log.length
  · rw [if_pos (by omega), rows, List.rtake, List.drop_drop, List.rtake]
    dsimp only
    congr 1
    omega
  · rw [if_neg (by omega), rows, List.rtake, List.rtake]
    congr 1
    omega

/-- The store shows the newest entries of the log that fit; its summaries are those of its
rows, and incoming entries are always `sent`.
-/
structure MessageStore.Shows (capacity : Nat) (log : List ThreadMessage) (store : MessageStore)
    : Prop where
  bound : store.capacity = capacity
  rows : store.messages = log.rtake capacity
  summarised : store.Summarised
  incoming : ∀ m ∈ log, m.outgoing = false → m.status = .sent

namespace MessageStore.Shows

variable {capacity : Nat} {log : List ThreadMessage} {store : MessageStore}

theorem start (capacity : Nat) : Shows capacity [] (.new capacity) :=
  ⟨rfl, by simp [new], new_summarised capacity, by simp⟩

/-- A pushed row is the newest entry. -/
theorem push (shows : Shows capacity log store) (positive : 1 ≤ capacity) (order : HashOrder)
    {row : ThreadMessage} (incoming : row.outgoing = false → row.status = .sent)
    : Shows capacity (log ++ [row]) (store.push order row) := by
  obtain ⟨room, rfl⟩ := Nat.exists_eq_add_of_le' positive
  refine ⟨?_, ?_, push_summarised order row store, ?_⟩
  · have kept : store.evictIfFull.capacity = store.capacity := by
      unfold evictIfFull
      split <;> rfl
    exact kept.trans shows.bound
  · rw [push_messages, List.rtake_concat_succ, evict_rtake shows.bound shows.rows]
  · intro m listed
    rcases List.mem_append.mp listed with older | new
    · exact shows.incoming m older
    · rw [List.mem_singleton.mp new]
      exact incoming

/-- A status change of the newest match in the log is the store's. -/
theorem setOutgoingStatus (shows : Shows capacity log store) (order : HashOrder)
    (timestamp : UInt64) (status : SendStatus)
    : Shows capacity
        (StoreCall.updateNewest (fun m => m.outgoing && m.timestamp == timestamp)
          (fun m => { m with status := status }) log)
        (store.setOutgoingStatus order timestamp status).2 := by
  have same := setOutgoingStatus_sameTags order timestamp status store
  refine ⟨same.capacity.trans shows.bound, ?_, same.summarised shows.summarised, ?_⟩
  · rw [setOutgoingStatus_messages, rtake_updateNewest, shows.rows]
    rfl
  · intro m listed incoming
    unfold StoreCall.updateNewest at listed
    rw [List.mem_reverse] at listed
    cases updated : updateFirst (fun m => m.outgoing && m.timestamp == timestamp)
        (fun m => { m with status := status }) log.reverse with
    | none =>
        rw [updated] at listed
        exact shows.incoming m (List.mem_reverse.mp listed) incoming
    | some rows =>
        rw [updated] at listed
        rcases mem_updateFirst updated listed with kept | ⟨old, -, hit, rfl⟩
        · exact shows.incoming m (List.mem_reverse.mp kept) incoming
        · rw [Bool.and_eq_true] at hit
          exact absurd hit.1 (by simpa using incoming)

theorem updateRows_messages (order : HashOrder) (matched : ThreadMessage → Bool)
    (update : ThreadMessage → ThreadMessage) (store : MessageStore)
    : (store.updateRows order matched update).2.messages
      = StoreCall.updateAll matched update store.messages := by
  unfold updateRows StoreCall.updateAll
  split
  · rfl
  · next none =>
      have unmatched : ∀ m ∈ store.messages, matched m = false := by simpa using none
      symm
      rw [List.map_congr_left (fun m listed => if_neg (by simp [unmatched m listed])),
        List.map_id']

/-- An update of all matching entries that keeps direction and status is the store's. -/
theorem updateRows (shows : Shows capacity log store) (order : HashOrder)
    (matched : ThreadMessage → Bool) {update : ThreadMessage → ThreadMessage}
    (tags : ∀ m, (update m).uuid = m.uuid ∧ (update m).group = m.group)
    (sends : ∀ m, (update m).outgoing = m.outgoing ∧ (update m).status = m.status)
    : Shows capacity (StoreCall.updateAll matched update log)
        (store.updateRows order matched update).2 := by
  have same := updateRows_sameTags order matched tags store
  refine ⟨same.capacity.trans shows.bound, ?_, same.summarised shows.summarised, ?_⟩
  · rw [updateRows_messages, shows.rows, StoreCall.updateAll, StoreCall.updateAll, rtake_map]
  · intro m listed incoming
    obtain ⟨old, earlier, rfl⟩ := List.mem_map.mp listed
    split at incoming
    · next hit =>
        rw [if_pos hit, (sends old).2]
        exact shows.incoming old earlier ((sends old).1 ▸ incoming)
    · next miss =>
        rw [if_neg miss]
        exact shows.incoming old earlier incoming

/-- Every mutation of the store is the same mutation of the log, by cases on the call. -/
theorem step (shows : Shows capacity log store) (positive : 1 ≤ capacity) (call : StoreCall)
    : Shows capacity (StoreCall.record log call) (StoreCall.step store call) := by
  cases call with
  | pushIncoming order uuid authorLabel body timestamp group =>
      exact shows.push positive order (fun _ => rfl)
  | pushOutgoingPending order uuid body timestamp =>
      exact shows.push positive order (fun incoming => by cases incoming)
  | markSendDelivered order timestamp => exact shows.setOutgoingStatus order timestamp _
  | markSendFailed order timestamp => exact shows.setOutgoingStatus order timestamp _
  | markThreadRead order uuid => exact shows.updateRows order _ (by simp) (by simp)
  | resolveAuthorLabels order uuid name => exact shows.updateRows order _ (by simp) (by simp)
  | clear =>
      exact ⟨shows.bound, by simp [StoreCall.step, StoreCall.perform, clear, StoreCall.record],
        clear_summarised store, by simp [StoreCall.record]⟩

end MessageStore.Shows

-----------------------------------------------------------------------------------------
-- Runs
-----------------------------------------------------------------------------------------

/-- The store after a run shows the log of the same run. -/
theorem MessageStore.Shows.run {capacity : Nat} (positive : 1 ≤ capacity)
    {log : List ThreadMessage} {store : MessageStore} (shows : Shows capacity log store)
    (calls : List StoreCall)
    : Shows capacity (Runs.run StoreCall.record log calls)
        (Runs.run StoreCall.step store calls) :=
  Runs.run_related (fun call _ _ _ shows => shows.step positive call) shows

/-- A mark changes no more than status, read flag and label. -/
theorem StoreCall.record_fixed {log history : List ThreadMessage}
    (same : log.map ThreadMessage.fixed = history.map ThreadMessage.fixed) (call : StoreCall)
    : (call.record log).map ThreadMessage.fixed
      = (call.pushed history).map ThreadMessage.fixed := by
  have newest (matched : ThreadMessage → Bool) (status : SendStatus)
      : (updateNewest matched (fun m => { m with status := status }) log).map ThreadMessage.fixed
        = (history ++ []).map ThreadMessage.fixed := by
    rw [List.append_nil, ← same, updateNewest, List.map_reverse]
    cases updated : MessageStore.updateFirst matched (fun m => { m with status := status })
        log.reverse with
    | none => simp
    | some rows =>
        have kept := MessageStore.updateFirst_map ThreadMessage.fixed
          (by simp [ThreadMessage.fixed]) updated
        rw [Option.getD_some, kept]
        simp
  have all (matched : ThreadMessage → Bool) {update : ThreadMessage → ThreadMessage}
      (kept : ∀ m, (update m).fixed = m.fixed)
      : (updateAll matched update log).map ThreadMessage.fixed
        = (history ++ []).map ThreadMessage.fixed := by
    rw [List.append_nil, ← same, updateAll, List.map_map]
    apply List.map_congr_left
    intro m _
    by_cases hit : matched m <;> simp [hit, kept]
  cases call with
  | markSendDelivered order timestamp => exact newest _ _
  | markSendFailed order timestamp => exact newest _ _
  | markThreadRead order uuid => exact all _ (fun _ => rfl)
  | resolveAuthorLabels order uuid name => exact all _ (fun _ => rfl)
  | clear => rfl
  | pushIncoming order uuid authorLabel body timestamp group =>
      simp only [record, pushed, List.map_append, same]
  | pushOutgoingPending order uuid body timestamp =>
      simp only [record, pushed, List.map_append, same]

theorem StoreCall.run_fixed {log history : List ThreadMessage}
    (same : log.map ThreadMessage.fixed = history.map ThreadMessage.fixed)
    (calls : List StoreCall)
    : (Runs.run record log calls).map ThreadMessage.fixed
      = (Runs.run pushed history calls).map ThreadMessage.fixed := by
  let Same (log history : List ThreadMessage) : Prop :=
    log.map ThreadMessage.fixed = history.map ThreadMessage.fixed
  have keeps (call : StoreCall) (_ : call ∈ calls) (log history : List ThreadMessage)
      (same : Same log history)
      : Same (call.record log) (call.pushed history) :=
    record_fixed same call
  exact Runs.run_related keeps same

namespace MessageStore

theorem setOutgoingStatus_answer (order : HashOrder) (timestamp : UInt64)
    (status : SendStatus) (store : MessageStore)
    : (store.setOutgoingStatus order timestamp status).1
      = store.messages.any (fun m => m.outgoing && m.timestamp == timestamp) := by
  rw [← List.any_reverse, ← updateFirst_isSome _ (fun m => { m with status })]
  unfold setOutgoingStatus
  split
  · next updated => rw [updated]; rfl
  · next unmatched => rw [unmatched]; rfl

theorem setOutgoingStatus_unmatched {order : HashOrder} {timestamp : UInt64}
    {status : SendStatus} {store : MessageStore}
    (unmatched : store.messages.any (fun m => m.outgoing && m.timestamp == timestamp) = false)
    : (store.setOutgoingStatus order timestamp status).2 = store := by
  rw [← List.any_reverse, ← updateFirst_isSome _ (fun m => { m with status })] at unmatched
  unfold setOutgoingStatus
  split
  · next updated =>
      rw [updated] at unmatched
      cases unmatched
  · rfl

theorem updateRows_answer (order : HashOrder) (matched : ThreadMessage → Bool)
    (update : ThreadMessage → ThreadMessage) (store : MessageStore)
    : (store.updateRows order matched update).1 = store.messages.any matched := by
  unfold updateRows
  split
  · next hit => exact hit.symm
  · next miss => exact (Bool.not_eq_true _ ▸ miss).symm

theorem updateRows_unmatched {order : HashOrder} {matched : ThreadMessage → Bool}
    {update : ThreadMessage → ThreadMessage} {store : MessageStore}
    (unmatched : store.messages.any matched = false)
    : (store.updateRows order matched update).2 = store := by
  unfold updateRows
  rw [if_neg (by simp [unmatched])]

end MessageStore

/-- The answer of a mark or a resolve tells whether a row matched. -/
theorem StoreCall.perform_answer (call : StoreCall) (store : MessageStore)
    : (call.perform store).1
      = if call.answers then some (store.messages.any call.targets) else none := by
  cases call with
  | markSendDelivered order timestamp =>
      exact congrArg some (store.setOutgoingStatus_answer order timestamp _)
  | markSendFailed order timestamp =>
      exact congrArg some (store.setOutgoingStatus_answer order timestamp _)
  | resolveAuthorLabels order uuid name =>
      exact congrArg some (store.updateRows_answer order _ _)
  | _ => rfl

/-- A mark or a resolve without a matching row does nothing. -/
theorem StoreCall.perform_unmatched {call : StoreCall} {store : MessageStore}
    (answers : call.answers = true) (unmatched : store.messages.any call.targets = false)
    : (call.perform store).2 = store := by
  cases call with
  | markSendDelivered order timestamp => exact MessageStore.setOutgoingStatus_unmatched unmatched
  | markSendFailed order timestamp => exact MessageStore.setOutgoingStatus_unmatched unmatched
  | resolveAuthorLabels order uuid name => exact MessageStore.updateRows_unmatched unmatched
  | _ => cases answers

/-- What a store holds after the calls: the rows are the newest entries of the log and of the
messages pushed since the last clear, and everything else follows from the rows.
-/
structure MessageStore.Represents (capacity : Nat) (calls : List StoreCall)
    (store : MessageStore)
    : Prop where
  rows : store.messages = (Runs.run StoreCall.record [] calls).rtake capacity
  pushed
    : store.messages.map ThreadMessage.fixed
      = ((Runs.run StoreCall.pushed [] calls).rtake
          (min capacity (Runs.run StoreCall.pushed [] calls).length)).map ThreadMessage.fixed
  dialogues : ∀ order, SameUpToTies store.dialogues (rebuildSummaries order store.messages)
  unread
    : store.totalUnread = some (store.messages.countP (fun m => !m.outgoing && !m.read))
  answer
    : ∀ call : StoreCall,
        (call.perform store).1
          = if call.answers then some (store.messages.any call.targets) else none
  unmatched
    : ∀ call : StoreCall, call.answers = true → store.messages.any call.targets = false
        → (call.perform store).2 = store

/-- Every run of the mutations from an empty store keeps the rows, the summaries, the unread
count and the answers as described.
-/
theorem message_store_represents {capacity : Nat} (positive : 1 ≤ capacity)
    (small : capacity < 2 ^ 32) (calls : List StoreCall)
    : MessageStore.Represents capacity calls
        (Runs.run StoreCall.step (.new capacity) calls) := by
  have shows := (MessageStore.Shows.start capacity).run positive calls
  generalize Runs.run StoreCall.step (.new capacity) calls = store at shows ⊢
  have bounded : store.messages.length ≤ maxUnread := by
    rw [shows.rows, List.rtake, List.length_drop, maxUnread]
    omega
  obtain ⟨order, summaries⟩ := shows.summarised
  refine ⟨shows.rows, ?_, fun other => ?_, ?_, fun call => call.perform_answer store,
    fun call => StoreCall.perform_unmatched⟩
  · have same := StoreCall.run_fixed (rfl : List.map ThreadMessage.fixed [] = _) calls
    have length := congrArg List.length same
    rw [List.length_map, List.length_map] at length
    rw [shows.rows, ← rtake_map, ← rtake_map, same, List.rtake, List.rtake, List.length_map]
    congr 1
    omega
  · rw [summaries]
    exact rebuildSummaries_sameUpToTies order other store.messages
  · have incoming : ∀ m ∈ store.messages, m.outgoing = false → m.status = .sent := by
      intro m listed
      rw [shows.rows] at listed
      exact shows.incoming m (List.mem_of_mem_drop listed)
    have count : store.messages.countP ThreadMessage.counted
        = store.messages.countP (fun m => !m.outgoing && !m.read) := by
      apply List.countP_congr
      intro m listed
      cases direction : m.outgoing with
      | true => simp [ThreadMessage.counted, direction]
      | false => simp [ThreadMessage.counted, direction, incoming m listed direction]
    rw [MessageStore.totalUnread, summaries, unreadCounts_sum order bounded, count, if_pos]
    have most := List.countP_le_length (p := fun m => !m.outgoing && !m.read) (l := store.messages)
    rw [maxUnread] at bounded
    omega

/-- Three messages in a store for two, of which the oldest is evicted and the sent one fails. -/
def threeMessages : List StoreCall :=
  [.pushIncoming .insertion ⟨1⟩ "Alice" "hi" 1 false,
    .pushOutgoingPending .insertion ⟨1⟩ "hello" 2,
    .pushIncoming .insertion ⟨2⟩ "Bob" "hey" 3 false,
    .markSendFailed .insertion 2, .markThreadRead .insertion ⟨1⟩]

theorem message_store_represents_three
    : MessageStore.Represents 2 threeMessages
        (Runs.run StoreCall.step (.new 2) threeMessages)
      ∧ (Runs.run StoreCall.step (.new 2) threeMessages).totalUnread = some 1 :=
  ⟨message_store_represents (by decide) (by decide) threeMessages, by decide +kernel⟩

end XousAppSignal.Ui
