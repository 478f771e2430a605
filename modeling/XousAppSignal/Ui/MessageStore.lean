import XousAppSignal.Ui.Dialogue

/-! The in-RAM message store: the single mutation funnel for message rows and the
summaries derived from them. Each rebuild is given the hash order it happens to see.
-/

namespace XousAppSignal.Ui

/-- Bounded message buffer with the per-conversation summary cache derived from it. -/
structure MessageStore where
  messages : List ThreadMessage
  dialogues : List DialogueSummary
  capacity : Nat

namespace MessageStore

def new (capacity : Nat) : MessageStore := ⟨[], [], capacity⟩

/-- Sum of unread counts across all conversations; `none` is an overflow of the `u32`. -/
def totalUnread (store : MessageStore) : Option Nat :=
  let sum := (store.dialogues.map DialogueSummary.unreadCount).sum
  if sum < 2 ^ 32 then some sum else none

/-- Whether the conversation's summary is group-tagged. -/
def isGroupThread (store : MessageStore) (uuid : Uuid) : Bool :=
  store.dialogues.any (fun d => d.uuid = uuid && d.isGroup)

def rebuild (order : HashOrder) (store : MessageStore) : MessageStore :=
  { store with dialogues := rebuildSummaries order store.messages }

/-- The oldest row leaves when the buffer is at or above capacity. -/
def evictIfFull (store : MessageStore) : MessageStore :=
  if store.capacity ≤ store.messages.length then
    { store with messages := store.messages.drop 1 }
  else store

/-- Append a row after making room for it. -/
def push (order : HashOrder) (row : ThreadMessage) (store : MessageStore) : MessageStore :=
  let store := store.evictIfFull
  { store with messages := store.messages ++ [row] }.rebuild order

/-- Append an inbound message. -/
def pushIncoming (order : HashOrder) (uuid : Uuid) (authorLabel body : String)
    (timestamp : UInt64) (group : Bool) (store : MessageStore)
    : MessageStore :=
  store.push order {
    uuid := uuid
    authorLabel := authorLabel
    body := body
    timestamp := timestamp
    outgoing := false
    status := .sent
    read := false
    group := group
  }

/-- Append an optimistic outbound message. -/
def pushOutgoingPending (order : HashOrder) (uuid : Uuid) (body : String)
    (timestamp : UInt64) (store : MessageStore)
    : MessageStore :=
  store.push order {
    uuid := uuid
    authorLabel := "You"
    body := body
    timestamp := timestamp
    outgoing := true
    status := .pending
    read := true
    group := false
  }

/-- Update the first row of a list that matches; `none` when no row does. -/
def updateFirst (matched : ThreadMessage → Bool) (update : ThreadMessage → ThreadMessage)
    : List ThreadMessage → Option (List ThreadMessage)
  | [] => none
  | m :: rest =>
      if matched m then some (update m :: rest)
      else (updateFirst matched update rest).map (m :: ·)

/-- Set the status of the newest outgoing row with the timestamp. -/
def setOutgoingStatus (order : HashOrder) (timestamp : UInt64) (status : SendStatus)
    (store : MessageStore)
    : Bool × MessageStore :=
  match updateFirst (fun m => m.outgoing && m.timestamp == timestamp)
      (fun m => { m with status := status }) store.messages.reverse with
  | some rows => (true, { store with messages := rows.reverse }.rebuild order)
  | none => (false, store)

def markSendDelivered (order : HashOrder) (timestamp : UInt64) (store : MessageStore)
    : Bool × MessageStore :=
  store.setOutgoingStatus order timestamp .delivered

def markSendFailed (order : HashOrder) (timestamp : UInt64) (store : MessageStore)
    : Bool × MessageStore :=
  store.setOutgoingStatus order timestamp .failed

/-- Rewrite the rows that match; summaries are rebuilt only if there is one. -/
def updateRows (order : HashOrder) (matched : ThreadMessage → Bool)
    (update : ThreadMessage → ThreadMessage) (store : MessageStore)
    : Bool × MessageStore :=
  if store.messages.any matched then
    (true, { store with
      messages := store.messages.map (fun m => if matched m then update m else m)
    }.rebuild order)
  else (false, store)

/-- Mark every message of the conversation read. -/
def markThreadRead (order : HashOrder) (uuid : Uuid) (store : MessageStore)
    : MessageStore :=
  (store.updateRows order (fun m => m.uuid = uuid && !m.read)
    (fun m => { m with read := true })).2

/-- Replace UUID-shaped author labels of the conversation with the resolved name. -/
def resolveAuthorLabels (order : HashOrder) (uuid : Uuid) (name : String)
    (store : MessageStore)
    : Bool × MessageStore :=
  store.updateRows order (fun m => m.uuid = uuid && looksLikeRawUuid m.authorLabel)
    (fun m => { m with authorLabel := name })

/-- Drop all messages and summaries. -/
def clear (store : MessageStore) : MessageStore :=
  { store with messages := [], dialogues := [] }

/-- Bulk-load rows, bypassing the capacity. -/
def seed (order : HashOrder) (rows : List ThreadMessage) (store : MessageStore)
    : MessageStore :=
  { store with messages := store.messages ++ rows }.rebuild order

-----------------------------------------------------------------------------------------
-- The summary cache and the group tags of the rows
-----------------------------------------------------------------------------------------

/-- The cached summaries are those of the rows, in some hash order. -/
def Summarised (store : MessageStore) : Prop :=
  ∃ order, store.dialogues = rebuildSummaries order store.messages

/-- Some row of the conversation is group-tagged. -/
def hasGroupRow (store : MessageStore) (uuid : Uuid) : Bool :=
  store.messages.any (fun m => m.uuid = uuid && m.group)

/-- The reply-block's answer is decided by the surviving rows. -/
theorem Summarised.isGroupThread_eq {store : MessageStore} (summarised : store.Summarised)
    (uuid : Uuid)
    : store.isGroupThread uuid = store.hasGroupRow uuid := by
  obtain ⟨order, same⟩ := summarised
  rw [isGroupThread, same, rebuildSummaries_isGroup]
  rfl

theorem rebuild_summarised (order : HashOrder) (store : MessageStore)
    : (store.rebuild order).Summarised :=
  ⟨order, rfl⟩

theorem new_summarised (capacity : Nat) : (new capacity).Summarised :=
  ⟨.insertion, rfl⟩

theorem clear_summarised (store : MessageStore) : store.clear.Summarised :=
  ⟨.insertion, rfl⟩

theorem push_summarised (order : HashOrder) (row : ThreadMessage) (store : MessageStore)
    : (store.push order row).Summarised :=
  rebuild_summarised order _

theorem seed_summarised (order : HashOrder) (rows : List ThreadMessage)
    (store : MessageStore)
    : (store.seed order rows).Summarised :=
  rebuild_summarised order _

/-- A pushed row stands after the rows that eviction leaves. -/
@[simp]
theorem push_messages (order : HashOrder) (row : ThreadMessage) (store : MessageStore)
    : (store.push order row).messages = store.evictIfFull.messages ++ [row] :=
  rfl

/-- A status change keeps the rows' conversations and group tags, by induction. -/
theorem updateFirst_map {β : Type} (view : ThreadMessage → β)
    {matched : ThreadMessage → Bool} {update : ThreadMessage → ThreadMessage}
    (kept : ∀ m, view (update m) = view m) {messages rows : List ThreadMessage}
    (updated : updateFirst matched update messages = some rows)
    : rows.map view = messages.map view := by
  induction messages generalizing rows with
  | nil => cases updated
  | cons m rest ih =>
      unfold updateFirst at updated
      split at updated
      · cases updated
        simp [kept]
      · obtain ⟨tail, found, rfl⟩ := Option.map_eq_some_iff.mp updated
        simp [ih found]

/-- A status change keeps every view of the rows in which the status has no part. -/
theorem setOutgoingStatus_map {β : Type} (view : ThreadMessage → β)
    (kept : ∀ m status, view { m with status := status } = view m) (order : HashOrder)
    (timestamp : UInt64) (status : SendStatus) (store : MessageStore)
    : (store.setOutgoingStatus order timestamp status).2.messages.map view
      = store.messages.map view := by
  unfold setOutgoingStatus
  split
  · next rows updated =>
      have same := updateFirst_map view (fun m => kept m status) updated
      simpa [rebuild] using congrArg List.reverse same
  · rfl

/-- An update of some rows keeps every view that it keeps of a row. -/
theorem updateRows_map {β : Type} (view : ThreadMessage → β)
    {update : ThreadMessage → ThreadMessage} (kept : ∀ m, view (update m) = view m)
    (order : HashOrder) (matched : ThreadMessage → Bool)
    (store : MessageStore)
    : (store.updateRows order matched update).2.messages.map view
      = store.messages.map view := by
  unfold updateRows
  split
  · rw [rebuild, List.map_map]
    refine List.map_congr_left fun m _ => ?_
    by_cases hit : matched m <;> simp [hit, kept]
  · rfl

/-- What a store operation other than a push or a clear keeps: the conversation and the
group tag of every row, and the agreement of the cache with the rows.
-/
structure SameTags (before after : MessageStore) : Prop where
  tags : after.messages.map (fun m => (m.uuid, m.group))
    = before.messages.map (fun m => (m.uuid, m.group))
  capacity : after.capacity = before.capacity
  summarised : before.Summarised → after.Summarised

theorem SameTags.refl (store : MessageStore) : SameTags store store :=
  ⟨rfl, rfl, id⟩

/-- Equal tags give equal group rows. -/
theorem SameTags.hasGroupRow_eq {before after : MessageStore} (same : SameTags before after)
    (uuid : Uuid)
    : after.hasGroupRow uuid = before.hasGroupRow uuid := by
  have viewed (store : MessageStore) : store.hasGroupRow uuid
      = (store.messages.map (fun m => (m.uuid, m.group))).any
          (fun tag => tag.1 = uuid && tag.2) := by
    rw [hasGroupRow, List.any_map]
    rfl
  rw [viewed, viewed, same.tags]

theorem setOutgoingStatus_sameTags (order : HashOrder) (timestamp : UInt64)
    (status : SendStatus) (store : MessageStore)
    : SameTags store (store.setOutgoingStatus order timestamp status).2 := by
  unfold setOutgoingStatus
  split
  · next rows updated =>
      refine ⟨?_, rfl, fun _ => rebuild_summarised order _⟩
      have kept := updateFirst_map (fun m => (m.uuid, m.group)) (by simp) updated
      simpa [rebuild] using congrArg List.reverse kept
  · exact .refl store

theorem updateRows_sameTags (order : HashOrder) (matched : ThreadMessage → Bool)
    {update : ThreadMessage → ThreadMessage}
    (kept : ∀ m, (update m).uuid = m.uuid ∧ (update m).group = m.group)
    (store : MessageStore)
    : SameTags store (store.updateRows order matched update).2 := by
  unfold updateRows
  split
  · refine ⟨?_, rfl, fun _ => rebuild_summarised order _⟩
    rw [rebuild, List.map_map]
    apply List.map_congr_left
    intro m _
    by_cases hit : matched m <;> simp [hit, kept]
  · exact .refl store

theorem markThreadRead_sameTags (order : HashOrder) (uuid : Uuid) (store : MessageStore)
    : SameTags store (store.markThreadRead order uuid) :=
  updateRows_sameTags order _ (by simp) store

theorem resolveAuthorLabels_sameTags (order : HashOrder) (uuid : Uuid) (name : String)
    (store : MessageStore)
    : SameTags store (store.resolveAuthorLabels order uuid name).2 :=
  updateRows_sameTags order _ (by simp) store

/-- The rows after a status change; they stay as they are when no row matches. -/
theorem setOutgoingStatus_messages (order : HashOrder) (timestamp : UInt64)
    (status : SendStatus) (store : MessageStore)
    : (store.setOutgoingStatus order timestamp status).2.messages
      = ((updateFirst (fun m => m.outgoing && m.timestamp == timestamp)
            (fun m => { m with status := status }) store.messages.reverse).getD
          store.messages.reverse).reverse := by
  unfold setOutgoingStatus
  split
  · next updated => simp [updated, rebuild]
  · next unmatched => simp [unmatched]

end MessageStore

end XousAppSignal.Ui
