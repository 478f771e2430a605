import XousAppSignal.Library.FiniteMap
import XousAppSignal.Uuid
import Mathlib.Data.List.Sort

/-! Conversation-list data model: one row per message, and the per-conversation summaries
derived from the rows for the home screen.
-/

namespace XousAppSignal.Ui

/-- Status of a single message. Incoming messages are always `sent`. -/
inductive SendStatus where
  | pending
  | sent
  | delivered
  | failed
  deriving DecidableEq

/-- One message, inbound or outbound. -/
structure ThreadMessage where
  uuid : Uuid
  authorLabel : String
  body : String
  timestamp : UInt64
  outgoing : Bool
  status : SendStatus
  read : Bool
  group : Bool
  deriving DecidableEq

/-- Aggregated view of one conversation. -/
structure DialogueSummary where
  uuid : Uuid
  displayName : String
  lastMsgSnippet : String
  lastMsgTs : UInt64
  lastMsgOutgoing : Bool
  lastMsgStatus : SendStatus
  unreadCount : Nat
  isGroup : Bool
  deriving DecidableEq

/-- Truncate to at most `max` characters, marking a truncation with an ellipsis. -/
def ellipsize (s : String) (max : Nat) : String :=
  if max = 0 then ""
  else if s.length ≤ max then s
  else String.ofList (s.toList.take (max - 1) ++ ['…'])

/-- Display fallback for a UUID without a contact record. -/
def shortUuidLabel (uuid : Uuid) : String :=
  "uuid:" ++ String.ofList (Uuid.hexDigits 32 uuid.bits.toNat |>.take 8)

/-- ASCII hexadecimal digits of either case. -/
def isAsciiHexdigit (c : Char) : Bool :=
  c.isDigit || ('a' ≤ c && c ≤ 'f') || ('A' ≤ c && c ≤ 'F')

/-- Whether a label is a UUID in its dashed or undashed form. The length is in bytes. -/
def looksLikeRawUuid (s : String) : Bool :=
  if s.utf8ByteSize = 36 then
    s.toList.zipIdx.all (fun (c, i) =>
      ((i == 8 || i == 13 || i == 18 || i == 23) == (c == '-'))
        && (c == '-' || isAsciiHexdigit c))
  else if s.utf8ByteSize = 32 then s.toList.all isAsciiHexdigit
  else false

/-- The largest count a `u32` holds; `saturating_add` stops there. -/
def maxUnread : Nat := 2 ^ 32 - 1

namespace DialogueSummary

/-- The summary of a conversation before any of its messages is counted. -/
def empty (uuid : Uuid) : DialogueSummary where
  uuid := uuid
  displayName := shortUuidLabel uuid
  lastMsgSnippet := ""
  lastMsgTs := 0
  lastMsgOutgoing := false
  lastMsgStatus := .sent
  unreadCount := 0
  isGroup := false

/-- Prefer the author label of an incoming message over the UUID prefix. -/
def noteAuthor (entry : DialogueSummary) (m : ThreadMessage) : DialogueSummary :=
  if m.outgoing then entry
  else
    { entry with
      displayName :=
        if looksLikeRawUuid m.authorLabel then shortUuidLabel m.uuid else m.authorLabel }

/-- A message at least as recent as the latest one becomes the latest one. -/
def noteLatest (entry : DialogueSummary) (m : ThreadMessage) : DialogueSummary :=
  if entry.lastMsgTs ≤ m.timestamp then
    { entry with
      lastMsgTs := m.timestamp
      lastMsgSnippet := ellipsize m.body 32
      lastMsgOutgoing := m.outgoing
      lastMsgStatus := m.status }
  else entry

/-- Count an unread incoming message, saturating. -/
def noteUnread (entry : DialogueSummary) (m : ThreadMessage) : DialogueSummary :=
  if !m.outgoing && m.status == .sent && !m.read then
    { entry with unreadCount := min (entry.unreadCount + 1) maxUnread }
  else entry

/-- The loop body of `rebuild_summaries` on the conversation's own entry. -/
def add (entry : DialogueSummary) (m : ThreadMessage) : DialogueSummary :=
  ((({ entry with isGroup := entry.isGroup || m.group }).noteAuthor m).noteLatest m).noteUnread m

@[simp]
theorem noteAuthor_isGroup (entry : DialogueSummary) (m : ThreadMessage)
    : (entry.noteAuthor m).isGroup = entry.isGroup := by
  unfold noteAuthor
  split <;> rfl

@[simp]
theorem noteAuthor_uuid (entry : DialogueSummary) (m : ThreadMessage)
    : (entry.noteAuthor m).uuid = entry.uuid := by
  unfold noteAuthor
  split <;> rfl

@[simp]
theorem noteLatest_isGroup (entry : DialogueSummary) (m : ThreadMessage)
    : (entry.noteLatest m).isGroup = entry.isGroup := by
  unfold noteLatest
  split <;> rfl

@[simp]
theorem noteLatest_uuid (entry : DialogueSummary) (m : ThreadMessage)
    : (entry.noteLatest m).uuid = entry.uuid := by
  unfold noteLatest
  split <;> rfl

@[simp]
theorem noteUnread_isGroup (entry : DialogueSummary) (m : ThreadMessage)
    : (entry.noteUnread m).isGroup = entry.isGroup := by
  unfold noteUnread
  split <;> rfl

@[simp]
theorem noteUnread_uuid (entry : DialogueSummary) (m : ThreadMessage)
    : (entry.noteUnread m).uuid = entry.uuid := by
  unfold noteUnread
  split <;> rfl

@[simp]
theorem add_isGroup (entry : DialogueSummary) (m : ThreadMessage)
    : (entry.add m).isGroup = (entry.isGroup || m.group) := by
  simp [add]

@[simp]
theorem add_uuid (entry : DialogueSummary) (m : ThreadMessage)
    : (entry.add m).uuid = entry.uuid := by
  simp [add]

end DialogueSummary

/-- Count one message into the summary of its conversation. -/
def countMessage (byUuid : FiniteMap Uuid DialogueSummary) (m : ThreadMessage)
    : FiniteMap Uuid DialogueSummary :=
  byUuid.insert m.uuid (((byUuid.lookup m.uuid).getD (.empty m.uuid)).add m)

/-- The summaries by conversation, after all messages are counted. -/
def summariesByUuid (messages : List ThreadMessage) : FiniteMap Uuid DialogueSummary :=
  messages.foldl countMessage ∅

/-- Group messages by UUID, newest activity first. The hash map yields its values in
`order`; the sort is stable, so that order decides between equal timestamps.
-/
def rebuildSummaries (order : HashOrder) (messages : List ThreadMessage)
    : List DialogueSummary :=
  ((order.arrange (FiniteMap.pairs (summariesByUuid messages))).map Prod.snd).insertionSort
    (fun a b => b.lastMsgTs ≤ a.lastMsgTs)

/-- The summary of one conversation folds its own messages, by induction on the rows. -/
theorem lookup_foldl_countMessage (messages : List ThreadMessage)
    (byUuid : FiniteMap Uuid DialogueSummary) (uuid : Uuid)
    : (messages.foldl countMessage byUuid).lookup uuid
      = (messages.filter (fun m => m.uuid = uuid)).foldl
          (fun entry m => some ((entry.getD (.empty uuid)).add m)) (byUuid.lookup uuid) := by
  induction messages generalizing byUuid with
  | nil => rfl
  | cons m rest ih =>
      rw [List.foldl_cons, ih, countMessage, FiniteMap.lookup_insert']
      by_cases same : uuid = m.uuid
      · subst same
        simp
      · simp [same, Ne.symm same]

/-- A folded summary is group-tagged when it was before or one of the messages is. -/
theorem foldl_add_isGroup (messages : List ThreadMessage) (uuid : Uuid)
    (entry : Option DialogueSummary) (summary : DialogueSummary)
    (folded
      : messages.foldl (fun entry m => some ((entry.getD (.empty uuid)).add m)) entry
        = some summary)
    : summary.isGroup
      = ((entry.map DialogueSummary.isGroup).getD false || messages.any ThreadMessage.group) := by
  induction messages generalizing entry with
  | nil =>
      have same : entry = some summary := folded
      simp [same]
  | cons m rest ih =>
      rw [ih _ folded]
      cases entry <;> simp [DialogueSummary.empty, Bool.or_assoc]

/-- Folding messages keeps the conversation's own UUID on the summary. -/
theorem foldl_add_uuid (messages : List ThreadMessage) (uuid : Uuid)
    (entry : Option DialogueSummary) (summary : DialogueSummary)
    (own : ∀ found, entry = some found → found.uuid = uuid)
    (folded
      : messages.foldl (fun entry m => some ((entry.getD (.empty uuid)).add m)) entry
        = some summary)
    : summary.uuid = uuid := by
  induction messages generalizing entry with
  | nil => exact own summary folded
  | cons m rest ih =>
      refine ih _ ?_ folded
      rintro found ⟨⟩
      cases entry with
      | none => simp [DialogueSummary.empty]
      | some found => simpa using own found rfl

/-- A conversation without messages folds to nothing; otherwise it has a summary. -/
theorem foldl_add_isSome (messages : List ThreadMessage) (uuid : Uuid)
    (entry : Option DialogueSummary)
    : (messages.foldl (fun entry m => some ((entry.getD (.empty uuid)).add m)) entry).isSome
      = (entry.isSome || !messages.isEmpty) := by
  induction messages generalizing entry with
  | nil => simp
  | cons m rest ih =>
      rw [List.foldl_cons, ih]
      simp

/-- The listed summaries are exactly the values of the map. -/
theorem mem_rebuildSummaries {order : HashOrder} {messages : List ThreadMessage}
    {summary : DialogueSummary}
    : summary ∈ rebuildSummaries order messages
      ↔ ∃ uuid, (summariesByUuid messages).lookup uuid = some summary := by
  simp only [rebuildSummaries, List.mem_insertionSort, List.mem_map, HashOrder.mem_arrange]
  constructor
  · rintro ⟨⟨uuid, found⟩, listed, rfl⟩
    exact ⟨uuid, FiniteMap.mem_pairs.mp listed⟩
  · rintro ⟨uuid, found⟩
    exact ⟨(uuid, summary), FiniteMap.mem_pairs.mpr found, rfl⟩

/-- A conversation is listed as a group exactly when one of its rows is group-tagged. -/
theorem rebuildSummaries_isGroup (order : HashOrder) (messages : List ThreadMessage)
    (uuid : Uuid)
    : ((rebuildSummaries order messages).any (fun d => d.uuid = uuid && d.isGroup))
      = messages.any (fun m => m.uuid = uuid && m.group) := by
  rw [Bool.eq_iff_iff]
  simp only [List.any_eq_true, Bool.and_eq_true, decide_eq_true_eq, mem_rebuildSummaries,
    summariesByUuid, lookup_foldl_countMessage, AList.lookup_empty]
  constructor
  · rintro ⟨summary, ⟨found, folded⟩, own, tagged⟩
    have named := foldl_add_uuid _ _ _ _ (by simp) folded
    have marked := foldl_add_isGroup _ _ _ _ folded
    rw [tagged] at marked
    simp only [Option.map_none, Option.getD_none, Bool.false_or, Bool.true_eq,
      List.any_eq_true, List.mem_filter, decide_eq_true_eq] at marked
    obtain ⟨m, ⟨listed, same⟩, group⟩ := marked
    exact ⟨m, listed, same.trans (named.symm.trans own), group⟩
  · rintro ⟨m, listed, rfl, group⟩
    have member : m ∈ messages.filter (fun row => row.uuid = m.uuid) := by simp [listed]
    have known := foldl_add_isSome (messages.filter (fun row => row.uuid = m.uuid)) m.uuid none
    rw [List.isEmpty_eq_false_iff.mpr (List.ne_nil_of_mem member)] at known
    obtain ⟨summary, folded⟩ := Option.isSome_iff_exists.mp known
    refine ⟨summary, ⟨_, folded⟩, foldl_add_uuid _ _ _ _ (by simp) folded, ?_⟩
    rw [foldl_add_isGroup _ _ _ _ folded]
    simp only [Option.map_none, Option.getD_none, Bool.false_or, List.any_eq_true]
    exact ⟨m, member, group⟩

-----------------------------------------------------------------------------------------
-- The order of the summaries and their unread counts
-----------------------------------------------------------------------------------------

/-- The same summaries, which differ at most in the order of equal timestamps. -/
structure SameUpToTies (left right : List DialogueSummary) : Prop where
  perm : left.Perm right
  timestamps
    : left.map DialogueSummary.lastMsgTs = right.map DialogueSummary.lastMsgTs

instance : Std.Total (fun a b : DialogueSummary => b.lastMsgTs ≤ a.lastMsgTs) :=
  ⟨fun a b => UInt64.le_total b.lastMsgTs a.lastMsgTs⟩

instance : IsTrans DialogueSummary (fun a b => b.lastMsgTs ≤ a.lastMsgTs) :=
  ⟨fun _ _ _ earlier later => UInt64.le_trans later earlier⟩

theorem rebuildSummaries_perm (order : HashOrder) (messages : List ThreadMessage)
    : (rebuildSummaries order messages).Perm
        ((FiniteMap.pairs (summariesByUuid messages)).map Prod.snd) :=
  (List.perm_insertionSort _ _).trans ((order.perm _).map Prod.snd)

/-- Newest activity stands first. -/
theorem rebuildSummaries_newestFirst (order : HashOrder) (messages : List ThreadMessage)
    : ((rebuildSummaries order messages).map DialogueSummary.lastMsgTs).Pairwise
        (fun a b => b ≤ a) :=
  List.pairwise_map.mpr (List.pairwise_insertionSort _ _)

/-- The hash order decides between equal timestamps only. -/
theorem rebuildSummaries_sameUpToTies (order other : HashOrder) (messages : List ThreadMessage)
    : SameUpToTies (rebuildSummaries order messages) (rebuildSummaries other messages) := by
  have perm := (rebuildSummaries_perm order messages).trans
    (rebuildSummaries_perm other messages).symm
  refine ⟨perm, List.Perm.eq_of_pairwise ?_ (rebuildSummaries_newestFirst order messages)
    (rebuildSummaries_newestFirst other messages) (perm.map _)⟩
  intro a b _ _ le ge
  exact UInt64.le_antisymm ge le

/-- The message counts as unread in its conversation. -/
def ThreadMessage.counted (m : ThreadMessage) : Bool :=
  !m.outgoing && m.status == .sent && !m.read

theorem DialogueSummary.add_unreadCount (entry : DialogueSummary) (m : ThreadMessage)
    : (entry.add m).unreadCount
      = if m.counted then min (entry.unreadCount + 1) maxUnread else entry.unreadCount := by
  have latest (entry : DialogueSummary) : (entry.noteLatest m).unreadCount = entry.unreadCount := by
    unfold noteLatest
    split <;> rfl
  have author (entry : DialogueSummary) : (entry.noteAuthor m).unreadCount = entry.unreadCount := by
    unfold noteAuthor
    split <;> rfl
  unfold add noteUnread ThreadMessage.counted
  split <;> simp [latest, author]

/-- While there is room in a `u32`, a message adds one to the total exactly if it counts. -/
theorem total_countMessage {byUuid : FiniteMap Uuid DialogueSummary}
    (room : FiniteMap.total DialogueSummary.unreadCount byUuid < maxUnread) (m : ThreadMessage)
    : FiniteMap.total DialogueSummary.unreadCount (countMessage byUuid m)
      = FiniteMap.total DialogueSummary.unreadCount byUuid + if m.counted then 1 else 0 := by
  have share := FiniteMap.total_insert DialogueSummary.unreadCount m.uuid
    (((byUuid.lookup m.uuid).getD (.empty m.uuid)).add m) byUuid
  rw [DialogueSummary.add_unreadCount] at share
  unfold countMessage
  cases found : byUuid.lookup m.uuid with
  | none =>
      simp only [found, Option.getD_none, Option.map_none, DialogueSummary.empty] at share ⊢
      split at share <;> simp_all [maxUnread]
  | some entry =>
      have own := FiniteMap.le_total DialogueSummary.unreadCount found
      simp only [found, Option.getD_some, Option.map_some] at share ⊢
      split at share <;> simp_all
      omega

/-- The total of the unread counts is the number of messages that count, by induction. -/
theorem total_foldl_countMessage {messages : List ThreadMessage}
    {byUuid : FiniteMap Uuid DialogueSummary}
    (room : FiniteMap.total DialogueSummary.unreadCount byUuid + messages.length ≤ maxUnread)
    : FiniteMap.total DialogueSummary.unreadCount (messages.foldl countMessage byUuid)
      = FiniteMap.total DialogueSummary.unreadCount byUuid
        + messages.countP ThreadMessage.counted := by
  induction messages generalizing byUuid with
  | nil => simp
  | cons m rest ih =>
      rw [List.length_cons] at room
      have added := @total_countMessage byUuid (by omega) m
      rw [List.foldl_cons, ih (by split at added <;> omega), added, List.countP_cons]
      omega

/-- The unread counts of few enough rows add up to the rows that count. -/
theorem unreadCounts_sum (order : HashOrder) {messages : List ThreadMessage}
    (few : messages.length ≤ maxUnread)
    : ((rebuildSummaries order messages).map DialogueSummary.unreadCount).sum
      = messages.countP ThreadMessage.counted := by
  have none
      : FiniteMap.total DialogueSummary.unreadCount (∅ : FiniteMap Uuid DialogueSummary) = 0 :=
    rfl
  have sum := ((rebuildSummaries_perm order messages).map DialogueSummary.unreadCount).sum_nat
  rw [List.map_map] at sum
  have total := @total_foldl_countMessage messages ∅ (by omega)
  rw [none, Nat.zero_add] at total
  exact sum.trans total

end XousAppSignal.Ui
