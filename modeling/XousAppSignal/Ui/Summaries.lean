import XousAppSignal.Ui.MessageLog

/-! What the conversation list says about the rows: which conversations it has, in which order,
and every field of a summary. Then what an update that adds no row can do to that order.
-/

namespace XousAppSignal.Ui

-----------------------------------------------------------------------------------------
-- One summary
-----------------------------------------------------------------------------------------

/-- The rule for the summary of one conversation, whose rows are given in list order: the
latest message is the last one with the greatest timestamp.
-/
structure Summarises (rows : List ThreadMessage) (summary : DialogueSummary) : Prop where
  latest
    : ∃ before latest after, rows = before ++ latest :: after
        ∧ (∀ m ∈ before, m.timestamp ≤ latest.timestamp)
        ∧ (∀ m ∈ after, m.timestamp < latest.timestamp)
        ∧ summary.lastMsgTs = latest.timestamp
        ∧ summary.lastMsgSnippet = ellipsize latest.body 32
        ∧ summary.lastMsgOutgoing = latest.outgoing
        ∧ summary.lastMsgStatus = latest.status
  unread : summary.unreadCount = min (rows.countP ThreadMessage.counted) maxUnread
  group : summary.isGroup = true ↔ ∃ m ∈ rows, m.group = true

/-- The part of a summary that is taken from its latest message. -/
def DialogueSummary.latest (summary : DialogueSummary) : UInt64 × String × Bool × SendStatus :=
  (summary.lastMsgTs, summary.lastMsgSnippet, summary.lastMsgOutgoing, summary.lastMsgStatus)

/-- A message as the latest of its conversation. -/
def ThreadMessage.asLatest (m : ThreadMessage) : UInt64 × String × Bool × SendStatus :=
  (m.timestamp, ellipsize m.body 32, m.outgoing, m.status)

theorem DialogueSummary.add_latest (entry : DialogueSummary) (m : ThreadMessage)
    : (entry.add m).latest
      = if entry.lastMsgTs ≤ m.timestamp then m.asLatest else entry.latest := by
  have author (entry : DialogueSummary) : (entry.noteAuthor m).latest = entry.latest := by
    unfold noteAuthor
    split <;> rfl
  have unread (entry : DialogueSummary) : (entry.noteUnread m).latest = entry.latest := by
    unfold noteUnread
    split <;> rfl
  rw [add, unread, noteLatest]
  have stamp (entry : DialogueSummary) : (entry.noteAuthor m).lastMsgTs = entry.lastMsgTs :=
    congrArg Prod.fst (author entry)
  rw [stamp]
  split
  · rfl
  · exact author _

/-- The first row of a conversation makes its summary. -/
theorem summarises_first (uuid : Uuid) (m : ThreadMessage)
    : Summarises [m] ((DialogueSummary.empty uuid).add m) := by
  have oldest : (DialogueSummary.empty uuid).lastMsgTs ≤ m.timestamp := UInt64.zero_le
  have latest := (DialogueSummary.empty uuid).add_latest m
  rw [if_pos oldest] at latest
  simp only [DialogueSummary.latest, ThreadMessage.asLatest, Prod.mk.injEq] at latest
  refine ⟨⟨[], m, [], rfl, by simp, by simp, latest⟩, ?_, by simp [DialogueSummary.empty]⟩
  rw [DialogueSummary.add_unreadCount, List.countP_singleton]
  split <;> simp [DialogueSummary.empty, maxUnread]

/-- One more row behind the others updates the summary by the same rule. -/
theorem Summarises.add {rows : List ThreadMessage} {summary : DialogueSummary}
    (spec : Summarises rows summary) (m : ThreadMessage)
    : Summarises (rows ++ [m]) (summary.add m) := by
  obtain ⟨⟨before, latest, after, whole, earlier, later, top⟩, unread, group⟩ := spec
  refine ⟨?_, ?_, ?_⟩
  · subst whole
    have updated := summary.add_latest m
    rw [top.1] at updated
    split at updated
    · next newer =>
        simp only [DialogueSummary.latest, ThreadMessage.asLatest, Prod.mk.injEq] at updated
        refine ⟨_, m, [], rfl, fun row listed => ?_, by simp, updated⟩
        rcases List.mem_append.mp listed with front | back
        · exact UInt64.le_trans (earlier row front) newer
        · rcases List.mem_cons.mp back with rfl | behind
          · exact newer
          · exact UInt64.le_trans (UInt64.le_of_lt (later row behind)) newer
    · next older =>
        simp only [DialogueSummary.latest, Prod.mk.injEq] at updated
        have below : m.timestamp < latest.timestamp := UInt64.not_le.mp older
        refine ⟨before, latest, after ++ [m], by simp, earlier, fun row listed => ?_, ?_⟩
        · rcases List.mem_append.mp listed with behind | last
          · exact later row behind
          · exact List.mem_singleton.mp last ▸ below
        · exact ⟨updated.1.trans top.1, updated.2.1.trans top.2.1,
            updated.2.2.1.trans top.2.2.1, updated.2.2.2.trans top.2.2.2⟩
  · rw [DialogueSummary.add_unreadCount, unread, List.countP_append, List.countP_singleton]
    split <;> omega
  · rw [DialogueSummary.add_isGroup, Bool.or_eq_true, group]
    simp only [List.mem_append, List.mem_singleton, or_and_right, exists_or, exists_eq_left]

/-- All rows of a conversation make its summary, by induction on the rows behind the first. -/
theorem foldl_add_summarises {seen rest : List ThreadMessage} {uuid : Uuid}
    {entry summary : DialogueSummary} (spec : Summarises seen entry)
    (folded
      : rest.foldl (fun entry m => some ((entry.getD (.empty uuid)).add m)) (some entry)
        = some summary)
    : Summarises (seen ++ rest) summary := by
  induction rest generalizing seen entry with
  | nil =>
      cases folded
      rw [List.append_nil]
      exact spec
  | cons m rest ih =>
      have next := ih (spec.add m) folded
      rw [List.append_assoc] at next
      exact next

-----------------------------------------------------------------------------------------
-- The list of summaries
-----------------------------------------------------------------------------------------

/-- The summary under a conversation's UUID is the one of its rows. -/
theorem summariesByUuid_spec {messages : List ThreadMessage} {uuid : Uuid}
    {summary : DialogueSummary} (found : (summariesByUuid messages).lookup uuid = some summary)
    : summary.uuid = uuid
      ∧ Summarises (messages.filter (fun m => m.uuid = uuid)) summary := by
  rw [summariesByUuid, lookup_foldl_countMessage, AList.lookup_empty] at found
  refine ⟨foldl_add_uuid _ _ _ _ (by simp) found, ?_⟩
  cases rows : messages.filter (fun m => m.uuid = uuid) with
  | nil =>
      rw [rows] at found
      cases found
  | cons m rest =>
      rw [rows] at found
      exact foldl_add_summarises (summarises_first uuid m) found

/-- A conversation has a summary exactly when it has a row. -/
theorem summariesByUuid_isSome (messages : List ThreadMessage) (uuid : Uuid)
    : ((summariesByUuid messages).lookup uuid).isSome = true
      ↔ ∃ m ∈ messages, m.uuid = uuid := by
  rw [summariesByUuid, lookup_foldl_countMessage, AList.lookup_empty, foldl_add_isSome]
  simp [List.filter_eq_nil_iff]

/-- No conversation is listed twice. -/
theorem rebuildSummaries_nodup (order : HashOrder) (messages : List ThreadMessage)
    : ((rebuildSummaries order messages).map DialogueSummary.uuid).Nodup := by
  rw [((rebuildSummaries_perm order messages).map DialogueSummary.uuid).nodup_iff, List.map_map]
  have keys := FiniteMap.pairs_keys_nodup (summariesByUuid messages)
  rwa [List.map_congr_left (g := Prod.fst)]
  rintro ⟨uuid, summary⟩ listed
  exact (summariesByUuid_spec (FiniteMap.mem_pairs.mp listed)).1

theorem mem_map_uuid_rebuildSummaries (order : HashOrder) (messages : List ThreadMessage)
    (uuid : Uuid)
    : uuid ∈ (rebuildSummaries order messages).map DialogueSummary.uuid
      ↔ ∃ m ∈ messages, m.uuid = uuid := by
  rw [← summariesByUuid_isSome, Option.isSome_iff_exists, List.mem_map]
  constructor
  · rintro ⟨summary, listed, rfl⟩
    obtain ⟨uuid, found⟩ := mem_rebuildSummaries.mp listed
    rw [(summariesByUuid_spec found).1]
    exact ⟨summary, found⟩
  · rintro ⟨summary, found⟩
    exact ⟨summary, mem_rebuildSummaries.mpr ⟨uuid, found⟩, (summariesByUuid_spec found).1⟩

/-- A listed summary is the one of its conversation's rows. -/
theorem summarises_of_mem {order : HashOrder} {messages : List ThreadMessage}
    {summary : DialogueSummary} (listed : summary ∈ rebuildSummaries order messages)
    : Summarises (messages.filter (fun m => m.uuid = summary.uuid)) summary := by
  obtain ⟨uuid, found⟩ := mem_rebuildSummaries.mp listed
  obtain ⟨same, spec⟩ := summariesByUuid_spec found
  rwa [same]

/-- The rule for the whole list: one summary for each conversation of the rows, newest
activity first.
-/
structure ConversationList (messages : List ThreadMessage) (summaries : List DialogueSummary)
    : Prop where
  once : (summaries.map DialogueSummary.uuid).Nodup
  listed (uuid : Uuid)
    : uuid ∈ summaries.map DialogueSummary.uuid ↔ ∃ m ∈ messages, m.uuid = uuid
  newestFirst : summaries.Pairwise (fun a b => b.lastMsgTs ≤ a.lastMsgTs)
  each
    : ∀ summary ∈ summaries,
        Summarises (messages.filter (fun m => m.uuid = summary.uuid)) summary

/-- The rebuilt list follows the rule, for all rows and in every hash order. -/
theorem rebuildSummaries_conversationList (order : HashOrder) (messages : List ThreadMessage)
    : ConversationList messages (rebuildSummaries order messages) where
  once := rebuildSummaries_nodup order messages
  listed := mem_map_uuid_rebuildSummaries order messages
  newestFirst := List.pairwise_insertionSort _ _
  each _ := summarises_of_mem

-----------------------------------------------------------------------------------------
-- Updates that add no row
-----------------------------------------------------------------------------------------

/-- What the order of the list depends on. -/
def ThreadMessage.activity (m : ThreadMessage) : Uuid × UInt64 := (m.uuid, m.timestamp)

def DialogueSummary.activity (summary : DialogueSummary) : Uuid × UInt64 :=
  (summary.uuid, summary.lastMsgTs)

/-- A summary shows the greatest timestamp of its conversation. -/
theorem ConversationList.mem_activity {messages : List ThreadMessage}
    {summaries : List DialogueSummary} (spec : ConversationList messages summaries)
    (uuid : Uuid) (timestamp : UInt64)
    : (uuid, timestamp) ∈ summaries.map DialogueSummary.activity
      ↔ (uuid, timestamp) ∈ messages.map ThreadMessage.activity
        ∧ ∀ earlier, (uuid, earlier) ∈ messages.map ThreadMessage.activity
          → earlier ≤ timestamp := by
  have greatest (summary : DialogueSummary) (listed : summary ∈ summaries)
      : summary.activity ∈ messages.map ThreadMessage.activity
        ∧ ∀ m ∈ messages, m.uuid = summary.uuid → m.timestamp ≤ summary.lastMsgTs := by
    obtain ⟨before, latest, after, rows, earlier, later, stamp, -⟩ :=
      (spec.each summary listed).latest
    have own : latest ∈ messages.filter (fun m => m.uuid = summary.uuid) := by simp [rows]
    simp only [List.mem_filter, decide_eq_true_eq] at own
    refine ⟨List.mem_map.mpr ⟨latest, own.1, ?_⟩, fun m member same => ?_⟩
    · rw [ThreadMessage.activity, DialogueSummary.activity, own.2, stamp]
    · have among : m ∈ before ++ latest :: after := by
        rw [← rows]
        simp [member, same]
      rw [stamp]
      rcases List.mem_append.mp among with front | back
      · exact earlier m front
      · rcases List.mem_cons.mp back with rfl | behind
        · exact UInt64.le_refl _
        · exact UInt64.le_of_lt (later m behind)
  constructor
  · intro shown
    obtain ⟨summary, listed, same⟩ := List.mem_map.mp shown
    obtain ⟨rfl, rfl⟩ := Prod.mk.inj same
    refine ⟨(greatest summary listed).1, fun other stamped => ?_⟩
    obtain ⟨m, member, same⟩ := List.mem_map.mp stamped
    obtain ⟨own, rfl⟩ := Prod.mk.inj same
    exact (greatest summary listed).2 m member own
  · rintro ⟨stamped, greater⟩
    obtain ⟨m, member, same⟩ := List.mem_map.mp stamped
    obtain ⟨own, rfl⟩ := Prod.mk.inj same
    obtain ⟨summary, listed, rfl⟩ := List.mem_map.mp ((spec.listed uuid).mpr ⟨m, member, own⟩)
    obtain ⟨shown, most⟩ := greatest summary listed
    refine List.mem_map.mpr ⟨summary, listed, Prod.ext rfl ?_⟩
    exact UInt64.le_antisymm (greater summary.lastMsgTs shown) (most m member own)

theorem ConversationList.nodup_activity {messages : List ThreadMessage}
    {summaries : List DialogueSummary} (spec : ConversationList messages summaries)
    : (summaries.map DialogueSummary.activity).Nodup := by
  refine List.Nodup.of_map Prod.fst ?_
  rw [List.map_map]
  exact spec.once

/-- Rows with the same conversations and timestamps give the same conversations with the same
latest timestamps, and the same sequence of these.
-/
theorem ConversationList.sameActivity {messages messages' : List ThreadMessage}
    {summaries summaries' : List DialogueSummary}
    (spec : ConversationList messages summaries) (spec' : ConversationList messages' summaries')
    (same : messages'.map ThreadMessage.activity = messages.map ThreadMessage.activity)
    : (summaries'.map DialogueSummary.activity).Perm (summaries.map DialogueSummary.activity)
      ∧ summaries'.map DialogueSummary.lastMsgTs = summaries.map DialogueSummary.lastMsgTs := by
  have perm : (summaries'.map DialogueSummary.activity).Perm
      (summaries.map DialogueSummary.activity) := by
    refine (List.perm_ext_iff_of_nodup spec'.nodup_activity spec.nodup_activity).mpr ?_
    rintro ⟨uuid, timestamp⟩
    rw [spec'.mem_activity, spec.mem_activity, same]
  refine ⟨perm, List.Perm.eq_of_pairwise (fun a b _ _ le ge => UInt64.le_antisymm ge le)
    (List.pairwise_map.mpr spec'.newestFirst) (List.pairwise_map.mpr spec.newestFirst) ?_⟩
  have stamps := perm.map Prod.snd
  rwa [List.map_map, List.map_map] at stamps

/-- A rearrangement that keeps a sequence of different marks keeps everything, by induction. -/
theorem eq_of_perm_of_marks {α β : Type} {mark : α → β} {left right : List α}
    (perm : left.Perm right) (marks : left.map mark = right.map mark)
    (different : (right.map mark).Nodup)
    : left = right := by
  induction left generalizing right with
  | nil => exact (List.map_eq_nil_iff.mp marks.symm).symm
  | cons item left ih =>
      cases right with
      | nil => cases marks
      | cons item' right =>
          obtain ⟨same, rest⟩ := List.cons.inj marks
          have listed : item ∈ item' :: right := perm.subset List.mem_cons_self
          obtain rfl := List.inj_on_of_nodup_map different listed List.mem_cons_self same
          rw [ih perm.cons_inv rest (List.nodup_cons.mp different).2]

/-- A store after any mutations and bulk loads. -/
inductive MessageStore.Reachable : MessageStore → Prop where
  | new (capacity : Nat) : Reachable (.new capacity)
  | seed {store : MessageStore} (order : HashOrder) (rows : List ThreadMessage)
      (reachable : Reachable store)
      : Reachable (store.seed order rows)
  | call {store : MessageStore} (call : StoreCall) (reachable : Reachable store)
      : Reachable (call.step store)

namespace StoreCall

/-- The mutations that neither add nor drop a row. -/
def isMark : StoreCall → Bool
  | .markSendDelivered .. => true
  | .markSendFailed .. => true
  | .markThreadRead .. => true
  | .resolveAuthorLabels .. => true
  | _ => false

/-- A mark keeps the cache in agreement with the rows, by cases on the call. -/
theorem step_summarised {store : MessageStore} (summarised : store.Summarised) (call : StoreCall)
    : (call.step store).Summarised := by
  cases call with
  | pushIncoming order uuid authorLabel body timestamp group =>
      exact MessageStore.push_summarised order _ store
  | pushOutgoingPending order uuid body timestamp =>
      exact MessageStore.push_summarised order _ store
  | markSendDelivered order timestamp =>
      exact (store.setOutgoingStatus_sameTags order timestamp _).summarised summarised
  | markSendFailed order timestamp =>
      exact (store.setOutgoingStatus_sameTags order timestamp _).summarised summarised
  | markThreadRead order uuid =>
      exact (store.markThreadRead_sameTags order uuid).summarised summarised
  | resolveAuthorLabels order uuid name =>
      exact (store.resolveAuthorLabels_sameTags order uuid name).summarised summarised
  | clear => exact store.clear_summarised

/-- A mark without a matching row changes nothing at all. -/
theorem step_unmatched {store : MessageStore} {call : StoreCall} (mark : call.isMark = true)
    (unmatched : store.messages.any call.targets = false)
    : call.step store = store := by
  cases call with
  | markThreadRead order uuid => exact MessageStore.updateRows_unmatched unmatched
  | markSendDelivered => exact perform_unmatched rfl unmatched
  | markSendFailed => exact perform_unmatched rfl unmatched
  | resolveAuthorLabels => exact perform_unmatched rfl unmatched
  | _ => cases mark

/-- A mark keeps every row's conversation and timestamp, by cases on the call. -/
theorem step_activity {call : StoreCall} (mark : call.isMark = true) (store : MessageStore)
    : (call.step store).messages.map ThreadMessage.activity
      = store.messages.map ThreadMessage.activity := by
  cases call with
  | markSendDelivered order timestamp | markSendFailed order timestamp =>
      exact MessageStore.setOutgoingStatus_map _ (fun _ _ => rfl) order timestamp _ store
  | markThreadRead order uuid | resolveAuthorLabels order uuid name =>
      refine MessageStore.updateRows_map ThreadMessage.activity ?_ order _ store
      exact fun _ => rfl
  | _ => cases mark

end StoreCall

theorem MessageStore.Reachable.summarised {store : MessageStore} (reachable : store.Reachable)
    : store.Summarised := by
  induction reachable with
  | new capacity => exact new_summarised capacity
  | seed order rows _ _ => exact seed_summarised order rows _
  | call call _ ih => exact call.step_summarised ih

/-- A mark keeps the conversations, the latest timestamp of each, and the timestamps from top
to bottom: conversations change places only among equal timestamps, and none does when the
timestamps are different or no row matches.
-/
theorem mark_keeps_places {store : MessageStore} (reachable : store.Reachable)
    {call : StoreCall} (mark : call.isMark = true)
    : ((call.step store).dialogues.map DialogueSummary.activity).Perm
          (store.dialogues.map DialogueSummary.activity)
      ∧ (call.step store).dialogues.map DialogueSummary.lastMsgTs
          = store.dialogues.map DialogueSummary.lastMsgTs
      ∧ ((store.dialogues.map DialogueSummary.lastMsgTs).Nodup
          → (call.step store).dialogues.map DialogueSummary.uuid
            = store.dialogues.map DialogueSummary.uuid)
      ∧ (store.messages.any call.targets = false → call.step store = store) := by
  have summarised := reachable.summarised
  obtain ⟨order, before⟩ := summarised
  obtain ⟨order', after⟩ := call.step_summarised reachable.summarised
  have spec := rebuildSummaries_conversationList order store.messages
  have spec' := rebuildSummaries_conversationList order' (call.step store).messages
  rw [← before] at spec
  rw [← after] at spec'
  obtain ⟨perm, stamps⟩ := spec.sameActivity spec' (StoreCall.step_activity mark store)
  refine ⟨perm, stamps, fun different => ?_, StoreCall.step_unmatched mark⟩
  have marks (summaries : List DialogueSummary)
      : (summaries.map DialogueSummary.activity).map Prod.snd
        = summaries.map DialogueSummary.lastMsgTs := by
    rw [List.map_map]
    rfl
  have same := eq_of_perm_of_marks perm (by rw [marks, marks, stamps]) (by rwa [marks])
  have uuids := congrArg (List.map Prod.fst) same
  rwa [List.map_map, List.map_map] at uuids

/-- Two conversations, whose only messages have these timestamps. -/
def twoChats (first second : UInt64) : MessageStore :=
  StoreCall.step
    (StoreCall.step (.new 5) (.pushIncoming .insertion ⟨1⟩ "Alice" "hi" first false))
    (.pushIncoming .insertion ⟨2⟩ "Bob" "hey" second false)

theorem twoChats_reachable (first second : UInt64)
    : (twoChats first second).Reachable :=
  .call _ (.call _ (.new 5))

/-- Witness: reading the older of two conversations, in another hash order. -/
theorem mark_keeps_places_two
    : (StoreCall.step (twoChats 100 200) (.markThreadRead .reversed ⟨1⟩)).dialogues.map
        DialogueSummary.uuid
      = (twoChats 100 200).dialogues.map DialogueSummary.uuid :=
  have mark : (StoreCall.markThreadRead .reversed ⟨1⟩).isMark = true := rfl
  (mark_keeps_places (twoChats_reachable 100 200) mark).2.2.1 (by decide +kernel)

/-- Counterexample: with equal timestamps, reading a conversation swaps the two rows. -/
theorem mark_swaps_tied
    : (twoChats 100 100).Reachable
      ∧ (twoChats 100 100).dialogues.map DialogueSummary.uuid ≠
        (StoreCall.step (twoChats 100 100) (.markThreadRead .reversed ⟨1⟩)).dialogues.map
          DialogueSummary.uuid :=
  ⟨twoChats_reachable 100 100, by decide +kernel⟩

end XousAppSignal.Ui
