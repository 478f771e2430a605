import XousAppSignal.Ui.ComposeText

/-! The group reply-block over whole sessions. Whether a conversation is a group is read off
the rows that survive in the capacity-bounded store, so the block lasts as long as one of
the conversation's group-tagged rows does.
-/

namespace XousAppSignal.Ui

open Worker

/-- The event is a group message of the pseudo-thread. -/
def filesGroup (platform : Platform) (uuid : Uuid) : Event → Bool
  | .message _ _ _ _ _ (some key) => platform.newV5 key = uuid
  | _ => false

/-- A group message has been filed under the thread since the store was last cleared. -/
def groupFiled (platform : Platform) (uuid : Uuid) : List Observation → Bool
  | [] => false
  | .handled event :: older =>
      filesGroup platform uuid event || (!event.resets && groupFiled platform uuid older)
  | _ :: older => groupFiled platform uuid older

/-- A message goes to no thread that a group message was filed under. -/
def NotToGroup (platform : Platform) (older : List Observation) (cmd : Cmd) : Prop :=
  ∀ uuid body timestamp,
    cmd = .sendMessage (Uuid.toString uuid) body timestamp
    → groupFiled platform uuid older = false

namespace MessageStore

/-- The row that the next push would evict. -/
def evicted (store : MessageStore) : Option ThreadMessage :=
  if store.capacity ≤ store.messages.length then store.messages.head? else none

/-- Pushing a row of this conversation and tag leaves every group conversation a
group-tagged row: an evicted group row is replaced by the new one or by a later one.
-/
def EvictionKeepsTag (store : MessageStore) (uuid : Uuid) (group : Bool) : Prop :=
  ∀ row ∈ store.evicted,
    row.group = true
    → (row.uuid = uuid ∧ group = true)
      ∨ store.messages.tail.any (fun m => m.uuid = row.uuid && m.group) = true

instance (store : MessageStore) (uuid : Uuid) (group : Bool)
    : Decidable (store.EvictionKeepsTag uuid group) :=
  Option.decidableForallMem _

/-- Eviction removes at most the oldest row. -/
theorem mem_evictIfFull {store : MessageStore} {m : ThreadMessage}
    (member : m ∈ store.messages)
    : m ∈ store.evictIfFull.messages ∨ store.evicted = some m := by
  unfold evictIfFull evicted
  split
  · cases rows : store.messages with
    | nil => simp [rows] at member
    | cons oldest rest =>
        rcases List.mem_cons.mp (rows ▸ member) with rfl | later
        · exact .inr rfl
        · exact .inl (by simpa [rows] using later)
  · exact .inl member

theorem tail_sub_evictIfFull {store : MessageStore} {m : ThreadMessage}
    (member : m ∈ store.messages.tail)
    : m ∈ store.evictIfFull.messages := by
  unfold evictIfFull
  split
  · simpa using member
  · exact List.mem_of_mem_tail member

/-- A guarded push keeps each conversation's group tag. -/
theorem hasGroupRow_push {store : MessageStore} {row : ThreadMessage} (order : HashOrder)
    (keeps : store.EvictionKeepsTag row.uuid row.group) {uuid : Uuid}
    (tagged : store.hasGroupRow uuid = true)
    : (store.push order row).hasGroupRow uuid = true := by
  simp only [hasGroupRow, List.any_eq_true, Bool.and_eq_true, decide_eq_true_eq,
    push_messages, List.mem_append, List.mem_singleton] at tagged ⊢
  obtain ⟨m, member, here, group⟩ := tagged
  rcases mem_evictIfFull member with kept | gone
  · exact ⟨m, .inl kept, here, group⟩
  · rcases keeps m gone group with ⟨same, new⟩ | another
    · exact ⟨row, .inr rfl, same.symm.trans here, new⟩
    · simp only [List.any_eq_true, Bool.and_eq_true, decide_eq_true_eq] at another
      obtain ⟨other, later, same, marked⟩ := another
      exact ⟨other, .inl (tail_sub_evictIfFull later), same.trans here, marked⟩

theorem hasGroupRow_push_new (store : MessageStore) {row : ThreadMessage} (order : HashOrder)
    (group : row.group = true)
    : (store.push order row).hasGroupRow row.uuid = true := by
  simp [hasGroupRow, group]

end MessageStore

/-- The conversation and tag of the row an action pushes: an inbound message, or a send
that is not refused.
-/
def Session.pushes (platform : Platform) (session : Session) : Action → Option (Uuid × Bool)
  | .event _ (.message sender _ _ _ _ groupMasterKey) =>
      some (App.messageThread platform sender groupMasterKey)
  | .press stroke =>
      match session.app.screen with
      | .thread uuid =>
          if (isEnter stroke.key ∨ stroke.key = keyF1) ∧ session.app.composeBuffer ≠ ""
              ∧ session.app.store.isGroupThread uuid = false then
            some (uuid, false)
          else none
      | _ => none
  | _ => none

/-- An action does not evict the last group-tagged row of a conversation. -/
def KeepsGroupTags (platform : Platform) (session : Session) (action : Action) : Prop :=
  ∀ tag ∈ session.pushes platform action,
    session.app.store.EvictionKeepsTag tag.1 tag.2

instance (platform : Platform) (session : Session) (action : Action)
    : Decidable (KeepsGroupTags platform session action) :=
  Option.decidableForallMem _

/-- Every thread a group message was filed under still has a group-tagged row, and no
message was sent to one.
-/
structure GroupInv (platform : Platform) (session : Session) : Prop where
  summarised : session.app.store.Summarised
  tagged : ∀ uuid, groupFiled platform uuid session.history = true
    → session.app.store.hasGroupRow uuid = true
  sent : EverySent (NotToGroup platform) session.history

@[simp]
theorem groupFiled_sents (platform : Platform) (uuid : Uuid) (cmds : List Cmd)
    (older : List Observation)
    : groupFiled platform uuid (cmds.map .sent ++ older) = groupFiled platform uuid older := by
  induction cmds with
  | nil => rfl
  | cons cmd rest ih => exact ih

/-- A command that is no message meets the property vacuously. -/
theorem NotToGroup.of_quiet {platform : Platform} {older : List Observation} {cmd : Cmd}
    (quiet : cmd.isSendMessage = false)
    : NotToGroup platform older cmd := by
  rintro uuid body timestamp rfl
  cases quiet

namespace GroupInv

variable {platform : Platform}

/-- The invariant after a step, from what the step does to the rows and to the history
before its commands.
-/
theorem record {session : Session} {trigger : List Observation} {outcome : Outcome}
    (summarised : outcome.1.store.Summarised)
    (tagged : ∀ uuid, groupFiled platform uuid (trigger ++ session.history) = true
      → outcome.1.store.hasGroupRow uuid = true)
    (sent : EverySent (NotToGroup platform) (trigger ++ session.history))
    (fresh : ∀ cmd ∈ outcome.2, NotToGroup platform (trigger ++ session.history) cmd)
    : GroupInv platform (session.record trigger outcome) where
  summarised := summarised
  tagged := by simpa only [Session.record, groupFiled_sents] using tagged
  sent :=
    sent.sends (fun _ _ _ kept => kept)
      (fun cmd member => fresh cmd (List.mem_reverse.mp member))

/-- A frame step files nothing and keeps every tag. -/
theorem frame {session : Session} (inv : GroupInv platform session)
    {trigger : List Observation} {outcome : Outcome} (frame : Frame session.app outcome)
    (files : ∀ uuid, groupFiled platform uuid (trigger ++ session.history) = true
      → groupFiled platform uuid session.history = true)
    (sent : EverySent (NotToGroup platform) (trigger ++ session.history))
    : GroupInv platform (session.record trigger outcome) := by
  refine record (frame.store.summarised inv.summarised) ?_ sent ?_
  · intro uuid filed
    rw [frame.store.hasGroupRow_eq]
    exact inv.tagged uuid (files uuid filed)
  · exact fun cmd member => .of_quiet (frame.cmds cmd member)

/-- Sending from a conversation: a group conversation is refused, and another one adds a
row without a group tag.
-/
theorem sendCompose {session : Session} (inv : GroupInv platform session) {stroke : KeyPress}
    {uuid : Uuid} (shown : session.app.screen = .thread uuid)
    (trigger : isEnter stroke.key = true ∨ stroke.key = keyF1)
    (typed : session.app.composeBuffer ≠ "")
    (keeps : KeepsGroupTags platform session (.press stroke))
    : GroupInv platform
        (session.record [.pressed session.app.screen stroke.key]
          (session.app.sendCompose stroke.env uuid)) := by
  unfold App.sendCompose
  split
  · exact record inv.summarised inv.tagged inv.sent (by simp)
  · next open_ =>
      rw [Bool.not_eq_true] at open_
      have keeps : session.app.store.EvictionKeepsTag uuid false := by
        apply keeps (uuid, false)
        simp [Session.pushes, shown, trigger, typed, open_]
      have pushed (other : Uuid) (filed : groupFiled platform other session.history = true)
          : (session.app.store.pushOutgoingPending stroke.env.order uuid
              session.app.composeBuffer stroke.env.now).hasGroupRow other = true :=
        MessageStore.hasGroupRow_push stroke.env.order keeps (inv.tagged other filed)
      dsimp only
      split
      · refine record (MessageStore.push_summarised ..) pushed inv.sent ?_
        intro cmd member other body timestamp same
        rw [List.mem_singleton.mp member] at same
        have recipient := Uuid.toString_injective (Cmd.sendMessage.inj same).1
        rw [inv.summarised.isGroupThread_eq] at open_
        by_contra filed
        rw [Bool.not_eq_false] at filed
        have tagged := inv.tagged other filed
        rw [← recipient, open_] at tagged
        cases tagged
      · have same := MessageStore.setOutgoingStatus_sameTags stroke.env.orderAfter
          stroke.env.now .failed (session.app.store.pushOutgoingPending stroke.env.order uuid
            session.app.composeBuffer stroke.env.now)
        refine record (same.summarised (MessageStore.push_summarised ..)) ?_ inv.sent (by simp)
        intro other filed
        exact (same.hasGroupRow_eq other).trans (pushed other filed)

/-- A key keeps the invariant, by its effect. -/
theorem press {session : Session} (inv : GroupInv platform session) {stroke : KeyPress}
    (keeps : KeepsGroupTags platform session (.press stroke))
    : GroupInv platform (session.act platform (.press stroke)) := by
  unfold Session.act
  dsimp only
  split
  · exact inv
  have effect := App.handleKey_effect platform stroke.env stroke.key session.app
  generalize session.app.handleKey platform stroke.env stroke.key = outcome at effect ⊢
  cases effect with
  | frame frame => exact inv.frame frame (fun _ filed => filed) inv.sent
  | opened d shown enter focused =>
      have same := MessageStore.markThreadRead_sameTags stroke.env.order d.uuid
        session.app.store
      refine record (same.summarised inv.summarised) ?_ inv.sent (by simp)
      intro uuid filed
      exact (same.hasGroupRow_eq uuid).trans (inv.tagged uuid filed)
  | newChat uuid shown => exact record inv.summarised inv.tagged inv.sent (by simp)
  | edited uuid text shown part => exact record inv.summarised inv.tagged inv.sent (by simp)
  | sent uuid shown trigger typed => exact inv.sendCompose shown trigger typed keeps

/-- A worker event keeps the invariant, by its effect. -/
theorem event {session : Session} (inv : GroupInv platform session) {env : Env}
    {event : Event} (keeps : KeepsGroupTags platform session (.event env event))
    : GroupInv platform (session.act platform (.event env event)) := by
  have effect := App.handleWorkerEvent_effect platform env event session.app
  have unfiled (uuid : Uuid) (other : filesGroup platform uuid event = false)
      (filed : groupFiled platform uuid ([.handled event] ++ session.history) = true)
      : groupFiled platform uuid session.history = true := by
    simp only [List.singleton_append, groupFiled, other, Bool.false_or, Bool.and_eq_true]
      at filed
    exact filed.2
  unfold Session.act
  dsimp only
  generalize answered : session.app.handleWorkerEvent platform env event = outcome at effect ⊢
  cases effect with
  | frame frame keeps other =>
      refine inv.frame frame (fun uuid filed => unfiled uuid ?_ filed) inv.sent
      cases event with
      | message => cases other
      | _ => rfl
  | filed sender phone name body timestamp groupMasterKey label =>
      have keeps : session.app.store.EvictionKeepsTag _ _ := keeps _ rfl
      refine record (MessageStore.push_summarised ..) ?_ inv.sent (by simp)
      intro uuid filed
      cases groupMasterKey with
      | none =>
          exact MessageStore.hasGroupRow_push env.order keeps
            (inv.tagged uuid (unfiled uuid rfl filed))
      | some key =>
          by_cases here : platform.newV5 key = uuid
          · subst here
            exact MessageStore.hasGroupRow_push_new _ env.order rfl
          · have other : filesGroup platform uuid
                (.message sender phone name body timestamp (some key)) = false :=
              decide_eq_false here
            exact MessageStore.hasGroupRow_push env.order keeps
              (inv.tagged uuid (unfiled uuid other filed))
  | reset status wiped =>
      refine record (MessageStore.clear_summarised _) ?_ inv.sent (by simp)
      intro uuid filed
      simp only [List.singleton_append, groupFiled, wiped, Bool.not_true, Bool.false_and,
        Bool.or_false] at filed
      cases event <;> simp [filesGroup, Event.resets] at filed wiped
  | resolved uuid waiting compose tags opened =>
      refine record (tags.summarised inv.summarised) ?_ inv.sent (by simp)
      intro other filed
      exact (tags.hasGroupRow_eq other).trans (inv.tagged other (unfiled other rfl filed))

/-- The invariant holds when a session starts. -/
theorem start {app : App} (fresh : app.Start) : GroupInv platform (Session.start app) := by
  have unfiled (uuid : Uuid) : groupFiled platform uuid (Session.start app).history = false :=
    rfl
  cases fresh with
  | plain => exact ⟨MessageStore.new_summarised _, by simp [unfiled], trivial⟩
  | seeded order rows => exact ⟨MessageStore.seed_summarised .., by simp [unfiled], trivial⟩

end GroupInv

/-- In every session in which no push evicts the last group-tagged row of a conversation,
no message is sent to a thread after a group message was filed under it and before the
store is next cleared.
-/
theorem group_reply_blocked (platform : Platform) {app : App} (fresh : app.Start)
    {inputs : List Input}
    (guarded
      : Runs.Guarded (Session.act platform) (KeepsGroupTags platform) (.start app)
          (inputs.flatMap Input.actions))
    : EverySent (NotToGroup platform)
        (Runs.run (Session.step platform) (.start app) inputs).history := by
  rw [Session.run_step]
  have inv : GroupInv platform (Runs.run (Session.act platform) (.start app)
      (inputs.flatMap Input.actions)) := by
    apply guarded.invariant _ (GroupInv.start fresh)
    intro session action keeps inv
    cases action with
    | press stroke => exact inv.press keeps
    | event env event => exact inv.event keeps
    | focus env foreground =>
        exact inv.frame (App.handleFocusChange_frame env foreground session.app)
          (fun _ filed => filed) inv.sent
  exact inv.sent

/-- A linked session with one group message, its thread open. -/
def groupThreadOpen : List Input :=
  [.event (.online 1) (.accountInfo (.ok ⟨"xas", "aci", "+1"⟩)),
    .event (.online 2) (.message bob.toString none none "party" 2 (some [7])),
    .typing 3 ['\x0d']]

/-- A private message of Alice's. -/
def messageFromAlice (now : UInt64) : Input :=
  .event (.online now) (.message alice.toString none none "hi" now none)

/-- Five private messages evict the only group row while its thread is open; the next reply
goes out as a message to the pseudo-thread.
-/
theorem group_reply_sent_after_eviction
    : let group := Platform.twoContacts.newV5 [7]
      let session := Runs.run (Session.step .twoContacts) (.start .initial)
        (groupThreadOpen ++ [4, 5, 6, 7, 8].map messageFromAlice ++ [.typing 9 ['x', '\x0d']])
      session.history.head? = some (.sent (.sendMessage group.toString "x" 9))
      ∧ groupFiled .twoContacts group session.history.tail = true
      ∧ ¬EverySent (NotToGroup .twoContacts) session.history := by
  intro group session
  have sent : session.history
      = .sent (.sendMessage group.toString "x" 9) :: session.history.tail := rfl
  have filed : groupFiled .twoContacts group session.history.tail = true := by decide
  refine ⟨rfl, filed, ?_⟩
  rw [sent]
  rintro ⟨blocked, -⟩
  have unfiled := blocked group "x" 9 rfl
  rw [filed] at unfiled
  cases unfiled

/-- Witness: a second group message outlives the eviction of the first, and the reply is
refused.
-/
theorem group_reply_blocked_two_group_rows
    : let inputs := groupThreadOpen ++ [4, 5, 6].map messageFromAlice
        ++ [.event (.online 7) (.message bob.toString none none "off" 7 (some [7])),
          messageFromAlice 8, .typing 9 ['x', '\x0d']]
      let session := Runs.run (Session.step .twoContacts) (.start .initial) inputs
      Runs.Guarded (Session.act .twoContacts) (KeepsGroupTags .twoContacts)
          (.start .initial) (inputs.flatMap Input.actions)
      ∧ session.app.lastStatus = "Group reply not supported yet"
      ∧ EverySent (NotToGroup .twoContacts) session.history := by
  intro inputs session
  have guarded : Runs.Guarded (Session.act .twoContacts) (KeepsGroupTags .twoContacts)
      (.start .initial) (inputs.flatMap Input.actions) := by
    decide
  exact ⟨guarded, by decide, group_reply_blocked .twoContacts .plain guarded⟩

end XousAppSignal.Ui
