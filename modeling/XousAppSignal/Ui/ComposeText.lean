import XousAppSignal.Ui.Effects

/-! Text typed into one conversation and the messages sent to it. The compose buffer is one
string for all conversations; it is cleared when a message is sent or a new chat is opened
by UUID, and otherwise survives every change of screen.
-/

namespace XousAppSignal.Ui

open Worker

/-- Each command of a history, newest first, meets `P` with what was observed before it. -/
def EverySent (P : List Observation → Cmd → Prop) : List Observation → Prop
  | [] => True
  | .sent cmd :: older => P older cmd ∧ EverySent P older
  | _ :: older => EverySent P older

/-- Appending commands keeps the property when each new one meets it, by induction on the
commands.
-/
theorem EverySent.sends {P : List Observation → Cmd → Prop}
    (stable : ∀ older other cmd, P older cmd → P (.sent other :: older) cmd)
    {older : List Observation} (all : EverySent P older) {cmds : List Cmd}
    (each : ∀ cmd ∈ cmds, P older cmd)
    : EverySent P (cmds.map .sent ++ older) := by
  induction cmds with
  | nil => exact all
  | cons cmd rest ih =>
      have before : ∀ sent : List Cmd, P (sent.map .sent ++ older) cmd := by
        intro sent
        induction sent with
        | nil => exact each cmd (by simp)
        | cons other _ earlier => exact stable _ _ _ earlier
      exact ⟨before rest, ih (fun other member => each other (by simp [member]))⟩

/-- The characters typed while the conversation was on screen, in typing order. -/
def typedIn (uuid : Uuid) : List Observation → List Char
  | [] => []
  | .pressed (.thread shown) key :: older =>
      if shown = uuid then typedIn uuid older ++ [key] else typedIn uuid older
  | _ :: older => typedIn uuid older

/-- The conversation in which a key was last pressed. -/
def lastTypedThread : List Observation → Option Uuid
  | [] => none
  | .pressed (.thread shown) _ :: _ => some shown
  | _ :: older => lastTypedThread older

/-- The body of a message to `uuid` was typed, in this order, while `uuid` was on screen. -/
def BodyTypedThere (older : List Observation) (cmd : Cmd) : Prop :=
  ∀ uuid body timestamp,
    cmd = .sendMessage (Uuid.toString uuid) body timestamp
    → body.toList.Sublist (typedIn uuid older)

/-- The conversation an action opens without clearing the compose buffer: Enter on the home
list, or the answer to the pending username lookup.
-/
def Session.opens (session : Session) : Action → Option Uuid
  | .press stroke =>
      if session.app.screen = .home ∧ isEnter stroke.key = true then
        (session.app.store.dialogues[session.app.homeFocus]?).map DialogueSummary.uuid
      else none
  | .event _ (.usernameResolveResult (.ok (some uuid))) =>
      if session.app.usernameLookupInProgress then some uuid else none
  | _ => none

/-- A conversation is opened only with an empty buffer, or when it is the one last typed
in.
-/
def OpensOwnText (session : Session) (action : Action) : Prop :=
  ∀ uuid ∈ session.opens action,
    session.app.composeBuffer = "" ∨ lastTypedThread session.history = some uuid

instance (session : Session) (action : Action) : Decidable (OpensOwnText session action) :=
  Option.decidableForallMem _

/-- The buffer holds text of the conversation last typed in, and a conversation on screen
is that one; every message sent so far was typed where it was sent.
-/
structure ComposeInv (session : Session) : Prop where
  owned : ∀ uuid, lastTypedThread session.history = some uuid
    → session.app.composeBuffer.toList.Sublist (typedIn uuid session.history)
  untouched : lastTypedThread session.history = none → session.app.composeBuffer = ""
  shown : ∀ uuid, session.app.screen = .thread uuid
    → session.app.composeBuffer = "" ∨ lastTypedThread session.history = some uuid
  sent : EverySent BodyTypedThere session.history

@[simp]
theorem typedIn_sents (uuid : Uuid) (cmds : List Cmd) (older : List Observation)
    : typedIn uuid (cmds.map .sent ++ older) = typedIn uuid older := by
  induction cmds with
  | nil => rfl
  | cons cmd rest ih => exact ih

@[simp]
theorem lastTypedThread_sents (cmds : List Cmd) (older : List Observation)
    : lastTypedThread (cmds.map .sent ++ older) = lastTypedThread older := by
  induction cmds with
  | nil => rfl
  | cons cmd rest ih => exact ih

/-- A key on another screen is not typed text. -/
theorem typedIn_pressed_elsewhere {screen : Screen} (uuid : Uuid)
    (elsewhere : screen ≠ .thread uuid) (key : Char) (older : List Observation)
    : typedIn uuid (.pressed screen key :: older) = typedIn uuid older := by
  cases screen with
  | thread shown =>
      rw [typedIn, if_neg]
      exact fun same => elsewhere (congrArg Screen.thread same)
  | _ => rfl

theorem typedIn_pressed_here (uuid : Uuid) (key : Char) (older : List Observation)
    : typedIn uuid (.pressed (.thread uuid) key :: older) = typedIn uuid older ++ [key] := by
  rw [typedIn, if_pos rfl]

theorem BodyTypedThere.sent_stable {older : List Observation} {cmd : Cmd} (other : Cmd)
    (typed : BodyTypedThere older cmd)
    : BodyTypedThere (.sent other :: older) cmd :=
  typed

/-- A command that is no message meets the property vacuously. -/
theorem BodyTypedThere.of_quiet {older : List Observation} {cmd : Cmd}
    (quiet : cmd.isSendMessage = false)
    : BodyTypedThere older cmd := by
  rintro uuid body timestamp rfl
  cases quiet

namespace ComposeInv

/-- The invariant after a step, from what the step does to the buffer and to the history
before its commands.
-/
theorem record {session : Session} {trigger : List Observation} {outcome : Outcome}
    (owned : ∀ uuid, lastTypedThread (trigger ++ session.history) = some uuid
      → outcome.1.composeBuffer.toList.Sublist (typedIn uuid (trigger ++ session.history)))
    (untouched : lastTypedThread (trigger ++ session.history) = none
      → outcome.1.composeBuffer = "")
    (shown : ∀ uuid, outcome.1.screen = .thread uuid
      → outcome.1.composeBuffer = ""
        ∨ lastTypedThread (trigger ++ session.history) = some uuid)
    (sent : EverySent BodyTypedThere (trigger ++ session.history))
    (fresh : ∀ cmd ∈ outcome.2, BodyTypedThere (trigger ++ session.history) cmd)
    : ComposeInv (session.record trigger outcome) where
  owned := by simpa only [Session.record, typedIn_sents, lastTypedThread_sents] using owned
  untouched := by simpa only [Session.record, typedIn_sents, lastTypedThread_sents] using untouched
  shown := by simpa only [Session.record, typedIn_sents, lastTypedThread_sents] using shown
  sent :=
    sent.sends (fun _ other _ typed => typed.sent_stable other)
      (fun cmd member => fresh cmd (List.mem_reverse.mp member))

/-- A step that types nothing and leaves the buffer alone or empties it keeps the
invariant, provided a conversation it opens owns the buffer.
-/
theorem record_untyped {session : Session} (inv : ComposeInv session)
    {trigger : List Observation} {outcome : Outcome}
    (untyped : lastTypedThread (trigger ++ session.history) = lastTypedThread session.history
      ∧ (∀ uuid, typedIn uuid (trigger ++ session.history) = typedIn uuid session.history)
      ∧ EverySent BodyTypedThere (trigger ++ session.history))
    (compose : outcome.1.composeBuffer = session.app.composeBuffer
      ∨ outcome.1.composeBuffer = "")
    (shown : ∀ uuid, outcome.1.screen = .thread uuid
      → outcome.1.composeBuffer = "" ∨ lastTypedThread session.history = some uuid)
    (quiet : ∀ cmd ∈ outcome.2, cmd.isSendMessage = false)
    : ComposeInv (session.record trigger outcome) := by
  obtain ⟨last, typed, sent⟩ := untyped
  refine record ?_ ?_ ?_ sent (fun cmd member => .of_quiet (quiet cmd member))
  · intro uuid typedLast
    rw [last] at typedLast
    rw [typed]
    rcases compose with same | empty
    · rw [same]
      exact inv.owned uuid typedLast
    · rw [empty]
      exact List.nil_sublist _
  · intro none
    rw [last] at none
    rcases compose with same | empty
    · rw [same]
      exact inv.untouched none
    · exact empty
  · intro uuid opened
    rw [last]
    exact shown uuid opened

/-- With a conversation on screen, the buffer was typed there. -/
theorem typed_on_screen {session : Session} (inv : ComposeInv session) {uuid : Uuid}
    (shown : session.app.screen = .thread uuid)
    : session.app.composeBuffer.toList.Sublist (typedIn uuid session.history) := by
  rcases inv.shown uuid shown with empty | last
  · rw [empty]
    exact List.nil_sublist _
  · exact inv.owned uuid last

/-- A key typed in a conversation: the buffer afterwards is a part of the old buffer and
the key, and a message sent carries the old buffer.
-/
theorem record_typed {session : Session} (inv : ComposeInv session) {uuid : Uuid}
    (shown : session.app.screen = .thread uuid) (key : Char) {outcome : Outcome}
    (compose : outcome.1.composeBuffer.toList.Sublist
      (session.app.composeBuffer.toList ++ [key]))
    (stays : ∀ other, outcome.1.screen = .thread other → other = uuid)
    (fresh : ∀ cmd ∈ outcome.2,
      cmd.isSendMessage = false
      ∨ ∃ timestamp,
          cmd = .sendMessage uuid.toString session.app.composeBuffer timestamp)
    : ComposeInv (session.record [.pressed session.app.screen key] outcome) := by
  have typed := inv.typed_on_screen shown
  rw [shown]
  refine record ?_ ?_ ?_ inv.sent ?_
  · rintro other ⟨⟩
    rw [List.singleton_append, typedIn_pressed_here]
    exact compose.trans (typed.append_right [key])
  · intro none
    cases none
  · intro other opened
    exact .inr (congrArg some (stays other opened).symm)
  · intro cmd member
    rcases fresh cmd member with quiet | ⟨timestamp, rfl⟩
    · exact .of_quiet quiet
    · rintro other body time same
      obtain ⟨recipient, rfl, -⟩ := Cmd.sendMessage.inj same
      rw [← Uuid.toString_injective recipient, List.singleton_append, typedIn_pressed_here]
      exact typed.trans (List.sublist_append_left _ _)

/-- A key on a screen that shows no conversation types no text. -/
theorem untyped_press {session : Session} (inv : ComposeInv session)
    (away : ∀ uuid, session.app.screen ≠ .thread uuid) (key : Char)
    : lastTypedThread ([.pressed session.app.screen key] ++ session.history)
        = lastTypedThread session.history
      ∧ (∀ uuid, typedIn uuid ([.pressed session.app.screen key] ++ session.history)
          = typedIn uuid session.history)
      ∧ EverySent BodyTypedThere ([.pressed session.app.screen key] ++ session.history) := by
  refine ⟨?_, fun uuid => typedIn_pressed_elsewhere uuid (away uuid) key _, inv.sent⟩
  cases shown : session.app.screen with
  | thread uuid => exact absurd shown (away uuid)
  | _ => rfl

/-- A sent compose buffer leaves an empty one; a refused or undeliverable one sends
nothing.
-/
theorem sendCompose_effect (env : Env) (uuid : Uuid) (app : App)
    : (app.sendCompose env uuid).1.composeBuffer.toList.Sublist app.composeBuffer.toList
      ∧ (app.sendCompose env uuid).1.screen = app.screen
      ∧ ∀ cmd ∈ (app.sendCompose env uuid).2,
          cmd = .sendMessage uuid.toString app.composeBuffer env.now := by
  unfold App.sendCompose
  split
  · exact ⟨List.Sublist.refl _, rfl, by simp⟩
  · dsimp only
    split
    · exact ⟨List.nil_sublist _, rfl, by simp⟩
    · exact ⟨List.nil_sublist _, rfl, by simp⟩

/-- A key keeps the invariant, by its effect. -/
theorem press {platform : Platform} {session : Session} (inv : ComposeInv session)
    {stroke : KeyPress} (own : OpensOwnText session (.press stroke))
    : ComposeInv (session.act platform (.press stroke)) := by
  unfold Session.act
  dsimp only
  split
  · exact inv
  have effect := App.handleKey_effect platform stroke.env stroke.key session.app
  generalize session.app.handleKey platform stroke.env stroke.key = outcome at effect ⊢
  cases effect with
  | frame frame =>
      by_cases away : ∀ uuid, session.app.screen ≠ .thread uuid
      · apply inv.record_untyped (inv.untyped_press away stroke.key) (.inl frame.compose)
        · intro uuid opened
          exact absurd (frame.screen uuid opened) (away uuid)
        · exact frame.cmds
      · obtain ⟨uuid, shown⟩ := not_forall_not.mp away
        apply inv.record_typed shown stroke.key
        · rw [frame.compose]
          exact List.sublist_append_left _ _
        · intro other opened
          have still := frame.screen other opened
          rw [shown] at still
          exact (Screen.thread.inj still).symm
        · exact fun cmd member => .inl (frame.cmds cmd member)
  | opened d shown enter focused =>
      have away : ∀ uuid, session.app.screen ≠ .thread uuid := by simp [shown]
      apply inv.record_untyped (inv.untyped_press away stroke.key) (.inl rfl)
      · rintro uuid ⟨⟩
        apply own
        simp [Session.opens, shown, enter, focused]
      · simp
  | newChat uuid shown =>
      have away : ∀ uuid, session.app.screen ≠ .thread uuid := by simp [shown]
      apply inv.record_untyped (inv.untyped_press away stroke.key) (.inr rfl)
      · exact fun _ _ => .inl rfl
      · simp
  | edited uuid text shown part =>
      apply inv.record_typed shown stroke.key part
      · intro other opened
        exact (Screen.thread.inj (shown.symm.trans opened)).symm
      · simp
  | sent uuid shown trigger typed =>
      obtain ⟨compose, screen, cmds⟩ :=
        sendCompose_effect stroke.env uuid session.app
      apply inv.record_typed shown stroke.key
      · exact compose.trans (List.sublist_append_left _ _)
      · intro other opened
        rw [screen, shown] at opened
        exact (Screen.thread.inj opened).symm
      · exact fun cmd member => .inr ⟨_, cmds cmd member⟩

/-- A worker event keeps the invariant, by its effect. -/
theorem event {platform : Platform} {session : Session} (inv : ComposeInv session)
    {env : Env} {event : Event} (own : OpensOwnText session (.event env event))
    : ComposeInv (session.act platform (.event env event)) := by
  have untyped : lastTypedThread ([.handled event] ++ session.history)
        = lastTypedThread session.history
      ∧ (∀ uuid, typedIn uuid ([.handled event] ++ session.history)
          = typedIn uuid session.history)
      ∧ EverySent BodyTypedThere ([.handled event] ++ session.history) :=
    ⟨rfl, fun _ => rfl, inv.sent⟩
  have effect := App.handleWorkerEvent_effect platform env event session.app
  unfold Session.act
  dsimp only
  generalize session.app.handleWorkerEvent platform env event = outcome at effect ⊢
  cases effect with
  | frame frame keeps other =>
      apply inv.record_untyped untyped (.inl frame.compose)
      · intro uuid opened
        rw [frame.compose]
        exact inv.shown uuid (frame.screen uuid opened)
      · exact frame.cmds
  | filed =>
      apply inv.record_untyped untyped (.inl rfl)
      · exact fun uuid opened => inv.shown uuid opened
      · simp
  | reset status wiped =>
      apply inv.record_untyped untyped (.inr rfl)
      · exact fun _ _ => .inl rfl
      · simp
  | resolved uuid waiting compose tags opened =>
      apply inv.record_untyped untyped (.inl compose)
      · intro other shown
        rw [compose]
        apply own
        rw [Session.opens, if_pos waiting]
        exact congrArg some (Screen.thread.inj (opened.symm.trans shown))
      · simp

/-- A focus change keeps the invariant. -/
theorem focus {platform : Platform} {session : Session} (inv : ComposeInv session)
    (env : Env) (foreground : Bool)
    : ComposeInv (session.act platform (.focus env foreground)) := by
  have frame := App.handleFocusChange_frame env foreground session.app
  apply inv.record_untyped _ (.inl frame.compose)
  · intro uuid opened
    rw [frame.compose]
    exact inv.shown uuid (frame.screen uuid opened)
  · exact frame.cmds
  · exact ⟨rfl, fun _ => rfl, inv.sent⟩

/-- The invariant holds when a session starts. -/
theorem start {app : App} (fresh : app.Start) : ComposeInv (Session.start app) := by
  cases fresh with
  | plain =>
      exact ⟨by simp [Session.start, lastTypedThread], fun _ => rfl,
        by simp [Session.start, App.initial], trivial⟩
  | seeded order rows =>
      exact ⟨by simp [Session.start, lastTypedThread], fun _ => rfl,
        by simp [Session.start, App.seeded], trivial⟩

end ComposeInv

/-- In every session whose conversations are opened with an empty buffer or with their own
text in it, each message sent consists of characters typed, in this order, while the
recipient's conversation was on screen.
-/
theorem compose_text_sent_where_typed (platform : Platform) {app : App} (fresh : app.Start)
    {inputs : List Input}
    (guarded
      : Runs.Guarded (Session.act platform) OpensOwnText (.start app)
          (inputs.flatMap Input.actions))
    : EverySent BodyTypedThere
        (Runs.run (Session.step platform) (.start app) inputs).history := by
  rw [Session.run_step]
  have inv : ComposeInv (Runs.run (Session.act platform) (.start app)
      (inputs.flatMap Input.actions)) := by
    apply guarded.invariant _ (ComposeInv.start fresh)
    intro session action own inv
    cases action with
    | press stroke => exact inv.press own
    | event env event => exact inv.event own
    | focus env foreground => exact inv.focus env foreground
  exact inv.sent

-- A linked session with two conversations, Bob's above Alice's on the home list.
section TwoConversations

def alice : Uuid := ⟨0xa11ce⟩

def bob : Uuid := ⟨0xb0b⟩

/-- An online device with a working command channel. -/
def Env.online (now : UInt64) : Env where
  bypassPreflight := false
  wlan := none
  modals := .ok ()
  answer := .error "cancelled"
  defaultName := "xas"
  now := now
  channel := .ok ()
  order := .insertion
  orderAfter := .insertion

/-- Library functions that know the UUID texts of the two conversations. -/
def Platform.twoContacts : Platform where
  isAlphanumeric := Char.isAlphanum
  parseUuid := fun text => [alice, bob].find? (fun uuid => uuid.toString = text)
  newV5 := fun key => ⟨key.length⟩

def twoConversations : List Input :=
  [.event (.online 1) (.accountInfo (.ok ⟨"xas", "aci", "+1"⟩)),
    .event (.online 2) (.message alice.toString none none "hi" 2 none),
    .event (.online 3) (.message bob.toString none none "hello" 3 none)]

/-- A key batch at one point in time. -/
def Input.typing (now : UInt64) (keys : List Char) : Input :=
  .keys (keys.map (fun key => ⟨.online now, key⟩))

/-- Typing `x` to Bob, looking at the settings and going back to Alice's conversation
sends it to Alice.
-/
theorem compose_text_sent_to_other_thread
    : let session := Runs.run (Session.step .twoContacts) (.start .initial)
        (twoConversations ++
          [.typing 4 ['\x0d', 'x', keyF4, keyEsc], .typing 5 ['↓', '\x0d', '\x0d', '\x00']])
      session.history.head? = some (.sent (.sendMessage alice.toString "x" 5))
      ∧ typedIn alice session.history.tail = ['\x0d']
      ∧ ¬EverySent BodyTypedThere session.history := by
  intro session
  have sent : session.history
      = .sent (.sendMessage alice.toString "x" 5) :: session.history.tail := rfl
  have typed : typedIn alice session.history.tail = ['\x0d'] := by decide
  refine ⟨rfl, typed, ?_⟩
  rw [sent]
  rintro ⟨there, -⟩
  have part := there alice "x" 5 rfl
  rw [typed] at part
  exact absurd part (by decide)

/-- Witness: the text is sent to Bob before his conversation is left. -/
theorem compose_text_sent_where_typed_bob
    : let inputs := twoConversations ++
        [.typing 4 ['\x0d', 'x', '\x0d', keyF4], .typing 5 [keyEsc, '↓', '\x0d', '\x00']]
      let session := Runs.run (Session.step .twoContacts) (.start .initial) inputs
      Runs.Guarded (Session.act .twoContacts) OpensOwnText (.start .initial)
          (inputs.flatMap Input.actions)
      ∧ session.app.screen = .thread alice
      ∧ EverySent BodyTypedThere session.history := by
  intro inputs session
  have guarded : Runs.Guarded (Session.act .twoContacts) OpensOwnText (.start .initial)
      (inputs.flatMap Input.actions) := by
    decide
  exact ⟨guarded, by decide, compose_text_sent_where_typed .twoContacts .plain guarded⟩

end TwoConversations

end XousAppSignal.Ui
