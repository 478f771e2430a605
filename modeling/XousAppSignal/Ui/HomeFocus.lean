import XousAppSignal.Ui.GroupReplyBlock
import XousAppSignal.Ui.HomeEffects
import XousAppSignal.Ui.StoreCalls
import XousAppSignal.Ui.WriteHome

/-! The focused row of Home. Drawing clamps the focus to the list and the keys do not, so the
two agree exactly while the focus is on the list. A push that takes the last row from under
the focus is what separates them.
-/

namespace XousAppSignal.Ui

open Worker

namespace App

/-- The app with Home on screen. -/
def onHome (app : App) : App := { app with screen := .home }

/-- Enter opens the conversation that is marked, and the arrows move the mark to the next
row, or leave it at the first and the last one.
-/
structure FocusAgrees (platform : Platform) (app : App) : Prop where
  enter
    : ∀ env key, isEnter key = true
      → ∃ d, app.marked = [d]
        ∧ (app.handleKey platform env key).1.screen = .thread d.uuid
  up
    : ∀ env,
        let after := (app.handleKey platform env '↑').1
        after.store = app.store ∧ after.markedIndex = app.markedIndex - 1
  down
    : ∀ env,
        let after := (app.handleKey platform env '↓').1
        after.store = app.store
        ∧ after.markedIndex = min (app.markedIndex + 1) (app.store.dialogues.length - 1)

theorem handleKey_onHome (platform : Platform) (env : Env) (key : Char) {app : App}
    (shown : app.screen = .home)
    : app.handleKey platform env key = app.handleHomeKey platform env key := by
  rw [handleKey, shown]

/-- On Home, Enter opens the focused conversation. -/
theorem handleKey_enter (platform : Platform) (env : Env) {key : Char} {app : App}
    (shown : app.screen = .home) (enter : isEnter key = true)
    : (app.handleKey platform env key).1.screen
      = ((app.store.dialogues[app.homeFocus]?).map (fun d => .thread d.uuid)).getD .home := by
  have up : key ≠ '↑' := by
    rintro rfl
    cases enter
  have down : key ≠ '↓' := by
    rintro rfl
    cases enter
  rw [handleKey_onHome platform env key shown, handleHomeKey, if_neg up, if_neg down,
    if_pos enter]
  cases app.store.dialogues[app.homeFocus]? with
  | none => exact shown
  | some d => rfl

theorem handleKey_up (platform : Platform) (env : Env) {app : App} (shown : app.screen = .home)
    : (app.handleKey platform env '↑').1 = { app with homeFocus := app.homeFocus - 1 } := by
  rw [handleKey_onHome platform env '↑' shown]
  rfl

theorem handleKey_down (platform : Platform) (env : Env) {app : App}
    (shown : app.screen = .home)
    : (app.handleKey platform env '↓').1
      = if app.homeFocus < app.store.dialogues.length - 1 then
          { app with homeFocus := app.homeFocus + 1 }
        else app := by
  rw [handleKey_onHome platform env '↓' shown, handleHomeKey, if_neg (by decide), if_pos rfl]
  split <;> rfl

/-- What is marked and what the keys do agree exactly while the focus is on the list. -/
theorem focusAgrees_iff (platform : Platform) {app : App} (shown : app.screen = .home)
    (nonempty : app.store.dialogues ≠ [])
    : app.FocusAgrees platform ↔ app.homeFocus < app.store.dialogues.length := by
  have positive := List.length_pos_iff.mpr nonempty
  have place := markedIndex_eq app nonempty
  constructor
  · intro agrees
    by_contra beyond
    obtain ⟨d, -, opened⟩ := agrees.enter (.online 0) '∴' rfl
    have missing : app.store.dialogues[app.homeFocus]? = none := by simpa using beyond
    rw [handleKey_enter platform _ shown rfl, missing] at opened
    cases opened
  · intro within
    refine ⟨fun env key enter => ?_, fun env => ?_, fun env => ?_⟩
    · have listed := List.getElem?_eq_getElem within
      refine ⟨app.store.dialogues[app.homeFocus], marked_eq (by omega) listed, ?_⟩
      rw [handleKey_enter platform env shown enter, listed]
      rfl
    · rw [handleKey_up platform env shown]
      refine ⟨rfl, (markedIndex_eq { app with homeFocus := app.homeFocus - 1 } nonempty).trans ?_⟩
      dsimp only
      omega
    · rw [handleKey_down platform env shown]
      split
      · refine ⟨rfl, (markedIndex_eq { app with homeFocus := app.homeFocus + 1 } nonempty).trans ?_⟩
        dsimp only
        omega
      · refine ⟨rfl, ?_⟩
        omega

end App

-----------------------------------------------------------------------------------------
-- The number of conversations
-----------------------------------------------------------------------------------------

namespace MessageStore

/-- The conversations that have a row. -/
def conversations (store : MessageStore) : Finset Uuid :=
  (store.messages.map ThreadMessage.uuid).toFinset

/-- Home lists each conversation once. -/
theorem Summarised.dialogues_length {store : MessageStore} (summarised : store.Summarised)
    : store.dialogues.length = store.conversations.card := by
  obtain ⟨order, same⟩ := summarised
  have once := rebuildSummaries_nodup order store.messages
  rw [same, ← List.length_map DialogueSummary.uuid, ← List.toFinset_card_of_nodup once]
  congr 1
  ext uuid
  rw [conversations, List.mem_toFinset, List.mem_toFinset, mem_map_uuid_rebuildSummaries,
    List.mem_map]

/-- A push of a row of this conversation takes another one off the list: the row that is
evicted is the last one of its conversation, and the new row belongs to one that stays.
-/
def DropsConversation (store : MessageStore) (uuid : Uuid) : Prop :=
  ∃ row ∈ store.evicted,
    row.uuid ∉ store.messages.tail.map ThreadMessage.uuid
    ∧ uuid ∈ store.messages.tail.map ThreadMessage.uuid

instance (store : MessageStore) (uuid : Uuid) : Decidable (store.DropsConversation uuid) :=
  Option.decidableExistsMem _

theorem push_conversations (order : HashOrder) (row : ThreadMessage) (store : MessageStore)
    : (store.push order row).conversations
      = insert row.uuid store.evictIfFull.conversations := by
  ext uuid
  simp [conversations]

/-- Without an eviction no row goes. -/
theorem evictIfFull_of_none {store : MessageStore} (stays : store.evicted = none)
    : store.evictIfFull.messages = store.messages := by
  unfold evicted at stays
  unfold evictIfFull
  split
  · next full =>
      rw [if_pos full, List.head?_eq_none_iff] at stays
      simp [stays]
  · rfl

theorem evictIfFull_of_some {store : MessageStore} {oldest : ThreadMessage}
    (goes : store.evicted = some oldest)
    : store.messages = oldest :: store.messages.tail
      ∧ store.evictIfFull.messages = store.messages.tail := by
  unfold evicted at goes
  split at goes
  · next full =>
      refine ⟨(List.cons_head?_tail goes).symm, ?_⟩
      rw [evictIfFull, if_pos full, List.drop_one]
  · cases goes

/-- A push shortens the list by one row exactly if it takes a conversation off it. -/
theorem Summarised.push_length {store : MessageStore} (summarised : store.Summarised)
    (order : HashOrder) (row : ThreadMessage)
    : (store.DropsConversation row.uuid
        → (store.push order row).dialogues.length + 1 = store.dialogues.length)
      ∧ (¬store.DropsConversation row.uuid
        → store.dialogues.length ≤ (store.push order row).dialogues.length) := by
  rw [summarised.dialogues_length, (push_summarised order row store).dialogues_length,
    push_conversations]
  cases goes : store.evicted with
  | none =>
      have same : store.evictIfFull.conversations = store.conversations := by
        rw [conversations, evictIfFull_of_none goes, conversations]
      rw [same]
      refine ⟨?_, fun _ => Finset.card_le_card (Finset.subset_insert _ _)⟩
      rintro ⟨gone, evicted, -⟩
      rw [goes] at evicted
      cases evicted
  | some oldest =>
      obtain ⟨rows, left⟩ := evictIfFull_of_some goes
      have before : store.conversations = insert oldest.uuid store.evictIfFull.conversations := by
        rw [conversations, rows, conversations, left]
        simp
      have staying (uuid : Uuid)
          : uuid ∈ store.evictIfFull.conversations
            ↔ uuid ∈ store.messages.tail.map ThreadMessage.uuid := by
        rw [conversations, left, List.mem_toFinset]
      have drops : store.DropsConversation row.uuid
          ↔ oldest.uuid ∉ store.evictIfFull.conversations
            ∧ row.uuid ∈ store.evictIfFull.conversations := by
        simp only [DropsConversation, goes, staying, Option.mem_some_iff, exists_eq_left']
      rw [before, drops]
      by_cases last : oldest.uuid ∈ store.evictIfFull.conversations
      · refine ⟨fun both => absurd last both.1, fun _ => ?_⟩
        rw [Finset.insert_eq_of_mem last]
        exact Finset.card_le_card (Finset.subset_insert _ _)
      · rw [Finset.card_insert_of_notMem last]
        by_cases listed : row.uuid ∈ store.evictIfFull.conversations
        · rw [Finset.insert_eq_of_mem listed]
          exact ⟨fun _ => rfl, fun other => absurd ⟨last, listed⟩ other⟩
        · rw [Finset.card_insert_of_notMem listed]
          exact ⟨fun both => absurd both.2 listed, fun _ => Nat.le_refl _⟩

/-- There is a conversation after a push. -/
theorem push_positive (order : HashOrder) (row : ThreadMessage) (store : MessageStore)
    : 0 < (store.push order row).dialogues.length := by
  rw [(push_summarised order row store).dialogues_length, push_conversations]
  exact Finset.card_pos.mpr (Finset.insert_nonempty _ _)

end MessageStore

namespace StoreCall

/-- A mark keeps the number of conversations. -/
theorem mark_length {store : MessageStore} (summarised : store.Summarised) {call : StoreCall}
    (mark : call.isMark = true)
    : (call.step store).dialogues.length = store.dialogues.length := by
  have activity := congrArg (List.map Prod.fst) (step_activity mark store)
  rw [List.map_map, List.map_map] at activity
  rw [(call.step_summarised summarised).dialogues_length, summarised.dialogues_length]
  exact congrArg (fun uuids : List Uuid => uuids.toFinset.card) activity

/-- Marks keep the number of conversations, by induction. -/
theorem run_marks_length {calls : List StoreCall} (marks : ∀ call ∈ calls, call.isMark = true)
    {store : MessageStore} (summarised : store.Summarised)
    : (Runs.run step store calls).dialogues.length = store.dialogues.length := by
  induction calls generalizing store with
  | nil => rfl
  | cons call rest ih =>
      rw [Runs.run_cons,
        ih (fun other listed => marks other (List.mem_cons_of_mem _ listed))
          (call.step_summarised summarised),
        mark_length summarised (marks call List.mem_cons_self)]

theorem step_of_row {call : StoreCall} {row : ThreadMessage} (pushes : call.row = some row)
    (store : MessageStore)
    : ∃ order, call.step store = store.push order row := by
  cases call with
  | pushIncoming order uuid authorLabel body timestamp group =>
      cases pushes
      exact ⟨order, rfl⟩
  | pushOutgoingPending order uuid body timestamp =>
      cases pushes
      exact ⟨order, rfl⟩
  | _ => cases pushes

theorem isMark_row {call : StoreCall} (mark : call.isMark = true) : call.row = none := by
  cases call with
  | pushIncoming | pushOutgoingPending => cases mark
  | _ => rfl

end StoreCall

-----------------------------------------------------------------------------------------
-- Runs
-----------------------------------------------------------------------------------------

/-- The rows that an action pushes. -/
def Action.pushedRows (platform : Platform) (app : App) (action : Action) : List ThreadMessage :=
  (action.storeCalls platform app).filterMap StoreCall.row

/-- A row that takes a conversation off the list is pushed only while the focus is above the
last row.
-/
def KeepsFocus (platform : Platform) (session : Session) (action : Action) : Prop :=
  ∀ row ∈ action.pushedRows platform session.app,
    session.app.store.DropsConversation row.uuid
    → session.app.homeFocus + 1 < session.app.store.dialogues.length

instance (platform : Platform) (session : Session) (action : Action)
    : Decidable (KeepsFocus platform session action) :=
  List.decidableBAll ..

/-- The focus is on the list, or on no row of an empty one. -/
def App.FocusInList (app : App) : Prop := app.homeFocus ≤ app.store.dialogues.length - 1

/-- A reset puts the focus back. -/
theorem Action.resets_focus (platform : Platform) (app : App) {action : Action}
    (resets : action.resets = true)
    : (action.outcome platform app).1.homeFocus = 0 := by
  cases action with
  | press | focus => cases resets
  | event env received =>
      cases received with
      | loggedOut | signalAuthExpired | signalConflictingDevice => rfl
      | _ => cases resets

/-- An action leaves the focus where it is when it pushes a row. -/
theorem Action.push_focus {platform : Platform} {app : App} {action : Action}
    {row : ThreadMessage} (pushed : row ∈ action.pushedRows platform app)
    : (action.outcome platform app).1.homeFocus = app.homeFocus := by
  obtain ⟨call, listed, pushes⟩ := List.mem_filterMap.mp pushed
  cases action with
  | press stroke =>
      unfold storeCalls at listed
      dsimp only at listed
      unfold outcome
      dsimp only
      split at listed
      · cases listed
      · next typed =>
          rw [if_neg typed]
          unfold App.keyCalls at listed
          split at listed
          · next uuid sends =>
              rw [(App.handleKey_sends stroke.env sends).1, App.sendCompose]
              dsimp only
              repeat' split
              all_goals rfl
          · obtain ⟨uuid, -, rfl⟩ := List.mem_map.mp listed
            cases pushes
  | event env received =>
      unfold storeCalls App.eventCalls at listed
      dsimp only at listed
      split at listed
      · rfl
      · cases List.mem_singleton.mp listed
        cases pushes
      · cases List.mem_singleton.mp listed
        cases pushes
      · cases List.mem_singleton.mp listed
        cases pushes
      · split at listed
        · cases List.mem_singleton.mp listed
          cases pushes
        · cases listed
      · split at listed
        · cases List.mem_singleton.mp listed
          cases pushes
        · cases listed
  | focus env foreground => cases listed

/-- The focus moves by at most one row, and down only on the list. -/
theorem Action.outcome_focus (platform : Platform) (app : App) (action : Action)
    : (action.outcome platform app).1.homeFocus ≤ app.homeFocus
      ∨ (action.outcome platform app).1.FocusInList := by
  cases action with
  | press stroke =>
      unfold outcome
      dsimp only
      split
      · exact .inl (Nat.le_refl _)
      · have effect := app.handleKey_home platform stroke.env stroke.key
        generalize app.handleKey platform stroke.env stroke.key = outcome at effect
        cases effect with
        | steady steady => exact .inl steady.focus
        | down shown key room => exact .inr room
        | asked raw shown idle => exact .inl (Nat.le_refl _)
  | event env received => exact .inl (app.handleWorkerEvent_home platform env received).focus
  | focus env foreground => exact .inl (app.handleFocusChange_steady env foreground).focus

/-- The length of the list after an action: that of one push, or as before without a push
and a reset.
-/
theorem Session.act_length (platform : Platform) {session : Session}
    (summarised : session.app.store.Summarised) (action : Action)
    : (action.pushedRows platform session.app = []
        ∧ (action.resets = true
          ∨ (session.act platform action).app.store.dialogues.length
            = session.app.store.dialogues.length))
      ∨ ∃ order row, action.pushedRows platform session.app = [row]
          ∧ (session.act platform action).app.store.dialogues.length
            = (session.app.store.push order row).dialogues.length := by
  have shape := action.storeCalls_shape platform session.app
  rw [act_store]
  unfold Action.pushedRows
  generalize action.storeCalls platform session.app = calls at shape ⊢
  have no_rows {marks : List StoreCall} (all : ∀ mark ∈ marks, mark.isMark = true)
      : marks.filterMap StoreCall.row = [] :=
    List.filterMap_eq_nil_iff.mpr fun mark listed => StoreCall.isMark_row (all mark listed)
  cases shape with
  | marks all => exact .inl ⟨no_rows all, .inr (StoreCall.run_marks_length all summarised)⟩
  | cleared resets => exact .inl ⟨rfl, .inl resets⟩
  | @pushed call row marks pushes all =>
      obtain ⟨order, step⟩ := StoreCall.step_of_row pushes session.app.store
      refine .inr ⟨order, row, ?_, ?_⟩
      · rw [List.filterMap_cons_some pushes, no_rows all]
      · rw [Runs.run_cons, step]
        exact StoreCall.run_marks_length all (MessageStore.push_summarised ..)

/-- An action leaves a focus that is on the list there exactly if it keeps it there. -/
theorem Session.act_focusInList (platform : Platform) {session : Session}
    (summarised : session.app.store.Summarised) (inList : session.app.FocusInList)
    (action : Action)
    : (session.act platform action).app.FocusInList ↔ KeepsFocus platform session action := by
  unfold KeepsFocus
  unfold App.FocusInList at inList ⊢
  rcases session.act_length platform summarised action with
    ⟨none, length⟩ | ⟨order, row, one, length⟩
  · rw [none, iff_true_right (by simp)]
    rcases length with resets | length
    · rw [act_app, Action.resets_focus platform session.app resets]
      exact Nat.zero_le _
    · have moves := action.outcome_focus platform session.app
      rw [← act_app] at moves
      unfold App.FocusInList at moves
      omega
  · have stays := Action.push_focus (one ▸ List.mem_singleton_self row)
    have positive := MessageStore.push_positive order row session.app.store
    obtain ⟨dropped, kept⟩ := summarised.push_length order row
    rw [act_app, stays, ← act_app, length, one]
    simp only [List.mem_singleton, forall_eq]
    by_cases drops : session.app.store.DropsConversation row.uuid
    · have shorter := dropped drops
      simp only [drops, true_implies]
      omega
    · have longer := kept drops
      simp only [drops, false_implies, iff_true]
      omega

/-- There is a conversation on the list after an action that does not keep the focus. -/
theorem Session.act_nonempty (platform : Platform) {session : Session}
    (summarised : session.app.store.Summarised) {action : Action}
    (moves : ¬KeepsFocus platform session action)
    : (session.act platform action).app.store.dialogues ≠ [] := by
  rcases session.act_length platform summarised action with ⟨none, -⟩ | ⟨order, row, -, length⟩
  · refine absurd (fun row pushed => ?_) moves
    rw [none] at pushed
    cases pushed
  · refine List.length_pos_iff.mp ?_
    rw [length]
    exact MessageStore.push_positive order row session.app.store

theorem App.Start.focusInList {app : App} (start : App.Start app) : app.FocusInList := by
  cases start <;> exact Nat.zero_le _

/-- Were Home shown, its keys would act on the marked row while the focus is on the list. -/
theorem App.onHome_focusAgrees (platform : Platform) {app : App}
    (nonempty : app.store.dialogues ≠ [])
    : app.onHome.FocusAgrees platform ↔ app.FocusInList := by
  have positive := List.length_pos_iff.mpr nonempty
  have shown : app.onHome.screen = .home := rfl
  refine (focusAgrees_iff platform shown nonempty).trans ?_
  unfold FocusInList onHome
  dsimp only
  omega

/-- The state of a session in which the focus is right. -/
structure Session.Focused (session : Session) : Prop where
  reachable : session.app.store.Reachable
  inList : session.app.FocusInList

namespace Session.Focused

variable {session : Session}

theorem act (focused : session.Focused) (platform : Platform) {action : Action}
    (keeps : KeepsFocus platform session action)
    : (session.act platform action).Focused :=
  ⟨store_reachable platform focused.reachable action,
    (act_focusInList platform focused.reachable.summarised focused.inList action).mpr keeps⟩

/-- An action after which the keys agree with the mark has kept the focus. -/
theorem keeps_of_agrees (focused : session.Focused) (platform : Platform) {action : Action}
    (agrees
      : (session.act platform action).app.store.dialogues ≠ []
        → (session.act platform action).app.onHome.FocusAgrees platform)
    : KeepsFocus platform session action := by
  have summarised := focused.reachable.summarised
  by_contra moves
  have nonempty := act_nonempty platform summarised moves
  have inList := (App.onHome_focusAgrees platform nonempty).mp (agrees nonempty)
  exact moves ((act_focusInList platform summarised focused.inList action).mp inList)

/-- The rows are pushed in time if the keys agree with the mark after every beginning of the
run, by induction on the actions.
-/
theorem guarded_of_agrees (focused : session.Focused) (platform : Platform)
    {actions : List Action}
    (agrees
      : ∀ done, done <+: actions
        → (Runs.run (Session.act platform) session done).app.store.dialogues ≠ []
        → (Runs.run (Session.act platform) session done).app.onHome.FocusAgrees platform)
    : Runs.Guarded (Session.act platform) (KeepsFocus platform) session actions := by
  induction actions generalizing session with
  | nil => trivial
  | cons action rest ih =>
      have first : [action] <+: action :: rest := ⟨rest, rfl⟩
      have keeps := focused.keeps_of_agrees platform (agrees [action] first)
      refine ⟨keeps, ih (focused.act platform keeps) fun done begins => ?_⟩
      exact agrees (action :: done) ((List.prefix_cons_inj action).mpr begins)

end Session.Focused

/-- In every session the keys of Home act on the row that is marked, if each row that takes a
conversation off the list is pushed while the focus is above the last row. Those are also
the only sessions in which the keys would do so at any time, were Home shown.
-/
theorem focus_agrees (platform : Platform) {app : App} (start : App.Start app)
    (actions : List Action)
    : (Runs.Guarded (Session.act platform) (KeepsFocus platform) (.start app) actions
        → ∀ done, done <+: actions
          → let reached := (Runs.run (Session.act platform) (.start app) done).app
            reached.screen = .home → reached.store.dialogues ≠ []
            → reached.FocusAgrees platform)
      ∧ (Runs.Guarded (Session.act platform) (KeepsFocus platform) (.start app) actions
        ↔ ∀ done, done <+: actions
          → let reached := (Runs.run (Session.act platform) (.start app) done).app
            reached.store.dialogues ≠ [] → reached.onHome.FocusAgrees platform) := by
  have focused : (Session.start app).Focused := ⟨start.reachable, start.focusInList⟩
  have agrees (guarded
      : Runs.Guarded (Session.act platform) (KeepsFocus platform) (.start app) actions)
      (done : List Action) (begins : done <+: actions)
      (nonempty : (Runs.run (Session.act platform) (.start app) done).app.store.dialogues ≠ [])
      : (Runs.run (Session.act platform) (.start app) done).app.onHome.FocusAgrees platform := by
    obtain ⟨rest, rfl⟩ := begins
    have reached := guarded.left.invariant
      (fun _ _ keeps focused => Session.Focused.act focused platform keeps) focused
    exact (App.onHome_focusAgrees platform nonempty).mpr reached.inList
  refine ⟨fun guarded done begins => ?_, agrees, focused.guarded_of_agrees platform⟩
  intro reached shown nonempty
  have same : reached.onHome = reached := by
    rw [App.onHome, ← shown]
  exact same ▸ agrees guarded done begins nonempty

-- Bob's conversation above Alice's, and the focus on the lower one.
section LowerRow

/-- The focus moves to Alice's conversation, and this many messages of Bob's come in. -/
def focusAlice (more : Nat) : List Action :=
  (twoConversations ++ [Input.typing 4 ['↓']]).flatMap Input.actions
    ++ (List.range more).map (fun i =>
      .event (.online 5) (.message bob.toString none none "more" (.ofNat (5 + i)) none))

/-- Witness: as long as Alice's message stays, Enter opens the row that is marked. -/
theorem focus_agrees_lower
    : (Runs.run (Session.act .twoContacts) (.start .initial) (focusAlice 3)).app.FocusAgrees
        .twoContacts :=
  (focus_agrees .twoContacts .plain (focusAlice 3)).1 (by decide +kernel) (focusAlice 3)
    (List.prefix_refl _) rfl (by decide +kernel)

/-- Counterexample: the fourth message takes Alice's conversation off the list; the mark is
now at Bob's and Enter opens nothing.
-/
theorem focus_past_list
    : let reached := (Runs.run (Session.act .twoContacts) (.start .initial) (focusAlice 4)).app
      reached.screen = .home
      ∧ reached.marked.map DialogueSummary.uuid = [bob]
      ∧ (reached.handleKey .twoContacts (.online 9) '∴').1.screen = .home
      ∧ ¬reached.FocusAgrees .twoContacts := by
  intro reached
  have marked : reached.marked.map DialogueSummary.uuid = [bob] := by decide +kernel
  have pressed : (reached.handleKey .twoContacts (.online 9) '∴').1.screen = .home := by
    decide +kernel
  refine ⟨rfl, marked, pressed, fun agrees => ?_⟩
  obtain ⟨d, -, opened⟩ := agrees.enter (.online 9) '∴' rfl
  rw [pressed] at opened
  cases opened

end LowerRow

end XousAppSignal.Ui
