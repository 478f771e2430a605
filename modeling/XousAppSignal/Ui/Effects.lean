import XousAppSignal.Ui.KeySteps

/-! What one key or one event can do to the compose buffer, the message store and the open
conversation, and which commands it can send. Invariants of whole sessions are derived from
these case lists and never from the key and event arms themselves.
-/

namespace XousAppSignal.Ui

open Worker

/-- The outcome leaves the compose buffer and the rows' conversations alone, opens no
conversation and sends no message.
-/
structure Frame (app : App) (outcome : Outcome) : Prop where
  compose : outcome.1.composeBuffer = app.composeBuffer
  store : app.store.SameTags outcome.1.store
  screen : ∀ uuid, outcome.1.screen = .thread uuid → app.screen = .thread uuid
  cmds : ∀ cmd ∈ outcome.2, cmd.isSendMessage = false

/-- Changing only the screen, to one that is no thread, is a frame. -/
theorem Frame.leaving {app : App} {outcome : Outcome}
    (compose : outcome.1.composeBuffer = app.composeBuffer)
    (store : outcome.1.store = app.store)
    (screen : ∀ uuid, outcome.1.screen ≠ .thread uuid)
    (cmds : ∀ cmd ∈ outcome.2, cmd.isSendMessage = false)
    : Frame app outcome :=
  ⟨compose, store ▸ .refl app.store, fun uuid shown => absurd shown (screen uuid), cmds⟩

theorem Frame.refl (app : App) : Frame app (app, []) :=
  ⟨rfl, .refl app.store, fun _ shown => shown, by simp⟩

theorem Env.send_quiet {env : Env} {cmd : Cmd} (quiet : cmd.isSendMessage = false)
    : ∀ sent ∈ env.send cmd, sent.isSendMessage = false := by
  intro sent member
  rw [Env.mem_send member, quiet]

/-- The effects of a key. -/
inductive KeyEffect (env : Env) (key : Char) (app : App) : Outcome → Prop where
  | frame {outcome : Outcome} : Frame app outcome → KeyEffect env key app outcome
  | opened (d : DialogueSummary)
      : app.screen = .home → isEnter key = true
        → app.store.dialogues[app.homeFocus]? = some d
        → KeyEffect env key app
            ({ app with
              store := app.store.markThreadRead env.order d.uuid
              screen := .thread d.uuid }, [])
  | newChat (uuid : Uuid)
      : app.screen = .home
        → KeyEffect env key app ({ app with screen := .thread uuid, composeBuffer := "" }, [])
  | edited (uuid : Uuid) (text : String)
      : app.screen = .thread uuid → text.toList.Sublist (app.composeBuffer.toList ++ [key])
        → KeyEffect env key app ({ app with composeBuffer := text }, [])
  | sent (uuid : Uuid)
      : app.screen = .thread uuid → (isEnter key = true ∨ key = keyF1)
        → app.composeBuffer ≠ "" → KeyEffect env key app (app.sendCompose env uuid)

namespace App

/-- Every key has one of the listed effects, by the things a key can do. -/
theorem handleKey_effect (platform : Platform) (env : Env) (key : Char) (app : App)
    : KeyEffect env key app (app.handleKey platform env key) := by
  have step := app.handleKey_step platform env key
  generalize app.handleKey platform env key = outcome at step ⊢
  cases step with
  | shown leads focus =>
      have stays (uuid : Uuid) (thread : _ = Screen.thread uuid)
          : app.screen = .thread uuid :=
        (leads.stays_of (.inr (.inr ⟨uuid, thread⟩))).trans thread
      exact .frame ⟨rfl, .refl _, stays, by simp⟩
  | linking deviceName offers =>
      exact .frame (.leaving rfl rfl (by simp) (by simp [Cmd.isSendMessage]))
  | notLinking status reason offers closed =>
      exact .frame (.leaving rfl rfl (by simp) (by simp))
  | linkCancelled shown => exact .frame (.leaving rfl rfl (by simp) (Env.send_quiet rfl))
  | wiping shown => exact .frame (.leaving rfl rfl (by simp) (by simp [Cmd.isSendMessage]))
  | accountAsked shown =>
      exact .frame (.leaving rfl rfl (by simp) (by simp [Cmd.isSendMessage]))
  | loggingOut shown | syncing shown =>
      exact .frame ⟨rfl, .refl _, fun _ shown => shown, Env.send_quiet rfl⟩
  | focusDown shown down room =>
      exact .frame ⟨rfl, .refl _, fun _ shown => shown, by simp⟩
  | lookingUp raw shown idle =>
      exact .frame ⟨rfl, .refl _, fun _ shown => shown, by simp [Cmd.isSendMessage]⟩
  | opened d shown enter focused => exact .opened d shown enter focused
  | newChat uuid shown => exact .newChat uuid shown
  | edited uuid text shown sublist => exact .edited uuid text shown sublist
  | sent uuid shown trigger typed =>
      exact .sent uuid shown (trigger.imp_right And.left) typed

end App

/-- The effects of a worker event. -/
inductive EventEffect (platform : Platform) (env : Env) (app : App)
    : Event → Outcome → Prop where
  | frame {event : Event} {outcome : Outcome}
      : Frame app outcome → event.resets = false → event.isMessage = false
        → EventEffect platform env app event outcome
  | filed (sender : String) (senderPhone senderName : Option String) (body : String)
      (timestamp : UInt64) (groupMasterKey : Option (List UInt8)) (authorLabel : String)
      : EventEffect platform env app
          (.message sender senderPhone senderName body timestamp groupMasterKey)
          ({ app with
            store :=
              app.store.pushIncoming env.order
                (App.messageThread platform sender groupMasterKey).1 authorLabel body
                timestamp (App.messageThread platform sender groupMasterKey).2 }, [])
  | reset {event : Event} (status : String)
      : event.resets = true
        → EventEffect platform env app event
            ({ app.resetToUnlinked with lastStatus := status }, [])
  | resolved (uuid : Uuid) {outcome : App}
      : app.usernameLookupInProgress = true
        → outcome.composeBuffer = app.composeBuffer
        → app.store.SameTags outcome.store
        → outcome.screen = .thread uuid
        → EventEffect platform env app (.usernameResolveResult (.ok (some uuid)))
            (outcome, [])

namespace App

theorem handleUsernameResolveResult_effect (platform : Platform) (env : Env)
    (answer : Except String (Option Uuid)) (app : App)
    : EventEffect platform env app (.usernameResolveResult answer)
        (app.handleUsernameResolveResult env answer, []) := by
  unfold handleUsernameResolveResult
  split
  · exact .frame (.refl app) rfl rfl
  · next waiting =>
      rw [Bool.not_eq_true, Bool.not_eq_false'] at waiting
      split
      · refine .resolved _ waiting rfl ?_ rfl
        dsimp only
        split
        · exact MessageStore.resolveAuthorLabels_sameTags ..
        · exact .refl _
      · exact .frame ⟨rfl, .refl _, fun _ shown => shown, by simp⟩ rfl rfl
      · exact .frame ⟨rfl, .refl _, fun _ shown => shown, by simp⟩ rfl rfl

/-- A registered account on an unlinked UI lands on Home; otherwise only fields change. -/
theorem accountInfo_frame (platform : Platform) (env : Env) (info : AccountInfoData)
    (app : App)
    : Frame app (app.handleWorkerEvent platform env (.accountInfo (.ok info))) := by
  unfold handleWorkerEvent
  dsimp only
  split
  · exact .leaving rfl rfl (by simp) (Env.send_quiet rfl)
  · exact ⟨rfl, .refl _, fun _ shown => shown, by simp⟩

/-- Every worker event has one of the listed effects. -/
theorem handleWorkerEvent_effect (platform : Platform) (env : Env) (event : Event) (app : App)
    : EventEffect platform env app event (app.handleWorkerEvent platform env event) := by
  cases event with
  | message sender senderPhone senderName body timestamp groupMasterKey =>
      exact .filed sender senderPhone senderName body timestamp groupMasterKey _
  | usernameResolveResult answer =>
      exact handleUsernameResolveResult_effect platform env answer app
  | loggedOut => exact .reset _ rfl
  | signalAuthExpired reason => exact .reset _ rfl
  | signalConflictingDevice reason => exact .reset _ rfl
  | linkComplete deviceName aci phone =>
      exact .frame (.leaving rfl rfl (by simp [handleWorkerEvent]) (Env.send_quiet rfl)) rfl rfl
  | linkError reason =>
      unfold handleWorkerEvent
      dsimp only
      split
      · exact .frame (.refl app) rfl rfl
      · exact .frame (.leaving rfl rfl (by simp) (by simp)) rfl rfl
  | staleStoreDetected =>
      exact .frame (.leaving rfl rfl (by simp [handleWorkerEvent])
        (by simp [handleWorkerEvent])) rfl rfl
  | sendComplete timestamp =>
      exact .frame ⟨rfl, MessageStore.setOutgoingStatus_sameTags .., fun _ shown => shown,
        by simp [handleWorkerEvent]⟩ rfl rfl
  | sendError reason timestamp =>
      refine .frame ⟨rfl, ?_, fun _ shown => shown, by simp [handleWorkerEvent]⟩ rfl rfl
      cases timestamp with
      | none => exact .refl _
      | some ts => exact MessageStore.setOutgoingStatus_sameTags ..
  | contactResolved aciUuid name =>
      exact .frame ⟨rfl, MessageStore.resolveAuthorLabels_sameTags .., fun _ shown => shown,
        by simp [handleWorkerEvent]⟩ rfl rfl
  | accountInfo answer =>
      cases answer with
      | ok info => exact .frame (accountInfo_frame platform env info app) rfl rfl
      | error reason =>
          exact .frame ⟨rfl, .refl _, fun _ shown => shown, by simp [handleWorkerEvent]⟩ rfl rfl
  | _ =>
      -- The remaining events touch at most the status line.
      exact .frame ⟨rfl, .refl _, fun _ shown => shown, by simp [handleWorkerEvent]⟩ rfl rfl

theorem handleFocusChange_frame (env : Env) (foreground : Bool) (app : App)
    : Frame app (app.handleFocusChange env foreground) := by
  rcases app.handleFocusChange_step env foreground with idle | asked
  · rw [idle]
    exact .refl app
  · rw [asked]
    exact ⟨rfl, .refl _, fun _ shown => shown, by simp [Cmd.isSendMessage]⟩

end App

end XousAppSignal.Ui
