import XousAppSignal.Ui.KeySteps

/-! What one key, one event or one focus change does to the two things that Home leaves
behind when another screen is shown: the focused row, and a username lookup in progress.
-/

namespace XousAppSignal.Ui

open Worker

/-- The focus moves down no further, the lookup flag stays, and no lookup is asked for. -/
structure Steady (app : App) (outcome : Outcome) : Prop where
  focus : outcome.1.homeFocus ≤ app.homeFocus
  lookup : outcome.1.usernameLookupInProgress = app.usernameLookupInProgress
  cmds : ∀ cmd ∈ outcome.2, cmd.isResolveUsername = false

theorem Steady.silent {app next : App} (focus : next.homeFocus ≤ app.homeFocus)
    (lookup : next.usernameLookupInProgress = app.usernameLookupInProgress)
    : Steady app (next, []) :=
  ⟨focus, lookup, by simp⟩

theorem Steady.refl (app : App) : Steady app (app, []) := .silent (Nat.le_refl _) rfl

/-- A command that is no lookup, if the channel takes it. -/
theorem Steady.sending {app next : App} {env : Env} {cmd : Cmd}
    (other : cmd.isResolveUsername = false) (focus : next.homeFocus ≤ app.homeFocus)
    (lookup : next.usernameLookupInProgress = app.usernameLookupInProgress)
    : Steady app (next, env.send cmd) := by
  refine ⟨focus, lookup, fun sent member => ?_⟩
  rw [Env.mem_send member, other]

/-- What a key does: on Home it may move the focus down or start a lookup. -/
inductive HomeEffect (key : Char) (app : App) : Outcome → Prop where
  | steady {outcome : Outcome} : Steady app outcome → HomeEffect key app outcome
  | down
      : app.screen = .home → key = '↓' → app.homeFocus < app.store.dialogues.length - 1
        → HomeEffect key app ({ app with homeFocus := app.homeFocus + 1 }, [])
  | asked (raw : String)
      : app.screen = .home → app.usernameLookupInProgress = false
        → HomeEffect key app
            ({ app with
              usernameLookupInProgress := true
              usernameLookupPending := some raw }, [.resolveUsername raw])

namespace App

/-- Every key has one of the listed effects, by the things a key can do. -/
theorem handleKey_home (platform : Platform) (env : Env) (key : Char) (app : App)
    : HomeEffect key app (app.handleKey platform env key) := by
  have step := app.handleKey_step platform env key
  generalize app.handleKey platform env key = outcome at step ⊢
  cases step with
  | shown leads focus => exact .steady (.silent focus rfl)
  | focusDown shown down room => exact .down shown down room
  | lookingUp raw shown idle => exact .asked raw shown idle
  | linking | wiping | accountAsked =>
      exact .steady ⟨Nat.le_refl _, rfl, by simp [Cmd.isResolveUsername]⟩
  | linkCancelled | loggingOut | syncing =>
      exact .steady (.sending rfl (Nat.le_refl _) rfl)
  | sent uuid shown trigger typed =>
      obtain ⟨text, store, status, cmds, outcome, messages⟩ :=
        app.sendCompose_frame env uuid
      rw [outcome]
      refine .steady ⟨Nat.le_refl _, rfl, fun cmd member => ?_⟩
      rw [messages cmd member]
      rfl
  | notLinking | opened | newChat | edited => exact .steady (.silent (Nat.le_refl _) rfl)

theorem handleFocusChange_steady (env : Env) (foreground : Bool) (app : App)
    : Steady app (app.handleFocusChange env foreground) := by
  rcases app.handleFocusChange_step env foreground with idle | asked
  · rw [idle]
    exact .refl app
  · rw [asked]
    exact ⟨Nat.le_refl _, rfl, by simp [Cmd.isResolveUsername]⟩

/-- What an event does: a reset and an answer end a lookup in progress. -/
structure EventHome (app : App) (event : Event) (outcome : Outcome) : Prop where
  focus : outcome.1.homeFocus ≤ app.homeFocus
  lookup
    : outcome.1.usernameLookupInProgress
        = (app.usernameLookupInProgress && !(event.resets || event.isUsernameResolveResult))
  cmds : ∀ cmd ∈ outcome.2, cmd.isResolveUsername = false

theorem Steady.eventHome {app : App} {event : Event} {outcome : Outcome}
    (steady : Steady app outcome) (keeps : event.resets = false)
    (other : event.isUsernameResolveResult = false)
    : EventHome app event outcome :=
  ⟨steady.focus, by rw [steady.lookup, keeps, other]; simp, steady.cmds⟩

theorem resetToUnlinked_home {app : App} {event : Event} (resets : event.resets = true)
    (status : String)
    : EventHome app event ({ app.resetToUnlinked with lastStatus := status }, []) :=
  ⟨Nat.zero_le _, by simp [resetToUnlinked, resets], by simp⟩

theorem handleWorkerEvent_home (platform : Platform) (env : Env) (event : Event) (app : App)
    : EventHome app event (app.handleWorkerEvent platform env event) := by
  cases event with
  | loggedOut => exact resetToUnlinked_home rfl _
  | signalAuthExpired reason => exact resetToUnlinked_home rfl _
  | signalConflictingDevice reason => exact resetToUnlinked_home rfl _
  | linkComplete deviceName aci phone =>
      exact Steady.eventHome (.sending rfl (Nat.le_refl _) rfl) rfl rfl
  | linkError reason =>
      unfold handleWorkerEvent
      dsimp only
      split
      all_goals exact Steady.eventHome (.silent (Nat.le_refl _) rfl) rfl rfl
  | accountInfo answer =>
      cases answer with
      | error reason => exact Steady.eventHome (.silent (Nat.le_refl _) rfl) rfl rfl
      | ok info =>
          unfold handleWorkerEvent
          dsimp only
          split
          · exact Steady.eventHome (.sending rfl (Nat.zero_le _) rfl) rfl rfl
          · exact Steady.eventHome (.silent (Nat.le_refl _) rfl) rfl rfl
  | usernameResolveResult answer =>
      simp only [handleWorkerEvent, handleUsernameResolveResult]
      split
      · next idle =>
          rw [Bool.not_eq_true'] at idle
          exact ⟨Nat.le_refl _, by simp [idle], by simp⟩
      · split
        all_goals exact ⟨Nat.le_refl _, by simp [Event.isUsernameResolveResult], by simp⟩
  | _ => exact Steady.eventHome (.silent (Nat.le_refl _) rfl) rfl rfl

end App

end XousAppSignal.Ui
