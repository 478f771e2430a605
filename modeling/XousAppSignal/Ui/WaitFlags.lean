import XousAppSignal.Ui.KeySteps

/-! The two flags by which the UI remembers that it waits for the worker: a link in progress,
and a pending account query. What a key, a focus change or an event does to them, with the
commands it sends meanwhile.
-/

namespace XousAppSignal.Ui

open Worker

/-- The outcome leaves both flags alone and sends only routine commands. -/
structure Routine (app : App) (outcome : Outcome) : Prop where
  linking : outcome.1.linkingInProgress = app.linkingInProgress
  pending : outcome.1.accountQueryPending = app.accountQueryPending
  cmds : ∀ cmd ∈ outcome.2, cmd.isRoutine = true

theorem Routine.silent {app next : App}
    (linking : next.linkingInProgress = app.linkingInProgress)
    (pending : next.accountQueryPending = app.accountQueryPending)
    : Routine app (next, []) :=
  ⟨linking, pending, by simp⟩

theorem Env.send_routine {env : Env} {cmd : Cmd} (routine : cmd.isRoutine = true)
    : ∀ sent ∈ env.send cmd, sent.isRoutine = true := by
  intro sent member
  rw [Env.mem_send member, routine]

/-- What a key or a focus change does to the flags while the command channel is open. -/
inductive FlagEffect (app : App) : Outcome → Prop where
  | routine {outcome : Outcome} : Routine app outcome → FlagEffect app outcome
  | asked {next : App}
      : next.linkingInProgress = app.linkingInProgress → next.accountQueryPending = true
        → FlagEffect app (next, [.getAccountInfo])
  | started {next : App} (deviceName : String)
      : next.linkingInProgress = true
        → next.accountQueryPending = app.accountQueryPending
        → FlagEffect app (next, [.linkDevice deviceName])
  | cancelled {next : App}
      : app.screen = .linking → next.linkingInProgress = false
        → next.accountQueryPending = app.accountQueryPending
        → FlagEffect app (next, [.linkCancel])

/-- The UI never asks for a shutdown. -/
theorem FlagEffect.no_shutdown {app : App} {outcome : Outcome}
    (effect : FlagEffect app outcome)
    : ∀ cmd ∈ outcome.2, cmd ≠ .shutdown := by
  intro cmd sent
  cases effect with
  | routine routine => exact Cmd.isRoutine_ne_shutdown (routine.cmds cmd sent)
  | asked | started deviceName | cancelled =>
      rw [List.mem_singleton.mp sent]
      simp

namespace App

variable {env : Env}

/-- Every key has one of the listed effects on the flags, by the things a key can do. -/
theorem handleKey_flags (platform : Platform) (taken : env.channel = .ok ()) (key : Char)
    (app : App)
    : FlagEffect app (app.handleKey platform env key) := by
  have step := app.handleKey_step platform env key
  generalize app.handleKey platform env key = outcome at step ⊢
  cases step with
  | linking deviceName offers => exact .started deviceName rfl rfl
  | notLinking status reason offers closed =>
      rw [taken] at closed
      cases closed
  | linkCancelled shown =>
      have sent : env.send .linkCancel = [.linkCancel] := by simp [Env.send, taken]
      rw [sent]
      exact .cancelled shown rfl rfl
  | accountAsked shown => exact .asked rfl rfl
  | wiping | lookingUp => exact .routine ⟨rfl, rfl, by simp [Cmd.isRoutine]⟩
  | loggingOut | syncing => exact .routine ⟨rfl, rfl, Env.send_routine rfl⟩
  | sent uuid shown trigger typed =>
      obtain ⟨text, store, status, cmds, outcome, messages⟩ :=
        app.sendCompose_frame env uuid
      rw [outcome]
      refine .routine ⟨rfl, rfl, fun cmd member => ?_⟩
      rw [messages cmd member]
      rfl
  | shown | focusDown | opened | newChat | edited => exact .routine (.silent rfl rfl)

theorem handleFocusChange_flags (env : Env) (foreground : Bool) (app : App)
    : FlagEffect app (app.handleFocusChange env foreground) := by
  rcases app.handleFocusChange_step env foreground with idle | asked
  · rw [idle]
    exact .routine (.silent rfl rfl)
  · rw [asked]
    exact .asked rfl rfl

/-- The URL of the QR modal an event opens: `LinkUrl` counts only during a link. -/
def opensQrModal (app : App) : Event → Option String
  | .linkUrl url => if app.linkingInProgress then some url else none
  | _ => none

/-- What an event does to the flags: an outcome of a link and a reset end a link in progress,
an answer ends a pending query.
-/
structure EventFlags (app : App) (event : Event) (outcome : Outcome) : Prop where
  linking
    : outcome.1.linkingInProgress
        = (app.linkingInProgress && !(event.isLinkOutcome || event.resets))
  pending
    : outcome.1.accountQueryPending = (app.accountQueryPending && !event.isAccountInfo)
  cmds : ∀ cmd ∈ outcome.2, cmd.isRoutine = true

theorem handleWorkerEvent_flags (platform : Platform) (env : Env) (event : Event) (app : App)
    : EventFlags app event (app.handleWorkerEvent platform env event) := by
  cases event with
  | linkComplete deviceName aci phone =>
      exact ⟨by simp [handleWorkerEvent, Event.isLinkOutcome],
        by simp [handleWorkerEvent, Event.isAccountInfo], Env.send_routine rfl⟩
  | linkError reason =>
      unfold handleWorkerEvent
      dsimp only
      split
      · next ended =>
          rw [Bool.not_eq_true'] at ended
          exact ⟨by simp [ended], by simp [Event.isAccountInfo], by simp⟩
      · exact ⟨by simp [Event.isLinkOutcome], by simp [Event.isAccountInfo], by simp⟩
  | staleStoreDetected =>
      exact ⟨by simp [handleWorkerEvent, Event.isLinkOutcome],
        by simp [handleWorkerEvent, Event.isAccountInfo], by simp [handleWorkerEvent]⟩
  | accountInfo answer =>
      cases answer with
      | error reason =>
          exact ⟨by simp [handleWorkerEvent, Event.isLinkOutcome, Event.resets],
            by simp [handleWorkerEvent, Event.isAccountInfo], by simp [handleWorkerEvent]⟩
      | ok info =>
          unfold handleWorkerEvent
          dsimp only
          split
          · exact ⟨by simp [Event.isLinkOutcome, Event.resets],
              by simp [Event.isAccountInfo], Env.send_routine rfl⟩
          · exact ⟨by simp [Event.isLinkOutcome, Event.resets],
              by simp [Event.isAccountInfo], by simp⟩
  | usernameResolveResult answer =>
      simp only [handleWorkerEvent, handleUsernameResolveResult]
      repeat' split
      all_goals
        exact ⟨by simp [Event.isLinkOutcome, Event.resets], by simp [Event.isAccountInfo],
          by simp⟩
  | _ =>
      exact ⟨by simp [handleWorkerEvent, Event.isLinkOutcome, Event.resets, resetToUnlinked],
        by simp [handleWorkerEvent, Event.isAccountInfo, resetToUnlinked],
        by simp [handleWorkerEvent]⟩

end App

end XousAppSignal.Ui
