import XousAppSignal.Program.EventPipe

/-! What the handlers of the UI send, and what a worker that only forwards sends back. One
command for a key or a focus change, none but `StartReceive` for an event; and nothing that comes
of a `StartReceive` makes the UI send anything.
-/

namespace XousAppSignal

open Store (RecordFormat)
open Ui (App Env)
open Worker

variable {ρ : Type}

-----------------------------------------------------------------------------------------
-- What the UI sends
-----------------------------------------------------------------------------------------

/-- The UI may start receiving when it handles the event. -/
def Worker.Event.startsReceive : Event → Bool
  | .linkComplete .. => true
  | .accountInfo (.ok _) => true
  | _ => false

theorem Worker.Event.startsReceive_fromTask {event : Event} (own : event.fromTask = true)
    : event.startsReceive = false := by
  cases event <;> first | rfl | cases own

theorem Ui.App.handleWorkerEvent_sends (ui : Ui.Platform) (env : Env) (event : Event) (app : App)
    : (app.handleWorkerEvent ui env event).2 = []
      ∨ event.startsReceive = true
        ∧ (app.handleWorkerEvent ui env event).2 = [.startReceive] := by
  have sends : env.send .startReceive = [] ∨ env.send .startReceive = [.startReceive] := by
    unfold Env.send
    split
    · exact .inr rfl
    · exact .inl rfl
  cases event with
  | linkComplete deviceName aci phone => exact sends.imp id fun sent => ⟨rfl, sent⟩
  | linkError reason =>
      unfold Ui.App.handleWorkerEvent
      dsimp only
      split <;> exact .inl rfl
  | accountInfo answer =>
      cases answer with
      | error reason => exact .inl rfl
      | ok info =>
          unfold Ui.App.handleWorkerEvent
          dsimp only
          split
          · exact sends.imp id fun sent => ⟨rfl, sent⟩
          · exact .inl rfl
  | _ => exact .inl rfl

theorem Ui.Env.send_one (env : Env) (cmd : Cmd) : (env.send cmd).length ≤ 1 := by
  unfold Env.send
  split <;> simp

/-- A key sends one command at most. -/
theorem Ui.App.handleKey_sendsOne (ui : Ui.Platform) (env : Env) (key : Char) (app : App)
    : (app.handleKey ui env key).2.length ≤ 1 := by
  have step := app.handleKey_step ui env key
  generalize app.handleKey ui env key = outcome at step ⊢
  cases step with
  | linkCancelled | loggingOut | syncing => exact env.send_one _
  | sent uuid =>
      unfold Ui.App.sendCompose
      split
      · simp
      · dsimp only
        split <;> simp
  | _ => simp

theorem Ui.App.handleFocusChange_sendsOne (env : Env) (foreground : Bool) (app : App)
    : (app.handleFocusChange env foreground).2.length ≤ 1 := by
  rcases app.handleFocusChange_step env foreground with idle | asked
  · simp [idle]
  · simp [asked]

namespace Program

variable {ui : Ui.Platform} {platform : Platform} {format : RecordFormat ρ}

/-- What a handler of the UI does to the program: one command at most, and for an event none but
`StartReceive`.
-/
inductive Reacted (program : Program ρ) : Handler → Program ρ → Prop where
  | user {handler : Handler} (user : handler.isEvent = false) (app : App) (cmds : List Cmd)
      (one : cmds.length ≤ 1)
      : Reacted program handler
          { program with
            app
            commands := program.commands ++ cmds
            accepted := program.accepted ++ cmds }
  | event (env : Env) (event : Event) (rest : List Event) (app : App) (cmds : List Cmd)
      (drained : program.events = event :: rest)
      (sends : cmds = [] ∨ event.startsReceive = true ∧ cmds = [.startReceive])
      : Reacted program (.handle env)
          { program with
            app
            commands := program.commands ++ cmds
            events := rest
            accepted := program.accepted ++ cmds }

theorem reacted_of_step {program after : Program ρ} {handler : Handler}
    (stepped : program.step ui platform format handler.turn = some after)
    : Reacted program handler after := by
  cases handler with
  | press stroke =>
      simp only [Handler.turn, Program.step] at stepped
      split at stepped
      · cases stepped
        have idle : Reacted program (.press stroke)
            { program with
              commands := program.commands ++ []
              accepted := program.accepted ++ [] } :=
          .user rfl program.app [] (Nat.zero_le _)
        simpa using idle
      · obtain ⟨-, rfl⟩ := react_some stepped
        exact .user rfl _ _ (Ui.App.handleKey_sendsOne ..)
  | focus env foreground =>
      obtain ⟨-, rfl⟩ := react_some stepped
      exact .user rfl _ _ (Ui.App.handleFocusChange_sendsOne ..)
  | handle env =>
      simp only [Handler.turn, Program.step] at stepped
      split at stepped
      · cases stepped
      · next event rest drained =>
          obtain ⟨-, rfl⟩ := react_some stepped
          exact .event env event rest _ _ drained (Ui.App.handleWorkerEvent_sends ..)

/-- A handler that has begun can only be waiting for room on the command channel. -/
theorem full_of_waiting {program : Program ρ} {handler : Handler}
    (begun : handler.Begins program)
    (waits : program.step ui platform format handler.turn = none)
    : chanCap ≤ program.commands.length := by
  have full {env : Env} {outcome : Ui.Outcome} {known : Program ρ}
      (isOk : env.channel.isOk = known.world.running) (one : outcome.2.length ≤ 1)
      (waits : known.react env outcome = none)
      : chanCap ≤ known.commands.length := by
    unfold react at waits
    split at waits
    · cases waits
    · next blocked =>
        by_contra room
        exact blocked ⟨isOk, by omega⟩
  obtain ⟨isOk, drained⟩ := begun
  cases handler with
  | press stroke =>
      simp only [Handler.turn, Program.step] at waits
      split at waits
      · cases waits
      · exact full isOk (Ui.App.handleKey_sendsOne ..) waits
  | focus env foreground => exact full isOk (Ui.App.handleFocusChange_sendsOne ..) waits
  | handle env =>
      simp only [Handler.turn, Program.step] at waits
      split at waits
      · next none =>
          rw [none] at drained
          cases drained
      · next event rest _ =>
          refine @full env _ { program with events := rest } isOk ?_ waits
          rcases program.app.handleWorkerEvent_sends ui env event with none | ⟨-, one⟩
          · simp [none]
          · simp [one]

end Program

-----------------------------------------------------------------------------------------
-- What comes of a StartReceive
-----------------------------------------------------------------------------------------

namespace Worker.World

variable {platform : Platform} {format : RecordFormat ρ}

/-- The dispatcher does no more than forward, and has nothing to send that starts anything. -/
structure Calm (world : World ρ) : Prop where
  control
    : world.dispatcher.control = .ready ∨ ∃ op, world.dispatcher.control = .forwarding op
  outbox : ∀ emit ∈ world.dispatcher.outbox, emit.event.startsReceive = false

theorem refused_starts (reason : String) (op : WorkerOp)
    : (op.refused reason).startsReceive = false := by
  cases op <;> rfl

/-- A dispatcher that only forwards ends its await with no more than a refusal. -/
theorem Calm.dispatched {world after : World ρ} {input : DispatcherInput} (calm : world.Calm)
    (awaited : input.await.isSome = true) (dispatched : Dispatched world input after)
    : after.Calm := by
  cases dispatched with
  | forwarded op after control taken forwarded =>
      rcases World.forward_cases forwarded with rfl | ⟨index, rfl⟩
      · refine ⟨.inl rfl, ?_⟩
        simp [World.reply, taken, refused_starts]
      · exact ⟨.inl rfl, calm.outbox⟩
  | closed | command | commandWhileLinking | commandWhileEnding => cases awaited
  | _ => rcases calm.control with ready | ⟨op, forwards⟩ <;> simp_all

/-- What a calm worker sends starts nothing. -/
theorem Calm.stepped {world after : World ρ} {input : WorldInput ρ} {sent : List Event}
    (calm : world.Calm) (serving : world.Serving) (awaited : input.await.isSome = true)
    (stepped : World.Stepped platform format world input after)
    (log : after.log = world.log ++ sent)
    : after.Calm ∧ ∀ event ∈ sent, event.startsReceive = false := by
  cases stepped with
  | dispatched dispatched =>
      have same : sent = [] := by simpa [dispatched.channel.log] using log
      refine ⟨calm.dispatched ?_ dispatched, by simp [same]⟩
      rwa [WorldInput.await, Option.isSome_map] at awaited
  | delivered first rest queued =>
      obtain rfl := List.append_cancel_left log
      obtain ⟨here, later⟩ := List.forall_mem_cons.mp (queued ▸ calm.outbox)
      exact ⟨⟨calm.control, later⟩, by simpa using here⟩
  | dropped _ _ _ closed | hungUp _ _ _ closed =>
      rw [serving.isOpen] at closed
      cases closed
  | advanced =>
      have same : sent = [] := by simpa using log
      exact ⟨⟨calm.control, calm.outbox⟩, by simp [same]⟩
  | managerDelivered index manager event task found taken =>
      obtain rfl := List.append_cancel_left log
      have speaks := serving.speaks manager (List.mem_of_getElem? found)
      refine ⟨⟨calm.control, calm.outbox⟩, fun event listed => ?_⟩
      have own := (Task.deliver_speaks taken speaks).1 event (by simpa using listed)
      exact Event.startsReceive_fromTask own
  | library | uiGone => cases awaited

/-- A worker at rest refuses or forwards the next `StartReceive`. -/
theorem AtRest.startsReceive {world : World ρ} (atRest : world.AtRest)
    (running : world.running = true)
    : (world.handleCmd .startReceive).Calm := by
  rcases atRest with ended | ⟨ready, taken, -⟩
  · rw [ended] at running
    cases running
  · have none : ∀ emit ∈ world.dispatcher.outbox, emit.event.startsReceive = false := by
      simp [taken]
    simp only [World.handleCmd, World.forwardOp]
    split
    · refine ⟨.inl rfl, ?_⟩
      simp [World.reply, taken, WorkerOp.refused, Event.startsReceive]
    · exact ⟨.inr ⟨_, rfl⟩, none⟩

end Worker.World

end XousAppSignal
