import XousAppSignal.Ui.WaitFlags
import XousAppSignal.Worker.LinkShape

/-! The whole program: the UI thread and the worker, joined by the command channel and by the
event channel with its forwarder. Either side moves whenever it can, so a run is any
interleaving of key presses, focus changes, handled events, received commands and turns of
the worker.
-/

namespace XousAppSignal

open Store (InnerBackend RecordFormat)
open Ui (App Env KeyPress Outcome)
open Worker

variable {ρ : Type}

/-- Capacity of the command channel. -/
def chanCap : Nat := 16

/-- Both sides with what is on its way between them; `accepted` remembers every command the
channel took. The events on their way are one queue of any length, so nothing keeps the worker
from sending one.
-/
structure Program (ρ : Type) where
  app : App
  world : World ρ
  commands : List Cmd := []
  events : List Event := []
  accepted : List Cmd := []

/-- Whose turn is next. -/
inductive Turn (ρ : Type) : Type 1 where
  | press (stroke : KeyPress)
  | focus (env : Env) (foreground : Bool)
  | handle (env : Env)
  | receive
  | worker (input : WorldInput ρ)

/-- The turns the worker takes by itself. Commands come through the channel only, and the UI
holds its ends of both channels for as long as it runs.
-/
def Worker.WorldInput.isInternal : WorldInput ρ → Bool
  | .dispatcher (.cmd _) => false
  | .dispatcher .cmdClosed => false
  | .uiGone => false
  | _ => true

theorem Worker.WorldInput.keepsServing_of_internal {input : WorldInput ρ}
    (internal : input.isInternal = true)
    : input.keepsServing = true := by
  unfold isInternal at internal
  unfold keepsServing
  split at internal <;> simp_all

/-- The turn is a key press or a focus change. -/
def Turn.isUser : Turn ρ → Bool
  | .press _ => true
  | .focus _ _ => true
  | _ => false

namespace Program

/-- The UI has reacted. `send_blocking` waits for room on the channel, and fails only when
the worker is gone.
-/
def react (env : Env) (outcome : Outcome) (program : Program ρ) : Option (Program ρ) :=
  if env.channel.isOk = program.world.running
      ∧ program.commands.length + outcome.2.length ≤ chanCap then
    some
      { program with
        app := outcome.1
        commands := program.commands ++ outcome.2
        accepted := program.accepted ++ outcome.2 }
  else none

/-- The worker has moved; what it sent is on its way to the UI. -/
def moved (world : World ρ) (program : Program ρ) : Program ρ :=
  { program with
    world
    events := program.events ++ world.log.drop program.world.log.length }

def step (ui : Ui.Platform) (platform : Platform) (format : RecordFormat ρ)
    (program : Program ρ)
    : Turn ρ → Option (Program ρ)
  | .press stroke =>
      if stroke.key = '\x00' then some program
      else program.react stroke.env (program.app.handleKey ui stroke.env stroke.key)
  | .focus env foreground => program.react env (program.app.handleFocusChange env foreground)
  | .handle env =>
      match program.events with
      | [] => none
      | event :: rest =>
          react env (program.app.handleWorkerEvent ui env event) { program with events := rest }
  | .receive =>
      match program.commands with
      | [] => none
      | cmd :: rest =>
          (program.world.step platform format (.dispatcher (.cmd cmd))).map (fun world =>
            moved world { program with commands := rest })
  | .worker input =>
      if input.isInternal then
        (program.world.step platform format input).map (fun world => program.moved world)
      else none

/-- What the UI makes of a key press or a focus change; filler keys are skipped. -/
def userOutcome (ui : Ui.Platform) (program : Program ρ) : Turn ρ → Outcome
  | .press stroke =>
      if stroke.key = '\x00' then (program.app, [])
      else program.app.handleKey ui stroke.env stroke.key
  | .focus env foreground => program.app.handleFocusChange env foreground
  | _ => (program.app, [])

/-- The program right after `main` started the worker on its store. -/
def start (app : App) (inner : InnerBackend) : Program ρ where
  app := app
  world := .start inner

-----------------------------------------------------------------------------------------
-- What one turn can do
-----------------------------------------------------------------------------------------

/-- The worker serves the UI, and only commands a UI sends are on their way to it. -/
structure Joined (program : Program ρ) : Prop where
  serving : program.world.Serving
  commands : ∀ cmd ∈ program.commands, cmd ≠ .shutdown

/-- A turn of a joined program by what it does: to the flags of the UI, to the two channels,
and in the worker.
-/
inductive Turned (ui : Ui.Platform) (platform : Platform) (format : RecordFormat ρ)
    (program : Program ρ)
    : Turn ρ → Program ρ → Prop where
  | acted {turn : Turn ρ} (user : turn.isUser = true) (outcome : Outcome)
      (reacts : program.userOutcome ui turn = outcome)
      (effect : Ui.FlagEffect program.app outcome)
      : Turned ui platform format program turn
          { program with
            app := outcome.1
            commands := program.commands ++ outcome.2
            accepted := program.accepted ++ outcome.2 }
  | handled (env : Env) (event : Event) (rest : List Event) (outcome : Outcome)
      (queued : program.events = event :: rest)
      (flags : Ui.App.EventFlags program.app event outcome)
      : Turned ui platform format program (.handle env)
          { program with
            app := outcome.1
            commands := program.commands ++ outcome.2
            events := rest
            accepted := program.accepted ++ outcome.2 }
  | received (cmd : Cmd) (rest : List Cmd) (world : World ρ)
      (queued : program.commands = cmd :: rest)
      (dispatched : World.Dispatched program.world (.cmd cmd) world)
      : Turned ui platform format program .receive { program with world, commands := rest }
  | worked (input : WorldInput ρ) (world : World ρ) (sent : List Event)
      (internal : input.isInternal = true)
      (stepped : World.Stepped platform format program.world input world)
      (log : world.log = program.world.log ++ sent)
      : Turned ui platform format program (.worker input)
          { program with world, events := program.events ++ sent }

variable {ui : Ui.Platform} {platform : Platform} {format : RecordFormat ρ}

theorem react_some {env : Env} {outcome : Outcome} {program after : Program ρ}
    (reacted : program.react env outcome = some after)
    : env.channel.isOk = program.world.running
      ∧ after
        = { program with
            app := outcome.1
            commands := program.commands ++ outcome.2
            accepted := program.accepted ++ outcome.2 } := by
  unfold react at reacted
  split at reacted
  · next enabled =>
      cases reacted
      exact ⟨enabled.1, rfl⟩
  · cases reacted

theorem channel_ok {env : Env} (isOk : env.channel.isOk = true) : env.channel = .ok () := by
  cases channel : env.channel with
  | ok => rfl
  | error reason =>
      rw [channel] at isOk
      cases isOk

/-- Every turn of a joined program is one of the listed ones. -/
theorem step_cases {program after : Program ρ} {turn : Turn ρ} (joined : Joined program)
    (stepped : program.step ui platform format turn = some after)
    : Turned ui platform format program turn after := by
  have running := joined.serving.running
  cases turn with
  | press stroke =>
      simp only [step] at stepped
      split at stepped
      · next filler =>
          cases stepped
          have idle : Turned ui platform format program (.press stroke)
              { program with
                commands := program.commands ++ []
                accepted := program.accepted ++ [] } :=
            .acted rfl (program.app, []) (by simp [userOutcome, filler])
              (.routine (.silent rfl rfl))
          simpa using idle
      · next typed =>
          obtain ⟨isOk, rfl⟩ := react_some stepped
          refine .acted rfl _ (by simp [userOutcome, typed]) ?_
          exact Ui.App.handleKey_flags ui (channel_ok (isOk.trans running)) _ _
  | focus env foreground =>
      obtain ⟨isOk, rfl⟩ := react_some stepped
      refine .acted rfl _ rfl ?_
      exact Ui.App.handleFocusChange_flags _ _ _
  | handle env =>
      simp only [step] at stepped
      split at stepped
      · cases stepped
      · next event rest queued =>
          obtain ⟨-, rfl⟩ := react_some stepped
          exact .handled env event rest _ queued (Ui.App.handleWorkerEvent_flags ui env event _)
  | receive =>
      simp only [step] at stepped
      split at stepped
      · cases stepped
      · next cmd rest queued =>
          obtain ⟨world, moves, rfl⟩ := Option.map_eq_some_iff.mp stepped
          obtain ⟨dispatched⟩ := World.step_cases moves
          have received : Turned ui platform format program .receive
              { program with world, commands := rest } :=
            .received cmd rest world queued dispatched
          simpa [moved, dispatched.channel.log] using received
  | worker input =>
      simp only [step] at stepped
      split at stepped
      · next internal =>
          obtain ⟨world, moves, rfl⟩ := Option.map_eq_some_iff.mp stepped
          have moves := World.step_cases moves
          obtain ⟨sent, log⟩ := moves.log
          have worked : Turned ui platform format program (.worker input)
              { program with world, events := program.events ++ sent } :=
            .worked input world sent internal moves log
          simpa [moved, log] using worked
      · cases stepped

theorem joined_start {app : App} (inner : InnerBackend)
    : Joined (start app inner : Program ρ) where
  serving := ⟨rfl, rfl, .free rfl, by simp [start, World.start]⟩
  commands := by simp [start]

/-- A joined program stays joined. -/
theorem Joined.step {program after : Program ρ} {turn : Turn ρ}
    (turned : Turned ui platform format program turn after) (joined : Joined program)
    : Joined after := by
  obtain ⟨serving, commands⟩ := joined
  cases turned with
  | acted user outcome reacts effect =>
      refine ⟨serving, fun cmd listed => ?_⟩
      rcases List.mem_append.mp listed with earlier | new
      · exact commands cmd earlier
      · exact effect.no_shutdown cmd new
  | handled env event rest outcome queued flags =>
      refine ⟨serving, fun cmd listed => ?_⟩
      rcases List.mem_append.mp listed with earlier | new
      · exact commands cmd earlier
      · exact Cmd.isRoutine_ne_shutdown (flags.cmds cmd new)
  | received cmd rest world queued dispatched =>
      have keeps := @WorldInput.keepsServing_cmd ρ cmd (commands cmd (by simp [queued]))
      have stepped : World.Stepped platform format program.world (.dispatcher (.cmd cmd)) world :=
        .dispatched dispatched
      refine ⟨serving.step keeps stepped, fun other listed => ?_⟩
      exact commands other (by rw [queued]; exact List.mem_cons_of_mem cmd listed)
  | worked input world sent internal stepped =>
      exact ⟨serving.step (WorldInput.keepsServing_of_internal internal) stepped, commands⟩

end Program

/-- A device without radio and UUID texts, for runs on fixed inputs. -/
def Ui.Platform.bare : Ui.Platform where
  isAlphanumeric := Char.isAlphanum
  parseUuid := fun _ => none
  newV5 := fun key => ⟨key.length⟩

/-- The device-name modal is left empty, and everything else works. -/
def Ui.Env.unnamed : Env where
  bypassPreflight := false
  wlan := none
  modals := .ok ()
  answer := .ok ""
  defaultName := "xas"
  now := 0
  channel := .ok ()
  order := .insertion
  orderAfter := .insertion

end XousAppSignal
