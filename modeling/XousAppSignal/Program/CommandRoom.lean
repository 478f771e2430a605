import XousAppSignal.Library.Leads
import XousAppSignal.Program.EventPipe

/-! The worker takes every command that is queued, also while the UI stands still: it waits for
room on the event channel, the forwarder makes room there, and the forwarder waits only for the
kernel to queue its message at the UI's server.
-/

namespace XousAppSignal

open Runs (Leads CanEnd)
open Store (InnerBackend RecordFormat)
open Ui (App)
open Worker

variable {ρ : Type}

/-- What is waited for while the UI stands still. -/
inductive PipeAwait where
  | forward
  | poke
  | receive
  | worker (await : WorldAwait)

def PipedTurn.pipeAwait : PipedTurn ρ → Option PipeAwait
  | .forward => some .forward
  | .poke => some .poke
  | .receive => some .receive
  | .worker input => input.await.map .worker
  | _ => none

theorem PipedTurn.only_forward (turn : PipedTurn ρ) (answers : turn.pipeAwait = some .forward)
    : turn = .forward := by
  cases turn <;> simp_all [pipeAwait]

theorem PipedTurn.only_poke (turn : PipedTurn ρ) (answers : turn.pipeAwait = some .poke)
    : turn = .poke := by
  cases turn <;> simp_all [pipeAwait]

theorem PipedTurn.only_receive (turn : PipedTurn ρ) (answers : turn.pipeAwait = some .receive)
    : turn = .receive := by
  cases turn <;> simp_all [pipeAwait]

theorem Worker.WorldInput.internal_of_await {input : WorldInput ρ} {await : WorldAwait}
    (answers : input.await = some await)
    : input.isInternal = true := by
  cases input with
  | dispatcher input => cases input <;> first | rfl | cases answers
  | uiGone => cases answers
  | _ => rfl

/-- The worker sends one event at a time. -/
theorem Worker.World.Stepped.sends_one {platform : Platform} {format : RecordFormat ρ}
    {world after : World ρ} {input : WorldInput ρ}
    (stepped : World.Stepped platform format world input after)
    : ∃ sent, after.log = world.log ++ sent ∧ sent.length ≤ 1 := by
  cases stepped with
  | dispatched dispatched => exact ⟨[], by simp [dispatched.channel.log], Nat.zero_le _⟩
  | delivered first rest => exact ⟨[first.event], rfl, Nat.le_refl _⟩
  | managerDelivered index manager event task =>
      exact ⟨event.toList, rfl, by cases event <;> simp⟩
  | _ => exact ⟨[], (List.append_nil _).symm, Nat.zero_le _⟩

/-- The command channel is empty, and the worker waits for the next command. -/
def Program.Drained (program : Program ρ) : Prop :=
  program.world.running = true ∧ program.commands = [] ∧ program.world.AtRest

namespace Piped

variable {takes : Nat → Bool} {ui : Ui.Platform} {platform : Platform} {format : RecordFormat ρ}

-----------------------------------------------------------------------------------------
-- Turns of the worker
-----------------------------------------------------------------------------------------

/-- The event channel has room for an event. -/
def HasRoom (piped : Piped ρ) : Prop := piped.channel.length < chanCap

/-- The program after a turn of the worker by itself. -/
theorem worker_some {piped after : Piped ρ} {input : WorldInput ρ}
    (stepped : piped.step takes ui platform format (.worker input) = some after)
    : ∃ world sent,
      piped.program.world.step platform format input = some world
      ∧ world.log = piped.program.world.log ++ sent
      ∧ after
        = { piped with
            program := { piped.program with world }
            channel := piped.channel ++ sent } := by
  obtain ⟨program, moved, kept⟩ := Option.bind_eq_some_iff.mp stepped
  simp only [Program.step] at moved
  split at moved
  · obtain ⟨world, moves, rfl⟩ := Option.map_eq_some_iff.mp moved
    obtain ⟨sent, log⟩ := (World.step_cases moves).log
    split at kept
    · cases kept
      exact ⟨world, sent, moves, log, by simp [Program.moved, log]⟩
    · cases kept
  · cases moved

/-- With room on the event channel the worker goes on as by itself. -/
theorem canEnd_worker {piped : Piped ρ} {await : WorldAwait} (room : piped.HasRoom)
    (ends : CanEnd (World.step platform format) WorldInput.await piped.program.world await)
    : CanEnd (Piped.step takes ui platform format) PipedTurn.pipeAwait piped (.worker await) := by
  obtain ⟨input, world, answers, moves⟩ := ends
  obtain ⟨sent, log, one⟩ := (World.step_cases moves).sends_one
  have answers' : (PipedTurn.worker input).pipeAwait = some (.worker await) := by
    rw [PipedTurn.pipeAwait, answers, Option.map_some]
  refine Runs.canEnd_of_isSome answers' ?_
  have fits : (piped.channel ++ sent).length ≤ chanCap := by
    rw [List.length_append]
    exact (Nat.add_le_add_left one _).trans room
  simp only [Piped.step, worked, Program.step, WorldInput.internal_of_await answers, if_true, moves,
    Option.map_some, Option.bind_some, Program.moved, log, List.drop_left, fits, Option.isSome_some]

/-- An await of the worker ends as by itself. -/
theorem follows_worker {piped after : Piped ρ} {turn : PipedTurn ρ} {await : WorldAwait}
    (answers : turn.pipeAwait = some (.worker await))
    (stepped : piped.step takes ui platform format turn = some after)
    : ∃ input, turn = .worker input ∧ input.await = some await
      ∧ piped.program.world.step platform format input = some after.program.world := by
  cases turn with
  | worker input =>
      obtain ⟨other, same, wraps⟩ := Option.map_eq_some_iff.mp answers
      cases wraps
      obtain ⟨world, sent, moves, -, rfl⟩ := worker_some stepped
      exact ⟨input, rfl, same, moves⟩
  | _ => cases answers

/-- A worker at rest takes the next command. -/
theorem step_receive {piped : Piped ρ} {cmd : Cmd} {rest : List Cmd} (sound : piped.Sound)
    (queued : piped.program.commands = cmd :: rest) (atRest : piped.program.world.AtRest)
    : piped.step takes ui platform format .receive
      = some
          { piped with
            program :=
              { piped.program with
                world := piped.program.world.handleCmd cmd
                commands := rest } } := by
  have running := sound.program.joined.serving.running
  rcases atRest with ended | ⟨ready, taken, -⟩
  · rw [ended] at running
    cases running
  · have moves : piped.program.world.step platform format (.dispatcher (.cmd cmd))
        = some (piped.program.world.handleCmd cmd) := by
      simp only [World.step, running, World.dispatch, ready, taken]
      rfl
    obtain ⟨dispatched⟩ := World.step_cases moves
    simp only [Piped.step, worked, Program.step, queued, moves, Option.map_some, Option.bind_some,
      Program.moved, dispatched.channel.log, List.drop_length, List.append_nil, sound.bounded,
      if_true]

-----------------------------------------------------------------------------------------
-- Turns of the forwarder
-----------------------------------------------------------------------------------------

/-- A key or a focus change whose handler the UI is in. -/
def entered (piped : Piped ρ) : Bool := piped.busy.any (fun handler => !handler.isEvent)

/-- What the UI still has to do about its messages. -/
def inboxWork (inbox : List XasOp) : Nat := (inbox.map (fun op => 1 + 2 * op.strokes.length)).sum

/-- What the forwarder and the UI still have to do about all that is on its way to the UI. -/
def work (piped : Piped ρ) : Nat :=
  4 * piped.channel.length + piped.pendingEvents.length + 2 * piped.poking.toNat
    + inboxWork piped.inbox + 2 * piped.strokes.length + piped.program.events.length
    + piped.entered.toNat

/-- Only the forwarder has moved. -/
structure Forwarded (before after : Piped ρ) : Prop where
  sound : after.Sound
  program : after.program = before.program
  busy : after.busy = before.busy
  strokes : after.strokes = before.strokes
  events : after.pendingEvents ++ after.channel = before.pendingEvents ++ before.channel
  inbox : after.inbox.flatMap XasOp.strokes = before.inbox.flatMap XasOp.strokes
  work : after.work < before.work

/-- The forwarder waits for the next event, or for its message to be queued. -/
def ForwarderWaits (takes : Nat → Bool) (piped : Piped ρ) : Prop :=
  piped.poking = false ∧ piped.channel = [] ∨ piped.poking = true ∧ takes piped.inbox.length = false

/-- Where the forwarder does not wait, it moves. -/
theorem Sound.forwards {piped : Piped ρ} (sound : piped.Sound)
    : piped.ForwarderWaits takes
      ∨ Leads (Piped.step takes ui platform format) PipedTurn.pipeAwait (Forwarded piped)
          piped := by
  cases poking : piped.poking with
  | false =>
      cases queued : piped.channel with
      | nil => exact .inl (.inl ⟨poking, queued⟩)
      | cons event rest =>
          right
          have stepped : piped.step takes ui platform format .forward
              = some
                  { piped with
                    channel := rest
                    pendingEvents := piped.pendingEvents ++ [event]
                    poking := true } := by
            simp only [Piped.step, poking, queued]
          refine .only rfl PipedTurn.only_forward stepped (.there ?_)
          refine ⟨sound.step stepped, rfl, rfl, rfl, by simp [queued], rfl, ?_⟩
          simp only [Piped.work, entered, poking, queued, List.length_append, List.length_cons,
            List.length_nil, Bool.toNat_true, Bool.toNat_false]
          omega
  | true =>
      cases taken : takes piped.inbox.length with
      | false => exact .inl (.inr ⟨poking, taken⟩)
      | true =>
          right
          have stepped : piped.step takes ui platform format .poke
              = some { piped with poking := false, inbox := piped.inbox ++ [.workerEvent] } := by
            simp only [Piped.step, poking, taken, and_self, if_true]
          refine .only rfl PipedTurn.only_poke stepped (.there ?_)
          refine ⟨sound.step stepped, rfl, rfl, rfl, rfl, by simp [XasOp.strokes], ?_⟩
          simp only [Piped.work, inboxWork, entered, poking, List.map_append, List.sum_append,
            List.map_cons, List.map_nil, List.sum_cons, List.sum_nil, XasOp.strokes,
            List.length_nil, Bool.toNat_true, Bool.toNat_false]
          omega

-----------------------------------------------------------------------------------------
-- The commands
-----------------------------------------------------------------------------------------

/-- The event channel is full, and the message of the forwarder is not queued. -/
structure Stalled (takes : Nat → Bool) (piped : Piped ρ) : Prop where
  full : chanCap ≤ piped.channel.length
  poking : piped.poking = true
  refused : takes piped.inbox.length = false

/-- The forwarder makes room on the event channel, by induction on its work. -/
theorem Sound.room {piped : Piped ρ} (sound : piped.Sound)
    : Leads (Piped.step takes ui platform format) PipedTurn.pipeAwait
        (fun after => (after.Sound ∧ after.program = piped.program) ∧ after.HasRoom
          ∨ after.Stalled takes)
        piped := by
  induction size : piped.work using Nat.strong_induction_on generalizing piped with
  | _ size ih =>
      by_cases room : piped.HasRoom
      · exact .there (.inl ⟨⟨sound, rfl⟩, room⟩)
      rcases @sound.forwards ρ takes ui platform format with waits | forwards
      · rcases waits with ⟨-, none⟩ | ⟨poking, refused⟩
        · rw [HasRoom, none] at room
          exact absurd (by decide) room
        · exact .there (.inr ⟨Nat.le_of_not_lt room, poking, refused⟩)
      · refine forwards.andThen fun after forwarded => ?_
        rw [← forwarded.program]
        exact ih _ (size ▸ forwarded.work) forwarded.sound rfl

/-- The worker as part of the program, with what is kept beside it. -/
structure Beside (Inv : Piped ρ → Prop) (world : World ρ) (piped : Piped ρ) : Prop where
  world : piped.program.world = world
  sound : piped.Sound
  kept : Inv piped

/-- The worker comes to rest, if before each of its turns something makes room on the event
channel; `Inv` is what all of this keeps.
-/
theorem Sound.rests_of {α : Type} {awaits : PipedTurn ρ → Option α} {Inv Stuck : Piped ρ → Prop}
    (wait : WorldAwait → α)
    (same
      : ∀ turn await, awaits turn = some (wait await) ↔ turn.pipeAwait = some (.worker await))
    (prepare
      : ∀ piped, piped.Sound → Inv piped
          → Leads (Piped.step takes ui platform format) awaits
            (fun after => Beside Inv piped.program.world after ∧ after.HasRoom ∨ Stuck after)
            piped)
    (works
      : ∀ piped after input, input.await.isSome = true → piped.Sound → Inv piped
          → piped.step takes ui platform format (.worker input) = some after → Inv after)
    {piped : Piped ρ} (sound : piped.Sound) (kept : Inv piped)
    : Leads (Piped.step takes ui platform format) awaits
        (fun after => (after.Sound ∧ Inv after ∧ after.program.world.AtRest) ∨ Stuck after)
        piped := by
  have rests : Leads (World.step platform format) WorldInput.await World.AtRest
      piped.program.world :=
    sound.program.world.rests
  have beside : Beside Inv piped.program.world piped := ⟨rfl, sound, kept⟩
  refine (rests.liftReady HasRoom wait ?_ ?_ ?_ beside).andThen fun after reached =>
    .there (reached.imp ?_ id)
  · rintro world whole ⟨rfl, sound, kept⟩
    exact prepare whole sound kept
  · rintro world whole await ⟨rfl, -, -⟩ room ends
    obtain ⟨turn, after, answers, stepped⟩ := canEnd_worker room ends
    exact ⟨turn, after, (same turn await).mpr answers, stepped⟩
  · rintro world whole await turn after ⟨rfl, sound, kept⟩ answers stepped
    obtain ⟨input, rfl, ends, moves⟩ := follows_worker ((same turn await).mp answers) stepped
    have kept := works whole after input (by rw [ends]; rfl) sound kept stepped
    exact ⟨input, _, ends, moves, rfl, sound.step stepped, kept⟩
  · rintro ⟨world, atRest, rfl, sound, kept⟩
    exact ⟨sound, kept, atRest⟩

/-- The worker comes to rest while its commands wait. -/
theorem Sound.rests {piped : Piped ρ} (sound : piped.Sound)
    : Leads (Piped.step takes ui platform format) PipedTurn.pipeAwait
        (fun after => (after.Sound ∧ after.program.commands = piped.program.commands
          ∧ after.program.world.AtRest) ∨ after.Stalled takes)
        piped := by
  refine rests_of PipeAwait.worker (fun _ _ => Iff.rfl) ?_ ?_ sound rfl
  · intro piped sound commands
    refine sound.room.andThen fun after reached => .there (reached.imp ?_ id)
    rintro ⟨⟨sound, program⟩, room⟩
    exact ⟨⟨by rw [program], sound, by rw [program, commands]⟩, room⟩
  · rintro piped after input - - commands stepped
    obtain ⟨world, sent, -, -, rfl⟩ := worker_some stepped
    exact commands

/-- The commands are taken one after the other, by induction on them. -/
theorem Sound.drains {piped : Piped ρ} (sound : piped.Sound)
    : Leads (Piped.step takes ui platform format) PipedTurn.pipeAwait
        (fun after => after.program.Drained ∨ after.Stalled takes) piped := by
  generalize queued : piped.program.commands = commands
  induction commands generalizing piped with
  | nil =>
      refine sound.rests.andThen fun after reached => .there (reached.imp ?_ id)
      rintro ⟨sound, commands, atRest⟩
      exact ⟨sound.program.joined.serving.running, commands.trans queued, atRest⟩
  | cons cmd rest ih =>
      refine sound.rests.andThen fun middle reached => ?_
      rcases reached with ⟨sound, commands, atRest⟩ | stalled
      · have taken := @step_receive ρ takes ui platform format _ _ _ sound (commands.trans queued)
          atRest
        exact .only rfl PipedTurn.only_receive taken (ih (sound.step taken) rfl)
      · exact .there (.inr stalled)

end Piped

/-- Whatever the user did and the server answered so far, and however full both channels are,
the worker can take every command on its channel and come to rest while the UI stands still, and
however its own waits end. So a UI that waits for room on the command channel gets it, unless
the event channel is full and the kernel does not queue the message of the forwarder.
-/
theorem commands_get_taken (takes : Nat → Bool) (ui : Ui.Platform) (platform : Platform)
    (format : RecordFormat ρ) (app : App) (inner : InnerBackend) (turns : List (PipedTurn ρ))
    (piped : Piped ρ)
    (reached
      : Runs.run? (Piped.step takes ui platform format) (.start app inner) turns = some piped)
    : Leads (Piped.step takes ui platform format) PipedTurn.pipeAwait
        (fun after => after.program.Drained ∨ after.Stalled takes) piped :=
  (Runs.run?_invariant (fun _ _ _ => Piped.Sound.step) reached (Piped.sound_start inner)).drains

/-- Sixteen account queries fill the channel while the worker still loads its registration, and
the UI is in the handler that sends one more.
-/
theorem commands_get_taken_full
    : let takes (waiting : Nat) : Bool := decide (waiting < 128)
      let step := @Piped.step UInt8 takes .bare (.knowing ⟨1⟩) .oneByte
      let focus : List (PipedTurn UInt8) :=
        [.arrive (.focusChange true), .take, .begin (.focus .unnamed true)]
      let turns := (List.replicate 16 (focus ++ [.finish])).flatten ++ focus
      ∃ piped,
        Runs.run? step (.start .initial { map := ∅ }) turns = some piped
        ∧ step piped .finish = none
        ∧ Leads step PipedTurn.pipeAwait
            (fun after => after.program.Drained ∨ after.Stalled takes) piped := by
  intro takes step focus turns
  refine ⟨_, rfl, rfl, ?_⟩
  exact commands_get_taken takes .bare (.knowing ⟨1⟩) .oneByte .initial { map := ∅ } turns _ rfl

end XousAppSignal
