import Mathlib.Data.Prod.Lex
import XousAppSignal.Program.CommandRoom
import XousAppSignal.Program.Reactions

/-! The program comes to rest. With no further key the UI and the worker give each other less
and less to do, so all the queues run empty. Only one circle of waits can keep them from it,
through the kernel's queue at the UI's own server.
-/

namespace XousAppSignal

open Runs (Leads CanEnd)
open Store (InnerBackend RecordFormat)
open Ui (App)
open Worker

variable {ρ : Type}

/-- What the program waits for without its user. -/
inductive PipedAwait where
  | take
  | begin
  | finish
  | pipe (await : PipeAwait)

def PipedTurn.await : PipedTurn ρ → Option PipedAwait
  | .take => some .take
  | .begin _ => some .begin
  | .finish => some .finish
  | turn => turn.pipeAwait.map .pipe

theorem PipedTurn.await_pipe {turn : PipedTurn ρ} {await : PipeAwait}
    : turn.await = some (.pipe await) ↔ turn.pipeAwait = some await := by
  cases turn <;> simp [PipedTurn.await, PipedTurn.pipeAwait]

theorem PipedTurn.only_take (turn : PipedTurn ρ) (answers : turn.await = some .take)
    : turn = .take := by
  cases turn <;> simp_all [PipedTurn.await, PipedTurn.pipeAwait]

theorem PipedTurn.only_finish (turn : PipedTurn ρ) (answers : turn.await = some .finish)
    : turn = .finish := by
  cases turn <;> simp_all [PipedTurn.await, PipedTurn.pipeAwait]

theorem PipedTurn.begins_of_await {turn : PipedTurn ρ} (answers : turn.await = some .begin)
    : ∃ handler, turn = .begin handler := by
  cases turn <;> simp_all [PipedTurn.await, PipedTurn.pipeAwait]

/-- The handler of a key or a focus change, whatever it finds outside. -/
def Stroke.handler : Stroke → Handler
  | .key k => .press ⟨.unnamed, k⟩
  | .focus foreground => .focus .unnamed foreground

theorem Stroke.handler_strokes (stroke : Stroke) : stroke.handler.strokes = [stroke] := by
  cases stroke <;> rfl

theorem Stroke.handler_begins (stroke : Stroke) {program : Program ρ}
    (running : program.world.running = true) (drained : program.events = [])
    : stroke.handler.Begins program := by
  cases stroke <;> exact ⟨running.symm, by rw [drained]; rfl⟩

theorem Handler.strokes_length (handler : Handler)
    : handler.strokes.length = (!handler.isEvent).toNat := by
  cases handler <;> rfl

namespace Piped

variable {takes : Nat → Bool} {ui : Ui.Platform} {platform : Platform} {format : RecordFormat ρ}

-----------------------------------------------------------------------------------------
-- Loads
-----------------------------------------------------------------------------------------

/-- The keys and focus changes that are still to be handled; each may send a command. -/
def strokesLeft (piped : Piped ρ) : Nat :=
  piped.entered.toNat + piped.strokes.length + (piped.inbox.flatMap XasOp.strokes).length

/-- The commands that are no `StartReceive`, with those that may still come of keys. -/
def others (piped : Piped ρ) : Nat :=
  piped.program.commands.countP (fun cmd => !cmd.isStartReceive) + piped.strokesLeft

/-- The events on their way that can make the UI start receiving. -/
def starts (piped : Piped ρ) : Nat := piped.whole.events.countP Event.startsReceive

/-- The commands, with those that may still come of keys. -/
def asked (piped : Piped ρ) : Nat := piped.program.commands.length + piped.strokesLeft

/-- Without its user the program gets no more to do, counted in this order. -/
def load (piped : Piped ρ) : ℕ ×ₗ ℕ ×ₗ ℕ := toLex (piped.others, toLex (piped.starts, piped.asked))

theorem load_le {piped after : Piped ρ}
    : after.load ≤ piped.load
      ↔ after.others < piped.others ∨ after.others = piped.others
        ∧ (after.starts < piped.starts ∨ after.starts = piped.starts
          ∧ after.asked ≤ piped.asked) := by
  simp only [load, Prod.Lex.toLex_le_toLex]

theorem load_lt {piped after : Piped ρ}
    : after.load < piped.load
      ↔ after.others < piped.others ∨ after.others = piped.others
        ∧ (after.starts < piped.starts ∨ after.starts = piped.starts
          ∧ after.asked < piped.asked) := by
  simp only [load, Prod.Lex.toLex_lt_toLex]

theorem entered_none (program : Program ρ) (channel pendingEvents : List Event) (poking : Bool)
    (inbox : List XasOp) (strokes : List Stroke)
    : entered ⟨program, channel, pendingEvents, poking, inbox, strokes, none⟩ = false :=
  rfl

/-- The pipe or the UI has moved on; the worker has not. -/
structure Moved (piped after : Piped ρ) : Prop where
  sound : after.Sound
  world : after.program.world = piped.program.world
  load : after.load ≤ piped.load
  work : after.work < piped.work

theorem Forwarded.moved {piped after : Piped ρ} (forwarded : Forwarded piped after)
    : Moved piped after where
  sound := forwarded.sound
  world := by rw [forwarded.program]
  load := by
    have entered : after.entered = piped.entered := by rw [Piped.entered, forwarded.busy]; rfl
    have left : after.strokesLeft = piped.strokesLeft := by
      rw [strokesLeft, entered, forwarded.strokes, forwarded.inbox, strokesLeft]
    have starts : after.starts = piped.starts := by
      simp only [Piped.starts, whole, forwarded.program, forwarded.events]
    refine load_le.mpr (.inr ⟨?_, .inr ⟨starts, Nat.le_of_eq ?_⟩⟩)
    · rw [others, others, forwarded.program, left]
    · rw [asked, asked, forwarded.program, left]
  work := forwarded.work

/-- A handler of the UI that comes to its end. -/
theorem Sound.finished {piped : Piped ρ} (sound : piped.Sound) {handler : Handler}
    (busy : piped.busy = some handler) {program : Program ρ}
    (stepped : piped.program.step ui platform format handler.turn = some program)
    : Moved piped { piped with program, busy := none } := by
  have finish : piped.step (fun _ => true) ui platform format .finish
      = some { piped with program, busy := none } := by
    simp only [Piped.step, busy, stepped, Option.map_some]
  have sound := sound.step finish
  have reacted := Program.reacted_of_step stepped
  clear finish stepped
  cases reacted with
  | user user app cmds one =>
      have entered : piped.entered = true := by simp [Piped.entered, busy, user]
      have fewer : cmds.countP (fun cmd => !cmd.isStartReceive) ≤ cmds.length :=
        List.countP_le_length
      refine ⟨sound, rfl, load_le.mpr ?_, ?_⟩
      · simp only [others, starts, asked, strokesLeft, whole, entered, entered_none,
          Bool.toNat_true, Bool.toNat_false, List.countP_append, List.length_append, true_and]
        omega
      · simp only [work, entered, entered_none, Bool.toNat_true, Bool.toNat_false]
        omega
  | event env event rest app cmds drained sends =>
      have entered : piped.entered = false := by simp [Piped.entered, busy, Handler.isEvent]
      refine ⟨sound, rfl, load_le.mpr ?_, ?_⟩
      · rcases sends with rfl | ⟨may, rfl⟩
        · simp only [others, starts, asked, strokesLeft, whole, entered, entered_none,
            Bool.toNat_false, List.append_nil, drained, List.cons_append, List.countP_cons,
            true_and]
          split <;> omega
        · have started : Cmd.startReceive.isStartReceive = true := rfl
          simp only [others, starts, asked, strokesLeft, whole, entered, entered_none,
            Bool.toNat_false, drained, List.cons_append, List.countP_cons, List.countP_append,
            List.countP_nil, may, started, Bool.not_true, Bool.false_eq_true, if_true, if_false]
          omega
      · simp only [work, entered, entered_none, Bool.toNat_false, drained, List.length_cons]
        omega

/-- A UI that waits has taken a message. -/
structure Taken (piped after : Piped ρ) (op : XasOp) : Prop where
  program : after.program = { piped.program with events := after.program.events }
  events : after.program.events ++ after.pendingEvents = piped.pendingEvents
  strokes : after.strokes = op.strokes
  channel : after.channel = piped.channel
  poking : after.poking = piped.poking
  inbox : after.inbox = piped.inbox
  busy : after.busy = piped.busy

theorem Waits.taken {piped : Piped ρ} (waits : piped.Waits) (op : XasOp)
    : Taken piped (piped.taken op) op := by
  have drained : piped.program.events = [] := List.isEmpty_iff.mp waits.2.1
  have none : piped.strokes = [] := List.isEmpty_iff.mp waits.2.2
  cases op with
  | workerEvent => exact ⟨rfl, List.append_nil _, none, rfl, rfl, rfl, rfl⟩
  | _ => exact ⟨rfl, by simp [Piped.taken, drained], rfl, rfl, rfl, rfl, rfl⟩

/-- The UI takes a message. -/
theorem Sound.taken_moved {piped : Piped ρ} (sound : piped.Sound) (waits : piped.Waits)
    {op : XasOp} {rest : List XasOp} (queued : piped.inbox = op :: rest)
    : ∃ after, piped.step takes ui platform format .take = some after ∧ Moved piped after := by
  have stepped : piped.step takes ui platform format .take
      = some ({ piped with inbox := rest }.taken op) := by
    simp only [Piped.step, queued, waits, if_true]
  have after := @Waits.taken _ { piped with inbox := rest } waits op
  refine ⟨_, stepped, sound.step stepped, by rw [after.program], ?_, ?_⟩
  all_goals
    generalize { piped with inbox := rest }.taken op = next at after ⊢
    have drained : piped.program.events = [] := List.isEmpty_iff.mp waits.2.1
    have none : piped.strokes = [] := List.isEmpty_iff.mp waits.2.2
    have entered : next.entered = piped.entered := by rw [Piped.entered, after.busy]; rfl
    have events := after.events
    dsimp only at events
  · have left : next.strokesLeft = piped.strokesLeft := by
      simp only [strokesLeft, entered, after.strokes, after.inbox, none, queued,
        List.flatMap_cons, List.length_append, List.length_nil, Nat.add_zero, Nat.add_assoc]
    have starts : next.starts = piped.starts := by
      rw [Piped.starts, whole, Piped.starts, whole, drained, ← events, after.channel]
      simp
    refine load_le.mpr (.inr ⟨?_, .inr ⟨starts, Nat.le_of_eq ?_⟩⟩)
    · rw [others, after.program, left, others]
    · rw [asked, after.program, left, asked]
  · have fewer : inboxWork piped.inbox = 1 + 2 * op.strokes.length + inboxWork rest := by
      rw [queued, inboxWork, List.map_cons, List.sum_cons, inboxWork]
    have same := congrArg List.length events
    rw [List.length_append] at same
    simp only [work, after.strokes, entered, after.inbox, after.channel, after.poking, none,
      drained, fewer, List.length_nil]
    omega

-----------------------------------------------------------------------------------------
-- The UI and the pipe
-----------------------------------------------------------------------------------------

/-- Nothing is on its way to the UI, and the UI waits for a message. -/
structure Idle (piped : Piped ρ) : Prop where
  drained : piped.program.events = []
  pending : piped.pendingEvents = []
  channel : piped.channel = []
  poking : piped.poking = false
  inbox : piped.inbox = []
  strokes : piped.strokes = []
  busy : piped.busy = none

/-- All channels are empty, the UI waits for a message and the worker for a command. -/
def AtRest (piped : Piped ρ) : Prop := piped.Idle ∧ piped.program.Drained

/-- The circle of waits: the UI waits in a handler for room on the command channel, and the
worker cannot send its events, since the forwarder waits for the kernel to queue its message,
which the UI does not take from its server meanwhile.
-/
structure Jammed (takes : Nat → Bool) (piped : Piped ρ) : Prop extends Stalled takes piped where
  busy : piped.busy.isSome = true
  commands : chanCap ≤ piped.program.commands.length

/-- Since `piped` the UI has at most begun with a handler, and this waits for room on the command
channel; the forwarder can do nothing.
-/
structure Blocked (takes : Nat → Bool) (piped after : Piped ρ) : Prop where
  program : after.program = piped.program
  channel : after.channel = piped.channel
  busy : after.busy.isSome = true
  full : chanCap ≤ piped.program.commands.length
  forwarder : after.ForwarderWaits takes

/-- Beside a full event channel this is the circle. -/
theorem Blocked.jammed {piped after : Piped ρ} (blocked : Blocked takes piped after)
    (full : chanCap ≤ piped.channel.length)
    : after.Jammed takes := by
  rw [← blocked.channel] at full
  rcases blocked.forwarder with ⟨-, none⟩ | ⟨poking, refused⟩
  · rw [none] at full
    exact absurd full (by decide)
  · exact ⟨⟨full, poking, refused⟩, blocked.busy, by rw [blocked.program]; exact blocked.full⟩

/-- The pipe's side gets as far in the program as by itself. -/
theorem leads_of_pipe {goal : Piped ρ → Prop} {piped : Piped ρ}
    (leads : Leads (Piped.step takes ui platform format) PipedTurn.pipeAwait goal piped)
    : Leads (Piped.step takes ui platform format) PipedTurn.await goal piped := by
  refine @Leads.lift _ _ _ _ _ _ _ _ _ _ _ _ Eq PipedAwait.pipe ?_ ?_ ?_ _ _ leads rfl
  · rintro state _ await rfl ⟨turn, after, side, stepped⟩
    exact ⟨turn, after, PipedTurn.await_pipe.mpr side, stepped⟩
  · rintro state _ await turn after rfl answers stepped
    exact ⟨turn, after, PipedTurn.await_pipe.mp answers, stepped, rfl⟩
  · rintro state _ rfl holds
    exact holds

/-- The handler the UI is in comes to its end, or it waits. -/
theorem Sound.finishes {piped : Piped ρ} (sound : piped.Sound) {handler : Handler}
    (busy : piped.busy = some handler) (waits : piped.ForwarderWaits takes)
    : Leads (Piped.step takes ui platform format) PipedTurn.await
        (fun after => Moved piped after ∨ Blocked takes piped after) piped := by
  cases stepped : piped.program.step ui platform format handler.turn with
  | none =>
      have full := Program.full_of_waiting (sound.busy handler busy) stepped
      exact .there (.inr ⟨rfl, rfl, by rw [busy]; rfl, full, waits⟩)
  | some program =>
      have finish : piped.step takes ui platform format .finish
          = some { piped with program, busy := none } := by
        simp only [Piped.step, busy, stepped, Option.map_some]
      exact .only rfl PipedTurn.only_finish finish (.there (.inl (sound.finished busy stepped)))

/-- The UI begins with a handler: what this may send was counted before. -/
theorem Sound.begins {piped : Piped ρ} (sound : piped.Sound) (idle : piped.busy = none)
    {handler : Handler} (begins : handler.Begins piped.program)
    (next : handler.strokes <+: piped.strokes) (waits : piped.ForwarderWaits takes)
    : Leads (Piped.step takes ui platform format) PipedTurn.await
        (fun after => Moved piped after ∨ Blocked takes piped after) piped := by
  have enabled : (piped.step takes ui platform format (.begin handler)).isSome = true := by
    simp only [Piped.step, idle, begins, next, Option.isNone_none, and_self, if_true,
      Option.isSome_some]
  refine .turn .begin (Runs.canEnd_of_isSome rfl enabled) fun turn after answers stepped => ?_
  obtain ⟨handler, rfl⟩ := PipedTurn.begins_of_await answers
  have sound := sound.step stepped
  simp only [Piped.step] at stepped
  split at stepped
  · next begun =>
      cases stepped
      have fits := begun.2.2.length_le
      have free : piped.entered = false := by simp [entered, idle]
      have taken := handler.strokes_length
      have entered
          : Piped.entered
            { piped with
              strokes := piped.strokes.drop handler.strokes.length
              busy := some handler }
            = !handler.isEvent :=
        rfl
      have left
          : strokesLeft
            { piped with
              strokes := piped.strokes.drop handler.strokes.length
              busy := some handler }
            = piped.strokesLeft := by
        simp only [strokesLeft, entered, free, List.length_drop, Bool.toNat_false]
        omega
      refine (sound.finishes rfl waits).andThen fun last reached => .there (reached.imp ?_ ?_)
      · intro moved
        refine ⟨moved.sound, moved.world, moved.load.trans (le_of_eq ?_), moved.work.trans_le ?_⟩
        · simp only [load, others, asked, left]
          rfl
        · simp only [work, entered, free, List.length_drop, Bool.toNat_false]
          omega
      · rintro ⟨program, channel, busy, full, forwarder⟩
        exact ⟨program, channel, busy, full, forwarder⟩
  · cases stepped

/-- A UI that waits takes the next message, or nothing is left to come. -/
theorem Sound.takes_next {piped : Piped ρ} (sound : piped.Sound) (first : takes 0 = true)
    (idle : piped.Waits) (waits : piped.ForwarderWaits takes)
    : piped.Idle
      ∨ Leads (Piped.step takes ui platform format) PipedTurn.await (Moved piped) piped := by
  cases queued : piped.inbox with
  | cons op rest =>
      obtain ⟨after, stepped, moved⟩ :=
        @Sound.taken_moved ρ takes ui platform format _ sound idle _ _ queued
      exact .inr (.only rfl PipedTurn.only_take stepped (.there moved))
  | nil =>
      rcases waits with ⟨free, empty⟩ | ⟨-, refused⟩
      · have pending : piped.pendingEvents = [] := by
          by_contra waiting
          simpa [free, queued] using sound.woken waiting
        exact .inl ⟨List.isEmpty_iff.mp idle.2.1, pending, empty, free, queued,
          List.isEmpty_iff.mp idle.2.2, Option.isNone_iff_eq_none.mp idle.1⟩
      · rw [queued, List.length_nil, first] at refused
        cases refused

/-- Something moves on, the forwarder before the UI, or nothing is left to move. -/
theorem Sound.moves {piped : Piped ρ} (sound : piped.Sound) (first : takes 0 = true)
    : piped.Idle
      ∨ Leads (Piped.step takes ui platform format) PipedTurn.await
          (fun after => Moved piped after ∨ Blocked takes piped after) piped := by
  rcases @sound.forwards ρ takes ui platform format with waits | forwards
  · cases busy : piped.busy with
    | some handler => exact .inr (sound.finishes busy waits)
    | none =>
        have running := sound.program.joined.serving.running
        by_cases drained : piped.program.events = []
        · cases pressed : piped.strokes with
          | cons stroke rest =>
              have next : stroke.handler.strokes <+: piped.strokes := by
                rw [stroke.handler_strokes, pressed]
                exact ⟨rest, rfl⟩
              exact .inr (sound.begins busy (stroke.handler_begins running drained) next waits)
          | nil =>
              have idle : piped.Waits := by simp [Waits, busy, drained, pressed]
              rcases @Sound.takes_next ρ takes ui platform format _ sound first idle waits with
                nothing | leads
              · exact .inl nothing
              · exact .inr (leads.andThen fun after moved => .there (.inl moved))
        · have begins : (Handler.handle .unnamed).Begins piped.program :=
            ⟨running.symm, by simp [Handler.isEvent, drained]⟩
          exact .inr (sound.begins busy begins List.nil_prefix waits)
  · right
    exact leads_of_pipe (forwards.andThen fun after forwarded => .there (.inl forwarded.moved))

/-- The forwarder and the UI make room on the event channel, by induction on their work. -/
theorem Sound.room_moving {piped : Piped ρ} (sound : piped.Sound) (first : takes 0 = true)
    : Leads (Piped.step takes ui platform format) PipedTurn.await
        (fun after => Beside (fun after => after.load ≤ piped.load) piped.program.world after
          ∧ after.HasRoom ∨ after.Jammed takes)
        piped := by
  induction size : piped.work using Nat.strong_induction_on generalizing piped with
  | _ size ih =>
      by_cases room : piped.HasRoom
      · exact .there (.inl ⟨⟨rfl, sound, le_refl _⟩, room⟩)
      rcases @Sound.moves ρ takes ui platform format _ sound first with idle | moves
      · rw [HasRoom, idle.channel] at room
        exact absurd (by decide) room
      · refine moves.andThen fun after reached => ?_
        rcases reached with moved | blocked
        · refine (ih _ (size ▸ moved.work) moved.sound rfl).andThen fun last reached =>
            .there (reached.imp ?_ id)
          rintro ⟨⟨world, sound, load⟩, room⟩
          exact ⟨⟨world.trans moved.world, sound, load.trans moved.load⟩, room⟩
        · exact .there (.inr (blocked.jammed (Nat.le_of_not_lt room)))

-----------------------------------------------------------------------------------------
-- The whole program
-----------------------------------------------------------------------------------------

/-- The worker comes to rest beside the UI and the pipe. -/
theorem Sound.rests_moving {Inv : Piped ρ → Prop} {piped : Piped ρ} (sound : piped.Sound)
    (first : takes 0 = true)
    (moves
      : ∀ piped after, after.program.world = piped.program.world → after.load ≤ piped.load
          → Inv piped → Inv after)
    (works
      : ∀ piped after input, input.await.isSome = true → piped.Sound → Inv piped
          → piped.step takes ui platform format (.worker input) = some after → Inv after)
    (kept : Inv piped)
    : Leads (Piped.step takes ui platform format) PipedTurn.await
        (fun after => (after.Sound ∧ Inv after ∧ after.program.world.AtRest)
          ∨ after.Jammed takes)
        piped := by
  refine rests_of (fun await => PipedAwait.pipe (.worker await)) (fun _ _ => PipedTurn.await_pipe)
    (fun piped sound kept => ?_) works sound kept
  refine (sound.room_moving first).andThen fun after reached => .there (reached.imp ?_ id)
  rintro ⟨⟨world, sound, load⟩, room⟩
  exact ⟨⟨world, sound, moves piped after world load kept⟩, room⟩

/-- A calm worker stays calm and brings nothing more to do. -/
theorem calm_worked {piped after : Piped ρ} {input : WorldInput ρ} (sound : piped.Sound)
    (calm : piped.program.world.Calm) (awaited : input.await.isSome = true)
    (stepped : piped.step takes ui platform format (.worker input) = some after)
    : after.program.world.Calm ∧ after.load = piped.load := by
  obtain ⟨world, sent, moves, log, rfl⟩ := worker_some stepped
  obtain ⟨calm, quiet⟩ :=
    calm.stepped sound.program.joined.serving awaited (World.step_cases moves) log
  have none : sent.countP Event.startsReceive = 0 :=
    List.countP_eq_zero.mpr fun event listed => by simp [quiet event listed]
  refine ⟨calm, ?_⟩
  simp only [load, others, starts, asked, whole, List.countP_append, none, Nat.add_zero]
  rfl

/-- Whatever the worker does, the UI asks for nothing new. -/
theorem Sound.rests_fewer {piped : Piped ρ} (sound : piped.Sound) (first : takes 0 = true)
    : Leads (Piped.step takes ui platform format) PipedTurn.await
        (fun after => (after.Sound ∧ after.others ≤ piped.others
          ∧ after.program.world.AtRest) ∨ after.Jammed takes)
        piped := by
  refine sound.rests_moving first ?_ ?_ (Nat.le_refl _)
  · intro before after world load fewer
    rcases load_le.mp load with less | ⟨same, -⟩
    · exact (Nat.le_of_lt less).trans fewer
    · exact same.trans_le fewer
  · intro before after input awaited sound fewer stepped
    obtain ⟨world, sent, -, -, rfl⟩ := worker_some stepped
    exact fewer

/-- A calm worker gives the UI nothing new to do. -/
theorem Sound.rests_calm {piped : Piped ρ} (sound : piped.Sound) (first : takes 0 = true)
    (calm : piped.program.world.Calm)
    : Leads (Piped.step takes ui platform format) PipedTurn.await
        (fun after => (after.Sound ∧ after.load ≤ piped.load ∧ after.program.world.AtRest)
          ∨ after.Jammed takes)
        piped := by
  have rests := @Sound.rests_moving ρ takes ui platform format
    (fun after => after.program.world.Calm ∧ after.load ≤ piped.load) piped sound first ?_ ?_
    ⟨calm, le_refl _⟩
  · refine rests.andThen fun after reached => .there (reached.imp ?_ id)
    rintro ⟨sound, ⟨-, load⟩, atRest⟩
    exact ⟨sound, load, atRest⟩
  · rintro before after world load ⟨calm, lighter⟩
    exact ⟨world ▸ calm, load.trans lighter⟩
  · rintro before after input awaited sound ⟨calm, lighter⟩ stepped
    obtain ⟨calm, load⟩ := calm_worked sound calm awaited stepped
    exact ⟨calm, load ▸ lighter⟩

/-- A command less: of those that may start anything, or of those that are left. -/
theorem received_lighter {piped : Piped ρ} {cmd : Cmd} {rest : List Cmd}
    (queued : piped.program.commands = cmd :: rest) (world : World ρ)
    : (cmd.isStartReceive = false
        → Piped.others { piped with program := { piped.program with world, commands := rest } }
          < piped.others)
      ∧ (cmd.isStartReceive = true
        → Piped.load { piped with program := { piped.program with world, commands := rest } }
          < piped.load) := by
  have same
      : Piped.strokesLeft { piped with program := { piped.program with world, commands := rest } }
        = piped.strokesLeft :=
    rfl
  refine ⟨fun other => ?_, fun start => load_lt.mpr (.inr ⟨?_, .inr ⟨rfl, ?_⟩⟩)⟩
  · simp only [others, same, queued, List.countP_cons, other, Bool.not_false, if_true]
    omega
  · simp only [others, same, queued, List.countP_cons, start, Bool.not_true, Bool.false_eq_true,
      if_false, Nat.add_zero]
  · simp only [asked, same, queued, List.length_cons]
    omega

/-- From where the worker rests: by induction on the load, and for the same load on the work of
the pipe and the UI.
-/
theorem Sound.settles {piped : Piped ρ} (sound : piped.Sound) (first : takes 0 = true)
    (atRest : piped.program.world.AtRest)
    : Leads (Piped.step takes ui platform format) PipedTurn.await
        (fun after => after.AtRest ∨ after.Jammed takes) piped := by
  induction level : toLex (piped.load, piped.work) using WellFoundedLT.induction
    generalizing piped with
  | ind level ih =>
      subst level
      have running := sound.program.joined.serving.running
      have lighter {after : Piped ρ} (load : after.load < piped.load)
          : toLex (after.load, after.work) < toLex (piped.load, piped.work) :=
        Prod.Lex.toLex_lt_toLex.mpr (.inl load)
      cases queued : piped.program.commands with
      | nil =>
          rcases @Sound.moves ρ takes ui platform format _ sound first with idle | moves
          · exact .there (.inl ⟨idle, running, queued, atRest⟩)
          refine moves.andThen fun after reached => ?_
          rcases reached with moved | blocked
          · refine ih _ ?_ moved.sound (moved.world ▸ atRest) rfl
            exact Prod.Lex.toLex_lt_toLex.mpr (moved.load.lt_or_eq.imp id (⟨·, moved.work⟩))
          · have full := blocked.full
            rw [queued] at full
            exact absurd full (by decide)
      | cons cmd rest =>
          have taken := @step_receive ρ takes ui platform format _ _ _ sound queued atRest
          have only (turn : PipedTurn ρ) (answers : turn.await = some (.pipe .receive)) :=
            turn.only_receive (PipedTurn.await_pipe.mp answers)
          have sound := sound.step taken
          obtain ⟨fewer, less⟩ := received_lighter queued (piped.program.world.handleCmd cmd)
          refine .only rfl only taken ?_
          cases starts : cmd.isStartReceive with
          | false =>
              refine (sound.rests_fewer first).andThen fun after reached => ?_
              rcases reached with ⟨sound, others, atRest⟩ | jammed
              · have others := Nat.lt_of_le_of_lt others (fewer starts)
                exact ih _ (lighter (load_lt.mpr (.inl others))) sound atRest rfl
              · exact .there (.inr jammed)
          | true =>
              have start : cmd = .startReceive := by cases cmd <;> first | rfl | cases starts
              subst start
              have calm := atRest.startsReceive running
              refine (sound.rests_calm first calm).andThen fun after reached => ?_
              rcases reached with ⟨sound, load, atRest⟩ | jammed
              · exact ih _ (lighter (load.trans_lt (less starts))) sound atRest rfl
              · exact .there (.inr jammed)

end Piped

/-- Left alone by its user, the program comes to rest from every state that it can get into, also
with both channels full and the UI waiting in a handler: all channels run empty and the worker
waits for the next command, in some order of the turns and however the server, the store and
the modals answer. The one other end is the circle of waits through the kernel's queue at the
UI's server, which takes a message when no other waits there.
-/
theorem program_comes_to_rest (takes : Nat → Bool) (first : takes 0 = true) (ui : Ui.Platform)
    (platform : Platform) (format : RecordFormat ρ) (app : App) (inner : InnerBackend)
    (turns : List (PipedTurn ρ)) (piped : Piped ρ)
    (reached
      : Runs.run? (Piped.step takes ui platform format) (.start app inner) turns = some piped)
    : Leads (Piped.step takes ui platform format) PipedTurn.await
        (fun after => after.AtRest ∨ after.Jammed takes) piped := by
  have sound := Runs.run?_invariant (fun _ _ _ => Piped.Sound.step) reached
    (Piped.sound_start inner)
  refine (sound.rests_fewer first).andThen fun after reached => ?_
  rcases reached with ⟨sound, -, atRest⟩ | jammed
  · exact sound.settles first atRest
  · exact .there (.inr jammed)

/-- The registration is loaded and the event that tells the UI is in the deque, while the UI waits
for room for one more account query.
-/
theorem program_comes_to_rest_loaded
    : let takes (waiting : Nat) : Bool := decide (waiting < 128)
      let step := @Piped.step UInt8 takes .bare (.knowing ⟨1⟩) .oneByte
      let focus : List (PipedTurn UInt8) :=
        [.arrive (.focusChange true), .take, .begin (.focus .unnamed true)]
      let loads : List (PipedTurn UInt8) :=
        [.worker (.dispatcher (.loaded (.ok ⟨"xas", "aci", "phone"⟩))),
          .worker .dispatcherDelivers, .forward]
      let turns :=
        (List.replicate 16 (focus ++ [.finish])).flatten
          ++ (focus ++ loads ++ [.arrive (.rawkeys '↓' '∴' '\x00' '\x00')])
      ∃ piped,
        Runs.run? step (.start .initial { map := ∅ }) turns = some piped
        ∧ step piped .finish = none
        ∧ piped.pendingEvents = [.linkComplete "xas" "aci" "phone"]
        ∧ Leads step PipedTurn.await (fun after => after.AtRest ∨ after.Jammed takes) piped := by
  intro takes step focus loads turns
  refine ⟨_, rfl, rfl, rfl, ?_⟩
  exact program_comes_to_rest takes rfl .bare (.knowing ⟨1⟩) .oneByte .initial { map := ∅ } turns _
    rfl

end XousAppSignal
