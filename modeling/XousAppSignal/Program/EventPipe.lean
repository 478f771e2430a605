import XousAppSignal.Program.Channels
import XousAppSignal.Worker.WorkerProgress

/-! The two ways into the UI. An event comes through the bounded event channel, the forwarder
thread and its deque; keys and focus changes come as messages to the UI's server, and so do the
wake-ups of the forwarder. A UI that waits in `send_blocking` stays in its handler and takes no
message meanwhile.
-/

namespace XousAppSignal

open Store (InnerBackend RecordFormat)
open Ui (App Env KeyPress)
open Worker

variable {ρ : Type}

/-- A key or a focus change out of a message. -/
inductive Stroke where
  | key (key : Char)
  | focus (foreground : Bool)
  deriving DecidableEq

/-- The messages to the UI's server; those of an unknown id are only logged. -/
inductive XasOp where
  | redraw
  | rawkeys (k1 k2 k3 k4 : Char)
  | focusChange (foreground : Bool)
  | workerEvent
  | unknown
  deriving DecidableEq

def XasOp.strokes : XasOp → List Stroke
  | .rawkeys k1 k2 k3 k4 => [.key k1, .key k2, .key k3, .key k4]
  | .focusChange foreground => [.focus foreground]
  | _ => []

/-- What the UI is busy with: a key, a focus change, or the next of the events it has drained. -/
inductive Handler where
  | press (stroke : KeyPress)
  | focus (env : Env) (foreground : Bool)
  | handle (env : Env)

namespace Handler

def env : Handler → Env
  | .press stroke => stroke.env
  | .focus env _ => env
  | .handle env => env

def turn : Handler → Turn ρ
  | .press stroke => .press stroke
  | .focus env foreground => .focus env foreground
  | .handle env => .handle env

def isEvent : Handler → Bool
  | .handle _ => true
  | _ => false

/-- What the handler takes of the last message. -/
def strokes : Handler → List Stroke
  | .press stroke => [.key stroke.key]
  | .focus _ foreground => [.focus foreground]
  | .handle _ => []

/-- The UI handles the drained events first. What its sends return is settled by whether the
worker runs.
-/
def Begins (handler : Handler) (program : Program ρ) : Prop :=
  handler.env.channel.isOk = program.world.running
    ∧ handler.isEvent = !program.events.isEmpty

instance (handler : Handler) (program : Program ρ) : Decidable (handler.Begins program) :=
  inferInstanceAs (Decidable (_ ∧ _))

end Handler

/-- The program with what is on its way to the UI; the events of `program` itself are the ones
the UI has drained.
-/
structure Piped (ρ : Type) where
  program : Program ρ
  channel : List Event := []
  pendingEvents : List Event := []
  /-- The forwarder is in `send_message`. -/
  poking : Bool := false
  /-- The messages that wait at the UI's server. -/
  inbox : List XasOp := []
  /-- What is left of the message that the UI took last. -/
  strokes : List Stroke := []
  busy : Option Handler := none

/-- Whose turn is next. -/
inductive PipedTurn (ρ : Type) : Type 1 where
  | arrive (op : XasOp)
  | take
  | begin (handler : Handler)
  | finish
  | forward
  | poke
  | receive
  | worker (input : WorldInput ρ)

namespace Piped

/-- The UI waits in `receive_message`. -/
def Waits (piped : Piped ρ) : Prop :=
  piped.busy.isNone ∧ piped.program.events.isEmpty ∧ piped.strokes.isEmpty

instance (piped : Piped ρ) : Decidable piped.Waits := inferInstanceAs (Decidable (_ ∧ _))

/-- The UI has taken a message: a wake-up makes it drain the deque. -/
def taken (piped : Piped ρ) : XasOp → Piped ρ
  | .workerEvent =>
      { piped with
        program := { piped.program with events := piped.pendingEvents }
        pendingEvents := [] }
  | op => { piped with strokes := op.strokes }

/-- A turn of the worker, which sees the near end of the event channel. What it sends waits for
room there.
-/
def worked (ui : Ui.Platform) (platform : Platform) (format : RecordFormat ρ) (turn : Turn ρ)
    (piped : Piped ρ)
    : Option (Piped ρ) :=
  (Program.step ui platform format { piped.program with events := piped.channel } turn).bind
    (fun after =>
      if after.events.length ≤ chanCap then
        some
          { piped with
            program := { after with events := piped.program.events }
            channel := after.events }
      else none)

/-- `takes` says whether the kernel queues one more message at the UI's server, by the number of
those that wait there. Until it does, `send_message` does not return.
-/
def step (takes : Nat → Bool) (ui : Ui.Platform) (platform : Platform)
    (format : RecordFormat ρ) (piped : Piped ρ)
    : PipedTurn ρ → Option (Piped ρ)
  | .arrive op =>
      if op ≠ .workerEvent ∧ takes piped.inbox.length then
        some { piped with inbox := piped.inbox ++ [op] }
      else none
  | .take =>
      match piped.inbox with
      | [] => none
      | op :: rest => if piped.Waits then some ({ piped with inbox := rest }.taken op) else none
  | .begin handler =>
      if piped.busy.isNone ∧ handler.Begins piped.program
          ∧ handler.strokes <+: piped.strokes then
        some
          { piped with
            strokes := piped.strokes.drop handler.strokes.length
            busy := some handler }
      else none
  | .finish =>
      match piped.busy with
      | none => none
      | some handler =>
          (piped.program.step ui platform format handler.turn).map (fun program =>
            { piped with program, busy := none })
  | .forward =>
      match piped.poking, piped.channel with
      | false, event :: rest =>
          some
            { piped with
              channel := rest
              pendingEvents := piped.pendingEvents ++ [event]
              poking := true }
      | _, _ => none
  | .poke =>
      if piped.poking ∧ takes piped.inbox.length then
        some { piped with poking := false, inbox := piped.inbox ++ [.workerEvent] }
      else none
  | .receive => piped.worked ui platform format .receive
  | .worker input => piped.worked ui platform format (.worker input)

def start (app : App) (inner : InnerBackend) : Piped ρ := { program := .start app inner }

-----------------------------------------------------------------------------------------
-- One queue
-----------------------------------------------------------------------------------------

/-- The program as if the events went to the UI in one queue. -/
def whole (piped : Piped ρ) : Program ρ :=
  { piped.program with
    events := piped.program.events ++ (piped.pendingEvents ++ piped.channel) }

end Piped

/-- The turn is one of the worker. -/
def Turn.isWorker : Turn ρ → Bool
  | .receive => true
  | .worker _ => true
  | _ => false

namespace Program

variable {ui : Ui.Platform} {platform : Platform} {format : RecordFormat ρ}

/-- A worker's turn does not look at the events ahead of its own. -/
theorem step_worker {program after : Program ρ} {turn : Turn ρ} (side : turn.isWorker = true)
    (stepped : program.step ui platform format turn = some after)
    : ∃ sent, after.events = program.events ++ sent
      ∧ ∀ events, Program.step ui platform format { program with events } turn
          = some { after with events := events ++ sent } := by
  cases turn with
  | receive =>
      unfold Program.step at stepped ⊢
      dsimp only at stepped ⊢
      cases queued : program.commands with
      | nil => simp [queued] at stepped
      | cons cmd rest =>
          simp only [queued] at stepped ⊢
          obtain ⟨world, moves, rfl⟩ := Option.map_eq_some_iff.mp stepped
          exact ⟨_, rfl, fun events => by rw [moves]; rfl⟩
  | worker input =>
      unfold Program.step at stepped ⊢
      dsimp only at stepped ⊢
      by_cases internal : input.isInternal = true
      · rw [if_pos internal] at stepped
        obtain ⟨world, moves, rfl⟩ := Option.map_eq_some_iff.mp stepped
        refine ⟨_, rfl, fun events => ?_⟩
        rw [if_pos internal, moves]
        rfl
      · rw [if_neg internal] at stepped
        cases stepped
  | _ => cases side

/-- A turn of the UI does not look at the events behind the ones it knows of. -/
theorem step_handler {program after : Program ρ} {handler : Handler}
    (stepped : program.step ui platform format handler.turn = some after) (later : List Event)
    : Program.step ui platform format { program with events := program.events ++ later }
        handler.turn
      = some { after with events := after.events ++ later } := by
  have reacts {env : Env} {outcome : Ui.Outcome} {known : Program ρ}
      (reacted : known.react env outcome = some after)
      : Program.react env outcome { known with events := known.events ++ later }
        = some { after with events := after.events ++ later } := by
    unfold react at reacted ⊢
    split at reacted
    · next enabled =>
        cases reacted
        exact if_pos enabled
    · cases reacted
  cases handler with
  | press stroke =>
      simp only [Handler.turn, Program.step] at stepped ⊢
      split
      · next filler =>
          rw [if_pos filler] at stepped
          cases stepped
          rfl
      · next typed =>
          rw [if_neg typed] at stepped
          exact reacts stepped
  | focus env foreground => exact reacts stepped
  | handle env =>
      simp only [Handler.turn, Program.step] at stepped ⊢
      cases queued : program.events with
      | nil => simp [queued] at stepped
      | cons event rest =>
          simp only [queued] at stepped
          simp only [List.cons_append]
          exact @reacts _ _ { program with events := rest } stepped

end Program

namespace Piped

variable {takes : Nat → Bool} {ui : Ui.Platform} {platform : Platform} {format : RecordFormat ρ}

theorem worked_some {piped after : Piped ρ} {turn : Turn ρ} (side : turn.isWorker = true)
    (stepped : piped.worked ui platform format turn = some after)
    : ∃ (sent : List Event) (program : Program ρ),
      (∀ events, Program.step ui platform format { piped.program with events } turn
        = some { program with events := events ++ sent })
      ∧ (piped.channel ++ sent).length ≤ chanCap
      ∧ after
        = { piped with
            program := { program with events := piped.program.events }
            channel := piped.channel ++ sent } := by
  obtain ⟨program, moved, kept⟩ := Option.bind_eq_some_iff.mp stepped
  obtain ⟨sent, events, ahead⟩ := Program.step_worker side moved
  dsimp only at events
  split at kept
  · next room =>
      cases kept
      rw [events] at room ⊢
      exact ⟨sent, program, ahead, room, rfl⟩
  · cases kept

/-- A message is taken where the UI waits for one. -/
theorem take_some {piped after : Piped ρ}
    (stepped : piped.step takes ui platform format .take = some after)
    : ∃ op rest,
      piped.inbox = op :: rest ∧ piped.Waits
      ∧ after = { piped with inbox := rest }.taken op := by
  simp only [step] at stepped
  split at stepped
  · cases stepped
  · next op rest queued =>
      split at stepped
      · next waits =>
          cases stepped
          exact ⟨op, rest, queued, waits, rfl⟩
      · cases stepped

/-- What the pipe does is nothing to a program with one queue; all else is a turn of it. -/
theorem step_whole {piped after : Piped ρ} {turn : PipedTurn ρ}
    (stepped : piped.step takes ui platform format turn = some after)
    : after.whole = piped.whole
      ∨ ∃ turn, piped.whole.step ui platform format turn = some after.whole := by
  have works {turn : Turn ρ} (side : turn.isWorker = true)
      (stepped : piped.worked ui platform format turn = some after)
      : piped.whole.step ui platform format turn = some after.whole := by
    obtain ⟨sent, program, ahead, -, rfl⟩ := worked_some side stepped
    rw [whole, ahead]
    simp [whole]
  cases turn with
  | arrive op =>
      simp only [step] at stepped
      split at stepped
      · cases stepped
        exact .inl rfl
      · cases stepped
  | take =>
      obtain ⟨op, rest, queued, waits, rfl⟩ := take_some stepped
      have none := List.isEmpty_iff.mp waits.2.1
      exact .inl (by cases op <;> simp [taken, whole, none])
  | begin handler =>
      simp only [step] at stepped
      split at stepped
      · cases stepped
        exact .inl rfl
      · cases stepped
  | finish =>
      simp only [step] at stepped
      split at stepped
      · cases stepped
      · next handler busy =>
          obtain ⟨program, reacted, rfl⟩ := Option.map_eq_some_iff.mp stepped
          exact .inr ⟨handler.turn, Program.step_handler reacted _⟩
  | forward =>
      simp only [step] at stepped
      split at stepped
      · next event rest free queued =>
          cases stepped
          exact .inl (by simp [whole, queued])
      · cases stepped
  | poke =>
      simp only [step] at stepped
      split at stepped
      · cases stepped
        exact .inl rfl
      · cases stepped
  | receive => exact .inr ⟨_, works rfl stepped⟩
  | worker input => exact .inr ⟨_, works rfl stepped⟩

end Piped

-----------------------------------------------------------------------------------------
-- Soundness
-----------------------------------------------------------------------------------------

namespace Program

variable {ui : Ui.Platform} {platform : Platform} {format : RecordFormat ρ}

/-- In one turn of the program the worker takes one step or none. -/
theorem step_world {program after : Program ρ} {turn : Turn ρ}
    (stepped : program.step ui platform format turn = some after)
    : after.world = program.world
      ∨ ∃ input, program.world.step platform format input = some after.world := by
  cases turn with
  | press stroke =>
      simp only [Program.step] at stepped
      split at stepped
      · cases stepped
        exact .inl rfl
      · obtain ⟨-, rfl⟩ := react_some stepped
        exact .inl rfl
  | focus env foreground =>
      obtain ⟨-, rfl⟩ := react_some stepped
      exact .inl rfl
  | handle env =>
      simp only [Program.step] at stepped
      split at stepped
      · cases stepped
      · obtain ⟨-, rfl⟩ := react_some stepped
        exact .inl rfl
  | receive =>
      simp only [Program.step] at stepped
      split at stepped
      · cases stepped
      · obtain ⟨world, moves, rfl⟩ := Option.map_eq_some_iff.mp stepped
        exact .inr ⟨_, moves⟩
  | worker input =>
      simp only [Program.step] at stepped
      split at stepped
      · obtain ⟨world, moves, rfl⟩ := Option.map_eq_some_iff.mp stepped
        exact .inr ⟨_, moves⟩
      · cases stepped

/-- A joined program whose worker is sound. -/
structure Sound (program : Program ρ) : Prop where
  joined : Joined program
  world : program.world.Sound

theorem sound_start {app : App} (inner : InnerBackend) : Sound (start app inner : Program ρ) :=
  ⟨joined_start inner, World.sound_start inner⟩

theorem Sound.step {program after : Program ρ} {turn : Turn ρ}
    (stepped : program.step ui platform format turn = some after) (sound : Sound program)
    : Sound after := by
  refine ⟨sound.joined.step (step_cases sound.joined stepped), ?_⟩
  rcases step_world stepped with same | ⟨input, moved⟩
  · exact same ▸ sound.world
  · exact sound.world.step moved

end Program

namespace Piped

variable {takes : Nat → Bool} {ui : Ui.Platform} {platform : Platform} {format : RecordFormat ρ}

/-- No event waits in the deque without a wake-up on its way, and the handler the UI is in has
begun properly.
-/
structure Sound (piped : Piped ρ) : Prop where
  program : piped.program.Sound
  bounded : piped.channel.length ≤ chanCap
  woken : piped.pendingEvents ≠ [] → piped.poking = true ∨ .workerEvent ∈ piped.inbox
  busy : ∀ handler, piped.busy = some handler → handler.Begins piped.program

theorem sound_start {app : App} (inner : InnerBackend) : Sound (start app inner : Piped ρ) where
  program := Program.sound_start inner
  bounded := Nat.zero_le _
  woken waiting := absurd rfl waiting
  busy _ busy := nomatch busy

/-- Where the events are makes no difference to the worker. -/
theorem whole_sound {piped : Piped ρ} : piped.whole.Sound ↔ piped.program.Sound :=
  ⟨fun sound => ⟨⟨sound.joined.serving, sound.joined.commands⟩, sound.world⟩,
    fun sound => ⟨⟨sound.joined.serving, sound.joined.commands⟩, sound.world⟩⟩

/-- A UI that has taken a message is in no handler, and the deque is empty after a wake-up. -/
theorem Sound.taken {piped : Piped ρ} (sound : piped.Sound) {op : XasOp} {rest : List XasOp}
    (queued : piped.inbox = op :: rest) (waits : piped.Waits)
    (program : ({ piped with inbox := rest }.taken op).program.Sound)
    : Sound ({ piped with inbox := rest }.taken op) := by
  have free : piped.busy = none := Option.isNone_iff_eq_none.mp waits.1
  have none {handler : Handler} (busy : piped.busy = some handler) : False := by
    rw [free] at busy
    cases busy
  by_cases wake : op = .workerEvent
  · subst wake
    exact ⟨program, sound.bounded, fun waiting => absurd rfl waiting,
      fun _ busy => (none busy).elim⟩
  · have woken (waiting : piped.pendingEvents ≠ [])
        : piped.poking = true ∨ .workerEvent ∈ rest := by
      refine (sound.woken waiting).imp id fun listed => ?_
      rw [queued] at listed
      exact (List.mem_cons.mp listed).resolve_left (Ne.symm wake)
    cases op with
    | workerEvent => exact absurd rfl wake
    | _ => exact ⟨program, sound.bounded, woken, fun _ busy => (none busy).elim⟩

theorem Sound.step {piped after : Piped ρ} {turn : PipedTurn ρ}
    (stepped : piped.step takes ui platform format turn = some after) (sound : Sound piped)
    : Sound after := by
  have program : after.program.Sound := by
    refine whole_sound.mp ?_
    rcases step_whole stepped with same | ⟨turn, moved⟩
    · exact same ▸ whole_sound.mpr sound.program
    · exact (whole_sound.mpr sound.program).step moved
  have works {turn : Turn ρ} (side : turn.isWorker = true)
      (stepped : piped.worked ui platform format turn = some after)
      : Sound after := by
    obtain ⟨sent, next, -, room, rfl⟩ := worked_some side stepped
    refine ⟨program, room, sound.woken, fun handler busy => ?_⟩
    obtain ⟨isOk, drained⟩ := sound.busy handler busy
    refine ⟨isOk.trans ?_, drained⟩
    exact sound.program.joined.serving.running.trans program.joined.serving.running.symm
  cases turn with
  | arrive op =>
      simp only [Piped.step] at stepped
      split at stepped
      · cases stepped
        exact ⟨program, sound.bounded,
          fun waiting => (sound.woken waiting).imp id (List.mem_append_left _), sound.busy⟩
      · cases stepped
  | take =>
      obtain ⟨op, rest, queued, waits, rfl⟩ := take_some stepped
      exact sound.taken queued waits program
  | begin handler =>
      simp only [Piped.step] at stepped
      split at stepped
      · next begins =>
          cases stepped
          refine ⟨program, sound.bounded, sound.woken, fun other busy => ?_⟩
          cases busy
          exact begins.2.1
      · cases stepped
  | finish =>
      simp only [Piped.step] at stepped
      split at stepped
      · cases stepped
      · obtain ⟨next, -, rfl⟩ := Option.map_eq_some_iff.mp stepped
        exact ⟨program, sound.bounded, sound.woken, fun _ busy => nomatch busy⟩
  | forward =>
      simp only [Piped.step] at stepped
      split at stepped
      · next event rest free queued =>
          cases stepped
          have bounded := sound.bounded
          rw [queued, List.length_cons] at bounded
          exact ⟨program, Nat.le_of_succ_le bounded, fun _ => .inl rfl, sound.busy⟩
      · cases stepped
  | poke =>
      simp only [Piped.step] at stepped
      split at stepped
      · cases stepped
        exact ⟨program, sound.bounded, fun _ => .inr (by simp), sound.busy⟩
      · cases stepped
  | receive => exact works rfl stepped
  | worker input => exact works rfl stepped

end Piped

/-- Whatever the pipe holds where, the program is in a state that it can be in with one queue,
so what holds in each of those holds here.
-/
theorem Piped.whole_reached (takes : Nat → Bool) (ui : Ui.Platform) (platform : Platform)
    (format : RecordFormat ρ) (app : App) (inner : InnerBackend) (turns : List (PipedTurn ρ))
    (piped : Piped ρ)
    (reached
      : Runs.run? (Piped.step takes ui platform format) (.start app inner) turns = some piped)
    : ∃ turns,
      Runs.run? (Program.step ui platform format) (.start app inner) turns = some piped.whole :=
  Runs.run?_refines (fun _ _ _ => Piped.step_whole) reached

end XousAppSignal
