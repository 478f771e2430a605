import XousAppSignal.Program.Channels
import XousAppSignal.Worker.MessageEvents

/-! Inbound messages on their way to the user. A task turns a stream item into an event, the
event waits in the task's outbox, then on the event channel, and the UI handles it. Tasks,
dispatcher and UI take turns in any order; no message is lost or shown twice on the way.
-/

namespace XousAppSignal

open Store (InnerBackend RecordFormat)
open Ui (App Env)
open Worker

variable {ρ : Type}

/-- A program with the messages its streams have brought, each with the task that took it, and
the events the UI has handled.
-/
structure Mailed (ρ : Type) where
  program : Program ρ
  arrived : List (Nat × Event) := []
  handled : List Event := []

/-- The message that a step of the worker takes from a stream. -/
def Worker.WorldInput.arrival : WorldInput ρ → List (Nat × Event)
  | .manager index input => input.message.toList.map (fun event => (index, event))
  | _ => []

def Turn.arrival : Turn ρ → List (Nat × Event)
  | .worker input => input.arrival
  | _ => []

namespace Mailed

def step (ui : Ui.Platform) (platform : Platform) (format : RecordFormat ρ)
    (mailed : Mailed ρ) (turn : Turn ρ)
    : Option (Mailed ρ) :=
  (mailed.program.step ui platform format turn).map (fun next =>
    { program := next
      arrived := mailed.arrived ++ turn.arrival
      handled :=
        match turn with
        | .handle _ => mailed.handled ++ mailed.program.events.head?.toList
        | _ => mailed.handled })

def start (app : App) (inner : InnerBackend) : Mailed ρ := { program := .start app inner }

/-- The messages one task took from its stream, in order. -/
def arrivedAt (index : Nat) (arrived : List (Nat × Event)) : List Event :=
  (arrived.filter (fun mail => mail.1 = index)).map Prod.snd

end Mailed

namespace Worker

/-- What a task has said: the events it has sent, and those that wait for the channel. -/
structure Voice where
  sent : List Event := []
  waiting : List Event := []

namespace Voice

def messages (voice : Voice) : List Event := Worker.messages (voice.sent ++ voice.waiting)

/-- The messages of the task spawned at this place. -/
def messagesAt (index : Nat) (voices : List Voice) : List Event :=
  (voices[index]?.map messages).getD []

end Voice

def Manager.voice (manager : Manager) : Voice := ⟨manager.sent, manager.task.waiting⟩

def World.voices (world : World ρ) : List Voice := world.managers.map Manager.voice

-----------------------------------------------------------------------------------------
-- Messages between the streams and the log
-----------------------------------------------------------------------------------------

/-- Every message that arrived was made an event once, by the task it arrived at and in that
order; what the tasks have sent is in the log, each in its own order.
-/
structure Conveyed (arrived : List (Nat × Event)) (log : List Event) (voices : List Voice)
    : Prop where
  atTask : ∀ index, Mailed.arrivedAt index arrived = Voice.messagesAt index voices
  all : (arrived.map Prod.snd).Perm (voices.flatMap Voice.messages)
  sent : (messages log).Perm (voices.flatMap (fun voice => messages voice.sent))
  ordered : ∀ voice ∈ voices, voice.sent.Sublist log

namespace Conveyed

variable {arrived : List (Nat × Event)} {log : List Event} {voices : List Voice}

theorem start : Conveyed [] [] [] where
  atTask _ := rfl
  all := .nil
  sent := .nil
  ordered := by simp

/-- A notice of the dispatcher. -/
theorem announced (conveyed : Conveyed arrived log voices) {event : Event}
    (other : event.isMessage = false)
    : Conveyed arrived (log ++ [event]) voices where
  atTask := conveyed.atTask
  all := conveyed.all
  sent := by
    have nothing : messages [event] = [] := by simp [messages, other]
    rw [messages_append, nothing, List.append_nil]
    exact conveyed.sent
  ordered voice listed := (conveyed.ordered voice listed).trans (List.sublist_append_left ..)

/-- A new task. -/
theorem spawned (conveyed : Conveyed arrived log voices)
    : Conveyed arrived log (voices ++ [({} : Voice)]) where
  atTask index := by
    rw [conveyed.atTask, Voice.messagesAt, Voice.messagesAt, List.getElem?_append]
    split
    · rfl
    · next beyond =>
        rw [List.getElem?_eq_none (Nat.le_of_not_lt beyond)]
        cases (index - voices.length) <;> rfl
  all := by simpa [Voice.messages, messages] using conveyed.all
  sent := by simpa [messages] using conveyed.sent
  ordered voice listed := by
    rcases List.mem_append.mp listed with earlier | new
    · exact conveyed.ordered voice earlier
    · rw [List.mem_singleton.mp new]
      exact List.nil_sublist log

theorem messagesAt_set {index : Nat} {voice : Voice} (found : voices[index]? = some voice)
    (next : Voice) (other : Nat)
    : Voice.messagesAt other (voices.set index next)
      = if other = index then next.messages else Voice.messagesAt other voices := by
  have inside := (List.getElem?_eq_some_iff.mp found).1
  unfold Voice.messagesAt
  by_cases same : other = index
  · simp [same, inside]
  · rw [List.getElem?_set_ne (Ne.symm same), if_neg same]

/-- The task at this place takes an item of its stream. -/
theorem took (conveyed : Conveyed arrived log voices) {index : Nat} {voice : Voice}
    (found : voices[index]? = some voice) (taken : voice.waiting = [])
    {waiting brought : List Event} (made : messages waiting = brought)
    : Conveyed (arrived ++ brought.map (fun event => (index, event))) log
        (voices.set index { voice with waiting }) := by
  have grown : Voice.messages { voice with waiting } = voice.messages ++ brought := by
    simp [Voice.messages, taken, messages_append, made]
  refine ⟨fun other => ?_, ?_, ?_, fun heard listed => ?_⟩
  · rw [messagesAt_set found, grown, Mailed.arrivedAt, List.filter_append, List.map_append]
    have before := conveyed.atTask other
    rw [Mailed.arrivedAt] at before
    rw [before]
    by_cases same : other = index
    · simp [same, List.filter_map, Function.comp_def, Voice.messagesAt, found]
    · simp [same, Ne.symm same, List.filter_map, Function.comp_def]
  · rw [List.map_append, List.map_map]
    refine .trans ?_ (Counting.flatMap_set_perm Voice.messages found (.of_eq grown)).symm
    simpa [Function.comp_def] using conveyed.all.append_right brought
  · have same := @Counting.flatMap_set_perm _ _ (fun voice : Voice => messages voice.sent) _ _ _
      { voice with waiting } [] found (.of_eq (List.append_nil _).symm)
    rw [List.append_nil] at same
    exact conveyed.sent.trans same.symm
  · rcases List.mem_or_eq_of_mem_set listed with old | rfl
    · exact conveyed.ordered heard old
    · exact conveyed.ordered voice (List.mem_of_getElem? found)

/-- The channel takes the first event that waits at the task. -/
theorem passed (conveyed : Conveyed arrived log voices) {index : Nat} {voice : Voice}
    (found : voices[index]? = some voice) {events waiting : List Event}
    (queued : voice.waiting = events ++ waiting)
    : Conveyed arrived (log ++ events)
        (voices.set index { sent := voice.sent ++ events, waiting }) := by
  have kept : Voice.messages { sent := voice.sent ++ events, waiting } = voice.messages := by
    simp [Voice.messages, queued]
  refine ⟨fun other => ?_, ?_, ?_, fun heard listed => ?_⟩
  · rw [messagesAt_set found, kept, conveyed.atTask]
    split
    · next same => simp [same, Voice.messagesAt, found]
    · rfl
  · refine conveyed.all.trans ?_
    simpa using (Counting.flatMap_set_perm Voice.messages found
      (.of_eq (kept.trans (List.append_nil _).symm))).symm
  · rw [messages_append]
    have more := @Counting.flatMap_set_perm _ _ (fun voice : Voice => messages voice.sent) _ _ _
      { sent := voice.sent ++ events, waiting } (messages events) found
      (.of_eq (messages_append ..))
    exact (conveyed.sent.append_right _).trans more.symm
  · rcases List.mem_or_eq_of_mem_set listed with old | rfl
    · exact (conveyed.ordered heard old).trans (List.sublist_append_left ..)
    · exact (conveyed.ordered voice (List.mem_of_getElem? found)).append (.refl events)

end Conveyed

-----------------------------------------------------------------------------------------
-- Steps of the worker
-----------------------------------------------------------------------------------------

theorem World.Kept.voices {world after : World ρ} (kept : World.Kept world after)
    : after.voices = world.voices ∨ after.voices = world.voices ++ [({} : Voice)] := by
  have dropped : world.dropOps.voices = world.voices := by
    unfold World.dropOps
    split
    · rfl
    · apply Counting.map_modify
      exact fun _ => rfl
  cases kept with
  | same managers => exact .inl (by rw [World.voices, managers, World.voices])
  | accepted index op managers =>
      left
      rw [World.voices, managers]
      apply Counting.map_modify
      exact fun _ => rfl
  | dropped managers => exact .inl (by rw [World.voices, managers, ← dropped, World.voices])
  | spawned managers =>
      right
      rw [World.voices, managers, ← dropped, List.map_append]
      rfl

theorem World.voices_at {world : World ρ} {index : Nat} {manager : Manager}
    (found : world.managers[index]? = some manager)
    : world.voices[index]? = some manager.voice := by
  rw [World.voices, List.getElem?_map, found]
  rfl

/-- The messages that arrived are conveyed, and the dispatcher has none. -/
structure World.Conveys (arrived : List (Nat × Event)) (world : World ρ) : Prop where
  conveyed : Conveyed arrived world.log world.voices
  wordless : world.Wordless

variable {platform : Platform} {format : RecordFormat ρ}

theorem World.Conveys.dispatched {arrived : List (Nat × Event)} {world after : World ρ}
    {input : DispatcherInput} (conveys : world.Conveys arrived)
    (dispatched : World.Dispatched world input after)
    : after.Conveys arrived := by
  refine ⟨?_, dispatched.wordless conveys.wordless⟩
  rw [dispatched.channel.log]
  rcases dispatched.kept.voices with voices | voices <;> rw [voices]
  · exact conveys.conveyed
  · exact conveys.conveyed.spawned

/-- One step of the worker, while the UI is there. -/
theorem World.Conveys.step {arrived : List (Nat × Event)} {world after : World ρ}
    {input : WorldInput ρ} (conveys : world.Conveys arrived) (isOpen : world.isOpen = true)
    (stepped : World.Stepped platform format world input after)
    : after.Conveys (arrived ++ input.arrival) := by
  have closes {any : Prop} (closed : world.isOpen = false) : any := by
    rw [isOpen] at closed
    cases closed
  cases stepped with
  | dispatched dispatched =>
      simpa [WorldInput.arrival] using conveys.dispatched dispatched
  | delivered first rest queued =>
      have wordless := conveys.wordless
      rw [World.Wordless, queued] at wordless
      obtain ⟨other, later⟩ := List.forall_mem_cons.mp wordless
      change World.Conveys (arrived ++ []) _
      rw [List.append_nil]
      exact ⟨conveys.conveyed.announced other, later⟩
  | dropped first rest queued closed => exact closes closed
  | hungUp first rest queued closed => exact closes closed
  | advanced index input manager task found agrees moved =>
      obtain ⟨taken, made⟩ := Task.step_messages moved
      have idle : manager.voice.waiting = [] := by simp [Manager.voice, Task.waiting, taken]
      refine ⟨?_, conveys.wordless⟩
      have took := conveys.conveyed.took (World.voices_at found) idle made
      rw [World.voices, List.map_set]
      exact took
  | managerDelivered index manager event task found moved =>
      rw [isOpen] at moved
      have passed := conveys.conveyed.passed (World.voices_at found) (Task.deliver_waiting moved)
      change World.Conveys (arrived ++ []) _
      rw [List.append_nil]
      refine ⟨?_, conveys.wordless⟩
      rw [World.voices, List.map_set]
      exact passed
  | library call => simpa [WorldInput.arrival] using ⟨conveys.conveyed, conveys.wordless⟩
  | uiGone => simpa [WorldInput.arrival] using ⟨conveys.conveyed, conveys.wordless⟩

end Worker

-----------------------------------------------------------------------------------------
-- Up to the UI
-----------------------------------------------------------------------------------------

namespace Mailed

variable {ui : Ui.Platform} {platform : Platform} {format : RecordFormat ρ}

structure Delivered (mailed : Mailed ρ) : Prop where
  joined : mailed.program.Joined
  log : mailed.handled ++ mailed.program.events = mailed.program.world.log
  conveys : mailed.program.world.Conveys mailed.arrived

theorem delivered_start (app : App) (inner : InnerBackend)
    : Delivered (.start app inner : Mailed ρ) where
  joined := Program.joined_start inner
  log := rfl
  conveys := ⟨.start, by simp [World.Wordless, start, Program.start, World.start]⟩

theorem Delivered.step {mailed after : Mailed ρ} {turn : Turn ρ}
    (stepped : mailed.step ui platform format turn = some after) (delivered : Delivered mailed)
    : Delivered after := by
  obtain ⟨joined, log, conveys⟩ := delivered
  obtain ⟨program, moved, rfl⟩ := Option.map_eq_some_iff.mp stepped
  have turned := Program.step_cases joined moved
  refine ⟨joined.step turned, ?_, ?_⟩
  · cases turned with
    | acted user => cases turn <;> first | exact log | cases user
    | handled env event rest outcome queued =>
        simpa [queued] using log
    | received cmd rest world queued dispatched =>
        exact log.trans dispatched.channel.log.symm
    | worked input world sent internal goes same =>
        rw [same, ← log, List.append_assoc]
  · cases turned with
    | acted user =>
        have none : turn.arrival = [] := by cases turn <;> first | rfl | cases user
        simpa [none] using conveys
    | handled env event rest outcome queued => simpa [Turn.arrival] using conveys
    | received cmd rest world queued dispatched =>
        simpa [Turn.arrival] using conveys.dispatched dispatched
    | worked input world sent internal goes same =>
        exact conveys.step joined.serving.isOpen goes

end Mailed

/-- In every run of the program, in any order of turns: the UI has handled a prefix of what was
sent, in the order sent. Every message that a stream brought was handled once, or waits on the
event channel or in the outbox of its task; and the messages of one task keep the order of its
stream all the way.
-/
theorem messages_delivered_once (ui : Ui.Platform) (platform : Platform)
    (format : RecordFormat ρ) (app : App) (inner : InnerBackend) (turns : List (Turn ρ))
    (mailed : Mailed ρ)
    (reached
      : Runs.run? (Mailed.step ui platform format) (.start app inner) turns = some mailed)
    : mailed.handled ++ mailed.program.events = mailed.program.world.log
      ∧ (mailed.arrived.map Prod.snd).Perm
          (messages mailed.handled ++ messages mailed.program.events
            ++ mailed.program.world.managers.flatMap (fun manager =>
              messages manager.task.waiting))
      ∧ ∀ index manager, mailed.program.world.managers[index]? = some manager
          → Mailed.arrivedAt index mailed.arrived
              = messages (manager.sent ++ manager.task.waiting)
            ∧ manager.sent.Sublist (mailed.handled ++ mailed.program.events) := by
  obtain ⟨-, log, conveyed, -⟩ : mailed.Delivered :=
    Runs.run?_invariant (fun _ _ _ stepped delivered => delivered.step stepped) reached
      (Mailed.delivered_start app inner)
  refine ⟨log, ?_, fun index manager found => ⟨?_, ?_⟩⟩
  · have parted : mailed.program.world.voices.flatMap Voice.messages
        = mailed.program.world.managers.flatMap (fun manager =>
            messages manager.sent ++ messages manager.task.waiting) := by
      rw [World.voices, List.flatMap_map]
      exact congrArg (fun said => mailed.program.world.managers.flatMap said)
        (funext fun manager => messages_append ..)
    have sent := conveyed.sent
    rw [World.voices, List.flatMap_map, ← log, messages_append] at sent
    refine conveyed.all.trans ?_
    rw [parted]
    refine .trans (List.flatMap_append_perm ..).symm ?_
    exact sent.symm.append_right _
  · rw [conveyed.atTask, Voice.messagesAt, World.voices_at found]
    rfl
  · rw [log]
    exact conveyed.ordered manager.voice (List.mem_map_of_mem (List.mem_of_getElem? found))

/-- Two messages arrive: the first is handled, the second waits at its task. -/
theorem messages_delivered_once_waiting
    : let item (text : String) (timestamp : UInt64) : TaskInput :=
        .item (.content ⟨.dataMessage { body := some text }, .aci ⟨1⟩, timestamp⟩) none .insertion
      let turns : List (Turn UInt8) :=
        [.worker (.dispatcher (.loaded (.ok ⟨"xas", "aci", "phone"⟩))),
          .worker .dispatcherDelivers, .worker (.dispatcher .adopt), .handle .unnamed, .receive,
          .worker (.dispatcher .forward), .worker (.manager 0 (.wake 0 .insertion)),
          .worker (.manager 0 .recv), .worker (.manager 0 (.wake 0 .insertion)),
          .worker (.manager 0 (.opened (.ok ()) none)), .worker (.managerDelivers 0),
          .worker (.manager 0 (.wake 0 .insertion)), .worker (.manager 0 (item "one" 5)),
          .worker (.managerDelivers 0), .handle .unnamed, .handle .unnamed,
          .worker (.manager 0 (.wake 0 .insertion)), .worker (.manager 0 (item "two" 6))]
      let sender := (Store.ServiceId.aci ⟨1⟩).serviceIdString
      ∃ mailed,
        Runs.run? (Mailed.step .bare (.knowing ⟨1⟩) .oneByte) (.start .initial { map := ∅ })
            turns
          = some mailed
        ∧ mailed.program.events = []
        ∧ messages mailed.handled = [.message sender none none "one" 5 none]
        ∧ (mailed.arrived.map Prod.snd).Perm
            [.message sender none none "one" 5 none, .message sender none none "two" 6 none] := by
  intro item turns sender
  refine ⟨_, rfl, rfl, rfl, ?_⟩
  exact (messages_delivered_once .bare (.knowing ⟨1⟩) .oneByte .initial { map := ∅ } turns _
    rfl).2.1

end XousAppSignal
