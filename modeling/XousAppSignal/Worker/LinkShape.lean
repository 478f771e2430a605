import XousAppSignal.Worker.TaskEvents
import XousAppSignal.Worker.WorldSteps

/-! What the dispatcher has to send while a link is in flight: the link URL until the link
ends, and after that the one event that tells how it ended.
-/

namespace XousAppSignal.Worker

open Store (RecordFormat)

variable {ρ : Type}

def DispatcherControl.inLink : DispatcherControl → Bool
  | .linking _ => true
  | .linkEnding _ _ => true
  | _ => false

/-- The dispatcher has been told to end, or has ended. -/
def DispatcherControl.ends : DispatcherControl → Bool
  | .stopping => true
  | .stopped => true
  | _ => false

/-- The outbox of a dispatcher with a link in flight. -/
structure Dispatcher.LinkShape (dispatcher : Dispatcher) : Prop where
  linking
    : ∀ cancelled, dispatcher.control = .linking cancelled
        → ∀ emit ∈ dispatcher.outbox, ∃ url, emit.event = .linkUrl url
  ending
    : ∀ cancelled linked, dispatcher.control = .linkEnding cancelled linked
        → dispatcher.outbox = []
          ∨ ∃ emit, dispatcher.outbox = [emit] ∧ emit.event.isLinkOutcome = true

namespace Dispatcher

theorem LinkShape.free {dispatcher : Dispatcher} (free : dispatcher.control.inLink = false)
    : LinkShape dispatcher := by
  constructor
  · intro cancelled control
    rw [control] at free
    cases free
  · intro cancelled linked control
    rw [control] at free
    cases free

theorem LinkShape.of_ending {dispatcher : Dispatcher} {cancelled : Bool}
    {linked : Option AccountInfoData}
    (control : dispatcher.control = .linkEnding cancelled linked)
    (waits : dispatcher.outbox = []
      ∨ ∃ emit, dispatcher.outbox = [emit] ∧ emit.event.isLinkOutcome = true)
    : LinkShape dispatcher :=
  ⟨fun _ other => (by rw [control] at other; cases other), fun _ _ _ => waits⟩

theorem LinkShape.of_linking {dispatcher : Dispatcher} {cancelled : Bool}
    (control : dispatcher.control = .linking cancelled)
    (urls : ∀ emit ∈ dispatcher.outbox, ∃ url, emit.event = .linkUrl url)
    : LinkShape dispatcher :=
  ⟨fun _ _ => urls, fun _ _ other => (by rw [control] at other; cases other)⟩

end Dispatcher

namespace World

open Dispatcher (LinkShape)

theorem inLink_registrationLoaded (attempts : Nat) (result : Except String AccountInfoData)
    (world : World ρ)
    : (world.registrationLoaded attempts result).dispatcher.control.inLink = false := by
  rcases registrationLoaded_cases attempts result world with
    ⟨info, moved⟩ | ⟨control, rfl | rfl, moved⟩ <;> rw [moved] <;> rfl

theorem Handled.shape {world after : World ρ} {cmd : Cmd} (handled : Handled world cmd after)
    (ready : world.dispatcher.control = .ready) (taken : world.dispatcher.outbox = [])
    : LinkShape after.dispatcher := by
  cases handled with
  | linkStarted deviceName => exact .of_linking rfl (by simp [goTo, taken])
  | nothingToCancel => exact .free (by rw [ready]; rfl)
  | _ => exact .free rfl

/-- Every step of the dispatcher keeps to the shape. -/
theorem Dispatched.shape {world after : World ρ} {input : DispatcherInput}
    (dispatched : Dispatched world input after) (shape : LinkShape world.dispatcher)
    : LinkShape after.dispatcher := by
  cases dispatched with
  | commandWhileLinking cancelled cmd control =>
      have urls := shape.linking cancelled control
      cases cmd with
      | shutdown => exact .free rfl
      | _ => exact .of_linking rfl urls
  | commandWhileEnding cancelled linked cmd control =>
      have waits := shape.ending cancelled linked control
      cases cmd with
      | shutdown => exact .free rfl
      | _ => exact .of_ending rfl waits
  | cancelledWhileLinking => exact .of_ending rfl (.inr ⟨_, rfl, rfl⟩)
  | cancelledWhileEnding linked => exact .of_ending rfl (.inr ⟨_, rfl, rfl⟩)
  | registrationLoaded attempts result => exact .free (inLink_registrationLoaded _ _ world)
  | command cmd control taken => exact (handleCmd_cases cmd world).shape control taken
  | accountInfoLoaded result =>
      cases result <;> exact .free rfl
  | forwarded op after control taken forwarded =>
      rcases forward_cases forwarded with rfl | ⟨index, rfl⟩ <;> exact .free rfl
  | linkUrl cancelled url control taken =>
      refine .of_linking rfl ?_
      simp [World.reply, taken]
  | linkEnded cancelled result control taken =>
      unfold World.linkEnded
      split
      · exact .of_ending rfl (.inr ⟨_, by rw [World.reply, taken]; rfl, rfl⟩)
      · exact .of_ending rfl (.inr ⟨_, by rw [World.reply, taken]; rfl, rfl⟩)
  | linkReturned cancelled linked =>
      cases linked <;> exact .free rfl
  | _ => exact .free rfl

end World

/-- The input closes no channel and asks for no shutdown. -/
def WorldInput.keepsServing : WorldInput ρ → Bool
  | .dispatcher (.cmd .shutdown) => false
  | .dispatcher .cmdClosed => false
  | .uiGone => false
  | _ => true

theorem WorldInput.keepsServing_cmd {cmd : Cmd} (other : cmd ≠ .shutdown)
    : (.dispatcher (.cmd cmd) : WorldInput ρ).keepsServing = true := by
  cases cmd <;> first | rfl | exact absurd rfl other

namespace World

/-- A worker that serves the UI: its channels are open and nothing has told it to end. -/
structure Serving (world : World ρ) : Prop where
  isOpen : world.isOpen = true
  stays : world.dispatcher.control.ends = false
  shape : world.dispatcher.LinkShape
  speaks : ∀ manager ∈ world.managers, manager.task.Speaks

theorem Serving.running {world : World ρ} (serving : Serving world)
    : world.running = true := by
  have stays := serving.stays
  unfold World.running
  split
  · next stopped =>
      rw [stopped] at stays
      cases stays
  · rfl

theorem Handled.stays {world after : World ρ} {cmd : Cmd} (handled : Handled world cmd after)
    (ready : world.dispatcher.control = .ready) (other : cmd ≠ .shutdown)
    : after.dispatcher.control.ends = false := by
  cases handled with
  | nothingToCancel => rw [ready]; rfl
  | stopping => exact absurd rfl other
  | _ => rfl

/-- Only a `Shutdown` or a closed command channel makes the dispatcher end. -/
theorem Dispatched.stays {world after : World ρ} {input : DispatcherInput}
    (dispatched : Dispatched world input after)
    (keeps : (WorldInput.dispatcher input : WorldInput ρ).keepsServing = true)
    (stays : world.dispatcher.control.ends = false)
    : after.dispatcher.control.ends = false := by
  cases dispatched with
  | commandWhileLinking cancelled cmd | commandWhileEnding cancelled linked cmd =>
      cases cmd with
      | shutdown => cases keeps
      | _ => rfl
  | closed => cases keeps
  | registrationLoaded attempts result =>
      rcases registrationLoaded_cases attempts result world with
        ⟨info, moved⟩ | ⟨control, rfl | rfl, moved⟩ <;> rw [moved] <;> rfl
  | command cmd control =>
      refine (handleCmd_cases cmd world).stays control (fun shutdown => ?_)
      rw [shutdown] at keeps
      cases keeps
  | accountInfoLoaded result =>
      cases result <;> rfl
  | forwarded op after control taken forwarded =>
      rcases forward_cases forwarded with rfl | ⟨index, rfl⟩ <;> rfl
  | linkEnded cancelled result =>
      cases result <;> rfl
  | linkReturned cancelled linked =>
      cases linked <;> rfl
  | stopped control =>
      rw [control] at stays
      cases stays
  | _ => rfl

theorem speaks_modify {managers : List Manager} {change : Manager → Manager}
    (same : ∀ manager, (change manager).task.outbox = manager.task.outbox)
    (speaks : ∀ manager ∈ managers, manager.task.Speaks) (index : Nat)
    : ∀ manager ∈ managers.modify index change, manager.task.Speaks := by
  intro manager listed
  obtain ⟨position, found⟩ := List.mem_iff_getElem?.mp listed
  rw [List.getElem?_modify] at found
  obtain ⟨old, known, rfl⟩ := Option.map_eq_some_iff.mp found
  have own := (speaks old (List.mem_of_getElem? known)).own
  split
  · exact ⟨fun emit waits => own emit (same old ▸ waits)⟩
  · exact ⟨own⟩

theorem speaks_set {managers : List Manager} {next : Manager} (own : next.task.Speaks)
    (speaks : ∀ manager ∈ managers, manager.task.Speaks) (index : Nat)
    : ∀ manager ∈ managers.set index next, manager.task.Speaks := by
  intro manager listed
  rcases List.mem_or_eq_of_mem_set listed with old | rfl
  · exact speaks manager old
  · exact own

theorem speaks_dropOps {world : World ρ}
    (speaks : ∀ manager ∈ world.managers, manager.task.Speaks)
    : ∀ manager ∈ world.dropOps.managers, manager.task.Speaks := by
  have dropped (index : Nat) := @speaks_modify _ Manager.dropSender (fun _ => rfl) speaks index
  simp only [dropOps]
  split
  · exact speaks
  · exact dropped _

theorem speaks_spawn {world : World ρ}
    (speaks : ∀ manager ∈ world.managers, manager.task.Speaks)
    : ∀ manager ∈ world.spawnManagerTask.managers, manager.task.Speaks := by
  intro manager listed
  rcases List.mem_append.mp listed with old | new
  · exact speaks_dropOps speaks manager old
  · rw [List.mem_singleton.mp new]
    exact ⟨by simp⟩

theorem Handled.speaks {world after : World ρ} {cmd : Cmd} (handled : Handled world cmd after)
    (speaks : ∀ manager ∈ world.managers, manager.task.Speaks)
    : ∀ manager ∈ after.managers, manager.task.Speaks := by
  cases handled with
  | loggedOut => exact speaks_dropOps speaks
  | _ => exact speaks

/-- The dispatcher puts nothing into the outbox of a task. -/
theorem Dispatched.speaks {world after : World ρ} {input : DispatcherInput}
    (dispatched : Dispatched world input after)
    (speaks : ∀ manager ∈ world.managers, manager.task.Speaks)
    : ∀ manager ∈ after.managers, manager.task.Speaks := by
  have adopted (info : AccountInfoData)
      : ∀ manager ∈ (world.adopt info).managers, manager.task.Speaks :=
    @speaks_spawn _ { world with dispatcher := _ } speaks
  cases dispatched with
  | commandWhileLinking cancelled cmd | commandWhileEnding cancelled linked cmd =>
      cases cmd <;> exact speaks
  | registrationLoaded attempts result =>
      rcases registrationLoaded_cases attempts result world with
        ⟨info, moved⟩ | ⟨control, -, moved⟩ <;> exact moved ▸ speaks
  | adopted info => exact adopted info
  | command cmd => exact (handleCmd_cases cmd world).speaks speaks
  | accountInfoLoaded result =>
      cases result with
      | error message => exact speaks
      | ok info =>
          simp only [World.accountInfoLoaded]
          split
          · exact @speaks_spawn _ { world with dispatcher := _ } speaks
          · exact speaks
  | forwarded op after control taken forwarded =>
      rcases forward_cases forwarded with rfl | ⟨index, rfl⟩
      · exact speaks
      · exact @speaks_modify _ (Manager.accept op) (fun _ => rfl) speaks index
  | linkEnded cancelled result =>
      cases result <;> exact speaks
  | linkReturned cancelled linked =>
      cases linked with
      | none => exact speaks
      | some info => exact adopted info
  | _ => exact speaks

/-- A worker that serves the UI goes on serving it. -/
theorem Serving.step {platform : Platform} {format : RecordFormat ρ} {world after : World ρ}
    {input : WorldInput ρ} (keeps : input.keepsServing = true)
    (stepped : Stepped platform format world input after) (serving : Serving world)
    : Serving after := by
  have ⟨isOpen, stays, shape, speaks⟩ := serving
  cases stepped with
  | dispatched dispatched =>
      exact ⟨dispatched.channel.isOpen.trans isOpen, dispatched.stays keeps stays,
        dispatched.shape shape, dispatched.speaks speaks⟩
  | delivered first rest queued =>
      refine ⟨isOpen, stays, ?_, speaks⟩
      refine ⟨fun cancelled control emit waits => ?_, fun cancelled linked control => ?_⟩
      · exact shape.linking cancelled control emit (queued ▸ List.mem_cons_of_mem first waits)
      · rcases shape.ending cancelled linked control with none | ⟨emit, one, -⟩
        · rw [none] at queued
          cases queued
        · rw [one] at queued
          cases queued
          exact .inl rfl
  | dropped first rest queued closed | hungUp first rest queued closed =>
      rw [isOpen] at closed
      cases closed
  | advanced index input manager task found agrees moved =>
      have own := speaks manager (List.mem_of_getElem? found)
      exact ⟨isOpen, stays, shape, speaks_set (Task.step_speaks moved own) speaks index⟩
  | managerDelivered index manager event task found taken =>
      have own := speaks manager (List.mem_of_getElem? found)
      exact ⟨isOpen, stays, shape, speaks_set (Task.deliver_speaks taken own).2 speaks index⟩
  | library call => exact ⟨isOpen, stays, shape, speaks⟩
  | uiGone => cases keeps

end World

end XousAppSignal.Worker
